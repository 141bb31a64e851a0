import WorkflowHub.Gateway.Guards
import WorkflowHub.Processes.Assertions
import WorkflowHub.Processes.Noninterference

/-!
# Users behind one address

Two runs of requests to protected routes that differ only in requests with valid tokens of other
users than one. The throttler counts requests under the address of their client, so those of other
users are counted with those of the user if they come from the same address. The two runs admit
the same requests of the user exactly if none of the others is counted with one of them, those
aside which the limit admits never (`throttled_separately_iff`).
-/

set_option autoImplicit false

namespace WorkflowHub.Guards

open Processes
open Throttling (World)

/-! ## Two runs -/

section Property

variable (verify : String → Except Thrown Payload) (user : String)

/-- The request carries the valid token of another user. -/
def Foreign (call : Call) : Prop := ∃ other ∈ call.bearer verify, other ≠ user

instance (call : Call) : Decidable (Foreign verify user call) := by
  unfold Foreign
  infer_instance

/-- What two runs have in common: all that happens to the requests that are not foreign, and
when. -/
def sees (view : View) (event : Happening) : Option (ℕ × Call × Happening) :=
  (view.caller event).bind fun call =>
    if Foreign verify user call then none else some (view.world.now, call, event)

/-- The requests are some of those in `Q`, and no command of Redis fails. -/
def Working (Q : Call → Prop) (_ : View) : Happening → Prop
  | .call _ call => Q call
  | .step _ outcome => outcome = .resolved
  | _ => True

instance (Q : Call → Prop) [DecidablePred Q] (view : View) :
    (event : Happening) → Decidable (Working Q view event)
  | .call _ call => inferInstanceAs (Decidable (Q call))
  | .step _ outcome => inferInstanceAs (Decidable (outcome = .resolved))
  | .crash _ _ => isTrue trivial
  | .env _ => isTrue trivial

/-- The run begins with what was in Redis before. -/
abbrev Observed (Q : Call → Prop) (world : World) (seen : List (ℕ × Call × Happening))
    (state : State) : Prop :=
  Shows (step verify) (fun state event => Working Q (state.observe (programs verify)) event)
    (fun state event => sees verify user (state.observe (programs verify)) event)
    (.initial world) seen state

/-- Of two runs with the same requests of the user at the same times, which differ only in foreign
requests, one admits those requests of the user that the other admits. -/
def Separate (Q : Call → Prop) : Prop :=
  ∀ {world : World} {seen : List (ℕ × Call × Happening)} {state state' : State},
    Observed verify user Q world seen state → Observed verify user Q world seen state' →
      ∀ pid call, (state.slots pid).call? = some call → call.bearer verify = some user →
        Admitted (state.slots pid) = Admitted (state'.slots pid)

/-- A request of the user is counted under the key, and may be admitted. -/
def Metered (Q : Call → Prop) (key : String) : Prop :=
  ∃ call, Q call ∧ call.bearer verify = some user ∧ 1 ≤ call.options.limit ∧ call.key = key

end Property

/-- A request with a valid token of the user is not foreign. -/
theorem not_foreign {verify : String → Except Thrown Payload} {call : Call} {user : String}
    (bearer : call.bearer verify = some user) : ¬ Foreign verify user call := by
  rintro ⟨other, found, different⟩
  rw [bearer] at found
  cases found
  exact different rfl

/-! ## Single steps -/

/-- A state of the table of program points. -/
abbrev Machine : Type := Pool World Call Throttling.Pc (Except Thrown Request)

/-- Runs of the table, and what they show. -/
abbrev Shown (verify : String → Except Thrown Payload) (user : String) (Q : Call → Prop) :
    Machine → List (ℕ × Call × Happening) → Machine → Prop :=
  Shows (Pool.step site (flow verify))
    (fun machine event => Working Q (machine.observe (flow verify)) event)
    (fun machine event => sees verify user (machine.observe (flow verify)) event)

section Steps

variable {verify : String → Except Thrown Payload} {user : String} {Q : Call → Prop}
  {machine machine' : Machine} {event : Happening} {pid : ℕ} {call : Call}

/-- Where the key of the request is the same, a command gives the same reply at the same time. -/
theorem exec_alike {world world' after after' : World} {pc : Throttling.Pc} {outcome : Outcome}
    {reply reply' : Except Thrown (pc.op call.throttled).Value} (now : world.now = world'.now)
    (same : world.keys call.key = world'.keys call.key)
    (answered : Throttling.exec world pid (pc.op call.throttled) outcome = some (after, reply))
    (answered' : Throttling.exec world' pid (pc.op call.throttled) outcome = some (after', reply')) :
    reply = reply' ∧ after.keys call.key = after'.keys call.key := by
  have alike := Throttling.exec_alike now (by rwa [pc.key_op]) answered answered'
  rwa [pc.key_op] at alike

/-- What a step of a request does. -/
structure Moves (machine machine' : Machine) (pid : ℕ) (call : Call) : Prop where
  after : (machine'.slots pid).call? = some call
  before : ∀ call' ∈ (machine.slots pid).call?, call' = call
  others : ∀ other, other ≠ pid → machine'.slots other = machine.slots other
  keys : ∀ key, key ≠ call.key → machine'.world.keys key = machine.world.keys key

theorem step_keys_other (taken : Pool.step site (flow verify) machine event = some machine')
    (about : machine.caller event = some call) {key : String} (different : key ≠ call.key) :
    machine'.world.keys key = machine.world.keys key := by
  have world : ∀ {world : World} {pid : ℕ} {call : Call}
      (led : Unit × Target Throttling.Pc (Except Thrown Request)),
      (Pool.land site world pid call led).1 = world :=
    fun led => Pool.land_world site (fun _ => rfl) (fun _ => rfl) led
  cases Pool.stepped taken with
  | call free started =>
      cases started
      rw [Pool.settle_world, world]
  | @step _ _ _ pc _ _ running answered =>
      rw [Pool.settle_world, world]
      simp only [Pool.caller, running, Slot.call?, Option.some.injEq] at about
      subst about
      exact Throttling.exec_keys_other (different.trans_eq (pc.key_op _).symm) answered
  | crashPending running => rfl
  | @crashPerformed _ _ _ pc _ _ running answered =>
      simp only [Pool.caller, running, Slot.call?, Option.some.injEq] at about
      subst about
      exact Throttling.exec_keys_other (different.trans_eq (pc.key_op _).symm) answered
  | env moved => cases about

theorem moves (taken : Pool.step site (flow verify) machine event = some machine')
    (about : machine.caller event = some call) (mine : pid ∈ event.pid?) :
    Moves machine machine' pid call := by
  obtain ⟨call', about', after, before⟩ := Pool.step_caller taken mine
  cases about.symm.trans about'
  refine ⟨after, before, fun other different => ?_, fun key => step_keys_other taken about⟩
  refine Pool.step_other taken fun also => different ?_
  rw [Option.mem_def] at mine also
  exact Option.some.inj (also.symm.trans mine)

/-- Two requests go the same way from one point, with one key, at one time. -/
theorem step_alike {first second after after' : Machine} (same : first.slots pid = second.slots pid)
    (now : first.world.now = second.world.now)
    (keys : first.world.keys call.key = second.world.keys call.key)
    (about : first.caller event = some call) (mine : pid ∈ event.pid?)
    (taken : Pool.step site (flow verify) first event = some after)
    (taken' : Pool.step site (flow verify) second event = some after') :
    after.slots pid = after'.slots pid ∧
      after.world.keys call.key = after'.world.keys call.key := by
  have landed : ∀ {world world' : World}
      (led : Unit × Target Throttling.Pc (Except Thrown Request)),
      world.keys call.key = world'.keys call.key →
        (Pool.land site world pid call led).2 = (Pool.land site world' pid call led).2 ∧
          (Pool.land site world pid call led).1.keys call.key =
            (Pool.land site world' pid call led).1.keys call.key := by
    intro world world' led stored
    obtain ⟨_, target⟩ := led
    cases target with
    | running pc => exact ⟨rfl, stored⟩
    | finished out => exact ⟨rfl, stored⟩
  cases Pool.stepped taken with
  | call free started =>
      cases mine
      cases about
      cases started
      cases Pool.stepped taken' with
      | call free' started' =>
          cases started'
          rw [Pool.settle_self, Pool.settle_self]
          exact landed _ keys
  | step running answered =>
      cases mine
      cases Pool.stepped taken' with
      | step running' answered' =>
          simp only [Pool.caller, running, Slot.call?, Option.some.injEq] at about
          subst about
          rw [same, running'] at running
          cases running
          obtain ⟨rfl, stored⟩ := exec_alike now keys answered answered'
          rw [Pool.settle_self, Pool.settle_self]
          exact landed _ stored
  | crashPending running =>
      cases mine
      cases Pool.stepped taken' with
      | crashPending running' =>
          rw [same, running'] at running
          cases running
          rw [Pool.settle_self, Pool.settle_self]
          exact ⟨rfl, keys⟩
  | crashPerformed running answered =>
      cases mine
      cases Pool.stepped taken' with
      | crashPerformed running' answered' =>
          simp only [Pool.caller, running, Slot.call?, Option.some.injEq] at about
          subst about
          rw [same, running'] at running
          cases running
          obtain ⟨_, stored⟩ := exec_alike now keys answered answered'
          rw [Pool.settle_self, Pool.settle_self]
          exact ⟨rfl, stored⟩
  | env moved => cases mine

end Steps

/-! ## Separation -/

/-- States that show the user the same. -/
structure Alike (verify : String → Except Thrown Payload) (user : String) (Q : Call → Prop)
    (first second : Machine) : Prop where
  asked : (∀ pid, ∀ call ∈ (first.slots pid).call?, Q call) ∧
    ∀ pid, ∀ call ∈ (second.slots pid).call?, Q call
  /-- Both have the same requests, foreign ones aside. -/
  calls : ∀ pid call, ¬ Foreign verify user call →
    ((first.slots pid).call? = some call ↔ (second.slots pid).call? = some call)
  keys : ∀ key, Metered verify user Q key → first.world.keys key = second.world.keys key
  /-- Those that are counted with one of the user have come as far. -/
  slots : ∀ pid call, (first.slots pid).call? = some call → (second.slots pid).call? = some call →
    Metered verify user Q call.key → first.slots pid = second.slots pid

namespace Alike

variable {verify : String → Except Thrown Payload} {user : String} {Q : Call → Prop}
  {first second after after' : Machine} {event : Happening} {pid : ℕ} {call : Call}

theorem initial (world : World) : Alike verify user Q (.initial world) (.initial world) where
  asked := ⟨fun _ _ found => (by cases found), fun _ _ found => (by cases found)⟩
  calls _ _ _ := .rfl
  keys _ _ := rfl
  slots _ _ _ _ _ := rfl

theorem symm (alike : Alike verify user Q first second) : Alike verify user Q second first where
  asked := ⟨alike.asked.2, alike.asked.1⟩
  calls pid call kept := (alike.calls pid call kept).symm
  keys key metered := (alike.keys key metered).symm
  slots pid call found found' metered := (alike.slots pid call found' found metered).symm

/-- Who moves was asked for. -/
theorem asked_moves {machine machine' : Machine}
    (asked : ∀ pid, ∀ call ∈ (machine.slots pid).call?, Q call)
    (moves : Moves machine machine' pid call) (mine : Q call) :
    ∀ pid, ∀ call ∈ (machine'.slots pid).call?, Q call := by
  intro other call' found
  by_cases same : other = pid
  · subst same
    rw [moves.after] at found
    cases found
    exact mine
  · rw [moves.others other same] at found
    exact asked other call' found

/-- A step of a foreign request changes nothing for the user. -/
theorem foreign (alike : Alike verify user Q first second) (moves : Moves first after pid call)
    (mine : Q call) (theirs : Foreign verify user call)
    (apart : ¬ Metered verify user Q call.key) : Alike verify user Q after second where
  asked := ⟨asked_moves alike.asked.1 moves mine, alike.asked.2⟩
  calls other call' kept := by
    by_cases same : other = pid
    · subst same
      rw [moves.after, ← alike.calls other call' kept]
      have different : call ≠ call' := fun same => kept (same ▸ theirs)
      refine iff_of_false (fun found => different (Option.some.inj found)) fun found => ?_
      exact different (moves.before call' found).symm
    · rw [moves.others other same]
      exact alike.calls other call' kept
  keys key metered := by
    rw [moves.keys key fun same => apart (same ▸ metered)]
    exact alike.keys key metered
  slots other call' found found' metered := by
    by_cases same : other = pid
    · subst same
      rw [moves.after] at found
      cases found
      exact absurd metered apart
    · rw [moves.others other same] at found ⊢
      exact alike.slots other call' found found' metered

/-- Two steps of one request look the same, and leave what shows the user the same. -/
theorem both (alike : Alike verify user Q first second) (moves : Moves first after pid call)
    (moves' : Moves second after' pid call) (mine : Q call)
    (together : Metered verify user Q call.key → after.slots pid = after'.slots pid ∧
      after.world.keys call.key = after'.world.keys call.key) :
    Alike verify user Q after after' where
  asked := ⟨asked_moves alike.asked.1 moves mine, asked_moves alike.asked.2 moves' mine⟩
  calls other call' kept := by
    by_cases same : other = pid
    · subst same
      rw [moves.after, moves'.after]
    · rw [moves.others other same, moves'.others other same]
      exact alike.calls other call' kept
  keys key metered := by
    by_cases same : key = call.key
    · subst same
      exact (together metered).2
    · rw [moves.keys key same, moves'.keys key same]
      exact alike.keys key metered
  slots other call' found found' metered := by
    by_cases same : other = pid
    · subst same
      rw [moves.after] at found
      cases found
      exact (together metered).1
    · rw [moves.others other same] at found ⊢
      rw [moves'.others other same] at found' ⊢
      exact alike.slots other call' found found' metered

/-- What nobody asked for, and time, change nothing. -/
theorem env (alike : Alike verify user Q first second) (nobody : first.caller event = none)
    (taken : Pool.step site (flow verify) first event = some after) :
    Alike verify user Q after second := by
  cases Pool.stepped taken with
  | call free started => cases nobody
  | step running answered => simp only [Pool.caller, running, Slot.call?, reduceCtorEq] at nobody
  | crashPending running => simp only [Pool.caller, running, Slot.call?, reduceCtorEq] at nobody
  | crashPerformed running answered =>
      simp only [Pool.caller, running, Slot.call?, reduceCtorEq] at nobody
  | @env event world moved =>
      cases event with
      | elapse milliseconds =>
          cases moved
          exact ⟨alike.asked, alike.calls, alike.keys, alike.slots⟩

end Alike

section Unwound

variable {verify : String → Except Thrown Payload} {user : String} {Q : Call → Prop}
  {machine machine' : Machine} {event : Happening} {pid : ℕ} {call : Call}

/-- Where an event is about a request, it is about its entry. -/
theorem exists_pid (about : machine.caller event = some call) : ∃ pid, pid ∈ event.pid? := by
  cases event with
  | call pid call => exact ⟨pid, rfl⟩
  | step pid outcome => exact ⟨pid, rfl⟩
  | crash pid performed => exact ⟨pid, rfl⟩
  | env event => cases about

theorem sees_observe : sees verify user (machine.observe (flow verify)) event =
    (machine.caller event).bind fun call =>
      if Foreign verify user call then none else some (machine.world.now, call, event) :=
  congrArg (Option.bind · _) (Pool.caller_observe ..)

/-- The request an event is about is one of those that may come. -/
theorem asked_caller (asked : ∀ pid, ∀ call ∈ (machine.slots pid).call?, Q call)
    (working : Working Q (machine.observe (flow verify)) event)
    (about : machine.caller event = some call) : Q call := by
  cases event with
  | call pid call' =>
      cases about
      exact working
  | step pid outcome => exact asked pid call about
  | crash pid performed => exact asked pid call about
  | env event => cases about

theorem sees_eq_none (hidden : sees verify user (machine.observe (flow verify)) event = none) :
    machine.caller event = none ∨
      ∃ call, machine.caller event = some call ∧ Foreign verify user call := by
  rw [sees_observe] at hidden
  cases about : machine.caller event with
  | none => exact .inl rfl
  | some call =>
      simp only [about, Option.bind_some, ite_eq_left_iff, reduceCtorEq, imp_false, not_not]
        at hidden
      exact .inr ⟨call, rfl, hidden⟩

theorem sees_eq_some {time : ℕ} {event' : Happening}
    (shown : sees verify user (machine.observe (flow verify)) event = some (time, call, event')) :
    event = event' ∧ machine.caller event = some call ∧ machine.world.now = time := by
  simp only [sees_observe, Option.bind_eq_some_iff, Option.ite_none_left_eq_some,
    Option.some.injEq, Prod.mk.injEq] at shown
  obtain ⟨_, about, _, rfl, rfl, rfl⟩ := shown
  exact ⟨rfl, about, rfl⟩

/-- **What foreign requests do never shows,** while none is counted with a request of the user that
may be admitted. -/
theorem unwinding (apart : ∀ call, Q call → Foreign verify user call →
      ¬ Metered verify user Q call.key) :
    Unwinding (Pool.step site (flow verify))
      (fun machine event => Working Q (machine.observe (flow verify)) event)
      (fun machine event => sees verify user (machine.observe (flow verify)) event)
      (Alike verify user Q) where
  symm := Alike.symm
  unseen := by
    intro first second after event alike working hidden taken
    rcases sees_eq_none hidden with nobody | ⟨call, about, theirs⟩
    · exact alike.env nobody taken
    · obtain ⟨pid, mine⟩ := exists_pid about
      have asked := asked_caller alike.asked.1 working about
      exact alike.foreign (moves taken about mine) asked theirs (apart call asked theirs)
  seen := by
    intro first second after after' event event' obs alike working _ shown shown' taken taken'
    obtain ⟨time, call, event''⟩ := obs
    obtain ⟨rfl, about, now⟩ := sees_eq_some shown
    obtain ⟨rfl, about', now'⟩ := sees_eq_some shown'
    obtain ⟨pid, mine⟩ := exists_pid about
    have moved := moves taken about mine
    apply alike.both moved (moves taken' about' mine) (asked_caller alike.asked.1 working about)
    intro metered
    refine step_alike ?_ (now.trans now'.symm) (alike.keys _ metered) about mine taken taken'
    cases event' with
    | call pid' call =>
        cases mine
        cases Pool.stepped taken with
        | call free _ =>
            cases Pool.stepped taken' with
            | call free' _ => rw [free, free']
    | step pid' outcome =>
        cases mine
        exact alike.slots pid _ about about' metered
    | crash pid' performed =>
        cases mine
        exact alike.slots pid _ about about' metered
    | env event => cases mine

end Unwound

/-! ## Requests that are never admitted -/

/-- Who has been counted is at least the first, and a request above its limit is not admitted. -/
def turnedDown : Assertions World Call Throttling.Pc (Except Thrown Request) where
  Global _ := True
  Local _ _ slot :=
    match slot with
    | .running _ pc => ∀ count ∈ pc.currentRequests, 1 ≤ count
    | .finished call out => call.options.limit < 1 → rejects out = true
    | _ => True

section Limits

variable {verify : String → Except Thrown Payload} {Q : Call → Prop} {world : World} {pid : ℕ}
  {call : Call}

/-- The verdict of the throttler, and what the other guard makes of it. -/
theorem land_verdict (currentRequests : ℕ) :
    (Pool.land site world pid call (Prod.map id
      (Target.map (afterThrottler verify call))
        (Throttling.Led.verdict call.throttled currentRequests))).2 =
      .finished call (if (currentRequests : ℤ) > call.options.limit then
        .error Throttling.tooManyRequests else JwtAuthGuard.canActivate verify call.request) := by
  have same : call.throttled.options = call.options := rfl
  by_cases exceeds : (currentRequests : ℤ) > call.options.limit
  · simp only [Throttling.Led.verdict, same, exceeds, ↓reduceIte]
    rfl
  · simp only [Throttling.Led.verdict, same, exceeds, ↓reduceIte]
    rfl

theorem verdict_turnedDown {currentRequests : ℕ} (counted : 1 ≤ currentRequests) :
    turnedDown.Local world pid (Pool.land site world pid call (Prod.map id
      (Target.map (afterThrottler verify call))
        (Throttling.Led.verdict call.throttled currentRequests))).2 := by
  rw [land_verdict]
  intro low
  rw [if_pos (by omega)]
  rfl

theorem turnedDown_valid : turnedDown.Valid site (flow verify)
    fun machine event => Working Q (machine.observe (flow verify)) event where
  call := by
    intro machine pid call world holds _ _ started
    cases started
    refine .of_world (Pool.land_world _ (fun _ => rfl) (fun _ => rfl) _) trivial ?_
      fun _ _ before => before
    exact fun count found => by cases found
  step := by
    intro machine pid outcome call pc world reply holds working running answered
    have counted : ∀ count ∈ pc.currentRequests, 1 ≤ count := by
      simpa only [turnedDown, running] using holds.locally pid
    obtain rfl : outcome = .resolved := working
    refine .of_world (Pool.land_world _ (fun _ => rfl) (fun _ => rfl) _) trivial ?_
      fun _ _ before => before
    simp only [flow, Flow.andThen, Throttling.flow]
    rcases Throttling.next_resolved answered with ⟨_, goes⟩ | ⟨count, known, goes | goes⟩
    · rw [goes]
      rintro count ⟨⟩
      exact Keyspace.incremented_pos ..
    · rw [goes]
      exact verdict_turnedDown (counted count known)
    · rw [goes]
      rintro _ ⟨⟩
      exact counted count known
  crashPending := by
    intro machine pid call pc holds _ _
    exact ⟨trivial, trivial, fun _ _ before => before⟩
  crashPerformed := by
    intro machine pid outcome call pc world reply holds _ _ _
    exact ⟨trivial, trivial, fun _ _ before => before⟩
  env := by
    intro machine event world holds _ _
    exact ⟨trivial, fun _ before => before⟩

/-- A request whose limit is below one is not admitted. -/
theorem not_admitted {user : String} {seen : List (ℕ × Call × Happening)} {machine : Machine}
    (shown : Shown verify user Q (.initial world) seen machine)
    (mine : (machine.slots pid).call? = some call) (low : call.options.limit < 1) :
    Admitted (machine.slots pid) = false := by
  have holds := (turnedDown_valid.path shown.path ⟨trivial, fun _ => trivial⟩).locally pid
  cases slot : machine.slots pid with
  | finished call' out =>
      rw [slot] at mine holds
      cases mine
      cases out with
      | ok request => exact absurd (holds low) Bool.false_ne_true
      | error error => rfl
  | _ => rfl

end Limits

/-! ## The condition is enough -/

section Tracked

variable {verify : String → Except Thrown Payload}
  {slot : Slot Call Throttling.Pc (Except Thrown Request)}
  {suspended : Slot Call (Suspended (promises Throttling.Op Throttling.Op.Value Thrown) Unit
    (Except Thrown Request)) (Except Thrown Request)}

theorem tracks_call? (tracks : SlotTracks (flow verify) slot suspended) :
    slot.call? = suspended.call? := by
  cases tracks with
  | _ => rfl

theorem tracks_admitted (tracks : SlotTracks (flow verify) slot suspended) :
    Admitted slot = Admitted suspended := by
  rw [← admitted_observe (flow verify).op slot, tracks.observe_eq, admitted_observe]

end Tracked

/-- Nothing in one run tells whether the other has more foreign requests. -/
theorem separate_of_apart {verify : String → Except Thrown Payload} {user : String}
    {Q : Call → Prop}
    (apart : ∀ call, Q call → Foreign verify user call → ¬ Metered verify user Q call.key) :
    Separate verify user Q := by
  intro world seen state state' shows shows' pid call mine bearer
  obtain ⟨machine, shown, tracking⟩ :=
    Pool.Tracking.shows (implements verify) (.initial world) shows
  obtain ⟨machine', shown', tracking'⟩ :=
    Pool.Tracking.shows (implements verify) (.initial world) shows'
  have alike : Alike verify user Q machine machine' :=
    (unwinding apart).related shown shown' (.initial world)
  rw [← tracks_call? (tracking.slots pid)] at mine
  rw [← tracks_admitted (tracking.slots pid), ← tracks_admitted (tracking'.slots pid)]
  have mine' := (alike.calls pid call (not_foreign bearer)).mp mine
  by_cases low : call.options.limit < 1
  · rw [not_admitted shown mine low, not_admitted shown' mine' low]
  · have metered : Metered verify user Q call.key :=
      ⟨call, alike.asked.1 pid call mine, bearer, by omega, rfl⟩
    rw [alike.slots pid call mine mine' metered]

/-! ## The condition is necessary -/

section Resolved

variable {verify : String → Except Thrown Payload} {machine : Machine} {pid : ℕ} {call : Call}
  {currentRequests : ℕ}

theorem call_enters (free : machine.slots pid = .free) :
    Pool.step site (flow verify) machine (.call pid call) =
      some ⟨machine.world, Function.update machine.slots pid (.running call .incrementing)⟩ :=
  (Pool.Stepped.call free rfl).taken

theorem resolves {pc : Throttling.Pc} {world : World}
    {reply : Except Thrown (pc.op call.throttled).Value}
    (running : machine.slots pid = .running call pc)
    (answered : Throttling.exec machine.world pid (pc.op call.throttled) .resolved =
      some (world, reply)) :
    Pool.step site (flow verify) machine (.step pid .resolved) =
      some ⟨world, Function.update machine.slots pid
        (Pool.land site world pid call ((flow verify).next call pc reply ())).2⟩ := by
  rw [(Pool.Stepped.step running answered).taken, Pool.settle,
    Pool.land_world site (fun _ => rfl) fun _ => rfl]

theorem incr_resolves (running : machine.slots pid = .running call .incrementing) :
    Pool.step site (flow verify) machine (.step pid .resolved) =
      some ⟨machine.world.increment pid call.key,
        Function.update machine.slots pid (.running call
          (.reading (machine.world.keys.incremented machine.world.now call.key).value))⟩ :=
  resolves running rfl

theorem ttl_resolves (running : machine.slots pid = .running call (.reading currentRequests))
    (unset : machine.world.keys.ttl machine.world.now call.throttled.key = -1) :
    Pool.step site (flow verify) machine (.step pid .resolved) =
      some ⟨machine.world, Function.update machine.slots pid
        (.running call (.expiring currentRequests))⟩ := by
  rw [resolves running rfl]
  simp only [flow, Flow.andThen, Throttling.flow, Throttling.Led.next, unset, ↓reduceIte]
  rfl

/-- The limit decides. -/
theorem expire_resolves (running : machine.slots pid = .running call (.expiring currentRequests)) :
    Pool.step site (flow verify) machine (.step pid .resolved) =
      some ⟨{ machine.world with
            keys := machine.world.keys.expire machine.world.now call.key call.options.ttl },
          Function.update machine.slots pid (.finished call
            (if (currentRequests : ℤ) > call.options.limit then .error Throttling.tooManyRequests
              else JwtAuthGuard.canActivate verify call.request))⟩ := by
  rw [resolves running rfl, ← land_verdict]
  rfl

end Resolved

section Crowd

variable {verify : String → Except Thrown Payload} {user : String} {Q : Call → Prop}
  {call other : Call}

/-- A state in which `count` requests have been counted under the key, no time has passed, and no
request has gone by one of the other process ids. -/
structure Counted (key : String) (count : ℕ) (machine : Machine) : Prop where
  next : machine.world.keys.incremented machine.world.now key = ⟨count + 1, none⟩
  now : machine.world.now = 0
  free : ∀ pid, pid = 0 ∨ count < pid → machine.slots pid = .free

theorem working_resolved {view : View} {pid : ℕ} : Working Q view (.step pid .resolved) := rfl

/-- Any number of foreign requests may be counted, which nobody sees. -/
theorem exists_counted (asked : Q other) (theirs : Foreign verify user other) (count : ℕ) :
    ∃ machine, Shown verify user Q (.initial {}) [] machine ∧ Counted other.key count machine := by
  induction count with
  | zero => exact ⟨_, .refl, rfl, rfl, fun _ _ => rfl⟩
  | succ count ih =>
      obtain ⟨machine, shown, counted⟩ := ih
      have free := counted.free (count + 1) (.inr (Nat.lt_succ_self count))
      have hidden : ∀ {machine : Machine} {event : Happening}, machine.caller event = some other →
          sees verify user (machine.observe (flow verify)) event = none := by
        intro machine event about
        simp only [sees_observe, about, Option.bind_some, theirs, ↓reduceIte]
      have enters : Working Q (machine.observe (flow verify)) (.call (count + 1) other) := asked
      refine ⟨_, shown.trans (.unseen enters (call_enters free) (hidden rfl)
        (.unseen working_resolved (incr_resolves (Function.update_self ..)) (hidden ?_) .refl)),
        ?_, counted.now, ?_⟩
      · simp only [Pool.caller, Function.update_self]
        rfl
      · simp only [Throttling.World.increment, counted.next]
        exact Keyspace.incremented_put ..
      · intro pid apart
        have different : pid ≠ count + 1 := by omega
        simp only [Function.update_of_ne different]
        exact counted.free pid (by omega)

/-- What a request shows that goes through all commands of the throttler as process 0. -/
def passage (call : Call) : List (ℕ × Call × Happening) :=
  [(0, call, .call 0 call), (0, call, .step 0 .resolved), (0, call, .step 0 .resolved),
    (0, call, .step 0 .resolved)]

/-- A request of the user is admitted unless too many have been counted before. -/
theorem exists_passage {machine : Machine} {count : ℕ} (asked : Q call)
    (kept : ¬ Foreign verify user call) (counted : Counted call.key count machine) :
    ∃ machine', Shown verify user Q machine (passage call) machine' ∧
      machine'.slots 0 = .finished call
        (if ((count + 1 : ℕ) : ℤ) > call.options.limit then .error Throttling.tooManyRequests
          else JwtAuthGuard.canActivate verify call.request) := by
  have seen : ∀ {machine : Machine} {event : Happening}, machine.world.now = 0 →
      machine.caller event = some call →
        sees verify user (machine.observe (flow verify)) event = some (0, call, event) := by
    intro machine event now about
    simp only [sees_observe, about, Option.bind_some, kept, ↓reduceIte, now]
  have enters : Working Q (machine.observe (flow verify)) (.call 0 call) := asked
  have running : ∀ {slots : ℕ → Slot Call Throttling.Pc (Except Thrown Request)} {world : World}
      {pc : Throttling.Pc} {outcome : Outcome},
      Pool.caller ⟨world, Function.update slots 0 (.running call pc)⟩ (.step 0 outcome : Happening) =
        some call := by
    intro slots world pc outcome
    simp only [Pool.caller, Function.update_self]
    rfl
  refine ⟨_, .seen enters (call_enters (counted.free 0 (.inl rfl))) (seen counted.now rfl)
    (.seen working_resolved (incr_resolves (Function.update_self ..)) (seen counted.now running)
      (.seen working_resolved (ttl_resolves (Function.update_self ..) ?_) (seen counted.now running)
        (.seen working_resolved (expire_resolves (Function.update_self ..))
          (seen counted.now running) .refl))), ?_⟩
  · simp only [Throttling.World.increment, counted.next]
    exact Keyspace.ttl_put ..
  · simp only [Function.update_self, counted.next]

end Crowd

/-- Whoever has a valid token is authenticated. -/
theorem authenticated {verify : String → Except Thrown Payload} {call : Call} {user : String}
    (bearer : call.bearer verify = some user) :
    ∃ request, JwtAuthGuard.canActivate verify call.request = .ok request := by
  unfold Call.bearer at bearer
  cases found : JwtAuthGuard.canActivate verify call.request with
  | ok request => exact ⟨request, rfl⟩
  | error error =>
      rw [found] at bearer
      cases bearer

/-- **Users are throttled separately where they do not share an address.** Any number of the requests
in `Q` come at any times, on any number of gateways, while Redis works. Two runs that differ only in
requests with valid tokens of other users admit the same requests of the user, exactly if none of
the former is counted under the key of one of the latter whose limit is at least one: the route and
the address of the client. -/
theorem throttled_separately_iff {verify : String → Except Thrown Payload} {user : String}
    {Q : Call → Prop} :
    Separate verify user Q ↔ ∀ call other, Q call → Q other → call.bearer verify = some user →
      Foreign verify user other → other.key = call.key → call.options.limit < 1 := by
  constructor
  · intro separate call other asked asked' bearer theirs same
    by_contra admits
    -- As many requests of the other user as the limit allows, and then the one of the user.
    obtain ⟨crowded, crowd, counted⟩ :=
      exists_counted asked' theirs call.options.limit.toNat
    rw [same] at counted
    obtain ⟨last, passes, late⟩ := exists_passage asked (not_foreign bearer) counted
    obtain ⟨only, passes', alone⟩ := exists_passage asked (not_foreign bearer)
      (⟨rfl, rfl, fun _ _ => rfl⟩ : Counted call.key 0 (.initial {}))
    obtain ⟨state, shows, tracking⟩ :=
      Pool.Tracking.shown (implements verify) (.initial _) (crowd.trans passes)
    obtain ⟨state', shows', tracking'⟩ :=
      Pool.Tracking.shown (implements verify) (.initial _) passes'
    have mine : (state.slots 0).call? = some call := by
      rw [← tracks_call? (tracking.slots 0), late]
      rfl
    have alike := separate shows shows' 0 call mine bearer
    rw [← tracks_admitted (tracking.slots 0), ← tracks_admitted (tracking'.slots 0), late, alone,
      if_pos (by omega), if_neg (by omega)] at alike
    obtain ⟨request, authentic⟩ := authenticated bearer
    rw [authentic] at alike
    cases alike
  · intro apart
    apply separate_of_apart
    intro other asked theirs metered
    obtain ⟨call, asked', bearer, admits, same⟩ := metered
    have := apart call other asked' asked bearer theirs same.symm
    omega

/-! ## Two users behind one address -/

namespace Sample

def ada : String := "65f0a1b2c3d4e5f6a7b8d001"

def bob : String := "65f0a1b2c3d4e5f6a7b8d002"

def verify (token : String) : Except Thrown Payload :=
  if token = "token-of-ada" then .ok ⟨ada⟩
  else if token = "token-of-bob" then .ok ⟨bob⟩
  else .error (.error "JsonWebTokenError" "jwt malformed")

/-- A request to create a task. All come from one address. -/
def create (token : String) : Call where
  config := { API_GATEWAY_THROTTLE_LIMIT := some 10, API_GATEWAY_THROTTLE_TTL := some 60 }
  arrival :=
    { authorization := some ("Bearer " ++ token), ip := some "203.0.113.7"
      routePath := some "/api/v1/task/create" }

/-- Two requests of Ada, the second of which finds the time of expiry the first has set. -/
def first : List Happening :=
  [.call 0 (create "token-of-ada"), .step 0 .resolved, .step 0 .resolved, .step 0 .resolved]

def second : List Happening :=
  [.call 1 (create "token-of-ada"), .step 1 .resolved, .step 1 .resolved]

/-- Ten requests of Bob. -/
def crowd : List Happening :=
  (List.range 10).flatMap fun count =>
    [.call (count + 2) (create "token-of-bob"), .step (count + 2) .resolved,
      .step (count + 2) .resolved]

/-- What two runs have in common when Ada is the user. -/
def seen (state : State) (event : Happening) : Option (ℕ × Call × Happening) :=
  sees verify ada (state.observe (programs verify)) event

end Sample

/-- A run over a list of events, with what Ada sees of it. -/
theorem observed_of_run {events : List Happening} {state : State}
    (ran : run (step Sample.verify) (.initial {}) events = some state)
    (working : Meets (step Sample.verify)
      (fun state event => Working (fun _ => True) (state.observe (programs Sample.verify)) event)
      (.initial {}) events) :
    Observed Sample.verify Sample.ada (fun _ => True) {}
      (trace (step Sample.verify) Sample.seen (.initial {}) events) state :=
  .of_run ran working

/-- **Bob's requests lock Ada out.** Her second request is admitted, unless Bob has sent ten from
the same address after her first. -/
theorem ada_locked_out : ¬ Separate Sample.verify Sample.ada fun _ => True := by
  intro separate
  obtain ⟨alone, ran, working, mine, bearer, admitted⟩ :
      ∃ alone ∈ run (step Sample.verify) (.initial {}) (Sample.first ++ Sample.second),
        Meets (step Sample.verify)
          (fun state event => Working (fun _ => True) (state.observe (programs Sample.verify)) event)
          (.initial {}) (Sample.first ++ Sample.second) ∧
        (alone.slots 1).call? = some (Sample.create "token-of-ada") ∧
        (Sample.create "token-of-ada").bearer Sample.verify = some Sample.ada ∧
        Admitted (alone.slots 1) = true := by decide +kernel
  obtain ⟨crowded, ran', working', same, rejected⟩ :
      ∃ crowded ∈ run (step Sample.verify) (.initial {})
          (Sample.first ++ Sample.crowd ++ Sample.second),
        Meets (step Sample.verify)
          (fun state event => Working (fun _ => True) (state.observe (programs Sample.verify)) event)
          (.initial {}) (Sample.first ++ Sample.crowd ++ Sample.second) ∧
        trace (step Sample.verify) Sample.seen (.initial {}) (Sample.first ++ Sample.second) =
          trace (step Sample.verify) Sample.seen (.initial {})
            (Sample.first ++ Sample.crowd ++ Sample.second) ∧
        Admitted (crowded.slots 1) = false := by decide +kernel
  have shows := observed_of_run ran working
  have shows' := observed_of_run ran' working'
  rw [← same] at shows'
  have alike := separate shows shows' 1 _ mine bearer
  rw [admitted, rejected] at alike
  cases alike

end WorkflowHub.Guards
