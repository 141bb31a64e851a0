import WorkflowHub.Throttling.Callers

/-!
# Made-up addresses

Anonymous requests are counted under what `x-forwarded-for` says, if it says anything. So the limit
of a route caps a caller exactly if all headers the caller chooses from resolve to one address,
limits below one aside (`unevadable_iff`).
-/

set_option autoImplicit false

namespace WorkflowHub.Throttling

open Processes

/-! ## Two runs -/

/-- Two requests of the caller that have come as far. -/
inductive Abreast (route : Route) (key : String) :
    Slot Call Pc (Except Thrown Bool) → Slot Call Pc (Except Thrown Bool) → Prop where
  | free : Abreast route key .free .free
  | running {call call' : Call} (pc : Pc) (mine : call.key = key ∧ call.options = route.options)
      (mine' : call'.key = key ∧ call'.options = route.options) :
      Abreast route key (.running call pc) (.running call' pc)
  | finished {call call' : Call} (out : Except Thrown Bool) :
      Abreast route key (.finished call out) (.finished call' out)
  | crashed {call call' : Call} : Abreast route key (.crashed call) (.crashed call')

/-- States that look the same but for the headers of the requests. -/
structure Alike (route : Route) (key : String)
    (first second : Pool World Call Pc (Except Thrown Bool)) : Prop where
  keys : first.world.keys key = second.world.keys key
  slots : ∀ pid, Abreast route key (first.slots pid) (second.slots pid)

section Unwound

variable {route : Route} {client : Client} {choices : Option String → Prop} {key : String}
  {begin pid : ℕ} {call call' : Call}

theorem Abreast.symm {slot slot' : Slot Call Pc (Except Thrown Bool)}
    (abreast : Abreast route key slot slot') : Abreast route key slot' slot := by
  cases abreast with
  | free => exact .free
  | running pc mine mine' => exact .running pc mine' mine
  | finished out => exact .finished out
  | crashed => exact .crashed

theorem Abreast.admitted {slot slot' : Slot Call Pc (Except Thrown Bool)}
    (abreast : Abreast route key slot slot') : Admitted slot = Admitted slot' := by
  cases abreast with
  | finished out =>
      cases out with
      | _ => rfl
  | _ => rfl

theorem op_eq (mine : call.key = key ∧ call.options = route.options)
    (mine' : call'.key = key ∧ call'.options = route.options) (pc : Pc) :
    pc.op call = pc.op call' := by
  cases pc with
  | _ => simp only [Pc.op, mine.1, mine'.1, mine.2, mine'.2]

/-- One command, sent in both. -/
theorem exec_abreast {first second after after' : World} {op op' : Op} {outcome : Outcome}
    {reply : Except Thrown op.Value} {reply' : Except Thrown op'.Value} (same : op = op')
    (now : first.now = second.now) (keys : first.keys op.key = second.keys op.key)
    (answered : exec first pid op outcome = some (after, reply))
    (answered' : exec second pid op' outcome = some (after', reply')) :
    HEq reply reply' ∧ after.keys op.key = after'.keys op.key := by
  subst same
  obtain ⟨rfl, stored⟩ := exec_alike now keys answered answered'
  exact ⟨.rfl, stored⟩

theorem verdict_abreast (mine : call.key = key ∧ call.options = route.options)
    (mine' : call'.key = key ∧ call'.options = route.options) (first second : World)
    (currentRequests : ℕ) :
    Abreast route key (Pool.land site first pid call (Led.verdict call currentRequests)).2
      (Pool.land site second pid call' (Led.verdict call' currentRequests)).2 := by
  simp only [Led.verdict, mine.2, mine'.2]
  split
  · exact .finished _
  · exact .finished _

/-- Requests that get the same reply go on alike. -/
theorem next_abreast (mine : call.key = key ∧ call.options = route.options)
    (mine' : call'.key = key ∧ call'.options = route.options) (first second : World) {pc : Pc}
    {reply : Except Thrown (pc.op call).Value} {reply' : Except Thrown (pc.op call').Value}
    (same : HEq reply reply') :
    Abreast route key (Pool.land site first pid call (Led.next call pc reply)).2
      (Pool.land site second pid call' (Led.next call' pc reply')).2 := by
  have failed : ∀ error, Abreast route key
      (Pool.land site first pid call (Led.failOpen error)).2
      (Pool.land site second pid call' (Led.failOpen error)).2 := by
    intro error
    unfold Led.failOpen
    split
    · exact .finished _
    · exact .finished _
  cases pc with
  | incrementing =>
      obtain rfl : reply = reply' := eq_of_heq same
      cases reply with
      | ok currentRequests => exact .running _ mine mine'
      | error error => exact failed error
  | reading currentRequests =>
      obtain rfl : reply = reply' := eq_of_heq same
      cases reply with
      | ok ttl =>
          simp only [Led.next]
          split
          · exact .running _ mine mine'
          · exact verdict_abreast mine mine' first second currentRequests
      | error error => exact failed error
  | expiring currentRequests =>
      obtain rfl : reply = reply' := eq_of_heq same
      cases reply with
      | ok applied => exact verdict_abreast mine mine' first second currentRequests
      | error error => exact failed error

variable {first second after after' : Pool World Call Pc (Except Thrown Bool)}
  {event event' : Happening} {seen : ℕ × Happening}

/-- An entry of each is written. -/
theorem Alike.settle {landed landed' : World × Slot Call Pc (Except Thrown Bool)}
    (alike : Alike route key first second) (keys : landed.1.keys key = landed'.1.keys key)
    (slots : Abreast route key landed.2 landed'.2) :
    Alike route key (Pool.settle first.slots pid landed)
      (Pool.settle second.slots pid landed') where
  keys := keys
  slots other := by
    by_cases same : other = pid
    · subst same
      simpa only [Pool.settle_self] using slots
    · simpa only [Pool.settle_other _ same] using alike.slots other

/-- A request of the caller begins alike, whatever its headers are. -/
theorem Alike.enter (alike : Alike route key first second)
    (one : ∀ forwardedFor, choices forwardedFor → route.key client forwardedFor = key)
    (mine : Anonymous route client choices call) (mine' : Anonymous route client choices call') :
    Alike route key
      (Pool.settle first.slots pid (Pool.land site first.world pid call (Led.enter call)))
      (Pool.settle second.slots pid (Pool.land site second.world pid call' (Led.enter call'))) := by
  simp only [Led.enter, mine.http, mine'.http, ↓reduceIte]
  apply alike.settle
  · exact alike.keys
  · exact .running _ ⟨mine.key.trans (one _ mine.forwardedFor), mine.options⟩
      ⟨mine'.key.trans (one _ mine'.forwardedFor), mine'.options⟩

theorem Alike.step {outcome : Outcome} (alike : Alike route key first second)
    (now : first.world.now = second.world.now)
    (taken : Pool.step site flow first (.step pid outcome) = some after)
    (taken' : Pool.step site flow second (.step pid outcome) = some after') :
    Alike route key after after' := by
  have keeps : ∀ {world : World} {call : Call} (led : Led),
      (Pool.land site world pid call led).1 = world :=
    fun led => Pool.land_world site (fun _ => rfl) (fun _ => rfl) led
  have here := alike.slots pid
  cases Pool.stepped taken with
  | @step _ _ _ pc _ _ running answered =>
      cases Pool.stepped taken' with
      | step running' answered' =>
          rw [running, running'] at here
          cases here with
          | running _ mine mine' =>
              have same := op_eq mine mine' pc
              have own : (pc.op _).key = key := (pc.key_op _).trans mine.1
              obtain ⟨replies, stored⟩ :=
                exec_abreast same now (by rw [own]; exact alike.keys) answered answered'
              rw [own] at stored
              apply alike.settle
              · simpa only [keeps] using stored
              · exact next_abreast mine mine' _ _ replies

theorem Alike.crash {performed : Option Outcome} (alike : Alike route key first second)
    (now : first.world.now = second.world.now)
    (taken : Pool.step site flow first (.crash pid performed) = some after)
    (taken' : Pool.step site flow second (.crash pid performed) = some after') :
    Alike route key after after' := by
  have here := alike.slots pid
  cases Pool.stepped taken with
  | crashPending running =>
      cases Pool.stepped taken' with
      | crashPending running' =>
          apply alike.settle
          · exact alike.keys
          · exact .crashed
  | @crashPerformed _ _ _ pc _ _ running answered =>
      cases Pool.stepped taken' with
      | crashPerformed running' answered' =>
          rw [running, running'] at here
          cases here with
          | running _ mine mine' =>
              have own : (pc.op _).key = key := (pc.key_op _).trans mine.1
              have same := op_eq mine mine' pc
              have stored :=
                (exec_abreast same now (by rw [own]; exact alike.keys) answered answered').2
              rw [own] at stored
              apply alike.settle
              · exact stored
              · exact .crashed

/-- Events that look the same without the headers. -/
inductive SameButHeaders : Happening → Happening → Prop where
  | call (pid : ℕ) (call call' : Call) : SameButHeaders (.call pid call) (.call pid call')
  | step (pid : ℕ) (outcome : Outcome) : SameButHeaders (.step pid outcome) (.step pid outcome)
  | crash (pid : ℕ) (performed : Option Outcome) :
      SameButHeaders (.crash pid performed) (.crash pid performed)

theorem sameButHeaders {view view' : View} (shown : unheaded view event = some seen)
    (shown' : unheaded view' event' = some seen) :
    view.world.now = view'.world.now ∧ SameButHeaders event event' := by
  have same : unheaded view event = unheaded view' event' := shown.trans shown'.symm
  cases event with
  | env event => cases shown
  | call pid call =>
      cases event' with
      | env event => cases shown'
      | call pid' call' =>
          simp only [unheaded, Option.some.injEq, Prod.mk.injEq, Event.call.injEq] at same
          obtain ⟨now, rfl, _⟩ := same
          exact ⟨now, .call pid call _⟩
      | _ => simp [unheaded] at same
  | step pid outcome =>
      cases event' with
      | env event => cases shown'
      | step pid' outcome' =>
          simp only [unheaded, Option.some.injEq, Prod.mk.injEq, Event.step.injEq] at same
          obtain ⟨now, rfl, rfl⟩ := same
          exact ⟨now, .step pid outcome⟩
      | _ => simp [unheaded] at same
  | crash pid performed =>
      cases event' with
      | env event => cases shown'
      | crash pid' performed' =>
          simp only [unheaded, Option.some.injEq, Prod.mk.injEq, Event.crash.injEq] at same
          obtain ⟨now, rfl, rfl⟩ := same
          exact ⟨now, .crash pid performed⟩
      | _ => simp [unheaded] at same

/-- **Headers make no difference** where they all resolve to one address. -/
theorem unwinding
    (one : ∀ forwardedFor, choices forwardedFor → route.key client forwardedFor = key) :
    Unwinding (Pool.step site flow)
      (fun machine event => Arriving route client choices begin (machine.observe flow) event)
      (fun machine event => unheaded (machine.observe flow) event) (Alike route key) where
  symm alike := ⟨alike.keys.symm, fun pid => (alike.slots pid).symm⟩
  unseen := by
    intro first second after event alike _ hidden taken
    cases event with
    | env event =>
        cases event with
        | elapse milliseconds =>
            cases taken
            exact ⟨alike.keys, alike.slots⟩
    | _ => cases hidden
  seen := by
    intro first second after after' event event' seen alike arriving arriving' shown shown' taken
      taken'
    obtain ⟨now, same⟩ := sameButHeaders shown shown'
    cases same with
    | call pid call call' =>
        cases Pool.stepped taken with
        | call free started =>
            cases started
            cases Pool.stepped taken' with
            | call free' started' =>
                cases started'
                exact alike.enter one arriving arriving'
    | step pid outcome => exact alike.step now taken taken'
    | crash pid performed => exact alike.crash now taken taken'

end Unwound

/-! ## The condition is enough -/

section Enough

variable {route : Route} {client : Client} {choices : Option String → Prop}

theorem admitted_eq {machine : Pool World Call Pc (Except Thrown Bool)} {state : State}
    (same : machine.observe flow = state.observe programs) (pid : ℕ) :
    Admitted (machine.slots pid) = Admitted (state.slots pid) := by
  rw [← admitted_observe flow.op (machine.slots pid), ← Pool.observe_slots, same,
    Pool.observe_slots, admitted_observe]

/-- The requests there are, are those of the caller. -/
theorem anonymous_of_admitted {begin : ℕ} {world : World} {state : State} {pid : ℕ}
    (ran : Runs (Arriving route client choices begin) (.initial world) state)
    (admitted : Admitted (state.slots pid) = true) :
    ∃ call, state.slots pid = .finished call (.ok true) ∧ Anonymous route client choices call := by
  have asked := Pool.asked (Q := Anonymous route client choices) (fun allowed => allowed) ran pid
  cases slot : state.slots pid with
  | finished call out =>
      rw [slot] at asked admitted
      cases out with
      | ok allowed =>
          obtain rfl : allowed = true := admitted
          exact ⟨call, rfl, asked call rfl⟩
      | error error => cases admitted
  | _ =>
      rw [slot] at admitted
      cases admitted

/-- A limit below one admits nobody. -/
theorem not_admitted (low : route.limit < 1) {begin : ℕ} {world : World} {state : State}
    (ran : Runs (Arriving route client choices begin) (.initial world) state) (pid : ℕ) :
    Admitted (state.slots pid) = false := by
  rw [← Bool.not_eq_true]
  intro admitted
  obtain ⟨call, finished, anonymous⟩ := anonymous_of_admitted ran admitted
  obtain ⟨machine, ran', same⟩ := implements.path ran
  have holds := (turnedDown_valid fun allowed => allowed.1).path ran' ⟨trivial, fun _ => trivial⟩
  have seen : (machine.slots pid).observe flow.op = .finished call (.ok true) := by
    have slots := congrArg (fun view : View => view.slots pid) same
    simp only [Pool.observe_slots] at slots
    rw [slots, finished]
    rfl
  have local' := holds.locally pid
  rw [Slot.of_observe_finished seen] at local'
  have rejected := local' anonymous.http (by rw [anonymous.options]; exact low)
  cases rejected

theorem unevadable_of_low (low : route.limit < 1) : Unevadable route client choices where
  capped := by
    intro world state _ ran pids _ admitted
    cases pids with
    | nil => exact le_max_left _ _
    | cons pid pids =>
        have allowed := admitted pid List.mem_cons_self
        rw [not_admitted low ran pid] at allowed
        cases allowed
  alike := by
    intro world seen state state' _ shows shows' pid
    rw [not_admitted low shows.path pid, not_admitted low shows'.path pid]

/-- Requests that all have one identifier have one key. -/
theorem exists_key (one : ∀ first second, choices first → choices second →
      client.identifier first = client.identifier second) :
    ∃ key, ∀ forwardedFor, choices forwardedFor → route.key client forwardedFor = key := by
  by_cases chosen : ∃ forwardedFor, choices forwardedFor
  · obtain ⟨other, chosen⟩ := chosen
    exact ⟨route.key client other, fun forwardedFor chosen' =>
      Route.key_eq_iff.mpr (one forwardedFor other chosen' chosen)⟩
  · exact ⟨"", fun forwardedFor chosen' => absurd ⟨forwardedFor, chosen'⟩ chosen⟩

theorem unevadable_of_one (positive : 1 ≤ route.limit)
    (one : ∀ first second, choices first → choices second →
      client.identifier first = client.identifier second) : Unevadable route client choices where
  capped := by
    intro world state unused ran pids distinct admitted
    cases pids with
    | nil => exact le_max_left _ _
    | cons pid pids =>
        obtain ⟨call, _, anonymous⟩ :=
          anonymous_of_admitted ran (admitted pid List.mem_cons_self)
        obtain ⟨absent, unborn⟩ := unused _ anonymous.forwardedFor
        obtain ⟨limit, limited⟩ := Int.eq_ofNat_of_zero_le (show 0 ≤ route.limit by omega)
        obtain ⟨machine, ran', same⟩ := implements.path ran
        have few := admitted_le limited (fun other chosen => Route.key_eq_iff.mpr
          (one other _ chosen anonymous.forwardedFor)) absent unborn ran' distinct
          fun pid there => (admitted_eq same pid).trans (admitted pid there)
        rw [limited]
        omega
  alike := by
    intro world seen state state' _ shows shows' pid
    obtain ⟨machine, shown, tracking⟩ := Pool.Tracking.shows implements (.initial world) shows
    obtain ⟨machine', shown', tracking'⟩ := Pool.Tracking.shows implements (.initial world) shows'
    obtain ⟨key, one⟩ := exists_key one
    have alike : Alike route key machine machine' :=
      (unwinding one).related shown shown' ⟨rfl, fun _ => .free⟩
    rw [← admitted_eq tracking.observe_eq, ← admitted_eq tracking'.observe_eq]
    exact (alike.slots pid).admitted

end Enough

/-! ## The condition is necessary -/

section Admission

variable {route : Route} {client : Client} {choices : Option String → Prop} {pid count : ℕ}
  {call : Call} {machine : Pool World Call Pc (Except Thrown Bool)}

/-- Runs of the table of program points. -/
abbrev Arrives (route : Route) (client : Client) (choices : Option String → Prop) :
    Pool World Call Pc (Except Thrown Bool) → Pool World Call Pc (Except Thrown Bool) → Prop :=
  Path (Pool.step site flow)
    fun machine event => Arriving route client choices 0 (machine.observe flow) event

theorem enters (http : call.context.type = .http) (free : machine.slots pid = .free) :
    Pool.step site flow machine (.call pid call) =
      some ⟨machine.world, Function.update machine.slots pid (.running call .incrementing)⟩ := by
  rw [(Pool.Stepped.call free rfl).taken]
  simp only [flow, Led.enter, http, ↓reduceIte]
  rfl

theorem resolves {pc : Pc} {world : World} {reply : Except Thrown (pc.op call).Value}
    (running : machine.slots pid = .running call pc)
    (answered : exec machine.world pid (pc.op call) .resolved = some (world, reply)) :
    Pool.step site flow machine (.step pid .resolved) =
      some ⟨world, Function.update machine.slots pid
        (Pool.land site world pid call (Led.next call pc reply)).2⟩ := by
  rw [(Pool.Stepped.step running answered).taken, Pool.settle,
    Pool.land_world site (fun _ => rfl) fun _ => rfl]
  rfl

/-- How many requests the key has counted. -/
def Counts (key : String) (count : ℕ) (world : World) : Prop :=
  ((world.keys key).elim 0 fun item => item.value) = count

/-- At the time 0 nothing has expired. -/
theorem Counts.incremented {world : World} {key : String} (counts : Counts key count world)
    (now : world.now = 0) : (world.keys.incremented world.now key).value = count + 1 := by
  have found : world.keys.find world.now key = world.keys key := by
    cases stored : world.keys key with
    | none => simp only [Keyspace.find, stored]
    | some item =>
        refine Keyspace.find_eq_some.mpr ⟨stored, ?_⟩
        rintro ⟨time, _, past⟩
        omega
  simp only [Keyspace.incremented, found]
  unfold Counts at counts
  cases stored : world.keys key with
  | none =>
      rw [stored] at counts
      exact congrArg (· + 1) counts
  | some item =>
      rw [stored] at counts
      exact congrArg (· + 1) counts

/-- What a request does that is admitted. -/
structure Passes (machine machine' : Pool World Call Pc (Except Thrown Bool)) (pid : ℕ)
    (key : String) (count : ℕ) : Prop where
  now : machine'.world.now = machine.world.now
  counts : Counts key (count + 1) machine'.world
  keys : ∀ other, other ≠ key → machine'.world.keys other = machine.world.keys other
  admitted : Admitted (machine'.slots pid) = true
  others : ∀ other, other ≠ pid → machine'.slots other = machine.slots other

/-- `INCR` counts one more, and `EXPIRE` keeps the count. -/
theorem Counts.increment {world : World} {key : String} (counts : Counts key count world)
    (now : world.now = 0) : Counts key (count + 1) (world.increment pid key) := by
  unfold Counts
  rw [increment_keys]
  exact counts.incremented now

theorem Counts.expire {world : World} {key : String} {ttl : ℕ} (counts : Counts key count world)
    (positive : 0 < ttl) :
    Counts key count { world with keys := world.keys.expire world.now key ttl } := by
  unfold Counts at counts ⊢
  rcases Keyspace.expire_self world.keys world.now key positive with
    same | ⟨item, stored, renewed⟩
  · simp only [same]
    exact counts
  · simp only [renewed]
    rw [stored] at counts
    exact counts

section Commands

variable {world : World} {slots : ℕ → Slot Call Pc (Except Thrown Bool)}

theorem incr_resolves (counts : Counts call.key count world) (now : world.now = 0) :
    Pool.step site flow ⟨world, Function.update slots pid (.running call .incrementing)⟩
        (.step pid .resolved) =
      some ⟨world.increment pid call.key,
        Function.update slots pid (.running call (.reading (count + 1)))⟩ := by
  rw [resolves (Function.update_self ..) rfl, Function.update_idem]
  simp only [Led.next, counts.incremented now, Pool.land_running]

theorem ttl_resolves (unset : world.keys.ttl world.now call.key = -1) :
    Pool.step site flow ⟨world, Function.update slots pid (.running call (.reading count))⟩
        (.step pid .resolved) =
      some ⟨world, Function.update slots pid (.running call (.expiring count))⟩ := by
  rw [resolves (Function.update_self ..) rfl, Function.update_idem]
  simp only [Led.next, unset, ↓reduceIte, Pool.land_running]

/-- The request is admitted where it ends. -/
theorem verdict_admits (within : (count : ℤ) ≤ call.options.limit) :
    (Pool.land site world pid call (Led.verdict call count)).2 = .finished call (.ok true) := by
  have few : ¬ (count : ℤ) > call.options.limit := by omega
  simp only [Led.verdict, few, ↓reduceIte, Pool.land_finished]

theorem ttl_admits (within : (count : ℤ) ≤ call.options.limit)
    (set : world.keys.ttl world.now call.key ≠ -1) :
    Pool.step site flow ⟨world, Function.update slots pid (.running call (.reading count))⟩
        (.step pid .resolved) =
      some ⟨world, Function.update slots pid (.finished call (.ok true))⟩ := by
  rw [resolves (Function.update_self ..) rfl, Function.update_idem]
  simp only [Led.next, set, ↓reduceIte, verdict_admits within]

theorem expire_admits (within : (count : ℤ) ≤ call.options.limit) :
    Pool.step site flow ⟨world, Function.update slots pid (.running call (.expiring count))⟩
        (.step pid .resolved) =
      some ⟨{ world with keys := world.keys.expire world.now call.key call.options.ttl },
        Function.update slots pid (.finished call (.ok true))⟩ := by
  rw [resolves (Function.update_self ..) rfl, Function.update_idem]
  simp only [Led.next, verdict_admits within]

end Commands

theorem arriving_resolved (pid : ℕ) (now : machine.world.now = 0) :
    Arriving route client choices 0 (machine.observe flow) (.step pid .resolved) := by
  refine ⟨rfl, fun _ => ?_⟩
  rw [Pool.observe_world, now]
  exact Nat.zero_le _

/-- A request is admitted if its key has counted fewer than the limit allows. -/
theorem exists_passes (anonymous : Anonymous route client choices call)
    (free : machine.slots pid = .free) (now : machine.world.now = 0)
    (counts : Counts call.key count machine.world) (within : ((count + 1 : ℕ) : ℤ) ≤ route.limit) :
    ∃ machine', Arrives route client choices machine machine' ∧
      Passes machine machine' pid call.key count := by
  have limit : ((count + 1 : ℕ) : ℤ) ≤ call.options.limit := by
    rw [anonymous.options]
    exact within
  have arriving : Arriving route client choices 0 (machine.observe flow) (.call pid call) :=
    anonymous
  have entered : Arrives route client choices machine _ :=
    Path.single arriving (enters anonymous.http free)
  have read : Arrives route client choices machine _ :=
    entered.trans (Path.single (arriving_resolved pid now) (incr_resolves counts now))
  let world := machine.world.increment pid call.key
  by_cases unset : world.keys.ttl world.now call.key = -1
  · have expiring : Arrives route client choices machine _ :=
      read.trans (Path.single (arriving_resolved pid now) (ttl_resolves unset))
    refine ⟨_, expiring.trans (Path.single (arriving_resolved pid now) (expire_admits limit)), rfl,
      ?_, ?_, ?_, ?_⟩
    · rw [anonymous.options]
      exact (counts.increment now).expire route.positive
    · intro other different
      exact (Keyspace.expire_other _ _ different _).trans (increment_keys_other different)
    · simp only [Function.update_self]
      rfl
    · intro other different
      exact Function.update_of_ne different ..
  · refine ⟨_, read.trans (Path.single (arriving_resolved pid now) (ttl_admits limit unset)), rfl,
      counts.increment now, ?_, ?_, ?_⟩
    · intro other different
      exact increment_keys_other different
    · simp only [Function.update_self]
      rfl
    · intro other different
      exact Function.update_of_ne different ..

/-- A request of the caller. -/
def Route.request (route : Route) (client : Client) (forwardedFor : Option String) : Call where
  context :=
    { type := .http
      handler := some route.options
      request :=
        { forwardedFor := forwardedFor, ip := client.ip, remoteAddress := client.remoteAddress
          routePath := some route.path } }

theorem anonymous_request (route : Route) (client : Client) {forwardedFor : Option String}
    (chosen : choices forwardedFor) :
    Anonymous route client choices (route.request client forwardedFor) where
  http := rfl
  options := rfl
  userId := rfl
  forwardedFor := chosen
  ip := rfl
  remoteAddress := rfl
  routePath := rfl

/-- Any number of requests up to the limit were admitted under a key, and none elsewhere. -/
structure Filled (key : String) (count : ℕ) (machine : Pool World Call Pc (Except Thrown Bool)) :
    Prop where
  now : machine.world.now = 0
  counts : Counts key count machine.world
  keys : ∀ other, other ≠ key → machine.world.keys other = none
  admitted : ∀ pid < count, Admitted (machine.slots pid) = true
  free : ∀ pid, count ≤ pid → machine.slots pid = .free

theorem exists_filled (route : Route) (client : Client) {forwardedFor : Option String}
    (chosen : choices forwardedFor) :
    ∀ count : ℕ, (count : ℤ) ≤ route.limit → ∃ machine,
      Arrives route client choices (.initial {}) machine ∧
        Filled (route.key client forwardedFor) count machine := by
  have anonymous := anonymous_request route client chosen
  have key : (route.request client forwardedFor).key = route.key client forwardedFor :=
    anonymous.key
  intro count
  induction count with
  | zero =>
      intro _
      refine ⟨_, .refl, rfl, rfl, fun _ _ => rfl, fun pid before => ?_, fun _ _ => rfl⟩
      exact absurd before (Nat.not_lt_zero pid)
  | succ count ih =>
      intro within
      obtain ⟨machine, ran, filled⟩ := ih (by omega)
      obtain ⟨machine', passes, passed⟩ := exists_passes anonymous
        (filled.free count (Nat.le_refl count)) filled.now (key ▸ filled.counts) within
      rw [key] at passed
      refine ⟨machine', ran.trans passes, passed.now.trans filled.now, passed.counts, ?_, ?_, ?_⟩
      · intro other different
        rw [passed.keys other different]
        exact filled.keys other different
      · intro pid before
        by_cases same : pid = count
        · rw [same]
          exact passed.admitted
        · rw [passed.others pid same]
          exact filled.admitted pid (by omega)
      · intro pid after
        rw [passed.others pid (by omega)]
        exact filled.free pid (by omega)

/-- **A caller with two addresses has two limits.** -/
theorem identifier_eq_of_unevadable (positive : 1 ≤ route.limit)
    (unevadable : Unevadable route client choices) {first second : Option String}
    (chosen : choices first) (chosen' : choices second) :
    client.identifier first = client.identifier second := by
  by_contra different
  have apart : route.key client second ≠ route.key client first :=
    fun same => different (Route.key_eq_iff.mp same).symm
  -- As many requests with the first header as the limit allows, and then one with the second.
  obtain ⟨limit, limited⟩ := Int.eq_ofNat_of_zero_le (show 0 ≤ route.limit by omega)
  obtain ⟨machine, ran, filled⟩ := exists_filled route client chosen limit (by omega)
  have anonymous := anonymous_request route client chosen'
  have key : (route.request client second).key = route.key client second := anonymous.key
  have unused : Counts (route.request client second).key 0 machine.world := by
    unfold Counts
    rw [key, filled.keys _ apart]
    rfl
  obtain ⟨machine', passes, passed⟩ := exists_passes anonymous
    (filled.free limit (Nat.le_refl limit)) filled.now unused (by omega)
  obtain ⟨state, ran', tracking⟩ :=
    Pool.Tracking.traced implements (.initial _) (ran.trans passes)
  have fresh : Unused route client choices {} := fun _ _ => ⟨rfl, rfl⟩
  have capped := unevadable.capped fresh ran' (List.range (limit + 1)) List.nodup_range ?_
  · rw [List.length_range] at capped
    omega
  · intro pid there
    rw [← admitted_eq tracking.observe_eq]
    by_cases same : pid = limit
    · rw [same]
      exact passed.admitted
    · rw [passed.others pid same]
      exact filled.admitted pid (by have := List.mem_range.mp there; omega)

end Admission

/-- **The rate cap holds of an anonymous caller exactly if all headers the caller may choose resolve
to one address,** limits below one aside. -/
theorem unevadable_iff (route : Route) (client : Client) (choices : Option String → Prop) :
    Unevadable route client choices ↔ route.limit < 1 ∨
      ∀ first second, choices first → choices second →
        client.identifier first = client.identifier second := by
  constructor
  · intro unevadable
    by_cases low : route.limit < 1
    · exact .inl low
    · refine .inr fun first second chosen chosen' => ?_
      exact identifier_eq_of_unevadable (by omega) unevadable chosen chosen'
  · rintro (low | one)
    · exact unevadable_of_low low
    · by_cases low : route.limit < 1
      · exact unevadable_of_low low
      · exact unevadable_of_one (by omega) one

/-! ## A caller who makes addresses up -/

instance {route : Route} {client : Client} {choices : Option String → Prop}
    [DecidablePred choices] (call : Call) : Decidable (Anonymous route client choices call) :=
  decidable_of_iff
    (call.context.type = .http ∧ call.options = route.options ∧
      call.context.request.userId = none ∧ choices call.context.request.forwardedFor ∧
      call.context.request.ip = client.ip ∧
      call.context.request.remoteAddress = client.remoteAddress ∧
      call.context.request.routePath = some route.path)
    ⟨fun ⟨http, options, userId, forwardedFor, ip, remoteAddress, routePath⟩ =>
        ⟨http, options, userId, forwardedFor, ip, remoteAddress, routePath⟩,
      fun anonymous => ⟨anonymous.http, anonymous.options, anonymous.userId,
        anonymous.forwardedFor, anonymous.ip, anonymous.remoteAddress, anonymous.routePath⟩⟩

instance {route : Route} {client : Client} {choices : Option String → Prop}
    [DecidablePred choices] {begin : ℕ} (view : View) :
    (event : Happening) → Decidable (Arriving route client choices begin view event)
  | .call _ call => inferInstanceAs (Decidable (Anonymous route client choices call))
  | .step pid outcome => inferInstanceAs (Decidable (outcome = .resolved ∧
      (Incrementing (view.slots pid) = true → view.world.now ≤ begin + route.ttl * 1000)))
  | .crash pid _ => inferInstanceAs (Decidable
      (Incrementing (view.slots pid) = true → view.world.now ≤ begin + route.ttl * 1000))
  | .env _ => isTrue trivial

namespace Sample

def login : Route where
  path := "/api/v1/auth/login"
  path_ne := by decide
  limit := 10
  ttl := 60
  positive := by decide

def mallory : Client where
  ip := some "203.0.113.9"
  remoteAddress := some "203.0.113.9"

/-- Eleven requests, each with an address of its own. -/
def guesses : List Happening :=
  (List.range 11).flatMap fun count =>
    [.call count (login.request mallory (some ("198.51.100." ++ toString count))),
      resolves count, resolves count, resolves count]

end Sample

/-- All eleven are admitted, where the limit is ten. -/
theorem mallory_guesses : ¬ Unevadable Sample.login Sample.mallory fun _ => True := by
  intro unevadable
  obtain ⟨state, ran, arriving, admitted⟩ :
      ∃ state ∈ run step (.initial {}) Sample.guesses,
        Meets step (fun state event => Arriving Sample.login Sample.mallory (fun _ => True) 0
          (state.observe programs) event) (.initial {}) Sample.guesses ∧
        ∀ pid ∈ List.range 11, Admitted (state.slots pid) = true := by decide +kernel
  have fresh : Unused Sample.login Sample.mallory (fun _ => True) {} := fun _ _ => ⟨rfl, rfl⟩
  have capped := unevadable.capped fresh (.of_run ran arriving) _ List.nodup_range admitted
  exact absurd capped (by decide)

end WorkflowHub.Throttling
