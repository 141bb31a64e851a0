import WorkflowHub.Throttling.ControlFlow
import WorkflowHub.Processes.Assertions
import Mathlib.Data.Option.Basic

/-!
# No counter without an end

`INCR` and `EXPIRE` are separate commands, so a gateway that crashes in between, or an `EXPIRE`
that fails, leaves a key without a time of expiry. Every later request looks for one and sets it.
Here one request is followed through all that gateways and Redis may do: when it has gone through
its commands without failure, then the key it has incremented expires (`no_permanent_lock_out`),
and unless an `EXPIRE` comes late it is gone after the number of seconds of the route.
-/

set_option autoImplicit false

namespace WorkflowHub.Throttling

open Processes FixedWindow

/-- The requests under the key go by at least one second and at most `ttl` of them, and no command
of request `who` fails. The others may fail and crash. -/
def Unfailing (key : String) (ttl who : ℕ) (_ : View) : Happening → Prop
  | .call _ call => call.context.type = .http → call.key = key →
      1 ≤ call.options.ttl ∧ call.options.ttl ≤ ttl
  | .step pid outcome => pid = who → outcome = .resolved
  | _ => True

instance (key : String) (ttl who : ℕ) (state : View) :
    (event : Happening) → Decidable (Unfailing key ttl who state event)
  | .call _ call => inferInstanceAs (Decidable (call.context.type = .http → call.key = key →
      1 ≤ call.options.ttl ∧ call.options.ttl ≤ ttl))
  | .step pid outcome => inferInstanceAs (Decidable (pid = who → outcome = .resolved))
  | .crash _ _ => isTrue trivial
  | .env _ => isTrue trivial

/-- The request is one of those that have incremented the key in its last lifetime. -/
def Current (key : String) (who : ℕ) (world : World) : Prop :=
  ∃ lifetime ∈ (world.lifetimes key).head?, ∃ increment ∈ lifetime.increments, increment.who = who

instance (key : String) (who : ℕ) (world : World) : Decidable (Current key who world) := by
  unfold Current
  infer_instance

/-- What is stored under the key expires by the time. -/
def Expires (key : String) (time : ℕ) (world : World) : Prop :=
  ∀ item, world.keys key = some item → ∃ expiry, item.expireAt = some expiry ∧ expiry ≤ time

/-- No time of expiry lies further ahead than the span. -/
def Bounded (key : String) (span : ℕ) (world : World) : Prop :=
  ∀ item, world.keys key = some item → ∀ expiry, item.expireAt = some expiry →
    expiry ≤ world.now + span

section Commands

variable {world : World} {key : String} {time span pid who : ℕ}

/-- A lifetime that another request has incremented is no new one for those in it before. -/
theorem current_increment {key' : String} (different : pid ≠ who)
    (current : Current key who (world.increment pid key')) :
    Current key who world ∧ (key' = key → (world.keys.find world.now key).isSome = true) := by
  by_cases mine : key' = key
  · subst mine
    obtain ⟨lifetime, last, increment, found, own⟩ := current
    rw [increment_lifetimes, World.lifetimesAfter] at last
    split at last
    · rename_i there
      refine ⟨?_, fun _ => there⟩
      cases history : world.lifetimes key' with
      | nil =>
          rw [history] at last
          cases last
          cases List.mem_singleton.mp found
          exact absurd own different
      | cons latest earlier =>
          rw [history] at last
          cases last
          rcases List.mem_cons.mp found with rfl | found
          · exact absurd own different
          · exact ⟨latest, by rw [history]; rfl, increment, found, own⟩
    · cases last
      cases List.mem_singleton.mp found
      exact absurd own different
  · refine ⟨?_, fun same => absurd same mine⟩
    obtain ⟨lifetime, last, found⟩ := current
    rw [increment_lifetimes_other (Ne.symm mine)] at last
    exact ⟨lifetime, last, found⟩

/-- `INCR` keeps the time of expiry of a key that is there. -/
theorem Expires.increment {key' : String} (expires : Expires key time world)
    (there : key' = key → (world.keys.find world.now key).isSome = true) :
    Expires key time (world.increment pid key') := by
  intro item stored
  by_cases mine : key' = key
  · subst mine
    obtain ⟨before, found⟩ := Option.isSome_iff_exists.mp (there rfl)
    rw [increment_keys, Keyspace.incremented, found] at stored
    obtain ⟨expiry, same, le⟩ := expires before (Keyspace.find_eq_some.mp found).1
    cases stored
    exact ⟨expiry, same, le⟩
  · rw [increment_keys_other (Ne.symm mine)] at stored
    exact expires item stored

theorem Bounded.increment {key' : String} (bounded : Bounded key span world) :
    Bounded key span (world.increment pid key') := by
  intro item stored expiry expires
  by_cases mine : key' = key
  · subst mine
    rw [increment_keys, Keyspace.incremented] at stored
    split at stored
    · rename_i before found
      cases stored
      exact bounded before (Keyspace.find_eq_some.mp found).1 expiry expires
    · cases stored
      cases expires
  · rw [increment_keys_other (Ne.symm mine)] at stored
    exact bounded item stored expiry expires

/-- What is stored but not found has expired. -/
theorem expires_of_absent (absent : world.keys.find world.now key = none) (le : world.now ≤ time) :
    Expires key time world := by
  intro item stored
  obtain ⟨expiry, expires, past⟩ := Keyspace.find_eq_none.mp absent item stored
  exact ⟨expiry, expires, past.le.trans le⟩

/-- A key whose `TTL` is not `-1` expires. -/
theorem expires_of_ttl (bounded : Bounded key span world)
    (set : world.keys.ttl world.now key ≠ -1) : Expires key (world.now + span) world := by
  cases found : world.keys.find world.now key with
  | none => exact expires_of_absent found (Nat.le_add_right _ _)
  | some before =>
      intro item stored
      have same := (Keyspace.find_eq_some.mp found).1
      rw [stored] at same
      cases same
      obtain ⟨value, expireAt⟩ := before
      cases expireAt with
      | none => exact absurd (by simp only [Keyspace.ttl, found]) set
      | some expiry => exact ⟨expiry, rfl, bounded _ stored expiry rfl⟩

/-- The world after an `EXPIRE`. -/
def World.expire (world : World) (key : String) (seconds : ℤ) : World :=
  { world with keys := world.keys.expire world.now key seconds }

theorem expire_keys_other {key' : String} (different : key ≠ key') (seconds : ℤ) :
    (world.expire key' seconds).keys key = world.keys key :=
  Keyspace.expire_other _ _ different _

/-- After an `EXPIRE` the key expires. -/
theorem expires_expire {ttl : ℕ} {seconds : ℤ} (positive : 1 ≤ seconds) (le : seconds ≤ ttl) :
    Expires key (world.now + ttl * 1000) (world.expire key seconds) := by
  obtain ⟨count, rfl⟩ := Int.eq_ofNat_of_zero_le (Int.zero_le_ofNat 1 |>.trans positive)
  cases found : world.keys.find world.now key with
  | none =>
      intro item stored
      rw [World.expire, Keyspace.expire, found] at stored
      exact expires_of_absent found (Nat.le_add_right _ _) item stored
  | some before =>
      have future : ¬ (count : ℤ) ≤ 0 := by omega
      intro item stored
      simp only [World.expire, Keyspace.expire, found, future, ↓reduceIte, Keyspace.put_self,
        Option.some.injEq] at stored
      cases stored
      refine ⟨_, rfl, ?_⟩
      have : count ≤ ttl := by omega
      rw [Int.toNat_natCast]
      exact Nat.add_le_add_left (Nat.mul_le_mul_right _ this) _

theorem Expires.expire {key' : String} {ttl : ℕ} {seconds : ℤ}
    (expires : Expires key (world.now + ttl * 1000) world)
    (limits : key' = key → 1 ≤ seconds ∧ seconds ≤ ttl) :
    Expires key (world.now + ttl * 1000) (world.expire key' seconds) := by
  by_cases mine : key' = key
  · subst mine
    exact expires_expire (limits rfl).1 (limits rfl).2
  · intro item stored
    rw [expire_keys_other (Ne.symm mine)] at stored
    exact expires item stored

theorem Bounded.expire {key' : String} {ttl : ℕ} {seconds : ℤ}
    (bounded : Bounded key (ttl * 1000) world)
    (limits : key' = key → 1 ≤ seconds ∧ seconds ≤ ttl) :
    Bounded key (ttl * 1000) (world.expire key' seconds) := by
  intro item stored expiry expires
  by_cases mine : key' = key
  · subst mine
    obtain ⟨expiry', same, le⟩ := expires_expire (limits rfl).1 (limits rfl).2 item stored
    rw [expires] at same
    cases same
    exact le
  · rw [expire_keys_other (Ne.symm mine)] at stored
    exact bounded item stored expiry expires

end Commands

/-! ## The request that is followed -/

/-- Where the request that is followed has completed its commands, its key expires. -/
def repair (key : String) (ttl who : ℕ) : Assertions World Call Pc (Except Thrown Bool) where
  Global := Bounded key (ttl * 1000)
  Local world pid slot :=
    match slot with
    | .free => pid = who → ¬ Current key who world
    | .running call pc =>
        (call.key = key → 1 ≤ call.options.ttl ∧ call.options.ttl ≤ ttl) ∧
          (pid = who → Current key who world → call.key = key ∧ pc.currentRequests.isSome = true)
    | .finished _ _ => pid = who → Current key who world → Expires key (world.now + ttl * 1000) world
    | .crashed _ => True

section Steps

variable {world world' : World} {key : String} {ttl who pid : ℕ} {call : Call} {pc : Pc}
  {outcome : Outcome}

/-- What a command leaves to the other requests. -/
structure Leaves (key : String) (ttl who pid : ℕ) (world world' : World) : Prop where
  now : world'.now = world.now
  bounded : Bounded key (ttl * 1000) world'
  current : pid ≠ who → Current key who world' → Current key who world
  expires : pid ≠ who → Current key who world' → Expires key (world.now + ttl * 1000) world →
    Expires key (world.now + ttl * 1000) world'

theorem Leaves.refl (bounded : Bounded key (ttl * 1000) world) : Leaves key ttl who pid world world :=
  ⟨rfl, bounded, fun _ current => current, fun _ _ expires => expires⟩

theorem exec_leaves {reply : Except Thrown (pc.op call).Value}
    (bounded : Bounded key (ttl * 1000) world)
    (limits : call.key = key → 1 ≤ call.options.ttl ∧ call.options.ttl ≤ ttl)
    (answered : exec world pid (pc.op call) outcome = some (world', reply)) :
    Leaves key ttl who pid world world' := by
  cases pc with
  | incrementing =>
      rcases respond_cases answered with ⟨rfl, _⟩ | ⟨_, rfl, _⟩
      · exact .refl bounded
      · exact ⟨rfl, bounded.increment, fun different current => (current_increment different current).1,
          fun different current expires =>
            expires.increment (current_increment different current).2⟩
  | reading currentRequests =>
      rcases respond_cases answered with ⟨rfl, _⟩ | ⟨_, rfl, _⟩
      · exact .refl bounded
      · exact .refl bounded
  | expiring currentRequests =>
      rcases respond_cases answered with ⟨rfl, _⟩ | ⟨_, rfl, _⟩
      · exact .refl bounded
      · exact ⟨rfl, Bounded.expire bounded limits, fun _ current => current,
          fun _ _ expires => Expires.expire expires limits⟩

/-- What a request does, another one leaves alone. -/
theorem Leaves.stays {other : ℕ} {slot : Slot Call Pc (Except Thrown Bool)}
    (leaves : Leaves key ttl who pid world world') (different : other ≠ pid)
    (holds : (repair key ttl who).Local world other slot) :
    (repair key ttl who).Local world' other slot := by
  cases slot with
  | free =>
      rintro rfl current
      exact holds rfl (leaves.current (Ne.symm different) current)
  | running call pc =>
      refine ⟨holds.1, ?_⟩
      rintro rfl current
      exact holds.2 rfl (leaves.current (Ne.symm different) current)
  | finished call out =>
      rintro rfl current
      rw [leaves.now]
      exact leaves.expires (Ne.symm different) current
        (holds rfl (leaves.current (Ne.symm different) current))
  | crashed call => trivial

/-- The verdict on a request, once its key expires. -/
theorem verdict_repaired {currentRequests : ℕ}
    (expires : pid = who → Current key who world → Expires key (world.now + ttl * 1000) world) :
    (repair key ttl who).Local world pid
      (Pool.land site world pid call (Led.verdict call currentRequests)).2 := by
  by_cases exceeds : (currentRequests : ℤ) > call.options.limit
  · simp only [Led.verdict, exceeds, ↓reduceIte, Pool.land_finished]
    exact expires
  · simp only [Led.verdict, exceeds, ↓reduceIte, Pool.land_finished]
    exact expires

/-- Of a request that is not followed only its options are known. -/
theorem landed_other (limits : call.key = key → 1 ≤ call.options.ttl ∧ call.options.ttl ≤ ttl)
    (other : pid ≠ who) (led : Led) :
    (repair key ttl who).Local world pid (Pool.land site world pid call led).2 := by
  obtain ⟨_, target⟩ := led
  cases target with
  | running pc => exact ⟨limits, fun mine => absurd mine other⟩
  | finished out => exact fun mine => absurd mine other

/-- The request that is followed goes on from a command that did not fail. -/
theorem next_repaired {reply : Except Thrown (pc.op call).Value}
    (bounded : Bounded key (ttl * 1000) world)
    (holds : (repair key ttl who).Local world pid (.running call pc))
    (answered : exec world pid (pc.op call) .resolved = some (world', reply)) :
    (repair key ttl who).Local world' pid
      (Pool.land site world' pid call (Led.next call pc reply)).2 := by
  obtain ⟨limits, knows⟩ := holds
  cases pc with
  | incrementing =>
      cases answered
      refine ⟨limits, fun mine current => ⟨?_, rfl⟩⟩
      by_contra different
      obtain ⟨lifetime, last, found⟩ := current
      rw [increment_lifetimes_other (Ne.symm different)] at last
      exact different (knows mine ⟨lifetime, last, found⟩).1
  | reading currentRequests =>
      cases answered
      by_cases unset : world.keys.ttl world.now call.key = -1
      · simp only [Led.next, unset, ↓reduceIte, Pool.land_running]
        exact ⟨limits, fun mine current => ⟨(knows mine current).1, rfl⟩⟩
      · simp only [Led.next, unset, ↓reduceIte]
        refine verdict_repaired fun mine current => ?_
        rw [(knows mine current).1] at unset
        exact expires_of_ttl bounded unset
  | expiring currentRequests =>
      cases answered
      refine verdict_repaired fun mine current => ?_
      obtain same := (knows mine current).1
      show Expires key (world.now + ttl * 1000) (world.expire call.key call.options.ttl)
      rw [same]
      exact expires_expire (limits same).1 (limits same).2

end Steps

theorem repair_valid (key : String) (ttl who : ℕ) :
    (repair key ttl who).Valid site flow
      fun pool event => Unfailing key ttl who (pool.observe flow) event where
  call := by
    intro pool pid call world holds limits free started
    cases started
    have fresh : pid = who → ¬ Current key who pool.world := by
      simpa only [repair, free] using holds.locally pid
    refine .of_world (Pool.land_world _ (fun _ => rfl) (fun _ => rfl) _) holds.globally ?_
      fun _ _ before => before
    by_cases http : call.context.type = .http
    · simp only [flow, Led.enter, http, ↓reduceIte, Pool.land_running]
      exact ⟨limits http, fun mine current => absurd current (fresh mine)⟩
    · simp only [flow, Led.enter, http, ↓reduceIte, Pool.land_finished]
      exact fun mine current => absurd current (fresh mine)
  step := by
    intro pool pid outcome call pc world reply holds unfailing running answered
    have before : (repair key ttl who).Local pool.world pid (.running call pc) :=
      running ▸ holds.locally pid
    have leaves : Leaves key ttl who pid pool.world world :=
      exec_leaves holds.globally before.1 answered
    refine .of_world (Pool.land_world _ (fun _ => rfl) (fun _ => rfl) _) leaves.bounded ?_
      fun other different holds => leaves.stays different holds
    by_cases mine : pid = who
    · obtain rfl : outcome = .resolved := unfailing mine
      exact next_repaired holds.globally before answered
    · exact landed_other before.1 mine _
  crashPending := by
    intro pool pid call pc holds _ _
    exact ⟨holds.globally, trivial, fun _ _ before => before⟩
  crashPerformed := by
    intro pool pid outcome call pc world reply holds _ running answered
    have before : (repair key ttl who).Local pool.world pid (.running call pc) :=
      running ▸ holds.locally pid
    have leaves : Leaves key ttl who pid pool.world world :=
      exec_leaves holds.globally before.1 answered
    exact ⟨leaves.bounded, trivial, fun other different holds => leaves.stays different holds⟩
  env := by
    intro pool event world holds _ moved
    cases event with
    | elapse milliseconds =>
        cases moved
        refine ⟨fun item stored expiry expires => ?_, fun pid before => ?_⟩
        · have := holds.globally item stored expiry expires
          show expiry ≤ pool.world.now + milliseconds + ttl * 1000
          omega
        · cases slot : pool.slots pid with
          | finished call out =>
              rw [slot] at before
              intro mine current item stored
              obtain ⟨expiry, expires, le⟩ := before mine current item stored
              refine ⟨expiry, expires, ?_⟩
              show expiry ≤ pool.world.now + milliseconds + ttl * 1000
              omega
          | _ =>
              rw [slot] at before
              exact before

/-! ## Without a late `EXPIRE` -/

/-- No `EXPIRE` on the key takes effect. -/
def Unrenewed (key : String) (state : View) : Happening → Prop
  | .step pid outcome => ∀ call seconds, state.slots pid = .running call (.expire key seconds) →
      ¬ outcome.Applied
  | .crash pid (some outcome) => ∀ call seconds,
      state.slots pid = .running call (.expire key seconds) → ¬ outcome.Applied
  | _ => True

/-- While no `EXPIRE` takes effect, the last lifetime of a request that has ended expires when it
was going to. -/
structure Ending (key : String) (who time : ℕ) (state : State) : Prop where
  completed : Completed (state.slots who) = true
  expires : Current key who state.world → Expires key time state.world

section Renewal

variable {key : String} {who time pid : ℕ} {world world' : World}

/-- An operation that is no `EXPIRE` of the key, or has not taken effect. -/
theorem exec_expires {op : Op} {outcome : Outcome} {reply : Except Thrown op.Value}
    (different : pid ≠ who) (unrenewed : ∀ seconds, op = .expire key seconds → ¬ outcome.Applied)
    (expires : Current key who world → Expires key time world)
    (answered : exec world pid op outcome = some (world', reply)) :
    Current key who world' → Expires key time world' := by
  intro current
  cases op with
  | incr key' =>
      rcases respond_cases answered with ⟨rfl, _⟩ | ⟨_, rfl, _⟩
      · exact expires current
      · obtain ⟨before, there⟩ := current_increment different current
        exact (expires before).increment there
  | ttl key' =>
      rcases respond_cases answered with ⟨rfl, _⟩ | ⟨_, rfl, _⟩
      · exact expires current
      · exact expires current
  | expire key' seconds =>
      rcases respond_cases answered with ⟨rfl, _⟩ | ⟨_, rfl, applied⟩
      · exact expires current
      · have other : key' ≠ key := by
          rintro rfl
          refine unrenewed seconds rfl ?_
          rcases applied with ⟨rfl, _⟩ | ⟨error, rfl, _⟩
          · trivial
          · trivial
        intro item stored
        exact expires current item ((expire_keys_other (Ne.symm other) seconds).symm.trans stored)

end Renewal

/-- A command of another request keeps the request ended and its lifetime ending. -/
theorem Ending.settle {key : String} {who time pid : ℕ} {before : State} {world : World}
    {landed : World × Slot Call (Suspended (promises Op Op.Value Thrown) Unit (Except Thrown Bool))
      (Except Thrown Bool)}
    (ending : Ending key who time before) (different : pid ≠ who) (same : landed.1 = world)
    (expires : Current key who world → Expires key time world) :
    Ending key who time (Pool.settle before.slots pid landed) where
  completed := by
    rw [Pool.settle_other _ (Ne.symm different)]
    exact ending.completed
  expires := by
    rw [Pool.settle_world, same]
    exact expires

theorem ending_preserved {key : String} {who time : ℕ} (before : State) (event : Happening)
    (after : State) (unrenewed : Unrenewed key (before.observe programs) event)
    (ending : Ending key who time before) (taken : step before event = some after) :
    Ending key who time after := by
  have others : ∀ {pid : ℕ}, Completed (before.slots pid) = false → pid ≠ who := by
    rintro pid unfinished rfl
    cases unfinished.symm.trans ending.completed
  have applies : ∀ {pid : ℕ} {call : Call} {suspended} {outcome : Outcome},
      before.slots pid = .running call suspended →
      (∀ call seconds, (before.observe programs).slots pid = .running call (.expire key seconds) →
        ¬ outcome.Applied) →
      ∀ seconds, suspended.op = .expire key seconds → ¬ outcome.Applied := by
    intro pid call suspended outcome running unrenewed seconds same
    refine unrenewed call seconds ?_
    rw [Pool.observe_slots, running, ← same]
    rfl
  cases Pool.stepped taken with
  | call free started =>
      cases started
      have different := others (by rw [free]; rfl)
      exact ending.settle different (Pool.land_world _ (fun _ => rfl) (fun _ => rfl) _) ending.expires
  | step running answered =>
      have different := others (by rw [running]; rfl)
      exact ending.settle different (Pool.land_world _ (fun _ => rfl) (fun _ => rfl) _)
        (exec_expires different (applies running unrenewed) ending.expires answered)
  | crashPending running =>
      exact ending.settle (others (by rw [running]; rfl)) rfl ending.expires
  | crashPerformed running answered =>
      have different := others (by rw [running]; rfl)
      exact ending.settle different rfl
        (exec_expires different (applies running unrenewed) ending.expires answered)
  | @env event world moved =>
      cases event with
      | elapse milliseconds =>
          cases moved
          exact ⟨ending.completed, ending.expires⟩

/-! ## No permanent lock-out -/

/-- **No permanent lock-out.** Whatever gateways crash and whatever commands fail: when a request
has completed its commands without failure, and the key still counts it, then the key has a time
of expiry, which is at most `ttl` seconds away. From then on, unless an `EXPIRE` renews it, the key
no longer counts the request after `ttl` seconds. -/
theorem no_permanent_lock_out {key : String} {ttl who : ℕ} {state : State}
    (ran : Runs (Unfailing key ttl who) (.initial {}) state)
    (completed : Completed (state.slots who) = true) (current : Current key who state.world) :
    (∀ item, state.world.keys.find state.world.now key = some item →
      ∃ expiry, item.expireAt = some expiry ∧ expiry ≤ state.world.now + ttl * 1000) ∧
    ∀ later : State, Runs (Unrenewed key) state later →
      state.world.now + ttl * 1000 < later.world.now → Current key who later.world →
        later.world.keys.find later.world.now key = none := by
  have expires : Expires key (state.world.now + ttl * 1000) state.world := by
    obtain ⟨machine, ran, same⟩ := implements.path ran
    have holds : (repair key ttl who).Holds machine := by
      refine (repair_valid key ttl who).path ran ⟨fun item stored => ?_, fun pid _ current => ?_⟩
      · cases stored
      · obtain ⟨lifetime, last, _⟩ := current
        cases last
    have ended : Completed (machine.slots who) = true := by
      have seen : Completed ((machine.observe flow).slots who) = true := by
        rw [show machine.observe flow = state.observe programs from same, Pool.observe_slots,
          completed_observe]
        exact completed
      rwa [Pool.observe_slots, completed_observe] at seen
    rw [← show machine.world = state.world from congrArg Pool.world same] at current ⊢
    have repaired := holds.locally who
    cases slot : machine.slots who with
    | finished call out =>
        rw [slot] at repaired
        exact repaired rfl current
    | _ =>
        rw [slot] at ended
        cases ended
  refine ⟨fun item found => expires item (Keyspace.find_eq_some.mp found).1, ?_⟩
  intro later renewed elapsed still
  have ending : Ending key who (state.world.now + ttl * 1000) later :=
    renewed.invariant ⟨completed, fun _ => expires⟩ ending_preserved
  refine Keyspace.find_eq_none.mpr fun item stored => ?_
  obtain ⟨expiry, same, le⟩ := ending.expires still item stored
  exact ⟨expiry, same, le.trans_lt elapsed⟩

namespace Sample

/-- The gateway of request 0 crashes after its `INCR`, and request 1 finds the key without a time
of expiry. -/
def abandoned : List Happening :=
  [.call 0 call, resolves 0, .crash 0 none, .call 1 call, resolves 1, resolves 1, resolves 1]

end Sample

/-- The theorem at a key that a crash has left without a time of expiry. -/
theorem no_permanent_lock_out_abandoned :
    ∃ state ∈ run step (.initial {}) Sample.abandoned,
      (Current Sample.key 0 state.world ∧ Current Sample.key 1 state.world ∧
        (state.world.keys.find state.world.now Sample.key).isSome = true) ∧
      ∀ item, state.world.keys.find state.world.now Sample.key = some item →
        ∃ expiry, item.expireAt = some expiry ∧ expiry ≤ state.world.now + 60 * 1000 := by
  obtain ⟨state, ran, there, completed, unfailing⟩ :
      ∃ state ∈ run step (.initial {}) Sample.abandoned,
        (Current Sample.key 0 state.world ∧ Current Sample.key 1 state.world ∧
          (state.world.keys.find state.world.now Sample.key).isSome = true) ∧
        Completed (state.slots 1) = true ∧
        Meets step (fun state event => Unfailing Sample.key 60 1 (state.observe programs) event)
          (.initial {}) Sample.abandoned := by decide +kernel
  exact ⟨state, ran, there,
    (no_permanent_lock_out (.of_run ran unfailing) completed there.2.1).1⟩

end WorkflowHub.Throttling
