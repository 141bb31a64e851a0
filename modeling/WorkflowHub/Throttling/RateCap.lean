import WorkflowHub.Throttling.ControlFlow
import WorkflowHub.Processes.Assertions
import Mathlib.Algebra.Order.Group.Nat

/-!
# The rate cap

What the guard does with the requests of one key, all of which go by the same options, while
Redis does not fail. `INCR` tells every request the count it has reached in the lifetime of the
key, so each lifetime admits as many as the limit allows. A key gets its time of expiry by an
`EXPIRE` that may come late, even from a request of an earlier lifetime; but whenever it comes,
it comes after the lifetime it meets was born, so no lifetime is too short (`Stands`). From
this follows the cap over any interval (`rate_cap`).
-/

set_option autoImplicit false

namespace WorkflowHub.Throttling

open Processes FixedWindow

/-- Every request under the key goes by the options, and Redis does not fail. -/
def Metered (key : String) (options : ThrottleOptions) (_ : View) : Happening → Prop
  | .call _ call => call.context.type = .http → call.key = key → call.options = options
  | .step _ outcome => outcome = .resolved
  | _ => True

instance (key : String) (options : ThrottleOptions) (state : View) (event : Happening) :
    Decidable (Metered key options state event) := by
  unfold Metered
  split <;> infer_instance

/-! ## The key and its lifetimes -/

/-- What is stored under a key counts its last lifetime, and does not expire before that is
`span` old. -/
inductive Stands (span : ℕ) : Option (Item ℕ) → List (Lifetime ℕ ℕ) → Prop where
  | absent : Stands span none []
  | stored {item : Item ℕ} {latest : Lifetime ℕ ℕ} {earlier : List (Lifetime ℕ ℕ)}
      (value : item.value = latest.increments.length)
      (lasts : ∀ time ∈ item.expireAt, latest.born + span ≤ time) :
      Stands span (some item) (latest :: earlier)

theorem Stands.of_last {span : ℕ} {entry : Option (Item ℕ)} {history : List (Lifetime ℕ ℕ)}
    {latest : Lifetime ℕ ℕ} (stands : Stands span entry history)
    (last : history.head? = some latest) : ∃ item, entry = some item ∧
      item.value = latest.increments.length ∧
        ∀ time ∈ item.expireAt, latest.born + span ≤ time := by
  cases stands with
  | absent => cases last
  | @stored item _ _ value lasts =>
      cases last
      exact ⟨item, rfl, value, lasts⟩

theorem Stands.of_some {span : ℕ} {item : Item ℕ} {history : List (Lifetime ℕ ℕ)}
    (stands : Stands span (some item) history) : ∃ latest earlier, history = latest :: earlier ∧
      item.value = latest.increments.length ∧
        ∀ time ∈ item.expireAt, latest.born + span ≤ time := by
  cases stands with
  | stored value lasts => exact ⟨_, _, rfl, value, lasts⟩

/-- All increments of a key. -/
def World.increments (world : World) (key : String) : List (Increment ℕ ℕ) :=
  FixedWindow.increments (world.lifetimes key)

structure Consistent (key : String) (span : ℕ) (world : World) : Prop where
  sound : Sound span world.now (world.lifetimes key)
  stands : Stands span (world.keys key) (world.lifetimes key)
  once : ((world.increments key).map (·.who)).Nodup

section Commands

variable {world : World} {key : String} {span pid : ℕ}

/-- What `INCR` does to the key and to its lifetimes: the lifetime goes on, or it had ended
and the key starts over. -/
inductive Incremented (span : ℕ) (world : World) (key : String) (pid : ℕ) : Prop where
  | goesOn {item : Item ℕ} {latest : Lifetime ℕ ℕ} {earlier : List (Lifetime ℕ ℕ)}
      (before : world.lifetimes key = latest :: earlier)
      (after : world.lifetimesAfter pid key = goOn pid world.now (latest :: earlier))
      (stores : world.keys.incremented world.now key =
        { item with value := latest.increments.length + 1 })
      (lasts : ∀ time ∈ item.expireAt, latest.born + span ≤ time)
  | starts (ended : ∀ latest ∈ (world.lifetimes key).head?, latest.born + span < world.now)
      (after : world.lifetimesAfter pid key = start pid world.now (world.lifetimes key))
      (stores : world.keys.incremented world.now key = ⟨1, none⟩)

theorem incremented (pid : ℕ) (stands : Stands span (world.keys key) (world.lifetimes key)) :
    Incremented span world key pid := by
  cases found : world.keys.find world.now key with
  | some item =>
      rw [(Keyspace.find_eq_some.mp found).1] at stands
      obtain ⟨latest, earlier, before, value, lasts⟩ := stands.of_some
      refine .goesOn before ?_ ?_ lasts
      · simp only [World.lifetimesAfter, found, before, Option.isSome_some, ↓reduceIte]
      · simp only [Keyspace.incremented, found, value]
  | none =>
      refine .starts ?_ ?_ ?_
      · intro latest last
        obtain ⟨item, there, _, lasts⟩ := stands.of_last last
        obtain ⟨time, expires, past⟩ := Keyspace.find_eq_none.mp found item there
        exact (lasts time expires).trans_lt past
      · simp only [World.lifetimesAfter, found, Option.isSome_none, Bool.false_eq_true, ↓reduceIte]
      · simp only [Keyspace.incremented, found]

/-- One increment is new: that of the request, with the count it is told. -/
theorem increments_increment (consistent : Consistent key span world) :
    (world.increment pid key).increments key =
      ⟨pid, world.now, (world.keys.incremented world.now key).value⟩ :: world.increments key := by
  simp only [World.increments, increment_lifetimes]
  cases incremented pid consistent.stands with
  | goesOn before after stores lasts =>
      rw [after, stores, before]
      rfl
  | starts ended after stores =>
      rw [after, stores]
      rfl

/-- A request that has not incremented the key does. -/
theorem Consistent.increment (consistent : Consistent key span world)
    (fresh : ∀ increment ∈ world.increments key, increment.who ≠ pid) :
    Consistent key span (world.increment pid key) := by
  have once : (((world.increment pid key).increments key).map (·.who)).Nodup := by
    rw [increments_increment consistent, List.map_cons, List.nodup_cons]
    refine ⟨fun there => ?_, consistent.once⟩
    obtain ⟨increment, found, mine⟩ := List.mem_map.mp there
    exact fresh increment found mine
  cases incremented pid consistent.stands with
  | @goesOn item latest earlier before after stores lasts =>
      have sound := consistent.sound
      rw [before] at sound
      refine ⟨?_, ?_, once⟩
      · rw [increment_lifetimes, after]
        exact sound.goOn
      · rw [increment_lifetimes, after, increment_keys, stores]
        exact .stored rfl lasts
  | starts ended after stores =>
      refine ⟨?_, ?_, once⟩
      · rw [increment_lifetimes, after]
        exact consistent.sound.start ended
      · rw [increment_lifetimes, after, increment_keys, stores]
        exact .stored rfl fun time never => nomatch never

/-- An `EXPIRE` may come late, but not before the lifetime it meets was born. -/
theorem Consistent.expire {ttl : ℕ} (consistent : Consistent key (ttl * 1000) world)
    (positive : 0 < ttl) :
    Consistent key (ttl * 1000)
      { world with keys := world.keys.expire world.now key ttl } := by
  have stands : Stands (ttl * 1000) (world.keys.expire world.now key ttl key)
      (world.lifetimes key) := by
    have stands := consistent.stands
    rcases Keyspace.expire_self world.keys world.now key positive with
      same | ⟨item, there, renewed⟩
    · rw [same]
      exact stands
    · rw [there] at stands
      obtain ⟨latest, earlier, before, value, _⟩ := stands.of_some
      have born : latest.born ≤ world.now :=
        (consistent.sound.lifetimes latest (before ▸ List.mem_cons_self)).born_le
      rw [renewed, before]
      refine .stored value fun time expires => ?_
      obtain rfl : world.now + ttl * 1000 = time := Option.some.inj expires
      exact Nat.add_le_add_right born _
  exact ⟨consistent.sound, stands, consistent.once⟩

/-- What other keys do does not matter. -/
theorem Consistent.congr {world' : World} (consistent : Consistent key span world)
    (now : world'.now = world.now) (keys : world'.keys key = world.keys key)
    (lifetimes : world'.lifetimes key = world.lifetimes key) : Consistent key span world' where
  sound := by
    rw [now, lifetimes]
    exact consistent.sound
  stands := by
    rw [keys, lifetimes]
    exact consistent.stands
  once := by
    rw [World.increments, lifetimes]
    exact consistent.once

theorem Consistent.elapse (consistent : Consistent key span world) (milliseconds : ℕ) :
    Consistent key span { world with now := world.now + milliseconds } where
  sound := consistent.sound.later (Nat.le_add_right _ _)
  stands := consistent.stands
  once := consistent.once

end Commands

/-! ## What a request knows -/

/-- A request that has incremented the key knows the count it has reached. -/
def Knows (key : String) (options : ThrottleOptions) (world : World) (pid : ℕ) (call : Call)
    (pc : Pc) : Prop :=
  (call.key = key → call.options = options) ∧
    ∀ increment ∈ world.increments key, increment.who = pid →
      call.key = key ∧ pc.currentRequests = some increment.count

/-- The key is consistent with its lifetimes, and a request that incremented it was admitted
exactly if it was within the limit. -/
def rate (key : String) (limit ttl : ℕ) : Assertions World Call Pc (Except Thrown Bool) where
  Global := Consistent key (ttl * 1000)
  Local world pid slot :=
    match slot with
    | .free => ∀ increment ∈ world.increments key, increment.who ≠ pid
    | .running call pc => Knows key ⟨limit, ttl⟩ world pid call pc
    | .finished _ out => ∀ increment ∈ world.increments key, increment.who = pid →
        (out = .ok true ↔ increment.count ≤ limit)
    | .crashed _ => True

section Steps

variable {world world' : World} {key : String} {limit ttl pid : ℕ} {call : Call} {pc : Pc}
  {outcome : Outcome}

/-- Who has not incremented the key meanwhile knows what it knew. -/
theorem local_mono {slot : Slot Call Pc (Except Thrown Bool)}
    (old : ∀ increment ∈ world'.increments key, increment.who = pid →
      increment ∈ world.increments key)
    (holds : (rate key limit ttl).Local world pid slot) :
    (rate key limit ttl).Local world' pid slot := by
  cases slot with
  | free => exact fun increment found mine => holds increment (old increment found mine) mine
  | running call pc =>
      exact ⟨holds.1, fun increment found mine => holds.2 increment (old increment found mine) mine⟩
  | finished call out =>
      exact fun increment found mine => holds increment (old increment found mine) mine
  | crashed call => trivial

/-- A command keeps the key consistent, and an increment that is new is its own. -/
theorem exec_consistent {reply : Except Thrown (pc.op call).Value} (positive : 0 < ttl)
    (consistent : Consistent key (ttl * 1000) world)
    (knows : Knows key ⟨limit, ttl⟩ world pid call pc)
    (answered : exec world pid (pc.op call) outcome = some (world', reply)) :
    Consistent key (ttl * 1000) world' ∧
      ∀ other, other ≠ pid → ∀ increment ∈ world'.increments key, increment.who = other →
        increment ∈ world.increments key := by
  cases pc with
  | incrementing =>
      rcases respond_cases answered with ⟨rfl, _⟩ | ⟨_, rfl, _⟩
      · exact ⟨consistent, fun _ _ _ found _ => found⟩
      · by_cases mine : call.key = key
        · rw [mine]
          refine ⟨consistent.increment fun increment found own => ?_, ?_⟩
          · cases (knows.2 increment found own).2
          · intro other different increment found own
            rw [increments_increment consistent] at found
            rcases List.mem_cons.mp found with rfl | found
            · exact absurd own.symm different
            · exact found
        · refine ⟨consistent.congr rfl (increment_keys_other (Ne.symm mine))
            (increment_lifetimes_other (Ne.symm mine)), ?_⟩
          intro other _ increment found _
          rwa [World.increments, increment_lifetimes_other (Ne.symm mine)] at found
  | reading currentRequests =>
      rcases respond_cases answered with ⟨rfl, _⟩ | ⟨_, rfl, _⟩
      · exact ⟨consistent, fun _ _ _ found _ => found⟩
      · exact ⟨consistent, fun _ _ _ found _ => found⟩
  | expiring currentRequests =>
      rcases respond_cases answered with ⟨rfl, _⟩ | ⟨_, rfl, _⟩
      · exact ⟨consistent, fun _ _ _ found _ => found⟩
      · refine ⟨?_, fun _ _ _ found _ => found⟩
        by_cases mine : call.key = key
        · rw [mine, knows.1 mine]
          exact consistent.expire positive
        · exact consistent.congr rfl (Keyspace.expire_other _ _ (Ne.symm mine) _) rfl

/-- The verdict on a request that knows its count. -/
theorem verdict_local {currentRequests : ℕ}
    (knows : Knows key ⟨limit, ttl⟩ world pid call (.reading currentRequests)) :
    (rate key limit ttl).Local world pid
      (Pool.land site world pid call (Led.verdict call currentRequests)).2 := by
  obtain ⟨options, counts⟩ := knows
  by_cases exceeds : (currentRequests : ℤ) > call.options.limit
  · simp only [Led.verdict, exceeds, ↓reduceIte, Pool.land_finished]
    intro increment found own
    obtain ⟨mine, count⟩ := counts increment found own
    obtain rfl : currentRequests = increment.count := Option.some.inj count
    rw [options mine] at exceeds
    have beyond : (increment.count : ℤ) > limit := exceeds
    exact iff_of_false (fun same => by cases same) (by omega)
  · simp only [Led.verdict, exceeds, ↓reduceIte, Pool.land_finished]
    intro increment found own
    obtain ⟨mine, count⟩ := counts increment found own
    obtain rfl : currentRequests = increment.count := Option.some.inj count
    rw [options mine] at exceeds
    have within : ¬ (increment.count : ℤ) > limit := exceeds
    exact iff_of_true rfl (by omega)

/-- A request goes on from a command that was answered with what it knows. -/
theorem next_local {reply : Except Thrown (pc.op call).Value}
    (consistent : Consistent key (ttl * 1000) world)
    (knows : Knows key ⟨limit, ttl⟩ world pid call pc)
    (answered : exec world pid (pc.op call) .resolved = some (world', reply)) :
    (rate key limit ttl).Local world' pid
      (Pool.land site world' pid call (Led.next call pc reply)).2 := by
  cases pc with
  | incrementing =>
      cases answered
      refine ⟨knows.1, fun increment found own => ?_⟩
      by_cases mine : call.key = key
      · refine ⟨mine, ?_⟩
        subst mine
        rw [increments_increment consistent] at found
        rcases List.mem_cons.mp found with rfl | found
        · rfl
        · cases (knows.2 increment found own).2
      · rw [World.increments, increment_lifetimes_other (Ne.symm mine)] at found
        cases (knows.2 increment found own).2
  | reading currentRequests =>
      cases answered
      by_cases unset : world.keys.ttl world.now call.key = -1
      · simp only [Led.next, unset, ↓reduceIte, Pool.land_running]
        exact knows
      · simp only [Led.next, unset, ↓reduceIte]
        exact verdict_local knows
  | expiring currentRequests =>
      cases answered
      exact verdict_local knows

end Steps

theorem rate_valid (key : String) {limit ttl : ℕ} (positive : 0 < ttl) :
    (rate key limit ttl).Valid site flow
      fun pool event => Metered key ⟨limit, ttl⟩ (pool.observe flow) event where
  call := by
    intro pool pid call world holds metered free started
    cases started
    have fresh : ∀ increment ∈ pool.world.increments key, increment.who ≠ pid := by
      simpa only [rate, free] using holds.locally pid
    refine .of_world (Pool.land_world _ (fun _ => rfl) (fun _ => rfl) _) holds.globally ?_
      fun _ _ before => before
    by_cases http : call.context.type = .http
    · simp only [flow, Led.enter, http, ↓reduceIte, Pool.land_running]
      exact ⟨metered http, fun increment found own => absurd own (fresh increment found)⟩
    · simp only [flow, Led.enter, http, ↓reduceIte, Pool.land_finished]
      exact fun increment found own => absurd own (fresh increment found)
  step := by
    intro pool pid outcome call pc world reply holds metered running answered
    have knows : Knows key ⟨limit, ttl⟩ pool.world pid call pc := by
      simpa only [rate, running] using holds.locally pid
    obtain ⟨consistent, old⟩ := exec_consistent positive holds.globally knows answered
    obtain rfl : outcome = .resolved := metered
    exact .of_world (Pool.land_world _ (fun _ => rfl) (fun _ => rfl) _) consistent
      (next_local holds.globally knows answered)
      fun other different before => local_mono (old other different) before
  crashPending := by
    intro pool pid call pc holds _ _
    exact ⟨holds.globally, trivial, fun _ _ before => before⟩
  crashPerformed := by
    intro pool pid outcome call pc world reply holds _ running answered
    have knows : Knows key ⟨limit, ttl⟩ pool.world pid call pc := by
      simpa only [rate, running] using holds.locally pid
    obtain ⟨consistent, old⟩ := exec_consistent positive holds.globally knows answered
    exact ⟨consistent, trivial, fun other different before => local_mono (old other different) before⟩
  env := by
    intro pool event world holds _ moved
    cases event with
    | elapse milliseconds =>
        cases moved
        exact ⟨holds.globally.elapse milliseconds,
          fun _ before => local_mono (fun _ found _ => found) before⟩

/-! ## The cap -/

/-- What the guard makes of the requests of a key. -/
structure Capped (key : String) (limit ttl : ℕ) (state : View) : Prop where
  /-- No request increments the key twice. -/
  once : ((state.world.increments key).map (·.who)).Nodup
  /-- A lifetime whose requests were all answered has admitted as many as the limit allows. -/
  admits : ∀ lifetime ∈ state.world.lifetimes key,
    (∀ increment ∈ lifetime.increments, Completed (state.slots increment.who) = true) →
      lifetime.increments.countP (fun increment => Admitted (state.slots increment.who)) =
        min lifetime.increments.length limit
  /-- A lifetime begins with its first increment, and up to `ttl` seconds later it has not ended:
  the key is there, and counts its increments. -/
  lasts : ∀ lifetime ∈ state.world.lifetimes key,
    lifetime.increments.getLast?.map (·.time) = some lifetime.born ∧
      (state.world.now ≤ lifetime.born + ttl * 1000 →
        (state.world.lifetimes key).head? = some lifetime ∧
          ∃ item, state.world.keys.find state.world.now key = some item ∧
            item.value = lifetime.increments.length)
  /-- Of the requests that increment the key in an interval of `ttl` seconds, at most twice as
  many are admitted as the limit allows. -/
  interval : ∀ begin,
    (state.world.increments key).countP (fun increment =>
      Admitted (state.slots increment.who) = true ∧ increment.In begin (ttl * 1000)) ≤ 2 * limit

/-- A key whose last lifetime is young is there. -/
theorem Consistent.found {world : World} {key : String} {span : ℕ}
    (consistent : Consistent key span world) {lifetime : Lifetime ℕ ℕ}
    (last : (world.lifetimes key).head? = some lifetime) (young : world.now ≤ lifetime.born + span) :
    ∃ item, world.keys.find world.now key = some item ∧
      item.value = lifetime.increments.length := by
  obtain ⟨item, there, value, lasts⟩ := consistent.stands.of_last last
  refine ⟨item, Keyspace.find_eq_some.mpr ⟨there, ?_⟩, value⟩
  rintro ⟨time, expires, past⟩
  exact absurd (young.trans (lasts time expires)) (Nat.not_le_of_lt past)

section Admission

variable {pool : Pool World Call Pc (Except Thrown Bool)} {key : String} {limit ttl : ℕ}
  {increment : Increment ℕ ℕ}

/-- Who is admitted was within the limit. -/
theorem count_le_of_admitted (holds : (rate key limit ttl).Holds pool)
    (found : increment ∈ pool.world.increments key)
    (admitted : Admitted (pool.slots increment.who) = true) : increment.count ≤ limit := by
  have verdict := holds.locally increment.who
  cases slot : pool.slots increment.who with
  | finished call out =>
      rw [slot] at verdict admitted
      cases out with
      | ok allowed =>
          refine (verdict increment found rfl).mp ?_
          rw [show allowed = true from admitted]
      | error error => cases admitted
  | _ =>
      rw [slot] at admitted
      cases admitted

/-- Who was within the limit is admitted, once it is answered. -/
theorem admitted_iff (holds : (rate key limit ttl).Holds pool)
    (found : increment ∈ pool.world.increments key)
    (completed : Completed (pool.slots increment.who) = true) :
    Admitted (pool.slots increment.who) = true ↔ increment.count ≤ limit := by
  refine ⟨count_le_of_admitted holds found, fun within => ?_⟩
  have verdict := holds.locally increment.who
  cases slot : pool.slots increment.who with
  | finished call out =>
      rw [slot] at verdict
      rw [(verdict increment found rfl).mpr within]
      rfl
  | _ =>
      rw [slot] at completed
      cases completed

/-- The assertions give the cap. -/
theorem capped_of_holds (holds : (rate key limit ttl).Holds pool) :
    Capped key limit ttl (pool.observe flow) := by
  obtain ⟨sound, stands, once⟩ := holds.globally
  refine ⟨once, fun lifetime there completed => ?_, fun lifetime there => ?_, fun begin => ?_⟩
  · have counted : ∀ increment ∈ lifetime.increments,
        Admitted ((pool.observe flow).slots increment.who) = true ↔
          decide (increment.count ≤ limit) = true := by
      intro increment found
      have answered := completed increment found
      rw [Pool.observe_slots, completed_observe] at answered
      rw [Pool.observe_slots, admitted_observe, decide_eq_true_eq]
      exact admitted_iff holds (List.mem_flatMap.mpr ⟨lifetime, there, found⟩) answered
    rw [List.countP_congr counted]
    exact countP_count_le (sound.lifetimes lifetime there).counted limit
  · refine ⟨(sound.lifetimes lifetime there).first, fun young => ?_⟩
    have last := sound.head_of_young there young
    exact ⟨last, holds.globally.found last young⟩
  · refine le_trans (List.countP_mono_left fun increment found admitted => ?_)
      (sound.countP_interval_le limit begin)
    obtain ⟨admitted, within⟩ := of_decide_eq_true admitted
    rw [Pool.observe_slots, admitted_observe] at admitted
    exact decide_eq_true ⟨count_le_of_admitted holds found admitted, within⟩

end Admission

/-- **The rate cap.** While all requests under a key go by the same limit and the same number of
seconds, and Redis does not fail: whatever the gateways interleave and however time passes, each
lifetime of the key admits as many requests as the limit allows, none ends before its time, and
no interval of that length admits more than twice the limit. -/
theorem rate_cap {key : String} {limit ttl : ℕ} (positive : 0 < ttl) {state : State}
    (ran : Runs (Metered key ⟨limit, ttl⟩) (.initial {}) state) :
    Capped key limit ttl (state.observe programs) := by
  obtain ⟨machine, ran, same⟩ := implements.path ran
  have holds : (rate key limit ttl).Holds machine := by
    refine (rate_valid key positive).path ran ⟨⟨.nil, .absent, List.nodup_nil⟩, fun pid => ?_⟩
    exact fun increment found => nomatch found
  rw [← show machine.observe flow = state.observe programs from same]
  exact capped_of_holds holds

/-! ## Requests around the end of a lifetime -/

namespace Sample

/-- Two requests find the key without a time of expiry, and the `EXPIRE` of the second comes
in the next lifetime, which two more requests share. -/
def delayed : List Happening :=
  [.call 0 call, .call 1 call, resolves 0, resolves 1, resolves 0, resolves 1, resolves 0,
    .env (.elapse 60001), .call 2 call, resolves 2, resolves 1, .call 3 call, resolves 2,
    resolves 3, resolves 3]

end Sample

/-- The theorem at two lifetimes, in each of which one of two requests is admitted. -/
theorem rate_cap_delayed :
    ∃ state ∈ run step (.initial {}) Sample.delayed,
      (state.world.lifetimes Sample.key).map (·.increments.map (·.who)) = [[3, 2], [1, 0]] ∧
        Capped Sample.key 1 60 (state.observe programs) := by
  obtain ⟨state, ran, lifetimes, metered⟩ :
      ∃ state ∈ run step (.initial {}) Sample.delayed,
        (state.world.lifetimes Sample.key).map (·.increments.map (·.who)) = [[3, 2], [1, 0]] ∧
        Meets step (fun state event => Metered Sample.key ⟨1, 60⟩ (state.observe programs) event)
          (.initial {}) Sample.delayed := by decide +kernel
  exact ⟨state, ran, lifetimes, rate_cap (by decide) (.of_run ran metered)⟩

end WorkflowHub.Throttling
