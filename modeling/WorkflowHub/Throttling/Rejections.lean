import WorkflowHub.Throttling.RateCap

/-!
# Nobody is rejected without reason

Redis may fail at every command, with or without effect, gateways may crash, and the requests under
one key may go by different options. The guard then still gives one of two answers, and it rejects
a request only after as many others as its limit allows have incremented its key in the same
lifetime. A request whose command fails is let through (`rejections_justified`).
-/

set_option autoImplicit false

namespace WorkflowHub.Throttling

open Processes FixedWindow

/-- What a command of Redis rejects with is no exception of Nest. -/
def Outcome.FromRedis (outcome : Outcome) : Prop :=
  ∀ error, outcome = .rejected error ∨ outcome = .rejectedApplied error →
    error.isHttpException = false

/-- Redis fails as it likes, but with errors of its own. -/
def RedisErrors (_ : View) : Happening → Prop
  | .step _ outcome => Outcome.FromRedis outcome
  | _ => True

/-! ## Counts -/

section Counts

/-- Each lifetime counts its increments, the stored number is the count of the last one, and no
request increments the key twice. -/
structure Tallied (key : String) (world : World) : Prop where
  counted : ∀ lifetime ∈ world.lifetimes key, Counted lifetime.increments
  stored : ∀ item, world.keys key = some item →
    ∃ latest ∈ (world.lifetimes key).head?, item.value = latest.increments.length
  once : ((world.increments key).map (·.who)).Nodup

variable {world : World} {key : String} {pid : ℕ}

/-- What `INCR` makes of the key: one more in its last lifetime, or a new lifetime. -/
theorem Tallied.after (tallied : Tallied key world) (pid : ℕ) :
    ∃ latest earlier, world.lifetimesAfter pid key = latest :: earlier ∧
      (world.keys.incremented world.now key).value = latest.increments.length ∧
      (∀ lifetime ∈ latest :: earlier, Counted lifetime.increments) ∧
      FixedWindow.increments (latest :: earlier) =
        ⟨pid, world.now, latest.increments.length⟩ :: world.increments key := by
  have counted := tallied.counted
  cases found : world.keys.find world.now key with
  | none =>
      have starts : world.lifetimesAfter pid key = start pid world.now (world.lifetimes key) := by
        simp only [World.lifetimesAfter, found, Option.isSome_none, Bool.false_eq_true, ↓reduceIte]
      refine ⟨_, _, starts, ?_, List.forall_mem_cons.mpr ⟨⟨rfl, trivial⟩, counted⟩, rfl⟩
      simp only [Keyspace.incremented, found, List.length_singleton]
  | some item =>
      obtain ⟨latest, last, value⟩ := tallied.stored item (Keyspace.find_eq_some.mp found).1
      obtain ⟨earlier, history⟩ := List.head?_eq_some_iff.mp last
      have goesOn : world.lifetimesAfter pid key = goOn pid world.now (latest :: earlier) := by
        simp only [World.lifetimesAfter, found, history, Option.isSome_some, ↓reduceIte]
      rw [history] at counted
      obtain ⟨here, before⟩ := List.forall_mem_cons.mp counted
      refine ⟨_, _, goesOn, ?_, List.forall_mem_cons.mpr ⟨⟨rfl, here⟩, before⟩, ?_⟩
      · simp only [Keyspace.incremented, found, value, List.length_cons]
      · rw [World.increments, history]
        rfl

theorem Tallied.increments_increment (tallied : Tallied key world) (pid : ℕ) :
    (world.increment pid key).increments key =
      ⟨pid, world.now, (world.keys.incremented world.now key).value⟩ :: world.increments key := by
  obtain ⟨latest, earlier, after, value, _, grown⟩ := tallied.after pid
  rw [value, ← grown, World.increments, increment_lifetimes, after]

theorem Tallied.increment (tallied : Tallied key world)
    (fresh : ∀ increment ∈ world.increments key, increment.who ≠ pid) :
    Tallied key (world.increment pid key) := by
  obtain ⟨latest, earlier, after, value, counted, grown⟩ := tallied.after pid
  refine ⟨?_, ?_, ?_⟩
  · rw [increment_lifetimes, after]
    exact counted
  · intro item there
    rw [increment_keys, Option.some.injEq] at there
    rw [increment_lifetimes, after, ← there]
    exact ⟨latest, rfl, value⟩
  · rw [tallied.increments_increment, List.map_cons, List.nodup_cons]
    refine ⟨fun there => ?_, tallied.once⟩
    obtain ⟨increment, found, mine⟩ := List.mem_map.mp there
    exact fresh increment found mine

/-- Other numbers may go away, but none comes. -/
theorem Tallied.congr {world' : World} (tallied : Tallied key world)
    (keys : ∀ item, world'.keys key = some item →
      ∃ before, world.keys key = some before ∧ before.value = item.value)
    (lifetimes : world'.lifetimes key = world.lifetimes key) : Tallied key world' where
  counted := by
    rw [lifetimes]
    exact tallied.counted
  stored := by
    intro item there
    obtain ⟨before, held, same⟩ := keys item there
    rw [lifetimes, ← same]
    exact tallied.stored before held
  once := by
    rw [World.increments, lifetimes]
    exact tallied.once

/-- The increments before one of a lifetime are as many as it has counted. -/
theorem count_eq_of_counted {later earlier : List (Increment ℕ ℕ)} {increment : Increment ℕ ℕ} :
    Counted (later ++ increment :: earlier) → increment.count = earlier.length + 1 := by
  induction later with
  | nil => exact fun counted => counted.1
  | cons other later ih => exact fun counted => ih counted.2

/-- `EXPIRE` keeps the number that is stored, or removes it. -/
theorem expire_value {seconds : ℤ} {item : Item ℕ}
    (there : world.keys.expire world.now key seconds key = some item) :
    ∃ before, world.keys key = some before ∧ before.value = item.value := by
  cases found : world.keys.find world.now key with
  | none =>
      simp only [Keyspace.expire, found] at there
      exact ⟨item, there, rfl⟩
  | some before =>
      have held := (Keyspace.find_eq_some.mp found).1
      simp only [Keyspace.expire, found] at there
      by_cases past : seconds ≤ 0
      · simp [Keyspace.remove, past] at there
      · rw [if_neg past, Keyspace.put_self, Option.some.injEq] at there
        subst there
        exact ⟨before, held, rfl⟩

end Counts

/-! ## The assertions -/

/-- The request was told this count of the key. -/
def Reached (key : String) (world : World) (pid count : ℕ) : Prop :=
  ∃ increment ∈ world.increments key, increment.who = pid ∧ increment.count = count

/-- The numbers are right, and a request that is rejected was told a count above its limit. -/
def reasoned (key : String) : Assertions World Call Pc (Except Thrown Bool) where
  Global := Tallied key
  Local world pid slot :=
    match slot with
    | .free => ∀ increment ∈ world.increments key, increment.who ≠ pid
    | .running call pc =>
        (pc.currentRequests = none → ∀ increment ∈ world.increments key, increment.who ≠ pid) ∧
          (call.key = key → ∀ count ∈ pc.currentRequests, Reached key world pid count)
    | .finished call out => out = .ok true ∨ out = .error tooManyRequests ∧
        (call.key = key → ∃ count : ℕ, call.options.limit < count ∧ Reached key world pid count)
    | .crashed _ => True

/-- The increments are the same, but for new ones of this request. -/
structure Adds (key : String) (pid : ℕ) (world world' : World) : Prop where
  kept : world.increments key ⊆ world'.increments key
  own : ∀ increment ∈ world'.increments key, increment.who ≠ pid →
    increment ∈ world.increments key

section Steps

variable {key : String} {world world' : World} {pid other : ℕ} {call : Call} {pc : Pc}
  {outcome : Outcome}

theorem Adds.refl (world : World) : Adds key pid world world :=
  ⟨List.Subset.refl _, fun _ there _ => there⟩

theorem Reached.mono {count : ℕ} (reached : Reached key world pid count)
    (adds : Adds key other world world') : Reached key world' pid count := by
  obtain ⟨increment, there, mine⟩ := reached
  exact ⟨increment, adds.kept there, mine⟩

/-- What other requests do does not change what a request knows. -/
theorem reasoned_others (adds : Adds key other world world') (different : pid ≠ other)
    {slot : Slot Call Pc (Except Thrown Bool)} (holds : (reasoned key).Local world pid slot) :
    (reasoned key).Local world' pid slot := by
  have still : (∀ increment ∈ world.increments key, increment.who ≠ pid) →
      ∀ increment ∈ world'.increments key, increment.who ≠ pid := by
    intro fresh increment there mine
    exact fresh increment (adds.own increment there (mine ▸ different)) mine
  cases slot with
  | free => exact still holds
  | running call pc =>
      exact ⟨fun none => still (holds.1 none),
        fun same count known => (holds.2 same count known).mono adds⟩
  | finished call out =>
      rcases holds with admitted | ⟨rejected, reason⟩
      · exact .inl admitted
      · refine .inr ⟨rejected, fun same => ?_⟩
        obtain ⟨count, above, reached⟩ := reason same
        exact ⟨count, above, reached.mono adds⟩
  | crashed call => trivial

/-- A command keeps the numbers right, and adds at most an increment of its own request. -/
theorem exec_tallied {reply : Except Thrown (pc.op call).Value} (tallied : Tallied key world)
    (fresh : pc.currentRequests = none → ∀ increment ∈ world.increments key, increment.who ≠ pid)
    (answered : exec world pid (pc.op call) outcome = some (world', reply)) :
    Tallied key world' ∧ Adds key pid world world' := by
  cases pc with
  | incrementing =>
      rcases respond_cases answered with ⟨rfl, _⟩ | ⟨_, rfl, _⟩
      · exact ⟨tallied, .refl _⟩
      · by_cases mine : call.key = key
        · rw [mine]
          refine ⟨tallied.increment (fresh rfl), ?_, ?_⟩
          · rw [tallied.increments_increment]
            exact List.subset_cons_self _ _
          · intro increment there different
            rw [tallied.increments_increment] at there
            rcases List.mem_cons.mp there with rfl | there
            · exact absurd rfl different
            · exact there
        · have same : (world.increment pid call.key).lifetimes key = world.lifetimes key :=
            increment_lifetimes_other (Ne.symm mine)
          refine ⟨tallied.congr (fun item there => ⟨item, ?_, rfl⟩) same, ?_, ?_⟩
          · rwa [increment_keys_other (Ne.symm mine)] at there
          · rw [World.increments, World.increments, same]
            exact List.Subset.refl _
          · intro increment there _
            rwa [World.increments, same] at there
  | reading currentRequests =>
      rcases respond_cases answered with ⟨rfl, _⟩ | ⟨_, rfl, _⟩
      · exact ⟨tallied, .refl _⟩
      · exact ⟨tallied, .refl _⟩
  | expiring currentRequests =>
      rcases respond_cases answered with ⟨rfl, _⟩ | ⟨_, rfl, _⟩
      · exact ⟨tallied, .refl _⟩
      · refine ⟨tallied.congr (fun item there => ?_) rfl, List.Subset.refl _, fun _ there _ => there⟩
        by_cases mine : call.key = key
        · subst mine
          exact expire_value there
        · have same : world.keys.expire world.now call.key call.options.ttl key =
              world.keys key := Keyspace.expire_other _ _ (Ne.symm mine) _
          exact ⟨item, same.symm.trans there, rfl⟩

/-- The verdict goes by the count the request was told. -/
theorem reasoned_verdict {count : ℕ} (known : call.key = key → Reached key world pid count)
    (world'' : World) : (reasoned key).Local world pid
      (Pool.land site world'' pid call (Led.verdict call count)).2 := by
  by_cases exceeds : (count : ℤ) > call.options.limit
  · simp only [Led.verdict, exceeds, ↓reduceIte]
    exact .inr ⟨rfl, fun same => ⟨count, exceeds, known same⟩⟩
  · simp only [Led.verdict, exceeds, ↓reduceIte]
    exact .inl rfl

/-- A request whose command fails is let through. -/
theorem failOpen_eq {error : Thrown} (plain : error.isHttpException = false) :
    Led.failOpen error = ((), .finished (.ok true)) := by
  simp only [Led.failOpen, plain, Bool.false_eq_true, ↓reduceIte]

/-- Where a request goes when its command does not resolve. -/
theorem next_failed {reply : Except Thrown (pc.op call).Value}
    (redis : Outcome.FromRedis outcome) (failed : outcome ≠ .resolved)
    (answered : exec world pid (pc.op call) outcome = some (world', reply)) :
    Led.next call pc reply = ((), .finished (.ok true)) := by
  obtain ⟨error, plain, rfl⟩ : ∃ error, error.isHttpException = false ∧ reply = .error error := by
    cases pc with
    | _ =>
        rcases respond_cases answered with
          ⟨_, error, same, rfl⟩ | ⟨_, _, ⟨resolved, _⟩ | ⟨error, same, rfl⟩⟩
        · exact ⟨error, redis error (.inl same), rfl⟩
        · exact absurd resolved failed
        · exact ⟨error, redis error (.inr same), rfl⟩
  cases pc with
  | _ => exact failOpen_eq plain

/-- Where a request goes when its command resolves. -/
theorem reasoned_resolved {reply : Except Thrown (pc.op call).Value} (tallied : Tallied key world)
    (fresh : pc.currentRequests = none → ∀ increment ∈ world.increments key, increment.who ≠ pid)
    (known : call.key = key → ∀ count ∈ pc.currentRequests, Reached key world pid count)
    (answered : exec world pid (pc.op call) .resolved = some (world', reply)) :
    (reasoned key).Local world' pid
      (Pool.land site world' pid call (Led.next call pc reply)).2 := by
  obtain ⟨_, adds⟩ := exec_tallied tallied fresh answered
  rcases next_resolved answered with ⟨rfl, goes⟩ | ⟨count, counted, goes⟩
  · rw [goes]
    refine ⟨fun never => (by cases never), fun same count told => ?_⟩
    cases told
    subst same
    refine ⟨⟨pid, world.now, (world.keys.incremented world.now call.key).value⟩, ?_, rfl, rfl⟩
    rw [tallied.increments_increment]
    exact List.mem_cons_self
  · have reached : call.key = key → Reached key world' pid count :=
      fun same => (known same count counted).mono adds
    rcases goes with goes | goes
    · rw [goes]
      exact reasoned_verdict reached _
    · rw [goes]
      refine ⟨fun never => (by cases never), fun same count told => ?_⟩
      cases told
      exact reached same

end Steps

theorem reasoned_valid (key : String) : (reasoned key).Valid site flow
    fun pool event => RedisErrors (pool.observe flow) event where
  call := by
    intro pool pid call world holds _ free started
    cases started
    have fresh : ∀ increment ∈ pool.world.increments key, increment.who ≠ pid := by
      simpa only [reasoned, free] using holds.locally pid
    refine .of_world (Pool.land_world _ (fun _ => rfl) (fun _ => rfl) _) holds.globally ?_
      fun _ _ before => before
    by_cases http : call.context.type = .http
    · simp only [flow, Led.enter, http, ↓reduceIte, Pool.land_running]
      exact ⟨fun _ => fresh, fun _ count told => by cases told⟩
    · simp only [flow, Led.enter, http, ↓reduceIte, Pool.land_finished]
      exact .inl rfl
  step := by
    intro pool pid outcome call pc world reply holds redis running answered
    obtain ⟨fresh, known⟩ := by simpa only [reasoned, running] using holds.locally pid
    obtain ⟨tallied, adds⟩ := exec_tallied holds.globally fresh answered
    refine .of_world (Pool.land_world _ (fun _ => rfl) (fun _ => rfl) _) tallied ?_
      fun other different before => reasoned_others adds different before
    by_cases resolved : outcome = .resolved
    · subst resolved
      exact reasoned_resolved holds.globally fresh known answered
    · have goes := next_failed redis resolved answered
      simp only [flow, goes]
      exact .inl rfl
  crashPending := by
    intro pool pid call pc holds _ _
    exact ⟨holds.globally, trivial, fun _ _ before => before⟩
  crashPerformed := by
    intro pool pid outcome call pc world reply holds _ running answered
    obtain ⟨fresh, _⟩ := by simpa only [reasoned, running] using holds.locally pid
    obtain ⟨tallied, adds⟩ := exec_tallied holds.globally fresh answered
    exact ⟨tallied, trivial, fun other different before => reasoned_others adds different before⟩
  env := by
    intro pool event world holds _ moved
    cases event with
    | elapse milliseconds =>
        cases moved
        exact ⟨⟨holds.globally.counted, holds.globally.stored, holds.globally.once⟩,
          fun _ before => before⟩

/-! ## Every run -/

/-- The answers the guard has given, and the answer of a request whose command fails. -/
structure Justified (state : State) : Prop where
  /-- A request is admitted, or rejected with the status 429. -/
  answers : ∀ pid call out, state.slots pid = .finished call out →
    out = .ok true ∨ out = .error tooManyRequests
  /-- Who is rejected has incremented its key after as many others as its limit allows, all in
  one lifetime of the key. -/
  rejected : ∀ pid call, state.slots pid = .finished call (.error tooManyRequests) →
    ∃ lifetime ∈ state.world.lifetimes call.key, ∃ later increment earlier,
      lifetime.increments = later ++ increment :: earlier ∧ increment.who = pid ∧
        call.options.limit ≤ earlier.length ∧ ((increment :: earlier).map (·.who)).Nodup
  /-- Who meets a failure is admitted by the same step. -/
  open_ : ∀ pid outcome after, outcome ≠ .resolved → Outcome.FromRedis outcome →
    step state (.step pid outcome) = some after → Admitted (after.slots pid) = true

/-- **Nobody is rejected without reason.** However Redis fails, whichever gateways crash and
whatever options the requests under one key go by: the guard admits every request or answers it
429; it answers 429 only to a request that has incremented its key after at least as many others
as its limit allows, in the same lifetime of the key; and a request whose command fails is admitted
at once. -/
theorem rejections_justified {state : State} (ran : Runs RedisErrors (.initial {}) state) :
    Justified state := by
  obtain ⟨machine, ran, tracking⟩ :=
    (Pool.Tracking.initial ({} : World)).path implements ran
  have same : machine.observe flow = state.observe programs := tracking.observe_eq
  have holds (key : String) : (reasoned key).Holds machine := by
    refine (reasoned_valid key).path ran ⟨⟨?_, ?_, List.nodup_nil⟩, fun pid => ?_⟩
    · exact fun lifetime there => absurd there List.not_mem_nil
    · exact fun item there => by cases there
    · exact fun increment there => absurd there List.not_mem_nil
  have world : machine.world = state.world := congrArg Pool.world same
  have ended : ∀ {pid call out}, state.slots pid = .finished call out →
      machine.slots pid = .finished call out := Pool.finished_of_observe same
  refine ⟨fun pid call out finished => ?_, fun pid call finished => ?_,
    fun pid outcome after failed redis taken => ?_⟩
  · have known := (holds call.key).locally pid
    rw [ended finished] at known
    exact known.imp_right And.left
  · have known := (holds call.key).locally pid
    rw [ended finished] at known
    rcases known with admitted | ⟨_, reason⟩
    · cases admitted
    · obtain ⟨count, above, increment, there, mine, told⟩ := reason rfl
      obtain ⟨lifetime, listed, inside⟩ := List.mem_flatMap.mp there
      obtain ⟨later, earlier, split⟩ := List.append_of_mem inside
      have tallied := (holds call.key).globally
      have counted := tallied.counted lifetime listed
      rw [split] at counted
      have reached := count_eq_of_counted counted
      have sublist : (increment :: earlier).Sublist (machine.world.increments call.key) := by
        have own : lifetime.increments.Sublist (machine.world.increments call.key) :=
          List.sublist_flatten_of_mem (List.mem_map_of_mem listed)
        rw [split] at own
        exact (List.sublist_append_right _ _).trans own
      rw [← world]
      exact ⟨lifetime, listed, later, increment, earlier, split, mine, by omega,
        tallied.once.sublist (sublist.map _)⟩
  · obtain ⟨machine', taken', tracking'⟩ := tracking.step implements taken
    have admitted : Admitted (machine'.slots pid) = true := by
      cases Pool.stepped taken' with
      | step running answered =>
          have goes := next_failed redis failed answered
          rw [Pool.settle_self]
          simp only [flow, goes, Pool.land_finished]
          rfl
    have same' : machine'.observe flow = after.observe programs := tracking'.observe_eq
    have seen := congrArg (fun view : View => Admitted (view.slots pid)) same'
    rw [Pool.observe_slots, Pool.observe_slots, admitted_observe, admitted_observe] at seen
    exact seen.symm.trans admitted

namespace Sample

/-- A server that has lost its connection. -/
def disconnects : Outcome := .rejected (.error "Error" "Connection is closed.")

/-- Of three requests the second is rejected, and the third meets a failure. -/
def unreliable : List Happening :=
  [.call 0 call, .call 1 call, .call 2 call, resolves 0, resolves 1, .step 2 disconnects,
    resolves 0, resolves 1, .crash 0 none, resolves 1]

end Sample

/-- The theorem where one request is rejected, after one whose gateway crashed, and one is let
through. -/
theorem rejections_justified_unreliable :
    ∃ state ∈ run step (.initial {}) Sample.unreliable,
      Admitted (state.slots 1) = false ∧ Admitted (state.slots 2) = true ∧ Justified state := by
  obtain ⟨state, ran, rejected, admitted⟩ :
      ∃ state ∈ run step (.initial {}) Sample.unreliable,
        Admitted (state.slots 1) = false ∧ Admitted (state.slots 2) = true := by decide +kernel
  have own (view : View) : ∀ event ∈ Sample.unreliable, RedisErrors view event := by
    simp [Sample.unreliable, Sample.resolves, Sample.disconnects, RedisErrors, Outcome.FromRedis,
      Thrown.isHttpException]
  exact ⟨state, ran, rejected, admitted, rejections_justified
    (.of_run ran (.of_forall fun event there state => own _ event there))⟩

end WorkflowHub.Throttling
