import WorkflowHub.Consumers.Accounting

/-!
# Deliveries, redeliveries and crashes

The key of a task is written before the effect and read as "already processed" by every
other delivery, so a worker that crashes in between leaves a key behind for which there is
no effect, and the redelivery of its message is skipped (`crash_loses_event`). `KeysKept`
is the condition that this does not happen. Under it a key that is found is covered: the
effect was applied, or a delivery that holds the key is still running; and a message whose
delivery has failed comes again. So once every message of an event has been handled the
effect of the event was applied (`event_not_lost`).
-/

set_option autoImplicit false

namespace WorkflowHub.Consumers

open Processes

/-! ## Covered keys -/

/-- The message at `offset` makes the consumers take this key. -/
def Carries (world : World) (consumer : Consumer) (offset : ℕ) (key : String) : Prop :=
  ∃ data : EventPayload, world.topic[offset]? = some data ∧ (plan consumer data).map (·.key) = some key

/-- The effect of a message with this key was applied. -/
def Applied (world : World) (key : String) : Prop :=
  ∃ (consumer : Consumer) (offset : ℕ) (data : EventPayload), world.topic[offset]? = some data ∧
    (plan consumer data).map (·.key) = some key ∧ Effect world consumer data

/-- A running delivery has taken the key. -/
def Held (slots : ℕ → Slot Delivery Pc (Except Thrown Unit)) (key : String) : Prop :=
  ∃ pid delivery pc, slots pid = .running delivery pc ∧ pc.Holding ∧ pc.plan.key = key

def Covered (pool : Pool World Delivery Pc (Except Thrown Unit)) (key : String) : Prop :=
  Applied pool.world key ∨ Held pool.slots key

/-- A delivery of a message with this key has failed, and was not followed by one that did
not. -/
def Failed (world : World) (key : String) : Prop :=
  ∃ consumer offset, Carries world consumer offset key ∧
    lastEnded world consumer offset = some false

structure Guarded (pool : Pool World Delivery Pc (Except Thrown Unit)) : Prop where
  ended : ∀ ended ∈ pool.world.ended, ended.offset < pool.world.topic.length
  found : ∀ key item, pool.world.keys.find pool.world.now key = some item → Covered pool key
  returned : ∀ consumer offset key, Carries pool.world consumer offset key →
    lastEnded pool.world consumer offset = some true →
      Covered pool key ∨ Failed pool.world key

/-- The two groups name their keys apart. -/
theorem eventKey_ne (first second : String) :
    "event:" ++ first ≠ "analytics:event:" ++ second := by
  intro same
  have := congrArg String.toList same
  simp at this

/-- The two groups never take the same key. -/
theorem consumer_eq_of_key {consumer consumer' : Consumer} {data data' : EventPayload}
    {key : String} (here : (plan consumer data).map (·.key) = some key)
    (there : (plan consumer' data').map (·.key) = some key) : consumer = consumer' := by
  have notification : ∀ data : EventPayload, (plan .notification data).map (·.key) = some key →
      ∃ rest, key = "event:" ++ rest := by
    intro data taken
    exact ⟨_, (Option.some.inj taken).symm⟩
  have analytics : ∀ data : EventPayload, (plan .analytics data).map (·.key) = some key →
      ∃ rest, key = "analytics:event:" ++ rest := by
    intro data taken
    obtain ⟨chosen, planned, rfl⟩ := Option.map_eq_some_iff.mp taken
    obtain ⟨_, taskId, _, _, _, rfl⟩ := plan_analytics planned
    exact ⟨taskId, rfl⟩
  cases consumer with
  | notification =>
      cases consumer' with
      | notification => rfl
      | analytics =>
          obtain ⟨first, rfl⟩ := notification data here
          obtain ⟨second, same⟩ := analytics data' there
          exact absurd same (eventKey_ne first second)
  | analytics =>
      cases consumer' with
      | analytics => rfl
      | notification =>
          obtain ⟨first, rfl⟩ := notification data' there
          obtain ⟨second, same⟩ := analytics data here
          exact absurd same (eventKey_ne first second)

/-! ## What a step leaves covered -/

theorem lastEnded_append {world world' : World} {ended : Ended} {consumer : Consumer} {offset : ℕ}
    (added : world'.ended = world.ended ++ [ended]) :
    lastEnded world' consumer offset =
      if ended.consumer = consumer ∧ ended.offset = offset then some ended.returned
      else lastEnded world consumer offset := by
  simp only [lastEnded, added, List.filter_append]
  by_cases same : ended.consumer = consumer ∧ ended.offset = offset
  · simp [same]
  · simp [List.filter_cons_of_neg, same]

theorem Retains.applied {world world' : World} (retains : Retains world world') {key : String}
    (applied : Applied world key) : Applied world' key := by
  obtain ⟨consumer, offset, data, found, taken, effect⟩ := applied
  exact ⟨consumer, offset, data, by rw [retains.topic]; exact found, taken, retains.effect effect⟩

section Settle

variable {pool : Pool World Delivery Pc (Except Thrown Unit)} {pid : ℕ} {delivery : Delivery}
  {pc : Pc} {landed : World × Slot Delivery Pc (Except Thrown Unit)}

/-- A key stays covered when an entry is overwritten that did not hold it. -/
theorem Covered.settle {key : String} (covered : Covered pool key)
    (other : ∀ {delivery pc}, pool.slots pid = .running delivery pc → pc.Holding →
      pc.plan.key ≠ key)
    (retains : Retains pool.world landed.1) : Covered (Pool.settle pool.slots pid landed) key := by
  rcases covered with applied | ⟨holder, delivery', pc', running, holding, same⟩
  · exact .inl (retains.applied applied)
  · right
    have different : holder ≠ pid := by
      rintro rfl
      exact other running holding same
    exact ⟨holder, delivery', pc', (Pool.settle_other _ different _).trans running, holding, same⟩

/-- A running delivery settles: what has to be shown of the key it is about. -/
theorem Guarded.settle (guarded : Guarded pool) (running : pool.slots pid = .running delivery pc)
    (planned : Planned pool.world delivery pc.plan) (retains : Retains pool.world landed.1)
    (keys : ∀ key, key ≠ pc.plan.key →
      landed.1.keys.find landed.1.now key = pool.world.keys.find pool.world.now key)
    (ended : landed.1.ended = pool.world.ended ∨ ∃ returned,
      landed.1.ended = pool.world.ended ++ [⟨delivery.consumer, delivery.offset, returned⟩])
    (found : ∀ item, landed.1.keys.find landed.1.now pc.plan.key = some item →
      Covered (Pool.settle pool.slots pid landed) pc.plan.key)
    (returned : Covered (Pool.settle pool.slots pid landed) pc.plan.key ∨
      lastEnded landed.1 delivery.consumer delivery.offset = some false) :
    Guarded (Pool.settle pool.slots pid landed) := by
  obtain ⟨planned, topic⟩ := planned
  have mine : Carries landed.1 delivery.consumer delivery.offset pc.plan.key :=
    ⟨delivery.data, by rw [retains.topic]; exact topic, by rw [planned]; rfl⟩
  have elsewhere : ∀ {key}, key ≠ pc.plan.key → Covered pool key →
      Covered (Pool.settle pool.slots pid landed) key :=
    fun different covered => covered.settle (fun running' _ same => by
      rw [running, Slot.running.injEq] at running'
      exact different (running'.2 ▸ same.symm)) retains
  -- Another key is carried by other messages, of which nothing new is known.
  have last : ∀ {consumer offset key}, key ≠ pc.plan.key → Carries landed.1 consumer offset key →
      lastEnded landed.1 consumer offset = lastEnded pool.world consumer offset := by
    rintro consumer offset key different ⟨data, there, taken⟩
    rcases ended with same | ⟨flag, added⟩
    · simp only [lastEnded, same]
    · rw [lastEnded_append added, if_neg]
      rintro ⟨rfl, rfl⟩
      rw [retains.topic, topic, Option.some.injEq] at there
      subst there
      rw [planned, Option.map_some, Option.some.injEq] at taken
      exact different taken.symm
  constructor
  case ended =>
    intro entry there
    rw [Pool.settle_world] at there ⊢
    rw [retains.topic]
    rcases ended with same | ⟨flag, added⟩
    · exact guarded.ended entry (same ▸ there)
    · rw [added, List.mem_append, List.mem_singleton] at there
      rcases there with there | rfl
      · exact guarded.ended entry there
      · exact (List.getElem?_eq_some_iff.mp topic).1
  case found =>
    intro key item there
    by_cases same : key = pc.plan.key
    · subst same
      exact found item there
    · rw [Pool.settle_world, keys key same] at there
      exact elsewhere same (guarded.found key item there)
  case returned =>
    intro consumer offset key carries done
    rw [Pool.settle_world] at carries done
    by_cases same : key = pc.plan.key
    · subst same
      rcases returned with covered | failed
      · exact .inl covered
      · exact .inr ⟨_, _, mine, failed⟩
    · rw [last same carries] at done
      have carried : ∀ {consumer offset}, Carries pool.world consumer offset key →
          Carries landed.1 consumer offset key := by
        rintro consumer offset ⟨data, there, taken⟩
        exact ⟨data, by rw [retains.topic]; exact there, taken⟩
      have before : Carries pool.world consumer offset key := by
        obtain ⟨data, there, taken⟩ := carries
        exact ⟨data, by rw [← retains.topic]; exact there, taken⟩
      rcases guarded.returned consumer offset key before done with
        covered | ⟨group, offset', message, failed⟩
      · exact .inl (elsewhere same covered)
      · exact .inr ⟨group, offset', carried message, (last same (carried message)).trans failed⟩

end Settle

/-! ## The runs -/

/-- A `set` that is rejected has not been applied. -/
def SetsClean (state : View) : Happening → Prop
  | .step pid answer =>
      match state.slots pid with
      | .running _ (.set ..) => answer.outcome.Clean
      | _ => True
  | _ => True

/-- No key is left behind without its effect: no worker crashes after it has got the key and
before its effect or the removal of the key was applied, and no removal is rejected. -/
def KeysKept (state : View) : Happening → Prop
  | .step pid answer =>
      match state.slots pid with
      | .running _ (.del _) => answer.outcome.Applied
      | _ => True
  | .crash pid none =>
      match state.slots pid with
      | .running _ (.set ..) => True
      | .running _ _ => False
      | _ => True
  | .crash pid (some answer) =>
      match state.slots pid with
      | .running _ (.set key _ _) =>
          answer.outcome.Applied → (state.world.keys.find state.world.now key).isSome
      | .running _ _ => answer.outcome.Applied
      | _ => True
  | _ => True

instance (state : View) : (event : Happening) → Decidable (SetsClean state event)
  | .step pid answer =>
      show Decidable (match state.slots pid with
        | .running _ (.set ..) => answer.outcome.Clean
        | _ => True) from
      match state.slots pid with
      | .running _ (.set ..) => inferInstanceAs (Decidable answer.outcome.Clean)
      | .running _ (.del _) | .running _ (.createNotification _) | .running _ (.updateOne _)
      | .free | .finished .. | .crashed _ => isTrue trivial
  | .call .. | .crash .. | .env _ => isTrue trivial

instance (state : View) : (event : Happening) → Decidable (KeysKept state event)
  | .step pid answer =>
      show Decidable (match state.slots pid with
        | .running _ (.del _) => answer.outcome.Applied
        | _ => True) from
      match state.slots pid with
      | .running _ (.del _) => inferInstanceAs (Decidable answer.outcome.Applied)
      | .running _ (.set ..) | .running _ (.createNotification _) | .running _ (.updateOne _)
      | .free | .finished .. | .crashed _ => isTrue trivial
  | .crash pid none =>
      show Decidable (match state.slots pid with
        | .running _ (.set ..) => True
        | .running _ _ => False
        | _ => True) from
      match state.slots pid with
      | .running _ (.set ..) | .free | .finished .. | .crashed _ => isTrue trivial
      | .running _ (.del _) | .running _ (.createNotification _) | .running _ (.updateOne _) =>
          isFalse id
  | .crash pid (some answer) =>
      show Decidable (match state.slots pid with
        | .running _ (.set key _ _) =>
            answer.outcome.Applied → (state.world.keys.find state.world.now key).isSome
        | .running _ _ => answer.outcome.Applied
        | _ => True) from
      match state.slots pid with
      | .running _ (.set key _ _) => inferInstanceAs (Decidable
          (answer.outcome.Applied → (state.world.keys.find state.world.now key).isSome))
      | .running _ (.del _) | .running _ (.createNotification _) | .running _ (.updateOne _) =>
          inferInstanceAs (Decidable answer.outcome.Applied)
      | .free | .finished .. | .crashed _ => isTrue trivial
  | .call .. | .env _ => isTrue trivial

/-! ## Every step keeps the keys covered -/

namespace Guarded

variable {pool : Pool World Delivery Pc (Except Thrown Unit)} {pid : ℕ} {delivery : Delivery}
  {pc : Pc} {world : World}

/-- A delivery ends or crashes after its operation left the world as `world`. -/
theorem ends (guarded : Guarded pool) (running : pool.slots pid = .running delivery pc)
    (planned : Planned pool.world delivery pc.plan) (world : World)
    {landed : World × Slot Delivery Pc (Except Thrown Unit)} {returned : Bool}
    (left : landed.1 = { world with
      ended := world.ended ++ [⟨delivery.consumer, delivery.offset, returned⟩] })
    (retains : Retains pool.world world) (ended : world.ended = pool.world.ended)
    (keys : ∀ key, key ≠ pc.plan.key →
      world.keys.find world.now key = pool.world.keys.find pool.world.now key)
    (found : ∀ item, world.keys.find world.now pc.plan.key = some item →
      Covered (Pool.settle pool.slots pid landed) pc.plan.key)
    (covered : returned = true → Covered (Pool.settle pool.slots pid landed) pc.plan.key) :
    Guarded (Pool.settle pool.slots pid landed) := by
  obtain ⟨world', slot⟩ := landed
  subst left
  refine guarded.settle running planned ⟨retains.topic, retains.effect⟩ keys
    (.inr ⟨returned, by simp only [ended]⟩) found ?_
  cases returned with
  | true => exact .inl (covered rfl)
  | false =>
      right
      rw [lastEnded_append rfl, if_pos ⟨rfl, rfl⟩]

/-- A delivery that starts takes nothing and knows nothing yet. -/
theorem called (guarded : Guarded pool) (free : pool.slots pid = .free)
    (started : site.start pool.world pid delivery = some world) :
    Guarded (Pool.settle pool.slots pid (Pool.land site world pid delivery
      (Led.enter delivery))) := by
  simp only [site, Option.ite_none_right_eq_some, Option.some.injEq] at started
  obtain ⟨topic, rfl⟩ := started
  have held : ∀ {landed : World × Slot Delivery Pc (Except Thrown Unit)} {key : String},
      Retains pool.world landed.1 → Covered pool key →
      Covered (Pool.settle pool.slots pid landed) key :=
    fun retains covered => covered.settle (fun running => by cases free.symm.trans running) retains
  cases planned : plan delivery.consumer delivery.data with
  | some chosen =>
      have led : Led.enter delivery = ((), .running (.acquiring chosen)) := by
        simp only [Led.enter, planned]
      have retains : Retains pool.world (Pool.land site pool.world pid delivery
          ((), (.running (.acquiring chosen) : Target Pc (Except Thrown Unit)))).1 := .refl _
      rw [led]
      exact ⟨guarded.ended, fun key item there => held retains (guarded.found key item there),
        fun consumer offset key carries done =>
          (guarded.returned consumer offset key carries done).imp_left (held retains)⟩
  | none =>
      have led : Led.enter delivery = ((), .finished (.ok ())) := by
        simp only [Led.enter, planned]
      have retains : Retains pool.world (Pool.land site pool.world pid delivery
          ((), (.finished (.ok ()) : Target Pc (Except Thrown Unit)))).1 := ⟨rfl, id⟩
      -- The message makes the consumer take no key, so nothing is claimed of its deliveries.
      have last : ∀ {consumer offset key}, Carries pool.world consumer offset key →
          lastEnded (Pool.land site pool.world pid delivery
            ((), (.finished (.ok ()) : Target Pc (Except Thrown Unit)))).1 consumer offset =
          lastEnded pool.world consumer offset := by
        rintro consumer offset key ⟨data, there, taken⟩
        have added : (Pool.land site pool.world pid delivery
            ((), (.finished (.ok ()) : Target Pc (Except Thrown Unit)))).1.ended =
            pool.world.ended ++ [⟨delivery.consumer, delivery.offset, true⟩] := rfl
        rw [lastEnded_append added, if_neg]
        rintro ⟨rfl, rfl⟩
        rw [topic, Option.some.injEq] at there
        subst there
        rw [planned] at taken
        cases taken
      rw [led]
      refine ⟨fun entry there => ?_, fun key item there =>
        held retains (guarded.found key item there), fun consumer offset key carries done => ?_⟩
      · rcases List.mem_append.mp there with there | there
        · exact guarded.ended entry there
        · rw [List.mem_singleton.mp there]
          exact (List.getElem?_eq_some_iff.mp topic).1
      · rw [Pool.settle_world, last carries] at done
        rcases guarded.returned consumer offset key carries done with
          covered | ⟨group, offset', message, failed⟩
        · exact .inl (held retains covered)
        · exact .inr ⟨group, offset', message, (last message).trans failed⟩

/-- The delivery did not hold its key and ends with an exception, or crashes. -/
theorem failsFree (guarded : Guarded pool) (running : pool.slots pid = .running delivery pc)
    (planned : Planned pool.world delivery pc.plan) (free : ¬ pc.Holding)
    {landed : World × Slot Delivery Pc (Except Thrown Unit)}
    (left : landed.1 = { pool.world with
      ended := pool.world.ended ++ [⟨delivery.consumer, delivery.offset, false⟩] }) :
    Guarded (Pool.settle pool.slots pid landed) := by
  refine guarded.ends running planned pool.world left (.refl _) rfl (fun _ _ => rfl)
    (fun item there => ?_) nofun
  refine (guarded.found _ item there).settle (fun running' holding => ?_)
    (by rw [left]; exact ⟨rfl, id⟩)
  rw [running, Slot.running.injEq] at running'
  exact absurd (running'.2 ▸ holding) free

/-- The delivery has removed its key and ends with an exception, or crashes. -/
theorem failsCleared (guarded : Guarded pool) (running : pool.slots pid = .running delivery pc)
    (planned : Planned pool.world delivery pc.plan)
    {landed : World × Slot Delivery Pc (Except Thrown Unit)}
    (left : landed.1 = { pool.world with
      keys := pool.world.keys.remove pc.plan.key
      ended := pool.world.ended ++ [⟨delivery.consumer, delivery.offset, false⟩] }) :
    Guarded (Pool.settle pool.slots pid landed) := by
  refine guarded.ends running planned
    { pool.world with keys := pool.world.keys.remove pc.plan.key } left ⟨rfl, id⟩ rfl
    (fun key different => ?_) (fun item there => ?_) nofun
  · exact Keyspace.find_remove_other _ _ different
  · simp only [Keyspace.find_remove_self] at there
    cases there

/-- The effect was applied, and the delivery ends or crashes. -/
theorem endsApplied (guarded : Guarded pool) (running : pool.slots pid = .running delivery pc)
    (planned : Planned pool.world delivery pc.plan)
    {landed : World × Slot Delivery Pc (Except Thrown Unit)} {returned : Bool}
    (left : landed.1 = { world with
      ended := world.ended ++ [⟨delivery.consumer, delivery.offset, returned⟩] })
    (retains : Retains pool.world world) (effect : Effect world delivery.consumer delivery.data)
    (keys : world.keys = pool.world.keys) (now : world.now = pool.world.now)
    (ended : world.ended = pool.world.ended) :
    Guarded (Pool.settle pool.slots pid landed) := by
  have covered : Covered (Pool.settle pool.slots pid landed) pc.plan.key := by
    refine .inl ⟨delivery.consumer, delivery.offset, delivery.data, ?_, by rw [planned.1]; rfl, ?_⟩
    · rw [Pool.settle_world, left]
      exact retains.topic ▸ planned.2
    · rw [Pool.settle_world, left]
      exact (Retains.ended world _).effect effect
  exact guarded.ends running planned world left retains ended
    (fun key _ => by rw [keys, now]) (fun _ _ => covered) fun _ => covered

/-- The delivery goes on and holds its key. -/
theorem goesOn (guarded : Guarded pool) (running : pool.slots pid = .running delivery pc)
    (planned : Planned pool.world delivery pc.plan)
    {landed : World × Slot Delivery Pc (Except Thrown Unit)} {pc' : Pc}
    (slot : landed.2 = .running delivery pc') (holding : pc'.Holding) (plan : pc'.plan = pc.plan)
    (retains : Retains pool.world landed.1) (ended : landed.1.ended = pool.world.ended)
    (keys : ∀ key, key ≠ pc.plan.key →
      landed.1.keys.find landed.1.now key = pool.world.keys.find pool.world.now key) :
    Guarded (Pool.settle pool.slots pid landed) := by
  have covered : Covered (Pool.settle pool.slots pid landed) pc.plan.key :=
    .inr ⟨pid, delivery, pc', (Pool.settle_self ..).trans slot, holding, by rw [plan]⟩
  exact guarded.settle running planned retains keys (.inl ended) (fun _ _ => covered)
    (.inl covered)

/-- The delivery finds the key taken and returns. -/
theorem skips (guarded : Guarded pool) (running : pool.slots pid = .running delivery pc)
    (planned : Planned pool.world delivery pc.plan) (free : ¬ pc.Holding) {item : Item String}
    (found : pool.world.keys.find pool.world.now pc.plan.key = some item)
    {landed : World × Slot Delivery Pc (Except Thrown Unit)}
    (left : landed.1 = { pool.world with
      ended := pool.world.ended ++ [⟨delivery.consumer, delivery.offset, true⟩] }) :
    Guarded (Pool.settle pool.slots pid landed) := by
  have covered : Covered (Pool.settle pool.slots pid landed) pc.plan.key := by
    refine (guarded.found _ item found).settle (fun running' holding => ?_)
      (by rw [left]; exact ⟨rfl, id⟩)
    rw [running, Slot.running.injEq] at running'
    exact absurd (running'.2 ▸ holding) free
  exact guarded.ends running planned pool.world left (.refl _) rfl (fun _ _ => rfl)
    (fun _ _ => covered) fun _ => covered

/-- A new message is not about to be handled, and has not been. -/
theorem published (guarded : Guarded pool) (data : EventPayload) :
    Guarded ⟨{ pool.world with topic := pool.world.topic ++ [data] }, pool.slots⟩ := by
  have kept : ∀ {offset : ℕ} {data' : EventPayload}, pool.world.topic[offset]? = some data' →
      (pool.world.topic ++ [data])[offset]? = some data' := by
    intro offset data' there
    rw [List.getElem?_append_left (List.getElem?_eq_some_iff.mp there).1]
    exact there
  have covered : ∀ {key}, Covered pool key →
      Covered ⟨{ pool.world with topic := pool.world.topic ++ [data] }, pool.slots⟩ key := by
    rintro key (⟨consumer, offset, data', there, taken, effect⟩ | held)
    · refine .inl ⟨consumer, offset, data', kept there, taken, ?_⟩
      cases consumer with
      | notification => exact effect
      | analytics => exact effect
    · exact .inr held
  refine ⟨?_, fun key item there => covered (guarded.found key item there), ?_⟩
  · intro entry there
    have bound := guarded.ended entry there
    simp only [List.length_append, List.length_singleton]
    exact Nat.lt_succ_of_lt bound
  · rintro consumer offset key ⟨data', there, taken⟩ done
    have old : offset < pool.world.topic.length := by
      simp only [lastEnded, Option.map_eq_some_iff] at done
      obtain ⟨entry, last, _⟩ := done
      have member := List.mem_of_getLast? last
      rw [List.mem_filter, decide_eq_true_eq] at member
      obtain ⟨recorded, _, rfl⟩ := member
      exact guarded.ended entry recorded
    rw [List.getElem?_append_left old] at there
    rcases guarded.returned consumer offset key ⟨data', there, taken⟩ done with
      before | ⟨group, offset', ⟨data'', message, taken'⟩, failed⟩
    · exact .inl (covered before)
    · exact .inr ⟨group, offset', ⟨data'', kept message, taken'⟩, failed⟩

/-- **Every step keeps the keys covered,** if it leaves no key behind. -/
theorem step {after : Pool World Delivery Pc (Except Thrown Unit)} {event : Happening}
    (guarded : Guarded pool) (holds : accounting.Holds pool)
    (clean : SetsClean (pool.observe flow) event)
    (kept : KeysKept (pool.observe flow) event)
    (taken : Pool.step site flow pool event = some after) : Guarded after := by
  cases Pool.stepped taken with
  | call free started =>
      have same := started
      simp only [site, Option.ite_none_right_eq_some, Option.some.injEq] at same
      obtain ⟨_, rfl⟩ := same
      exact guarded.called free started
  | @step pid answer delivery pc world reply running answered =>
      have planned := planned_of_running holds running
      simp only [SetsClean, KeysKept, Pool.observe_slots, running, Slot.observe, flow] at clean kept
      cases pc with
      | acquiring chosen =>
          rcases exec_set delivery answered with ⟨rfl, _, error, rfl⟩ |
            ⟨_, ⟨⟨item, found⟩, rfl, rfl | ⟨_, lost⟩⟩ | ⟨_, rfl, rfl | ⟨_, lost⟩⟩⟩
          · exact guarded.failsFree running planned id rfl
          · exact guarded.skips running planned id found rfl
          · exact absurd clean lost
          · exact guarded.goesOn running planned rfl trivial rfl ⟨rfl, id⟩ rfl
              fun key different => Keyspace.find_put_other _ _ different _
          · exact absurd clean lost
      | processing chosen =>
          rcases exec_effect delivery planned.1 answered with ⟨rfl, _, error, rfl⟩ |
            ⟨retains, effect, keys, now, ended⟩
          · exact guarded.goesOn running planned rfl trivial rfl (.refl _) rfl fun _ _ => rfl
          · cases reply with
            | ok value => exact guarded.endsApplied running planned rfl retains effect keys now ended
            | error error =>
                exact guarded.goesOn running planned rfl trivial rfl retains ended
                  fun key _ => by rw [← keys, ← now]; rfl
      | clearing chosen error =>
          rcases exec_del delivery answered with ⟨_, rejected⟩ | rfl
          · exact absurd kept rejected
          · cases reply with
            | ok value => exact guarded.failsCleared running planned rfl
            | error error' => exact guarded.failsCleared running planned rfl
  | @crashPending pid delivery pc running =>
      have planned := planned_of_running holds running
      simp only [KeysKept, Pool.observe_slots, running, Slot.observe, flow] at kept
      cases pc with
      | acquiring chosen => exact guarded.failsFree running planned id rfl
      | processing chosen =>
          rcases effect_cases planned.1 with ⟨data, effect⟩ | ⟨userId, effect⟩
          · simp only [Pc.op, show (Pc.processing chosen).plan = chosen from rfl] at kept effect
            rw [effect] at kept
            exact kept.elim
          · simp only [Pc.op, show (Pc.processing chosen).plan = chosen from rfl] at kept effect
            rw [effect] at kept
            exact kept.elim
      | clearing chosen error => exact kept.elim
  | @crashPerformed pid answer delivery pc world reply running answered =>
      have planned := planned_of_running holds running
      simp only [KeysKept, Pool.observe_slots, running, Slot.observe, flow] at kept
      cases pc with
      | acquiring chosen =>
          rcases exec_set delivery answered with ⟨rfl, _⟩ | ⟨applied, ⟨_, rfl, _⟩ | ⟨free, _, _⟩⟩
          · exact guarded.failsFree running planned id rfl
          · exact guarded.failsFree running planned id rfl
          · have taken' := kept applied
            rw [Pool.observe_world, free] at taken'
            cases taken'
      | processing chosen =>
          have applied : answer.outcome.Applied := by
            rcases effect_cases planned.1 with ⟨data, effect⟩ | ⟨userId, effect⟩
            · simp only [Pc.op, show (Pc.processing chosen).plan = chosen from rfl] at kept effect
              rwa [effect] at kept
            · simp only [Pc.op, show (Pc.processing chosen).plan = chosen from rfl] at kept effect
              rwa [effect] at kept
          rcases exec_effect delivery planned.1 answered with ⟨_, rejected, _⟩ |
            ⟨retains, effect, keys, now, ended⟩
          · exact absurd applied rejected
          · exact guarded.endsApplied running planned rfl retains effect keys now ended
      | clearing chosen error =>
          rcases exec_del delivery answered with ⟨_, rejected⟩ | rfl
          · exact absurd kept rejected
          · exact guarded.failsCleared running planned rfl
  | @env event world moved =>
      cases event with
      | elapse milliseconds =>
          cases moved
          refine ⟨guarded.ended, fun key item there => ?_, guarded.returned⟩
          exact guarded.found key item (Keyspace.find_mono there (Nat.le_add_right _ _))
      | publish data =>
          cases moved
          exact guarded.published data

end Guarded

/-! ## No event is lost -/

theorem Guarded.initial : Guarded (.initial {}) := by
  constructor
  case ended => exact fun ended there => nomatch there
  case found =>
    intro key item there
    simp [Pool.initial] at there
  case returned =>
    rintro consumer offset key ⟨data, there, _⟩
    simp [Pool.initial] at there

/-- The message at `offset` is one of the event with this key. -/
def MessageOf (world : World) (consumer : Consumer) (key : String) (offset : ℕ)
    (data : EventPayload) : Prop :=
  world.topic[offset]? = some data ∧ (plan consumer data).map (·.key) = some key

/-- The steps leave no key behind, and a rejected `set` was not applied. -/
abbrev Keeping (state : View) (event : Happening) : Prop :=
  SetsClean state event ∧ KeysKept state event

/-- Once every message with a key was handled, the effect of one of them was applied. -/
theorem effect_applied {state : State} (ran : Runs Keeping (.initial {}) state)
    {consumer : Consumer} {offset : ℕ} {data : EventPayload} {key : String}
    (message : MessageOf state.world consumer key offset data)
    (settled : ∀ (offset' : ℕ) (data' : EventPayload),
      MessageOf state.world consumer key offset' data' →
        Settled (state.observe programs) consumer offset') :
    ∃ (offset' : ℕ) (data' : EventPayload),
      MessageOf state.world consumer key offset' data' ∧ Effect state.world consumer data' := by
  obtain ⟨machine, ran, same⟩ := implements.path (C := Keeping) ran
  have ran : FlowRuns Keeping (.initial {}) machine := ran
  have guarded : Guarded machine := by
    refine (accounting_path ran).invariant .initial ?_
    intro before event after ⟨allowed, holds⟩ guarded taken
    exact guarded.step holds allowed.1 allowed.2 taken
  have world : machine.world = state.world := congrArg Pool.world same
  rw [← world] at message settled ⊢
  rw [← show machine.observe flow = state.observe programs from same] at settled
  have returned := (settled offset data message).1
  rcases guarded.returned consumer offset key ⟨data, message⟩ returned with
    (⟨group, offset', data', there, taken, effect⟩ | ⟨pid, delivery, pc, running, holding, held⟩) |
      ⟨group, offset', ⟨data', there, taken⟩, failed⟩
  · obtain rfl := consumer_eq_of_key taken message.2
    exact ⟨offset', data', ⟨there, taken⟩, effect⟩
  · -- The holder is a delivery of a message of the event, and none is running.
    obtain ⟨planned, there⟩ := planned_of_running (accounting_holds ran) running
    have taken : (plan delivery.consumer delivery.data).map (·.key) = some key := by
      rw [planned, ← held]
      rfl
    obtain rfl := consumer_eq_of_key taken message.2
    refine absurd ⟨rfl, rfl⟩ ((settled _ _ ⟨there, taken⟩).2 pid delivery pc.op ?_)
    rw [Pool.observe_slots, running]
    rfl
  · obtain rfl := consumer_eq_of_key taken message.2
    have normal := (settled _ _ ⟨there, taken⟩).1
    cases failed.symm.trans normal

/-- **No event is lost,** if no worker crashes between taking a key and applying its effect
and no key that is given back stays: once the last delivery of every message of an event has
returned normally, the effect of the event was applied. The messages of an event are those
with its key; they carry one payload when the key identifies it, as the ids of tasks do. -/
theorem event_not_lost {state : State} (ran : Runs Keeping (.initial {}) state)
    {consumer : Consumer} {offset : ℕ} {data : EventPayload} {key : String}
    (message : MessageOf state.world consumer key offset data)
    (settled : ∀ (offset' : ℕ) (data' : EventPayload),
      MessageOf state.world consumer key offset' data' →
        Settled (state.observe programs) consumer offset') :
    (∃ (offset' : ℕ) (data' : EventPayload),
      MessageOf state.world consumer key offset' data' ∧ Effect state.world consumer data') ∧
    ((∀ (offset' : ℕ) (data' : EventPayload),
      MessageOf state.world consumer key offset' data' → data' = data) →
        Effect state.world consumer data) := by
  have applied := effect_applied ran message settled
  refine ⟨applied, fun identified => ?_⟩
  obtain ⟨offset', data', ofEvent, effect⟩ := applied
  rwa [identified offset' data' ofEvent] at effect

/-- A message is settled when no delivery is running and its last one returned normally. -/
theorem Settled.of_idle {state : State} {consumer : Consumer} {offset : ℕ}
    (idle : ∀ pid, (state.slots pid).isRunning = false)
    (returned : lastEnded state.world consumer offset = some true) :
    Settled (state.observe programs) consumer offset := by
  refine ⟨returned, fun pid delivery op seen => ?_⟩
  obtain ⟨pc, running, _⟩ := Slot.of_observe_running seen
  have stopped := idle pid
  rw [running] at stopped
  cases stopped

namespace Sample

/-- Publish the event, fail to apply its effect, give the key back, and handle the event
again. -/
def retried (consumer : Consumer) : List Happening :=
  [.env (.publish event), delivers consumer 0, resolves 0, rejects 0, resolves 0,
    delivers consumer 1, resolves 1, resolves 1]

/-- Publish the event, crash after taking the key, and handle the event again. -/
def crashed (consumer : Consumer) : List Happening :=
  [.env (.publish event), delivers consumer 0, resolves 0, .crash 0 none, delivers consumer 1,
    resolves 1]

end Sample

/-- The theorem at an event whose effect is rejected once. -/
theorem event_not_lost_retried :
    ∃ state ∈ run step (.initial {}) (Sample.retried .notification),
      Effect state.world .notification Sample.event := by
  obtain ⟨state, ran, topic, returned, idle, kept⟩ :
      ∃ state ∈ run step (.initial {}) (Sample.retried .notification),
        state.world.topic = [Sample.event] ∧
        lastEnded state.world .notification 0 = some true ∧
        (∀ event ∈ Sample.retried .notification, ∀ pid ∈ event.pid?,
          (state.slots pid).isRunning = false) ∧
        Meets step (fun state event => Keeping (state.observe programs) event) (.initial {})
          (Sample.retried .notification) := by decide +kernel
  have only : ∀ (offset : ℕ) (data : EventPayload) (key : String),
      MessageOf state.world .notification key offset data → offset = 0 ∧ data = Sample.event := by
    rintro offset data key ⟨there, _⟩
    simpa [topic, List.getElem?_singleton, eq_comm] using there
  have message : MessageOf state.world .notification (NotificationService.key Sample.event) 0
      Sample.event := ⟨by rw [topic]; rfl, rfl⟩
  refine ⟨state, ran, (event_not_lost (.of_run ran kept) message ?_).2
    fun offset data message => (only offset data _ message).2⟩
  intro offset data message
  obtain ⟨rfl, rfl⟩ := only offset data _ message
  exact .of_idle (Pool.idle_of_run ran idle) returned

theorem Sample.crashed_loses (consumer : Consumer) :
    ∃ state ∈ run step (.initial {}) (Sample.crashed consumer),
      state.world.topic = [Sample.event] ∧ state.world.now = 0 ∧
        Settled (state.observe programs) consumer 0 ∧
        ¬ Effect state.world consumer Sample.event := by
  have lost : ∃ state ∈ run step (.initial {}) (Sample.crashed consumer),
      state.world.topic = [Sample.event] ∧ state.world.now = 0 ∧
        lastEnded state.world consumer 0 = some true ∧
        (∀ event ∈ Sample.crashed consumer, ∀ pid ∈ event.pid?,
          (state.slots pid).isRunning = false) ∧
        state.world.notifications = [] ∧ state.world.counted = [] := by
    cases consumer with
    | notification => decide +kernel
    | analytics => decide +kernel
  obtain ⟨state, ran, topic, now, returned, idle, notifications, counted⟩ := lost
  refine ⟨state, ran, topic, now, .of_idle (Pool.idle_of_run ran idle) returned, fun effect => ?_⟩
  cases consumer with
  | notification =>
      obtain ⟨notification, stored, _⟩ := effect
      rw [notifications] at stored
      cases stored
  | analytics =>
      obtain ⟨userId, _, included⟩ := effect
      rw [counted] at included
      cases included

/-- **A crash between the key and the effect.** The redelivery finds the key and returns, so
every message of the event has been handled and its effect is not there. No operation is
rejected and no time passes. -/
theorem crash_loses_event :
    (∃ state ∈ run step (.initial {}) (Sample.crashed .notification),
      state.world.topic = [Sample.event] ∧ state.world.now = 0 ∧
        Settled (state.observe programs) .notification 0 ∧
        ¬ Effect state.world .notification Sample.event) ∧
    ∃ state ∈ run step (.initial {}) (Sample.crashed .analytics),
      state.world.topic = [Sample.event] ∧ state.world.now = 0 ∧
        Settled (state.observe programs) .analytics 0 ∧
        ¬ Effect state.world .analytics Sample.event :=
  ⟨Sample.crashed_loses .notification, Sample.crashed_loses .analytics⟩

end WorkflowHub.Consumers
