import WorkflowHub.Consumers.Accounting

/-!
# Every effect at most once

While keys do not expire under a message that comes again, a key is in Redis from when a
delivery takes it until that delivery gives it back, and it is given back only without its
effect. So one delivery at a time holds a key, and a key whose effect was applied is never
taken again (`Once`). Crashes do not matter: what they leave behind is a key.
-/

set_option autoImplicit false

namespace WorkflowHub.Consumers

open Processes

/-- The keys whose effects were applied, once for each application. -/
def applied (world : World) : List String :=
  world.notifications.map (fun notification => "event:" ++ notification.taskId) ++
    world.counted.map fun entry => AnalyticsService.lockKey (interpolated entry.2)

/-- The operation of a running delivery applies the effect of its message. -/
theorem exec_effect_applied {world world' : World} {delivery : Delivery} {answer : Answer}
    {chosen : Plan} {reply : Except Thrown chosen.effect.Value}
    (planned : plan delivery.consumer delivery.data = some chosen)
    (answered : exec world delivery chosen.effect answer = some (world', reply)) :
    (world' = world ∧ ¬ answer.outcome.Applied) ∨
      (world'.keys = world.keys ∧ (applied world').Perm (chosen.key :: applied world) ∧
        ((∃ value, reply = .ok value) ∨ ¬ answer.outcome.Clean)) := by
  obtain ⟨consumer, offset, data⟩ := delivery
  cases consumer with
  | notification =>
      obtain rfl := Option.some.inj planned
      simp only [exec] at answered
      split at answered
      · rename_i notification made
        obtain ⟨task, _, _⟩ := Notification.of?_eq_some made
        rcases respond_cases answered with ⟨rfl, error, rejected, _⟩ | ⟨_, rfl, ended⟩
        · exact .inl ⟨rfl, by simp [rejected, Outcome.Applied]⟩
        · refine .inr ⟨rfl, ?_, ?_⟩
          · have key : NotificationService.key data = "event:" ++ notification.taskId := by
              rw [NotificationService.key, ← task, jsOr_of_truthy (truthy_some.mpr ?_)]
              · rfl
              · exact Notification.of?_taskId_ne made
            simp only [applied, List.map_append, List.map_singleton, key, List.append_assoc,
              List.singleton_append]
            exact List.perm_middle
          · rcases ended with ⟨_, ok⟩ | ⟨error, lost, _⟩
            · exact .inl ⟨_, ok⟩
            · exact .inr (by simp [lost, Outcome.Clean])
      · rcases respond_cases answered with ⟨rfl, error, rejected, _⟩ | ⟨impossible, _⟩
        · exact .inl ⟨rfl, by simp [rejected, Outcome.Applied]⟩
        · exact impossible.elim
  | analytics =>
      obtain ⟨userId, taskId, user, task, _, rfl⟩ := plan_analytics planned
      rcases respond_cases answered with ⟨rfl, error, rejected, _⟩ | ⟨_, rfl, ended⟩
      · exact .inl ⟨rfl, by simp [rejected, Outcome.Applied]⟩
      · refine .inr ⟨rfl, ?_, ?_⟩
        · simp only [applied, List.map_append, List.map_singleton, task, interpolated]
          rw [← List.append_assoc]
          exact List.perm_append_singleton _ _
        · rcases ended with ⟨_, ok⟩ | ⟨error, lost, _⟩
          · exact .inl ⟨_, ok⟩
          · exact .inr (by simp [lost, Outcome.Clean])

/-! ## Keys and their holders -/

structure Once (pool : Pool World Delivery Pc (Except Thrown Unit)) : Prop where
  alone : ∀ {pid other delivery delivery' pc pc'}, pool.slots pid = .running delivery pc →
    pool.slots other = .running delivery' pc' → pc.Holding → pc'.Holding →
      pc.plan.key = pc'.plan.key → pid = other
  held : ∀ {pid delivery pc}, pool.slots pid = .running delivery pc → pc.Holding →
    pool.world.keys pc.plan.key ≠ none ∧ pc.plan.key ∉ applied pool.world
  kept : ∀ key ∈ applied pool.world, pool.world.keys key ≠ none
  nodup : (applied pool.world).Nodup

/-- The keys do not expire under a message that comes again. -/
def KeysFresh (state : View) : Happening → Prop
  | .step pid _ | .crash pid (some _) =>
      match state.slots pid with
      | .running _ (.set key _ _) =>
          ∀ item ∈ state.world.keys key, ¬ item.Expired state.world.now
      | _ => True
  | _ => True

/-- An effect that is rejected has not been applied. -/
def EffectsClean (state : View) : Happening → Prop
  | .step pid answer =>
      match state.slots pid with
      | .running _ (.createNotification _) => answer.outcome.Clean
      | .running _ (.updateOne _) => answer.outcome.Clean
      | _ => True
  | _ => True

instance (state : View) (event : Happening) : Decidable (KeysFresh state event) := by
  unfold KeysFresh
  split
  · split <;> infer_instance
  · split <;> infer_instance
  · infer_instance

instance (state : View) (event : Happening) : Decidable (EffectsClean state event) := by
  unfold EffectsClean
  split
  · split <;> infer_instance
  · infer_instance

namespace Once

variable {pool : Pool World Delivery Pc (Except Thrown Unit)} {pid : ℕ} {delivery : Delivery}
  {pc : Pc} {landed : World × Slot Delivery Pc (Except Thrown Unit)}

/-- A step that neither touches keys and effects nor leads to where a key is held. -/
theorem unheld (once : Once pool) (pid : ℕ) (keys : landed.1.keys = pool.world.keys)
    (effects : applied landed.1 = applied pool.world)
    (idle : ∀ {delivery pc}, landed.2 = .running delivery pc → ¬ pc.Holding) :
    Once (Pool.settle pool.slots pid landed) := by
  have before : ∀ {other delivery pc},
      (Pool.settle pool.slots pid landed).slots other = .running delivery pc → pc.Holding →
        pool.slots other = .running delivery pc := by
    intro other delivery pc running holding
    by_cases same : other = pid
    · subst same
      rw [Pool.settle_self] at running
      exact absurd holding (idle running)
    · rwa [Pool.settle_other _ same] at running
  constructor
  case alone =>
    intro first second delivery delivery' pc pc' here there holding holding' same
    exact once.alone (before here holding) (before there holding') holding holding' same
  case held =>
    intro other delivery pc running holding
    rw [Pool.settle_world, keys, effects]
    exact once.held (before running holding) holding
  case kept =>
    rw [Pool.settle_world, keys, effects]
    exact once.kept
  case nodup =>
    rw [Pool.settle_world, effects]
    exact once.nodup

/-- A delivery that ends without having touched keys and effects. -/
theorem ends (once : Once pool) (pid : ℕ) (keys : landed.1.keys = pool.world.keys)
    (effects : applied landed.1 = applied pool.world) (stopped : landed.2.isRunning = false) :
    Once (Pool.settle pool.slots pid landed) :=
  once.unheld pid keys effects fun running => absurd running (Slot.ne_running stopped)

/-- A step of a delivery whose key nobody else holds, because it holds the key itself or
because the key is not there. -/
theorem settle (once : Once pool) (running : pool.slots pid = .running delivery pc)
    (sole : pc.Holding ∨ pool.world.keys pc.plan.key = none)
    (goes : ∀ {delivery' pc'}, landed.2 = .running delivery' pc' → pc'.Holding →
      pc'.plan = pc.plan ∧ landed.1.keys pc.plan.key ≠ none ∧ pc.plan.key ∉ applied landed.1)
    (elsewhere : ∀ key, key ≠ pc.plan.key → landed.1.keys key = pool.world.keys key ∧
      (key ∈ applied landed.1 → key ∈ applied pool.world))
    (kept : pc.plan.key ∈ applied landed.1 → landed.1.keys pc.plan.key ≠ none)
    (nodup : (applied landed.1).Nodup) : Once (Pool.settle pool.slots pid landed) := by
  -- Nobody but this delivery can hold its key.
  have different : ∀ {other delivery' pc'}, other ≠ pid →
      pool.slots other = .running delivery' pc' → pc'.Holding → pc'.plan.key ≠ pc.plan.key := by
    intro other delivery' pc' apart there holding' same
    rcases sole with holding | absent
    · exact apart (once.alone there running holding' holding same)
    · exact (once.held there holding').1 (same ▸ absent)
  constructor
  case alone =>
    intro first second delivery₁ delivery₂ pc₁ pc₂ here there holding₁ holding₂ same
    by_cases mine : first = pid
    · by_cases mine' : second = pid
      · exact mine.trans mine'.symm
      · rw [mine, Pool.settle_self] at here
        rw [Pool.settle_other _ mine'] at there
        rw [(goes here holding₁).1] at same
        exact absurd same.symm (different mine' there holding₂)
    · rw [Pool.settle_other _ mine] at here
      by_cases mine' : second = pid
      · rw [mine', Pool.settle_self] at there
        rw [(goes there holding₂).1] at same
        exact absurd same (different mine here holding₁)
      · rw [Pool.settle_other _ mine'] at there
        exact once.alone here there holding₁ holding₂ same
  case held =>
    intro other delivery' pc' there holding'
    rw [Pool.settle_world]
    by_cases mine : other = pid
    · rw [mine, Pool.settle_self] at there
      obtain ⟨plan, present, fresh⟩ := goes there holding'
      rw [plan]
      exact ⟨present, fresh⟩
    · rw [Pool.settle_other _ mine] at there
      obtain ⟨keys, effects⟩ := elsewhere _ (different mine there holding')
      obtain ⟨present, fresh⟩ := once.held there holding'
      exact ⟨keys ▸ present, fun effect => fresh (effects effect)⟩
  case kept =>
    intro key effect
    rw [Pool.settle_world] at effect ⊢
    by_cases same : key = pc.plan.key
    · rw [same] at effect ⊢
      exact kept effect
    · obtain ⟨keys, effects⟩ := elsewhere key same
      rw [keys]
      exact once.kept key (effects effect)
  case nodup => exact nodup

/-- The key was not there, and is put there. -/
theorem takes (once : Once pool) (running : pool.slots pid = .running delivery pc)
    (absent : pool.world.keys pc.plan.key = none) {item : Item String}
    (keys : landed.1.keys = pool.world.keys.put pc.plan.key item)
    (effects : applied landed.1 = applied pool.world)
    (goes : ∀ {delivery' pc'}, landed.2 = .running delivery' pc' → pc'.plan = pc.plan) :
    Once (Pool.settle pool.slots pid landed) := by
  have present : landed.1.keys pc.plan.key ≠ none := by simp [keys, Keyspace.put]
  refine once.settle running (.inr absent) (fun there _ => ⟨goes there, present, ?_⟩)
    (fun key different => ⟨?_, effects ▸ id⟩) (fun _ => present) (effects ▸ once.nodup)
  · rw [effects]
    exact fun effect => once.kept _ effect absent
  · simp only [keys, Keyspace.put, different, ↓reduceIte]

/-- The holder of the key goes on without having done anything. -/
theorem holds (once : Once pool) (running : pool.slots pid = .running delivery pc)
    (holding : pc.Holding) (keys : landed.1.keys = pool.world.keys)
    (effects : applied landed.1 = applied pool.world)
    (goes : ∀ {delivery' pc'}, landed.2 = .running delivery' pc' → pc'.plan = pc.plan) :
    Once (Pool.settle pool.slots pid landed) := by
  refine once.settle running (.inl holding) (fun there _ => ⟨goes there, ?_⟩)
    (fun key _ => ⟨by rw [keys], effects ▸ id⟩) (fun effect => ?_) (effects ▸ once.nodup)
  · rw [keys, effects]
    exact once.held running holding
  · exact absurd (effects ▸ effect) (once.held running holding).2

/-- The holder of the key has applied its effect, and stops. -/
theorem applies (once : Once pool) (running : pool.slots pid = .running delivery pc)
    (holding : pc.Holding) (keys : landed.1.keys = pool.world.keys)
    (effects : (applied landed.1).Perm (pc.plan.key :: applied pool.world))
    (stopped : landed.2.isRunning = false) :
    Once (Pool.settle pool.slots pid landed) := by
  obtain ⟨present, fresh⟩ := once.held running holding
  refine once.settle running (.inl holding) (fun there => absurd there (Slot.ne_running stopped))
    (fun key different => ⟨by rw [keys], fun effect => ?_⟩) (fun _ => by rwa [keys]) ?_
  · exact (List.mem_cons.mp (effects.mem_iff.mp effect)).resolve_left different
  · exact effects.nodup_iff.mpr (List.nodup_cons.mpr ⟨fresh, once.nodup⟩)

/-- The holder of the key removes it, and stops. -/
theorem removes (once : Once pool) (running : pool.slots pid = .running delivery pc)
    (holding : pc.Holding) (keys : landed.1.keys = pool.world.keys.remove pc.plan.key)
    (effects : applied landed.1 = applied pool.world)
    (stopped : landed.2.isRunning = false) :
    Once (Pool.settle pool.slots pid landed) := by
  refine once.settle running (.inl holding) (fun there => absurd there (Slot.ne_running stopped))
    (fun key different => ⟨?_, effects ▸ id⟩) (fun effect => ?_) (effects ▸ once.nodup)
  · simp only [keys, Keyspace.remove, different, ↓reduceIte]
  · exact absurd (effects ▸ effect) (once.held running holding).2

/-- **Every step keeps keys and effects one to one.** -/
theorem step {after : Pool World Delivery Pc (Except Thrown Unit)} {event : Happening}
    (once : Once pool) (holds : accounting.Holds pool) (fresh : KeysFresh (pool.observe flow) event)
    (clean : EffectsClean (pool.observe flow) event)
    (taken : Pool.step site flow pool event = some after) : Once after := by
  cases Pool.stepped taken with
  | @call pid delivery world free started =>
      simp only [site, Option.ite_none_right_eq_some, Option.some.injEq] at started
      obtain ⟨_, rfl⟩ := started
      simp only [flow, Led.enter]
      split
      · exact once.unheld pid rfl rfl fun goes => by cases goes; exact id
      · exact once.ends pid rfl rfl rfl
  | @step pid answer delivery pc world reply running answered =>
      have planned := planned_of_running holds running
      simp only [KeysFresh, EffectsClean, Pool.observe_slots, running, Slot.observe, flow]
        at fresh clean
      cases pc with
      | acquiring chosen =>
          rcases exec_set delivery answered with ⟨rfl, _, error, rfl⟩ |
            ⟨_, ⟨_, rfl, rfl | ⟨⟨_, rfl⟩, _⟩⟩ | ⟨free, rfl, rfl | ⟨⟨_, rfl⟩, _⟩⟩⟩
          · exact once.ends pid rfl rfl rfl
          · exact once.ends pid rfl rfl rfl
          · exact once.ends pid rfl rfl rfl
          · exact once.takes running (Keyspace.eq_none_of_find free fresh) rfl rfl
              fun goes => by cases goes; rfl
          · exact once.takes running (Keyspace.eq_none_of_find free fresh) rfl rfl
              fun there => absurd there (Slot.ne_running rfl)
      | processing chosen =>
          rcases exec_effect_applied planned.1 answered with ⟨rfl, rejected⟩ |
            ⟨keys, effects, ⟨value, rfl⟩ | lost⟩
          · cases reply with
            | ok value => exact once.ends pid rfl rfl rfl
            | error error =>
                exact once.holds running trivial rfl rfl fun goes => by cases goes; rfl
          · exact once.applies running trivial keys effects rfl
          · rcases effect_cases planned.1 with ⟨data, effect⟩ | ⟨userId, effect⟩
            · simp only [Pc.op, show (Pc.processing chosen).plan = chosen from rfl] at clean effect
              rw [effect] at clean
              exact absurd clean lost
            · simp only [Pc.op, show (Pc.processing chosen).plan = chosen from rfl] at clean effect
              rw [effect] at clean
              exact absurd clean lost
      | clearing chosen error =>
          rcases exec_del delivery answered with ⟨rfl, _⟩ | rfl
          · cases reply with
            | ok value => exact once.ends pid rfl rfl rfl
            | error error' => exact once.ends pid rfl rfl rfl
          · cases reply with
            | ok value => exact once.removes running trivial rfl rfl rfl
            | error error' => exact once.removes running trivial rfl rfl rfl
  | @crashPending pid delivery pc running => exact once.ends pid rfl rfl rfl
  | @crashPerformed pid answer delivery pc world reply running answered =>
      have planned := planned_of_running holds running
      simp only [KeysFresh, Pool.observe_slots, running, Slot.observe, flow] at fresh
      cases pc with
      | acquiring chosen =>
          rcases exec_set delivery answered with ⟨rfl, _⟩ | ⟨_, ⟨_, rfl, _⟩ | ⟨free, rfl, _⟩⟩
          · exact once.ends pid rfl rfl rfl
          · exact once.ends pid rfl rfl rfl
          · exact once.takes running (Keyspace.eq_none_of_find free fresh) rfl rfl
              fun there => absurd there (Slot.ne_running rfl)
      | processing chosen =>
          rcases exec_effect_applied planned.1 answered with ⟨rfl, _⟩ | ⟨keys, effects, _⟩
          · exact once.ends pid rfl rfl rfl
          · exact once.applies running trivial keys effects rfl
      | clearing chosen error =>
          rcases exec_del delivery answered with ⟨rfl, _⟩ | rfl
          · exact once.ends pid rfl rfl rfl
          · exact once.removes running trivial rfl rfl rfl
  | @env event world moved =>
      cases event with
      | elapse milliseconds =>
          cases moved
          exact ⟨once.alone, once.held, once.kept, once.nodup⟩
      | publish data =>
          cases moved
          exact ⟨once.alone, once.held, once.kept, once.nodup⟩

theorem initial : Once (.initial {}) := by
  constructor
  case alone => exact fun running => nomatch running
  case held => exact fun running => nomatch running
  case kept => simp [Pool.initial, applied]
  case nodup => simp [Pool.initial, applied]

end Once

/-- No key expires under a message that comes again, and a rejected effect was not applied. -/
abbrev FreshKeys (state : View) (event : Happening) : Prop :=
  KeysFresh state event ∧ EffectsClean state event

/-- **Every effect is applied at most once.** -/
theorem applied_nodup {state : State} (ran : Runs FreshKeys (.initial {}) state) :
    (applied state.world).Nodup := by
  obtain ⟨machine, ran, same⟩ := implements.path (C := FreshKeys) ran
  have ran : FlowRuns FreshKeys (.initial {}) machine := ran
  have once : Once machine := by
    refine (accounting_path ran).invariant .initial ?_
    intro before event after ⟨allowed, holds⟩ once taken
    exact once.step holds allowed.1 allowed.2 taken
  rw [← show machine.world = state.world from congrArg Pool.world same]
  exact once.nodup

/-- Counters show what was counted, for messages of the topic. -/
theorem accounted {C : View → Happening → Prop} {state : State}
    (ran : Runs C (.initial {}) state) : Accounted state.world := by
  obtain ⟨machine, ran, same⟩ := implements.path ran
  have ran : FlowRuns C (.initial {}) machine := ran
  rw [← show machine.world = state.world from congrArg Pool.world same]
  exact (accounting_holds ran).globally

end WorkflowHub.Consumers
