import WorkflowHub.TaskService.Delivery

/-!
# What the task service publishes

The messages of `task.created` in Kafka are the stored ones among those the pollers emitted.
A step adds at most one of them (`step_topic`), and once no record is pending or failed the
message of every committed task is in the topic (`published_of_completed`).
-/

set_option autoImplicit false

namespace WorkflowHub.TaskService

open Processes

/-- What is in the topic `task.created`. -/
def Ledger.topic (ledger : Ledger) : List EventPayload :=
  (ledger.emits.filter fun emit => emit.stored ∧ emit.pattern = TASK_CREATED).map (·.payload)

/-- The TTL index removes no record but one that was delivered. -/
def PrunesDelivered (state : View) : Happening → Prop
  | .env (.prune id) => ∀ record ∈ state.world.outbox, record.id = id → record.status = .completed
  | _ => True

instance (state : View) (event : Happening) : Decidable (PrunesDelivered state event) := by
  unfold PrunesDelivered
  split <;> infer_instance

/-! ## One step -/

/-- A message is added or none is, and Kafka acknowledges only what it has stored. -/
def Emitting (ledger ledger' : Ledger) : Prop :=
  ledger'.emits = ledger.emits ∨ ∃ emit : Emit, ledger'.emits = ledger.emits ++ [emit] ∧
    (emit.acknowledged = true → emit.stored = true)

theorem exec_emitting {world world' : World} {pid : ℕ} {op : Op} {answer : Answer}
    {reply : Except Thrown op.Value} (answered : exec world pid op answer = some (world', reply)) :
    Emitting world.toLedger world'.toLedger ∧ world'.pruned = world.pruned := by
  cases op with
  | emit event pattern payload =>
      have added : ∀ outcome, Emitting world.toLedger
          (world.toLedger.publish event pattern payload outcome) := by
        intro outcome
        refine .inr ⟨_, rfl, fun acknowledged => ?_⟩
        rw [show outcome = .resolved from of_decide_eq_true acknowledged]
      rcases respond_cases answered with ⟨rfl, _⟩ | ⟨_, rfl, _⟩
      · exact ⟨added _, rfl⟩
      · exact ⟨added _, rfl⟩
  | commitTransaction =>
      rcases respond_cases answered with ⟨rfl, _⟩ | ⟨_, rfl, _⟩
      · split
        · exact ⟨.inl rfl, rfl⟩
        · exact ⟨.inl rfl, rfl⟩
      · exact ⟨.inl rfl, rfl⟩
  | findPending limit =>
      rcases respond_cases answered with ⟨rfl, _⟩ | ⟨_, rfl, _⟩
      · exact ⟨.inl rfl, rfl⟩
      · split
        · exact ⟨.inl rfl, rfl⟩
        · exact ⟨.inl rfl, rfl⟩
  | save document =>
      rcases respond_cases answered with ⟨rfl, _⟩ | ⟨_, rfl, _⟩
      · exact ⟨.inl rfl, rfl⟩
      · split
        · exact ⟨.inl rfl, rfl⟩
        · exact ⟨.inl rfl, rfl⟩
  | _ =>
      rcases respond_cases answered with ⟨rfl, _⟩ | ⟨_, rfl, _⟩
      · exact ⟨.inl rfl, rfl⟩
      · exact ⟨.inl rfl, rfl⟩

/-- What a step of the task service adds to the messages and to what was pruned. -/
theorem step_emitting {before after : State} {event : Happening}
    (taken : step before event = some after) :
    Emitting before.world.toLedger after.world.toLedger ∧
      (after.world.pruned = before.world.pruned ∨
        ∃ id, event = .env (.prune id) ∧ id ∈ before.world.outbox.map (·.id) ∧
          after.world.pruned = before.world.pruned ++ [id]) := by
  cases Pool.stepped taken with
  | call free started =>
      cases started
      rw [Pool.settle_world, land_toLedger]
      exact ⟨.inl rfl, .inl rfl⟩
  | step running answered =>
      obtain ⟨emitting, pruned⟩ := exec_emitting answered
      rw [Pool.settle_world, land_toLedger]
      exact ⟨emitting, .inl pruned⟩
  | crashPending running => exact ⟨.inl rfl, .inl rfl⟩
  | crashPerformed running answered =>
      obtain ⟨emitting, pruned⟩ := exec_emitting answered
      exact ⟨emitting, .inl pruned⟩
  | env moved =>
      rcases env_cases moved with ⟨milliseconds, rfl, rfl⟩ | ⟨record, found, rfl, rfl⟩
      · exact ⟨.inl rfl, .inl rfl⟩
      · exact ⟨.inl rfl, .inr ⟨record.id, rfl, List.mem_map_of_mem found, rfl⟩⟩

/-- The topic grows by at most one message. -/
theorem step_topic {before after : State} {event : Happening}
    (taken : step before event = some after) :
    after.world.topic = before.world.topic ∨
      ∃ payload, after.world.topic = before.world.topic ++ [payload] := by
  rcases (step_emitting taken).1 with same | ⟨emit, added, _⟩
  · exact .inl (by rw [Ledger.topic, same]; rfl)
  · by_cases stored : emit.stored = true ∧ emit.pattern = TASK_CREATED
    · exact .inr ⟨emit.payload, by simp [Ledger.topic, added, stored]⟩
    · exact .inl (by simp [Ledger.topic, added, stored])

/-! ## Delivered records -/

/-- Kafka has what it acknowledged, and acknowledged what was pruned. -/
structure Published (ledger : Ledger) : Prop where
  stored : ∀ emit ∈ ledger.emits, emit.acknowledged = true → emit.stored = true
  pruned : ∀ id ∈ ledger.pruned, ∃ emit ∈ ledger.emits, emit.event = id ∧ emit.acknowledged = true

theorem published_of_run {state : State} (ran : Runs PrunesDelivered (.initial {}) state) :
    Published state.world.toLedger := by
  refine ran.reached (P := fun state => Published state.world.toLedger) ?_ ?_
  · constructor
    · intro emit found
      cases found
    · intro id found
      cases found
  · intro before event after earlier delivers published taken
    obtain ⟨emitting, pruned⟩ := step_emitting taken
    have grown : before.world.emits ⊆ after.world.emits := by
      rcases emitting with same | ⟨emit, added, _⟩
      · rw [same]
        exact List.Subset.refl _
      · rw [added]
        exact List.subset_append_left _ _
    constructor
    · intro emit found acknowledged
      rcases emitting with same | ⟨added, here, stores⟩
      · exact published.stored emit (same ▸ found) acknowledged
      · rw [here, List.mem_append, List.mem_singleton] at found
        rcases found with found | rfl
        · exact published.stored emit found acknowledged
        · exact stores acknowledged
    · intro id found
      have known : ∀ id ∈ before.world.pruned, ∃ emit ∈ after.world.emits,
          emit.event = id ∧ emit.acknowledged = true := by
        intro id found
        obtain ⟨emit, there, same⟩ := published.pruned id found
        exact ⟨emit, grown there, same⟩
      rcases pruned with same | ⟨gone, rfl, present, added⟩
      · exact known id (same ▸ found)
      · rw [added, List.mem_append, List.mem_singleton] at found
        rcases found with found | rfl
        · exact known id found
        · obtain ⟨record, there, rfl⟩ := List.mem_map.mp present
          obtain ⟨emit, sent, same, _, _, acknowledged⟩ :=
            (consistent_of_run earlier record there).completed (delivers record there rfl)
          exact ⟨emit, grown sent, same, acknowledged⟩

/-- Once no record is pending or failed, the message of every committed task is in the
topic. -/
theorem published_of_completed {state : State}
    (ran : Runs PrunesDelivered (.initial {}) state)
    (completed : ∀ record ∈ state.world.outbox, record.status = .completed)
    {commit : Commit} (found : commit ∈ state.world.commits) :
    commit.record.payload ∈ state.world.topic := by
  have provenance := provenance_of_run ran
  have published := published_of_run ran
  obtain ⟨emit, sent, event, acknowledged⟩ : ∃ emit ∈ state.world.emits,
      emit.event = commit.record.id ∧ emit.acknowledged = true := by
    rcases provenance.kept commit found with present | gone
    · obtain ⟨record, there, same⟩ := List.mem_map.mp present
      obtain ⟨emit, sent, event, _, _, acknowledged⟩ :=
        (consistent_of_run ran record there).completed (completed record there)
      exact ⟨emit, sent, event.trans same, acknowledged⟩
    · exact published.pruned _ gone
  obtain ⟨origin, known, event', pattern, payload⟩ := provenance.emitted emit sent
  obtain rfl := provenance.owned.eq_of_record known found (event'.symm.trans event)
  refine List.mem_map.mpr ⟨emit, List.mem_filter.mpr ⟨sent, ?_⟩, payload⟩
  simp [published.stored emit sent acknowledged, pattern,
    (provenance.owned.announced origin known).pattern]

end WorkflowHub.TaskService
