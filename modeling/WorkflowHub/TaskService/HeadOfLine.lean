import WorkflowHub.Processes.Executions
import WorkflowHub.TaskService.ControlFlow

/-!
# Which events of a batch a poll run reaches

One poll run is followed under a pattern of rejections: for each event of the batch, how its
`emit` ends, and how the `save` of the `try` block and the one of the `catch` block end if they
are called. An event whose `catch` block is left by a rejection ends the whole run, and the
events behind it are not reached (`emits_every_event_iff`).
-/

set_option autoImplicit false

namespace WorkflowHub.TaskService

open Processes

/-- The call of `emit` for an event. -/
def Outbox.emission (event : Outbox) : Op := .emit event.id event.pattern event.payload

/-- How the calls of one event end. -/
structure EventReplies where
  emit : Except Thrown Unit
  saveCompleted : Except Thrown Unit
  saveCaught : Except Thrown Unit

/-- The `catch` block of the event is entered, and its `save` rejects. -/
def EventReplies.blocks (replies : EventReplies) : Bool :=
  (rejects replies.emit || rejects replies.saveCompleted) && rejects replies.saveCaught

/-- What the outside has answered: the number of `emit` calls, and whether the last call
rejected. -/
structure Answered where
  emits : ℕ := 0
  rejected : Bool := false

/-- The outside that returns the batch and then answers by the pattern. The `save` after a
rejection is the one of the `catch` block. -/
def patterned (batch : List Outbox) (pattern : ℕ → EventReplies) (answered : Answered) :
    (op : Op) → Unit → Except Thrown op.Value → Answered → Prop
  | .findPending _, _, reply, answered' => reply = .ok batch ∧ answered' = answered
  | .emit .., _, reply, answered' =>
      reply = (pattern answered.emits).emit ∧ answered' = ⟨answered.emits + 1, rejects reply⟩
  | .save _, _, reply, answered' =>
      let replies := pattern (answered.emits - 1)
      reply = (if answered.rejected then replies.saveCaught else replies.saveCompleted) ∧
        answered' = ⟨answered.emits, rejects reply⟩
  | _, _, _, answered' => answered' = answered

/-- A poll run that finds no other one going, under a pattern. -/
abbrev PollRuns (instanceId now : ℕ) (batch : List Outbox) (pattern : ℕ → EventReplies)
    (exchanges : List (Exchange (promises Op Op.Value Thrown) Unit)) (out : Except Thrown Reply) :
    Prop :=
  ∃ answered, Executes (patterned batch pattern) programs (.pollOutbox instanceId) {}
    (programs.enter (.pollOutbox instanceId) { isPolling := false, now }) exchanges out answered

/-! ## The events that are reached -/

/-- The events a run still reaches, the first of which is the one at `index`. -/
def reached (pattern : ℕ → EventReplies) (index : ℕ) : List Outbox → List Outbox
  | [] => []
  | event :: rest =>
      event :: if (pattern index).blocks then [] else reached pattern (index + 1) rest

theorem map_reached_cons (pattern : ℕ → EventReplies) (index : ℕ) (event : Outbox)
    (rest : List Outbox) : (reached pattern index (event :: rest)).map (·.emission) =
      event.emission :: if (pattern index).blocks then [] else
        (reached pattern (index + 1) rest).map (·.emission) := by
  rw [reached, List.map_cons, apply_ite (List.map _)]
  rfl

theorem reached_subset (pattern : ℕ → EventReplies) (batch : List Outbox) :
    ∀ index, reached pattern index batch ⊆ batch := by
  induction batch with
  | nil => exact fun _ => List.Subset.refl _
  | cons event rest ih =>
      intro index
      simp only [reached]
      split
      · exact List.cons_subset_cons _ (List.nil_subset _)
      · exact List.cons_subset_cons _ (ih _)

/-- Every event is reached exactly if none but the last one blocks. -/
theorem reached_every_iff {pattern : ℕ → EventReplies} {batch : List Outbox}
    (distinct : batch.Nodup) : ∀ index, batch ⊆ reached pattern index batch ↔
      ∀ k, k + 1 < batch.length → (pattern (index + k)).blocks = false := by
  induction batch with
  | nil => exact fun _ => iff_of_true (List.Subset.refl _) fun k bound => by cases bound
  | cons event rest ih =>
      intro index
      obtain ⟨fresh, distinct⟩ := List.nodup_cons.mp distinct
      cases blocks : (pattern index).blocks with
      | false =>
          have behind : event :: rest ⊆ reached pattern index (event :: rest) ↔
              rest ⊆ reached pattern (index + 1) rest := by
            simp only [reached, blocks, Bool.false_eq_true, ↓reduceIte]
            refine ⟨fun every other later => ?_, List.cons_subset_cons _⟩
            rcases List.mem_cons.mp (every (List.mem_cons_of_mem _ later)) with rfl | found
            · exact absurd later fresh
            · exact found
          rw [behind, ih distinct (index + 1), List.length_cons]
          constructor
          · intro free k bound
            cases k with
            | zero => exact blocks
            | succ k =>
                rw [show index + (k + 1) = index + 1 + k by omega]
                exact free k (Nat.lt_of_succ_lt_succ bound)
          · intro free k bound
            rw [show index + 1 + k = index + (k + 1) by omega]
            exact free (k + 1) (Nat.succ_lt_succ bound)
      | true =>
          simp only [reached, blocks, ↓reduceIte]
          cases rest with
          | nil =>
              refine iff_of_true (List.Subset.refl _) fun k bound => ?_
              simp only [List.length_cons, List.length_nil] at bound
              omega
          | cons second rest =>
              refine iff_of_false (fun every => ?_) fun free => ?_
              · have first := List.mem_singleton.mp (every (.tail _ (.head _)))
                exact fresh (first ▸ .head _)
              · have first := free 0 (by simp only [List.length_cons]; omega)
                exact Bool.false_ne_true (first.symm.trans blocks)

/-! ## The calls of `emit` -/

def Op.isEmit : Op → Bool
  | .emit .. => true
  | _ => false

/-- The calls of `emit` in an execution. -/
def emissions (exchanges : List (Exchange (promises Op Op.Value Thrown) Unit)) : List Op :=
  (exchanges.map (·.op)).filter (·.isEmit)

section Runs

variable {batch : List Outbox} {pattern : ℕ → EventReplies} {call : Call} {fields : Fields}
  {exchanges : List (Exchange (promises Op Op.Value Thrown) Unit)} {out : Except Thrown Reply}
  {after : Answered}

/-- The `save` of the `catch` block: the run ends there, or goes on with the rest. -/
theorem emissions_saveCaught {rest : List Outbox} {document : OutboxDocument} {index : ℕ}
    {expected : List Op}
    (goesOn : ∀ {answered : Answered} {fields exchanges}, answered.emits = index + 1 →
      Executes (patterned batch pattern) flow call answered (Led.pollNext fields rest) exchanges out
        after → emissions exchanges = expected)
    (executes : Executes (patterned batch pattern) flow call ⟨index + 1, true⟩
      (fields, .running (.saveCaught document rest)) exchanges out after) :
    emissions exchanges = if rejects (pattern index).saveCaught then [] else expected := by
  obtain ⟨_, reply, _, fields, later, rfl, ⟨same, rfl⟩, executes⟩ := executes.of_running
  have same : reply = (pattern index).saveCaught := same
  rw [← same]
  cases reply with
  | ok _ =>
      have behind := goesOn rfl executes
      exact behind
  | error error =>
      obtain ⟨rfl, _⟩ := executes.of_finished
      rfl

/-- **A run calls `emit` for the events it reaches, in their order.** -/
theorem emissions_eq (rest : List Outbox) : ∀ {answered : Answered} {fields exchanges},
    Executes (patterned batch pattern) flow call answered (Led.pollNext fields rest) exchanges out
      after →
    emissions exchanges = (reached pattern answered.emits rest).map (·.emission) := by
  induction rest with
  | nil =>
      intro answered fields exchanges executes
      obtain ⟨rfl, _⟩ := executes.of_finished
      rfl
  | cons event rest ih =>
      intro answered fields exchanges executes
      obtain ⟨index, _⟩ := answered
      have goesOn {answered : Answered} {fields : Fields} {exchanges : List _}
          (position : answered.emits = index + 1)
          (executes : Executes (patterned batch pattern) flow call answered
            (Led.pollNext fields rest) exchanges out after) :
          emissions exchanges = (reached pattern (index + 1) rest).map (·.emission) :=
        position ▸ ih executes
      obtain ⟨_, reply, _, fields, later, rfl, ⟨emit, rfl⟩, executes⟩ := executes.of_running
      have emit : reply = (pattern index).emit := emit
      suffices behind : emissions later = if (pattern index).blocks then [] else
          (reached pattern (index + 1) rest).map (·.emission) by
        exact (congrArg (event.emission :: ·) behind).trans (map_reached_cons ..).symm
      rw [EventReplies.blocks, ← emit]
      cases reply with
      | error error => exact emissions_saveCaught goesOn executes
      | ok _ =>
          obtain ⟨_, reply, _, fields, later, rfl, ⟨save, rfl⟩, executes⟩ :=
            executes.of_running
          have save : reply = (pattern index).saveCompleted := save
          rw [← save]
          cases reply with
          | error error =>
              have behind := emissions_saveCaught goesOn executes
              exact behind
          | ok _ =>
              have behind := goesOn rfl executes
              exact behind

end Runs

/-! ## The runs -/

/-- There is a run for every batch and every pattern. -/
theorem poll_runs (instanceId now : ℕ) (batch : List Outbox) (pattern : ℕ → EventReplies) :
    ∃ exchanges out, PollRuns instanceId now batch pattern exchanges out := by
  have answerable : ∀ answered op, ∃ choice reply answered',
      patterned batch pattern answered op choice reply answered' := by
    intro answered op
    cases op with
    | findPending limit => exact ⟨(), _, _, rfl, rfl⟩
    | emit event pattern payload => exact ⟨(), _, _, rfl, rfl⟩
    | save document => exact ⟨(), _, _, rfl, rfl⟩
    | _ => exact ⟨(), .error (.error "Error" ""), answered, rfl⟩
  obtain ⟨exchanges, out, answered, executes⟩ := Executes.total { isPolling := false, now }
    answerable (pollOutbox.run { isPolling := false, now }) {}
  exact ⟨exchanges, out, answered, executes⟩

theorem emissions_of_run {instanceId now : ℕ} {batch : List Outbox} {pattern : ℕ → EventReplies}
    {exchanges : List (Exchange (promises Op Op.Value Thrown) Unit)} {out : Except Thrown Reply}
    (runs : PollRuns instanceId now batch pattern exchanges out) :
    emissions exchanges = (reached pattern 0 batch).map (·.emission) := by
  obtain ⟨answered, executes⟩ := runs
  obtain ⟨_, _, _, fields, later, rfl, ⟨rfl, rfl⟩, executes⟩ :=
    (implements.executes executes).of_running
  have behind := emissions_eq batch executes
  exact behind

theorem mem_emissions {event : Outbox}
    {exchanges : List (Exchange (promises Op Op.Value Thrown) Unit)} :
    event.emission ∈ exchanges.map (·.op) ↔ event.emission ∈ emissions exchanges := by
  rw [emissions, List.mem_filter]
  exact (and_iff_left rfl).symm

/-- **One event's failure blocks the rest of the batch** exactly if it is one in the `catch` block.
In a poll run `emit` is called for every event of the batch if and only if no event but the last one
has its `catch` block entered and left by a rejection. -/
theorem emits_every_event_iff {instanceId now : ℕ} {batch : List Outbox}
    {pattern : ℕ → EventReplies}
    {exchanges : List (Exchange (promises Op Op.Value Thrown) Unit)} {out : Except Thrown Reply}
    (runs : PollRuns instanceId now batch pattern exchanges out)
    (distinct : (batch.map (·.id)).Nodup) :
    (∀ event ∈ batch, event.emission ∈ exchanges.map (·.op)) ↔
      ∀ k, k + 1 < batch.length → (pattern k).blocks = false := by
  have every : batch ⊆ reached pattern 0 batch ↔
      ∀ k, k + 1 < batch.length → (pattern k).blocks = false := by
    simpa only [Nat.zero_add] using reached_every_iff (List.Nodup.of_map _ distinct) 0
  rw [← every]
  constructor
  · intro called event fetched
    have emitted := mem_emissions.mp (called event fetched)
    rw [emissions_of_run runs] at emitted
    obtain ⟨other, found, same⟩ := List.mem_map.mp emitted
    injection same with id
    rwa [← List.inj_on_of_nodup_map distinct (reached_subset pattern batch 0 found) fetched id]
  · intro every event fetched
    rw [mem_emissions, emissions_of_run runs]
    exact List.mem_map_of_mem (every fetched)

namespace Sample

/-- The record of a task with this id. -/
def pendingRecord (id : ObjectId) (createdAt : ℕ) : Outbox where
  id := id
  pattern := TASK_CREATED
  payload := createPayload body (body.toTask taskId)
  status := .pending
  attempts := 0
  error := none
  processedAt := none
  createdAt := createdAt

def older : Outbox := pendingRecord ⟨"65f0a1b2c3d4e5f6a7b8cc00", rfl⟩ 1

def younger : Outbox := pendingRecord ⟨"65f0a1b2c3d4e5f6a7b8cc01", rfl⟩ 2

def unavailable : Thrown := .error "Error" "broker not available"

/-- Kafka rejects the older event, and the `save` of its `catch` block ends as given. -/
def olderRejected (saveCaught : Except Thrown Unit) : ℕ → EventReplies
  | 0 => ⟨.error unavailable, .ok (), saveCaught⟩
  | _ => ⟨.ok (), .ok (), .ok ()⟩

end Sample

/-- The theorem at a batch whose first event is rejected and saved. -/
theorem emits_every_event_iff_saved :
    ∃ exchanges out, PollRuns 0 0 [Sample.older, Sample.younger] (Sample.olderRejected (.ok ()))
        exchanges out ∧
      ∀ event ∈ [Sample.older, Sample.younger], event.emission ∈ exchanges.map (·.op) := by
  obtain ⟨exchanges, out, runs⟩ :=
    poll_runs 0 0 [Sample.older, Sample.younger] (Sample.olderRejected (.ok ()))
  refine ⟨exchanges, out, runs, (emits_every_event_iff runs (by decide)).mpr fun k _ => ?_⟩
  cases k with
  | zero => rfl
  | succ k => rfl

/-- **An event that is not tried.** Kafka rejects the older event, its `save` is rejected as well,
and `emit` is not called for the younger one. -/
theorem rejected_save_blocks :
    ∃ exchanges out, PollRuns 0 0 [Sample.older, Sample.younger]
        (Sample.olderRejected (.error Sample.unavailable)) exchanges out ∧
      Sample.younger.emission ∉ exchanges.map (·.op) := by
  obtain ⟨exchanges, out, runs⟩ :=
    poll_runs 0 0 [Sample.older, Sample.younger] (Sample.olderRejected (.error Sample.unavailable))
  refine ⟨exchanges, out, runs, ?_⟩
  rw [mem_emissions, emissions_of_run runs]
  decide

end WorkflowHub.TaskService
