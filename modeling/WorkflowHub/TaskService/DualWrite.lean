import WorkflowHub.TaskService.Transactions

/-!
# Tasks and outbox records, one to one

What the invariant of `Transactions` says about the database and Kafka in every state:
`DualWrite`, and `create_dual_write`, which states it of the programs.
-/

set_option autoImplicit false

namespace WorkflowHub.TaskService

open Processes

/-- What the database and Kafka hold together in a state of the task service. -/
structure DualWrite (state : View) : Prop where
  /-- The task is the one the caller asked for, and the payload describes it. -/
  described : ∀ commit ∈ state.world.commits,
    (∃ body, (state.slots commit.caller).call? = some (.create body) ∧
      commit.task = body.toTask commit.task.id) ∧
    commit.record.payload.taskId = some commit.task.id.toString ∧
    commit.record.payload.userId = some commit.task.userId ∧
    commit.record.payload.title = some commit.task.title
  /-- A committed task has one record, with the payload it was committed with, until the
  TTL index removes that record. -/
  recorded : ∀ commit ∈ state.world.commits,
    (state.world.outbox.filter (·.payload.taskId = some commit.task.id.toString)).map (·.payload) =
      if commit.record.id ∈ state.world.pruned then [] else [commit.record.payload]
  /-- A record stems from one commit. -/
  stored : ∀ record ∈ state.world.outbox,
    ∃! commit, commit ∈ state.world.commits ∧ record.StemsFrom commit
  /-- A call of `create` commits at most once. -/
  callers : (state.world.commits.map (·.caller)).Nodup
  /-- A call that has not committed leaves nothing of what it wrote. -/
  uncommitted : ∀ pid, pid ∉ state.world.commits.map (·.caller) →
    (∀ task ∈ (state.world.sessions pid).task, task.id ∉ state.world.tasks.map (·.id)) ∧
    (∀ record ∈ (state.world.sessions pid).record, record.id ∉ state.world.outbox.map (·.id))
  /-- Every task was committed by `create`, or inserted by `createSaga`. -/
  tasks : ∀ task ∈ state.world.tasks,
    (∃ commit ∈ state.world.commits, commit.task = task) ∨ task.id ∈ state.world.sagaTasks
  /-- A task of `createSaga` has no record. -/
  saga : ∀ id ∈ state.world.sagaTasks, ∀ record ∈ state.world.outbox,
    record.payload.taskId ≠ some id.toString
  /-- Every message carries the payload of a record whose task was committed. -/
  emitted : ∀ emit ∈ state.world.emits, ∃ commit ∈ state.world.commits,
    emit.event = commit.record.id ∧ emit.pattern = commit.record.pattern ∧
      emit.payload = commit.record.payload
  /-- A call of `create` that returned a task has committed it. -/
  returned : ∀ pid body message task,
    state.slots pid = .finished (.create body) (.ok (.created message task)) →
      ∃ commit ∈ state.world.commits, commit.caller = pid ∧ commit.task = task

namespace Provenance

variable {ledger : Ledger}

/-- The payload of a stored record names the task of the commit it stems from. -/
theorem taskId_eq (provenance : Provenance ledger) {record : Outbox} {commit : Commit}
    (found : commit ∈ ledger.commits) (stems : record.StemsFrom commit) :
    record.payload.taskId = some commit.task.id.toString := by
  rw [stems.payload]
  exact (provenance.owned.announced commit found).describes.1

/-- A stored record is about the task of a commit exactly if it stems from that commit. -/
theorem about_iff (provenance : Provenance ledger) {record : Outbox} {commit : Commit}
    (stored : record ∈ ledger.outbox) (found : commit ∈ ledger.commits) :
    record.payload.taskId = some commit.task.id.toString ↔ record.id = commit.record.id := by
  obtain ⟨origin, known, stems⟩ := provenance.stored record stored
  rw [provenance.taskId_eq known stems, stems.id, Option.some.injEq]
  constructor
  · intro same
    rw [provenance.owned.eq_of_task known found (ObjectId.toString_injective same)]
  · intro same
    rw [provenance.owned.eq_of_record known found same]

/-- In a list without repetition of a key, the elements with one key are at most one. -/
theorem filter_eq_singleton {outbox : List Outbox} (nodup : (outbox.map (·.id)).Nodup)
    {record : Outbox} (found : record ∈ outbox) :
    outbox.filter (·.id = record.id) = [record] := by
  induction outbox with
  | nil => cases found
  | cons head outbox ih =>
      rw [List.map_cons, List.nodup_cons] at nodup
      rcases List.mem_cons.mp found with rfl | found
      · rw [List.filter_cons_of_pos (by simp), List.filter_eq_nil_iff.mpr]
        intro other there same
        exact nodup.1 (List.mem_map.mpr ⟨other, there, of_decide_eq_true same⟩)
      · rw [List.filter_cons_of_neg, ih nodup.2 found]
        intro same
        exact nodup.1 (List.mem_map.mpr ⟨record, found, (of_decide_eq_true same).symm⟩)

/-- A committed task has one record until that record is pruned. -/
theorem recorded (provenance : Provenance ledger) {commit : Commit}
    (found : commit ∈ ledger.commits) :
    (ledger.outbox.filter (·.payload.taskId = some commit.task.id.toString)).map (·.payload) =
      if commit.record.id ∈ ledger.pruned then [] else [commit.record.payload] := by
  have about : ledger.outbox.filter (·.payload.taskId = some commit.task.id.toString) =
      ledger.outbox.filter (·.id = commit.record.id) :=
    List.filter_congr fun record stored => by simp only [provenance.about_iff stored found]
  rw [about]
  split
  · rename_i gone
    rw [List.filter_eq_nil_iff.mpr, List.map_nil]
    intro record stored same
    exact (provenance.pruned _ gone).1 (List.mem_map.mpr ⟨record, stored, of_decide_eq_true same⟩)
  · rename_i present
    obtain ⟨record, stored, same⟩ :=
      List.mem_map.mp ((provenance.kept commit found).resolve_right present)
    rw [← same, filter_eq_singleton provenance.nodup stored, List.map_singleton]
    obtain ⟨origin, known, stems⟩ := provenance.stored record stored
    rw [stems.payload, provenance.owned.eq_of_record known found (stems.id.symm.trans same)]

/-- A call that is not among the callers of commits has nothing in the database. -/
theorem uncommitted (provenance : Provenance ledger) {pid : ℕ}
    (silent : pid ∉ ledger.commits.map (·.caller)) :
    (∀ task ∈ (ledger.sessions pid).task, task.id ∉ ledger.tasks.map (·.id)) ∧
      (∀ record ∈ (ledger.sessions pid).record, record.id ∉ ledger.outbox.map (·.id)) := by
  have other : ∀ commit ∈ ledger.commits, commit.caller ≠ pid :=
    fun commit found same => silent (List.mem_map.mpr ⟨commit, found, same⟩)
  constructor
  · intro task written present
    obtain ⟨stored, found, same⟩ := List.mem_map.mp present
    have held : (ledger.sessions pid).Holds task.id := .inl ⟨task, written, rfl⟩
    rcases provenance.tasks stored found with ⟨commit, known, rfl⟩ | saga
    · exact other commit known
        (provenance.owned.unique (same ▸ provenance.owned.holds_task known) held)
    · exact (provenance.owned.saga _ (same ▸ saga)).2 pid held
  · intro record written present
    obtain ⟨stored, found, same⟩ := List.mem_map.mp present
    obtain ⟨commit, known, stems⟩ := provenance.stored stored found
    refine other commit known (provenance.owned.unique (provenance.owned.holds_record known) ?_)
    exact .inr ⟨record, written, same.symm.trans stems.id⟩

end Provenance

/-- Whatever a call has written, it was asked to write. -/
theorem local_authored {world : World} {pid : ℕ} {slot : Slot Call Pc (Except Thrown Reply)}
    (holds : transactional.Local world pid slot) :
    ∀ task ∈ (world.sessions pid).task, ∃ body, slot.call? = some (.create body) ∧
      task = body.toTask task.id := by
  intro task written
  cases slot with
  | free =>
      rw [show world.sessions pid = {} from holds] at written
      cases written
  | running call pc =>
      obtain ⟨body, rfl, same⟩ := holds.1 task written
      exact ⟨body, rfl, same⟩
  | finished call out =>
      obtain ⟨body, rfl, same⟩ := holds.1 task written
      exact ⟨body, rfl, same⟩
  | crashed call =>
      obtain ⟨body, rfl, same⟩ := holds task written
      exact ⟨body, rfl, same⟩

/-- **Tasks and outbox records correspond one to one.** In every state that any
interleaving of calls, polls, failures and crashes leads to, a task committed by `create`
has one outbox record describing it, a record stems from one commit, and every message
carries the payload of a record whose task was committed. -/
theorem create_dual_write {state : State} (ran : Runs Always (.initial {}) state) :
    DualWrite (state.observe programs) := by
  obtain ⟨machine, ran, same⟩ := implements.path ran
  have holds := transactional_holds ran
  have provenance : Provenance machine.world.toLedger := holds.globally
  rw [← show machine.observe flow = state.observe programs from same]
  constructor
  case described =>
    intro commit found
    obtain ⟨_, written, _⟩ := provenance.owned.commits commit found
    obtain ⟨body, called, task⟩ := local_authored (holds.locally commit.caller) commit.task written
    exact ⟨⟨body, Slot.call?_observe.trans called, task⟩,
      (provenance.owned.announced commit found).describes⟩
  case recorded => exact fun commit found => provenance.recorded found
  case stored =>
    intro record found
    obtain ⟨commit, known, stems⟩ := provenance.stored record found
    refine ⟨commit, ⟨known, stems⟩, fun other ⟨known', stems'⟩ => ?_⟩
    exact provenance.owned.eq_of_record known' known (stems'.id.symm.trans stems.id)
  case callers => exact provenance.owned.callers
  case uncommitted => exact fun pid silent => provenance.uncommitted silent
  case tasks => exact provenance.tasks
  case saga =>
    intro id saga record found same
    obtain ⟨commit, known, stems⟩ := provenance.stored record found
    rw [provenance.taskId_eq known stems, Option.some.injEq] at same
    refine (provenance.owned.saga id saga).2 commit.caller ?_
    rw [← ObjectId.toString_injective same]
    exact provenance.owned.holds_task known
  case emitted => exact provenance.emitted
  case returned =>
    intro pid body message task finished
    obtain ⟨_, honest⟩ := by
      simpa only [transactional, Slot.of_observe_finished finished] using holds.locally pid
    obtain ⟨committed, written⟩ := honest body rfl message task rfl
    obtain ⟨commit, found, rfl⟩ := provenance.owned.committed pid committed
    have same := (provenance.owned.commits commit found).2.1.symm.trans written
    exact ⟨commit, found, rfl, Option.some.inj same⟩

/-- The theorem at a run in which a task is created and its record is delivered. -/
theorem create_dual_write_delivered :
    ∃ state ∈ run step (.initial {}) (Sample.created ++ Sample.deliveredBy 0 1),
      state.world.emits.map (·.event) = [Sample.recordId] ∧ DualWrite (state.observe programs) := by
  obtain ⟨state, ran, emitted⟩ :
      ∃ state ∈ run step (.initial {}) (Sample.created ++ Sample.deliveredBy 0 1),
        state.world.emits.map (·.event) = [Sample.recordId] := by decide +kernel
  exact ⟨state, ran, emitted, create_dual_write (.of_run ran .always)⟩

end WorkflowHub.TaskService
