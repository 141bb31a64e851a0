import WorkflowHub.TaskService.Ownership

/-!
# Where records and messages come from

Every outbox record stems from a commit, keeps the pattern and the payload it was
committed with, and stays until the TTL index removes it; every message stems from a
commit, too. These are facts of the ledger, and the lemmas below say which changes of the
ledger keep them.
-/

set_option autoImplicit false

namespace WorkflowHub.TaskService

/-- The record, possibly a copy of it, is the one the commit wrote. -/
structure Outbox.StemsFrom (record : Outbox) (commit : Commit) : Prop where
  id : record.id = commit.record.id
  pattern : record.pattern = commit.record.pattern
  payload : record.payload = commit.record.payload

/-- The record stems from some commit of the ledger. -/
def Ledger.Knows (ledger : Ledger) (record : Outbox) : Prop :=
  ∃ commit ∈ ledger.commits, record.StemsFrom commit

theorem Ledger.Knows.mono {ledger ledger' : Ledger} {record : Outbox} (known : ledger.Knows record)
    (grown : ledger.commits ⊆ ledger'.commits) : ledger'.Knows record := by
  obtain ⟨commit, found, stems⟩ := known
  exact ⟨commit, grown found, stems⟩

theorem Ledger.Knows.congr {ledger : Ledger} {record record' : Outbox} (known : ledger.Knows record)
    (id : record'.id = record.id) (pattern : record'.pattern = record.pattern)
    (payload : record'.payload = record.payload) : ledger.Knows record' := by
  obtain ⟨commit, found, stems⟩ := known
  exact ⟨commit, found, id.trans stems.id, pattern.trans stems.pattern,
    payload.trans stems.payload⟩

structure Provenance (ledger : Ledger) : Prop where
  owned : Ownership ledger
  stored : ∀ record ∈ ledger.outbox, ledger.Knows record
  nodup : (ledger.outbox.map (·.id)).Nodup
  kept : ∀ commit ∈ ledger.commits,
    commit.record.id ∈ ledger.outbox.map (·.id) ∨ commit.record.id ∈ ledger.pruned
  pruned : ∀ id ∈ ledger.pruned, id ∉ ledger.outbox.map (·.id) ∧
    ∃ commit ∈ ledger.commits, commit.record.id = id
  tasks : ∀ task ∈ ledger.tasks,
    (∃ commit ∈ ledger.commits, commit.task = task) ∨ task.id ∈ ledger.sagaTasks
  emitted : ∀ emit ∈ ledger.emits, ∃ commit ∈ ledger.commits, emit.event = commit.record.id ∧
    emit.pattern = commit.record.pattern ∧ emit.payload = commit.record.payload

namespace OutboxDocument

variable (document : OutboxDocument) (stored : Outbox)

/-! Saving a document assigns neither the id nor what was to be published. -/

@[simp] theorem applyTo_id : (document.applyTo stored).id = stored.id := rfl

@[simp] theorem applyTo_pattern : (document.applyTo stored).pattern = stored.pattern := rfl

@[simp] theorem applyTo_payload : (document.applyTo stored).payload = stored.payload := rfl

end OutboxDocument

/-- The ids of the stored records are not affected by a save. -/
@[simp] theorem Ledger.writeBack_ids (ledger : Ledger) (document : OutboxDocument) :
    (ledger.writeBack document).outbox.map (·.id) = ledger.outbox.map (·.id) := by
  simp only [Ledger.writeBack, List.map_map]
  refine List.map_congr_left fun record _ => ?_
  simp only [Function.comp_apply]
  split
  · rfl
  · rfl

/-- A record after a save: it was there before, and it is the saved one if the ids agree. -/
theorem Ledger.mem_writeBack {ledger : Ledger} {document : OutboxDocument} {record : Outbox}
    (found : record ∈ (ledger.writeBack document).outbox) :
    ∃ before ∈ ledger.outbox, before.id = record.id ∧
      record = if before.id = document.event.id then document.applyTo before else before := by
  obtain ⟨before, there, rfl⟩ := List.mem_map.mp found
  refine ⟨before, there, ?_, rfl⟩
  split
  · rfl
  · rfl

namespace Provenance

variable {ledger : Ledger}

/-- Copies of records with one id carry the same pattern and payload. -/
theorem agree (provenance : Provenance ledger) {first second : Outbox}
    (here : ledger.Knows first) (there : ledger.Knows second) (same : first.id = second.id) :
    first.pattern = second.pattern ∧ first.payload = second.payload := by
  obtain ⟨commit, found, stems⟩ := here
  obtain ⟨commit', found', stems'⟩ := there
  have one : commit = commit' := provenance.owned.eq_of_record found found'
    (stems.id.symm.trans (same.trans stems'.id))
  subst one
  exact ⟨stems.pattern.trans stems'.pattern.symm, stems.payload.trans stems'.payload.symm⟩

/-- Sessions and ids given out do not matter to records and messages. -/
theorem setSessions (provenance : Provenance ledger) {sessions : ℕ → Session}
    {issued : List ObjectId} (owned : Ownership { ledger with sessions, issued }) :
    Provenance { ledger with sessions, issued } where
  owned := owned
  stored := provenance.stored
  nodup := provenance.nodup
  kept := provenance.kept
  pruned := provenance.pruned
  tasks := provenance.tasks
  emitted := provenance.emitted

theorem commits_subset {pid : ℕ} : ledger.commits ⊆ (ledger.commit pid).commits :=
  List.subset_append_left _ _

theorem commit (provenance : Provenance ledger) {pid : ℕ} {task : Task} {record : Outbox}
    (open' : (ledger.sessions pid).state ≠ .committed)
    (hasTask : (ledger.sessions pid).task = some task)
    (hasRecord : (ledger.sessions pid).record = some record) (announces : record.Announces task) :
    Provenance (ledger.commit pid) := by
  have owned := provenance.owned.commit open' hasTask hasRecord announces
  have commits : (ledger.commit pid).commits = ledger.commits ++ [⟨pid, task, record⟩] := by
    simp only [Ledger.commit, hasTask, hasRecord]
  have outbox : (ledger.commit pid).outbox = ledger.outbox ++ [record] := by
    simp only [Ledger.commit, hasRecord, Option.toList_some]
  have here : (⟨pid, task, record⟩ : Commit) ∈ (ledger.commit pid).commits := by
    rw [commits]
    exact List.mem_append_right _ (List.mem_singleton_self _)
  -- A record that stems from an earlier commit has another owner.
  have other : ∀ {commit : Commit}, commit ∈ ledger.commits → commit.record.id ≠ record.id := by
    intro commit found same
    refine provenance.owned.caller_ne open' found ?_
    exact provenance.owned.unique (provenance.owned.holds_record found)
      (.inr ⟨record, hasRecord, same.symm⟩)
  constructor
  case owned => exact owned
  case stored =>
    intro stored found
    rw [outbox, List.mem_append, List.mem_singleton] at found
    rcases found with found | rfl
    · exact (provenance.stored stored found).mono commits_subset
    · exact ⟨_, here, rfl, rfl, rfl⟩
  case nodup =>
    rw [outbox, List.map_append, List.map_singleton]
    refine provenance.nodup.append (List.nodup_singleton _) ?_
    intro id before fresh
    obtain ⟨stored, found, rfl⟩ := List.mem_map.mp before
    obtain ⟨commit, known, stems⟩ := provenance.stored stored found
    exact other known (stems.id.symm.trans (List.mem_singleton.mp fresh))
  case kept =>
    intro commit found
    rw [commits, List.mem_append, List.mem_singleton] at found
    rw [outbox, List.map_append, List.mem_append]
    rcases found with found | rfl
    · rcases provenance.kept commit found with present | gone
      · exact .inl (.inl present)
      · exact .inr gone
    · exact .inl (.inr (List.mem_singleton_self _))
  case pruned =>
    intro id gone
    obtain ⟨absent, commit, found, same⟩ := provenance.pruned id gone
    refine ⟨?_, commit, commits_subset found, same⟩
    rw [outbox, List.map_append, List.mem_append, List.map_singleton, List.mem_singleton]
    rintro (present | rfl)
    · exact absent present
    · exact other found same
  case tasks =>
    intro stored found
    have grown : (ledger.commit pid).tasks = ledger.tasks ++ [task] := by
      simp only [Ledger.commit, hasTask, Option.toList_some]
    rw [grown, List.mem_append, List.mem_singleton] at found
    rcases found with found | rfl
    · rcases provenance.tasks stored found with ⟨commit, known, same⟩ | saga
      · exact .inl ⟨commit, commits_subset known, same⟩
      · exact .inr saga
    · exact .inl ⟨_, here, rfl⟩
  case emitted =>
    intro emit found
    obtain ⟨commit, known, same⟩ := provenance.emitted emit found
    exact ⟨commit, commits_subset known, same⟩

theorem insertTask (provenance : Provenance ledger) {task : Task}
    (fresh : task.id ∉ ledger.issued) : Provenance (ledger.insertTask task) where
  owned := provenance.owned.insertTask fresh
  stored := provenance.stored
  nodup := provenance.nodup
  kept := provenance.kept
  pruned := provenance.pruned
  tasks := by
    intro stored found
    rcases List.mem_append.mp found with found | found
    · rcases provenance.tasks stored found with commit | saga
      · exact .inl commit
      · exact .inr (List.mem_append_left _ saga)
    · rw [List.mem_singleton.mp found]
      exact .inr (List.mem_append_right _ (List.mem_singleton_self _))
  emitted := provenance.emitted

theorem deleteTask (provenance : Provenance ledger) {taskId : String} :
    Provenance (ledger.deleteTask taskId) where
  owned := provenance.owned.congr rfl rfl rfl rfl
  stored := provenance.stored
  nodup := provenance.nodup
  kept := provenance.kept
  pruned := provenance.pruned
  tasks task found := provenance.tasks task (List.mem_of_mem_filter found)
  emitted := provenance.emitted

/-- What is published is a copy of a record that stems from a commit. -/
theorem publish (provenance : Provenance ledger) {event : Outbox} (known : ledger.Knows event)
    (outcome : Outcome) :
    Provenance (ledger.publish event.id event.pattern event.payload outcome) where
  owned := provenance.owned.congr rfl rfl rfl rfl
  stored := provenance.stored
  nodup := provenance.nodup
  kept := provenance.kept
  pruned := provenance.pruned
  tasks := provenance.tasks
  emitted := by
    intro emit found
    rcases List.mem_append.mp found with found | found
    · exact provenance.emitted emit found
    · obtain ⟨commit, known, stems⟩ := known
      rw [List.mem_singleton.mp found]
      exact ⟨commit, known, stems.id, stems.pattern, stems.payload⟩

theorem writeBack (provenance : Provenance ledger) (document : OutboxDocument) :
    Provenance (ledger.writeBack document) where
  owned := provenance.owned.congr rfl rfl rfl rfl
  stored := by
    intro record found
    obtain ⟨before, there, same, rfl⟩ := Ledger.mem_writeBack found
    split
    · exact (provenance.stored before there).congr rfl rfl rfl
    · exact provenance.stored before there
  nodup := by
    rw [Ledger.writeBack_ids]
    exact provenance.nodup
  kept := by
    rw [Ledger.writeBack_ids]
    exact provenance.kept
  pruned := by
    rw [Ledger.writeBack_ids]
    exact provenance.pruned
  tasks := provenance.tasks
  emitted := provenance.emitted

theorem prune (provenance : Provenance ledger) {record : Outbox} (found : record ∈ ledger.outbox) :
    Provenance (ledger.prune record.id) where
  owned := provenance.owned.congr rfl rfl rfl rfl
  stored stored there := provenance.stored stored (List.mem_of_mem_filter there)
  nodup := provenance.nodup.sublist (List.filter_sublist.map _)
  kept := by
    intro commit known
    rcases provenance.kept commit known with present | gone
    · by_cases same : commit.record.id = record.id
      · exact .inr (List.mem_append_right _ (List.mem_singleton.mpr same))
      · obtain ⟨stored, there, equal⟩ := List.mem_map.mp present
        refine .inl (List.mem_map.mpr ⟨stored, List.mem_filter.mpr ⟨there, ?_⟩, equal⟩)
        simpa only [equal, ne_eq, decide_not, Bool.not_eq_eq_eq_not, Bool.not_true,
          decide_eq_false_iff_not] using same
    · exact .inr (List.mem_append_left _ gone)
  pruned := by
    intro id gone
    rcases List.mem_append.mp gone with gone | gone
    · obtain ⟨absent, commit⟩ := provenance.pruned id gone
      refine ⟨fun present => absent ?_, commit⟩
      obtain ⟨stored, there, same⟩ := List.mem_map.mp present
      exact List.mem_map.mpr ⟨stored, List.mem_of_mem_filter there, same⟩
    · rw [List.mem_singleton.mp gone]
      refine ⟨fun present => ?_, ?_⟩
      · obtain ⟨stored, there, same⟩ := List.mem_map.mp present
        exact of_decide_eq_true (List.mem_filter.mp there).2 same
      · obtain ⟨commit, known, stems⟩ := provenance.stored record found
        exact ⟨commit, known, stems.id.symm⟩
  tasks := provenance.tasks
  emitted := provenance.emitted

end Provenance

end WorkflowHub.TaskService
