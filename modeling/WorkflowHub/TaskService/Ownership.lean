import Mathlib.Data.List.Nodup
import WorkflowHub.TaskService.System

/-!
# Who owns which document

Ids are given out once, so each id written in a transaction belongs to the one call whose
transaction it is. `Ownership` relates the ids in the sessions to those given out, and the
history of commits to the sessions; the lemmas below say that each change of a session
keeps it. That every id has one owner is what makes the correspondence of tasks and outbox
records one to one.
-/

set_option autoImplicit false

namespace WorkflowHub.TaskService

/-- The transaction of the session has written a document with this id. -/
def Session.Holds (session : Session) (id : ObjectId) : Prop :=
  (∃ task ∈ session.task, task.id = id) ∨ ∃ record ∈ session.record, record.id = id

theorem Session.Holds.congr {first second : Session} (task : first.task = second.task)
    (record : first.record = second.record) {id : ObjectId} (holds : first.Holds id) :
    second.Holds id := by
  simpa only [Session.Holds, task, record] using holds

/-- A record as `create` writes it next to `task`. -/
structure Outbox.Announces (record : Outbox) (task : Task) : Prop where
  pattern : record.pattern = TASK_CREATED
  payload : ∃ body : TaskBody, body.Valid ∧ task = body.toTask task.id ∧
    record.payload = createPayload body task
  status : record.status = .pending
  attempts : record.attempts = 0
  processedAt : record.processedAt = none

/-- What the payload says of the task. -/
theorem Outbox.Announces.describes {record : Outbox} {task : Task}
    (announces : record.Announces task) :
    record.payload.taskId = some task.id.toString ∧ record.payload.userId = some task.userId ∧
      record.payload.title = some task.title := by
  obtain ⟨body, _, same, payload⟩ := announces.payload
  rw [payload, same]
  exact ⟨rfl, rfl, rfl⟩

structure Ownership (ledger : Ledger) : Prop where
  issued : ∀ {pid id}, (ledger.sessions pid).Holds id → id ∈ ledger.issued
  unique : ∀ {pid other id}, (ledger.sessions pid).Holds id → (ledger.sessions other).Holds id →
    pid = other
  saga : ∀ id ∈ ledger.sagaTasks, id ∈ ledger.issued ∧ ∀ pid, ¬ (ledger.sessions pid).Holds id
  commits : ∀ commit ∈ ledger.commits,
    (ledger.sessions commit.caller).state = .committed ∧
      (ledger.sessions commit.caller).task = some commit.task ∧
      (ledger.sessions commit.caller).record = some commit.record
  committed : ∀ pid, (ledger.sessions pid).state = .committed →
    ∃ commit ∈ ledger.commits, commit.caller = pid
  callers : (ledger.commits.map (·.caller)).Nodup
  announced : ∀ commit ∈ ledger.commits, commit.record.Announces commit.task

namespace Ownership

variable {ledger : Ledger}

theorem holds_task (owned : Ownership ledger) {commit : Commit} (found : commit ∈ ledger.commits) :
    (ledger.sessions commit.caller).Holds commit.task.id :=
  .inl ⟨commit.task, (owned.commits commit found).2.1, rfl⟩

theorem holds_record (owned : Ownership ledger) {commit : Commit}
    (found : commit ∈ ledger.commits) :
    (ledger.sessions commit.caller).Holds commit.record.id :=
  .inr ⟨commit.record, (owned.commits commit found).2.2, rfl⟩

/-- A call commits once. -/
theorem eq_of_caller (owned : Ownership ledger) {first second : Commit}
    (here : first ∈ ledger.commits) (there : second ∈ ledger.commits)
    (same : first.caller = second.caller) : first = second :=
  List.inj_on_of_nodup_map owned.callers here there same

/-- Two commits with a record of the same id are one. -/
theorem eq_of_record (owned : Ownership ledger) {first second : Commit}
    (here : first ∈ ledger.commits) (there : second ∈ ledger.commits)
    (same : first.record.id = second.record.id) : first = second :=
  owned.eq_of_caller here there
    (owned.unique (owned.holds_record here) (same ▸ owned.holds_record there))

/-- Two commits with a task of the same id are one. -/
theorem eq_of_task (owned : Ownership ledger) {first second : Commit}
    (here : first ∈ ledger.commits) (there : second ∈ ledger.commits)
    (same : first.task.id = second.task.id) : first = second :=
  owned.eq_of_caller here there
    (owned.unique (owned.holds_task here) (same ▸ owned.holds_task there))

/-! ## Changes of the ledger -/

/-- Ownership is about the sessions, the ids given out, and the two histories of inserts. -/
theorem congr {ledger' : Ledger} (owned : Ownership ledger)
    (sessions : ledger'.sessions = ledger.sessions) (issued : ledger'.issued = ledger.issued)
    (commits : ledger'.commits = ledger.commits)
    (sagaTasks : ledger'.sagaTasks = ledger.sagaTasks) : Ownership ledger' := by
  cases ledger'
  cases sessions
  cases issued
  cases commits
  cases sagaTasks
  exact ⟨owned.issued, owned.unique, owned.saga, owned.commits, owned.committed, owned.callers,
    owned.announced⟩

/-- A call that has not committed is no caller of a commit. -/
theorem caller_ne (owned : Ownership ledger) {pid : ℕ}
    (open' : (ledger.sessions pid).state ≠ .committed) {commit : Commit}
    (found : commit ∈ ledger.commits) : commit.caller ≠ pid := by
  rintro rfl
  exact open' (owned.commits commit found).1

/-- The state of a session may change as long as it says the same about being committed. -/
theorem setSession (owned : Ownership ledger) {pid : ℕ} {session : Session}
    (task : session.task = (ledger.sessions pid).task)
    (record : session.record = (ledger.sessions pid).record)
    (state : session.state = .committed ↔ (ledger.sessions pid).state = .committed) :
    Ownership (ledger.setSession pid session) := by
  have held : ∀ {other id}, ((ledger.setSession pid session).sessions other).Holds id →
      (ledger.sessions other).Holds id := by
    intro other id holds
    by_cases same : other = pid
    · subst same
      simp only [Ledger.setSession, Function.update_self] at holds
      exact holds.congr task record
    · simpa only [Ledger.setSession, Function.update_of_ne same] using holds
  constructor
  case issued => exact fun holds => owned.issued (held holds)
  case unique => exact fun here there => owned.unique (held here) (held there)
  case saga =>
    exact fun id found => ⟨(owned.saga id found).1, fun other holds =>
      (owned.saga id found).2 other (held holds)⟩
  case commits =>
    intro commit found
    obtain ⟨committed, hasTask, hasRecord⟩ := owned.commits commit found
    by_cases same : commit.caller = pid
    · simp only [same] at committed hasTask hasRecord
      simp only [Ledger.setSession, same, Function.update_self, task, record]
      exact ⟨state.mpr committed, hasTask, hasRecord⟩
    · simpa only [Ledger.setSession, Function.update_of_ne same] using owned.commits commit found
  case committed =>
    intro other committed
    by_cases same : other = pid
    · subst same
      simp only [Ledger.setSession, Function.update_self] at committed
      exact owned.committed other (state.mp committed)
    · simp only [Ledger.setSession, Function.update_of_ne same] at committed
      exact owned.committed other committed
  case callers => exact owned.callers
  case announced => exact owned.announced

/-- The transaction of a session that has not committed may write one more document, under
an id not given out before. -/
theorem write (owned : Ownership ledger) {pid : ℕ} {session : Session} {id : ObjectId}
    (fresh : id ∉ ledger.issued) (open' : (ledger.sessions pid).state ≠ .committed)
    (state : session.state = (ledger.sessions pid).state)
    (held : ∀ other, session.Holds other → other = id ∨ (ledger.sessions pid).Holds other) :
    Ownership { ledger.setSession pid session with issued := id :: ledger.issued } := by
  have known : ∀ {other written}, (Function.update ledger.sessions pid session other).Holds written →
      other = pid ∧ written = id ∨ (ledger.sessions other).Holds written := by
    intro other written holds
    by_cases same : other = pid
    · subst same
      rw [Function.update_self] at holds
      rcases held written holds with rfl | before
      · exact .inl ⟨rfl, rfl⟩
      · exact .inr before
    · rw [Function.update_of_ne same] at holds
      exact .inr holds
  constructor
  case issued =>
    intro other written holds
    rcases known holds with ⟨_, rfl⟩ | before
    · exact List.mem_cons_self
    · exact List.mem_cons_of_mem _ (owned.issued before)
  case unique =>
    intro first second written here there
    rcases known here with ⟨rfl, rfl⟩ | before
    · rcases known there with ⟨rfl, _⟩ | before
      · rfl
      · exact absurd (owned.issued before) fresh
    · rcases known there with ⟨rfl, rfl⟩ | before'
      · exact absurd (owned.issued before) fresh
      · exact owned.unique before before'
  case saga =>
    intro written found
    obtain ⟨issued, free⟩ := owned.saga written found
    refine ⟨List.mem_cons_of_mem _ issued, fun other holds => ?_⟩
    rcases known holds with ⟨_, rfl⟩ | before
    · exact fresh issued
    · exact free other before
  case commits =>
    intro commit found
    have other := owned.caller_ne open' found
    simpa only [Ledger.setSession, Function.update_of_ne other] using owned.commits commit found
  case committed =>
    intro other committed
    by_cases same : other = pid
    · subst same
      simp only [Ledger.setSession, Function.update_self, state] at committed
      exact absurd committed open'
    · simp only [Ledger.setSession, Function.update_of_ne same] at committed
      exact owned.committed other committed
  case callers => exact owned.callers
  case announced => exact owned.announced

theorem writeTask (owned : Ownership ledger) {pid : ℕ} {task : Task}
    (fresh : task.id ∉ ledger.issued) (open' : (ledger.sessions pid).state ≠ .committed) :
    Ownership (ledger.writeTask pid task) := by
  refine owned.write fresh open' rfl fun other holds => ?_
  rcases holds with ⟨written, same, rfl⟩ | holds
  · cases same
    exact .inl rfl
  · exact .inr (.inr holds)

theorem writeRecord (owned : Ownership ledger) {pid : ℕ} {record : Outbox}
    (fresh : record.id ∉ ledger.issued) (open' : (ledger.sessions pid).state ≠ .committed) :
    Ownership (ledger.writeRecord pid record) := by
  refine owned.write fresh open' rfl fun other holds => ?_
  rcases holds with holds | ⟨written, same, rfl⟩
  · exact .inr (.inl holds)
  · cases same
    exact .inl rfl

/-- The commit of a transaction that has written a task and the record announcing it. -/
theorem commit (owned : Ownership ledger) {pid : ℕ} {task : Task} {record : Outbox}
    (open' : (ledger.sessions pid).state ≠ .committed)
    (hasTask : (ledger.sessions pid).task = some task)
    (hasRecord : (ledger.sessions pid).record = some record) (announces : record.Announces task) :
    Ownership (ledger.commit pid) := by
  have held : ∀ {other id}, ((ledger.commit pid).sessions other).Holds id →
      (ledger.sessions other).Holds id := by
    intro other id holds
    by_cases same : other = pid
    · subst same
      simp only [Ledger.commit, Ledger.setSession, Function.update_self] at holds
      exact holds.congr rfl rfl
    · simpa only [Ledger.commit, Ledger.setSession, Function.update_of_ne same] using holds
  have commits : (ledger.commit pid).commits = ledger.commits ++ [⟨pid, task, record⟩] := by
    simp only [Ledger.commit, hasTask, hasRecord]
  constructor
  case issued => exact fun holds => owned.issued (held holds)
  case unique => exact fun here there => owned.unique (held here) (held there)
  case saga =>
    exact fun id found => ⟨(owned.saga id found).1, fun other holds =>
      (owned.saga id found).2 other (held holds)⟩
  case commits =>
    intro commit found
    rw [commits, List.mem_append, List.mem_singleton] at found
    rcases found with found | rfl
    · have other := owned.caller_ne open' found
      simpa only [Ledger.commit, Ledger.setSession, Function.update_of_ne other] using
        owned.commits commit found
    · simp only [Ledger.commit, Ledger.setSession, Function.update_self]
      exact ⟨trivial, hasTask, hasRecord⟩
  case committed =>
    intro other committed
    rw [commits]
    by_cases same : other = pid
    · exact ⟨_, List.mem_append_right _ (List.mem_singleton_self _), same.symm⟩
    · simp only [Ledger.commit, Ledger.setSession, Function.update_of_ne same] at committed
      obtain ⟨commit, found, caller⟩ := owned.committed other committed
      exact ⟨commit, List.mem_append_left _ found, caller⟩
  case callers =>
    rw [commits, List.map_append, List.map_singleton]
    refine owned.callers.append (List.nodup_singleton _) ?_
    intro caller before here
    obtain ⟨commit, found, rfl⟩ := List.mem_map.mp before
    exact owned.caller_ne open' found (List.mem_singleton.mp here)
  case announced =>
    intro commit found
    rw [commits, List.mem_append, List.mem_singleton] at found
    rcases found with found | rfl
    · exact owned.announced commit found
    · exact announces

/-- A task inserted outside any transaction belongs to no session. -/
theorem insertTask (owned : Ownership ledger) {task : Task} (fresh : task.id ∉ ledger.issued) :
    Ownership (ledger.insertTask task) := by
  constructor
  case issued => exact fun holds => List.mem_cons_of_mem _ (owned.issued holds)
  case unique => exact owned.unique
  case saga =>
    intro id found
    rcases List.mem_append.mp found with found | found
    · exact ⟨List.mem_cons_of_mem _ (owned.saga id found).1, (owned.saga id found).2⟩
    · rw [List.mem_singleton.mp found]
      exact ⟨List.mem_cons_self, fun pid holds => fresh (owned.issued holds)⟩
  case commits => exact owned.commits
  case committed => exact owned.committed
  case callers => exact owned.callers
  case announced => exact owned.announced

end Ownership

end WorkflowHub.TaskService
