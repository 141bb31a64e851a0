import WorkflowHub.Processes.Assertions
import WorkflowHub.TaskService.ControlFlow
import WorkflowHub.TaskService.Provenance

/-!
# The transaction of `create`, program point by program point

`create` writes a task and an outbox record in one transaction. The assertions of this
file follow the transaction through the program points of `create`, and the copies of
records through those of the poller; together with `Provenance` they are an invariant of
the task service (`transactional_holds`).
-/

set_option autoImplicit false

namespace WorkflowHub.TaskService

open Processes

/-- A task written in the transaction of a call is the one its body asks for. -/
def Authored (call : Call) (session : Session) : Prop :=
  ∀ task ∈ session.task, ∃ body, call = .create body ∧ task = body.toTask task.id

/-- The reply `create` sends is about the task it committed. -/
def Honest (session : Session) (out : Except Thrown Reply) : Prop :=
  ∀ message task, out = .ok (.created message task) →
    session.state = .committed ∧ session.task = some task

/-- What holds at a program point, of the ledger and of the session of the call. -/
def Pc.Sound (ledger : Ledger) (session : Session) (call : Call) : Pc → Prop
  | .startSession body => call = .create body ∧ session = {}
  | .createTaskInSession body => call = .create body ∧ session = { state := .inProgress }
  | .createOutboxInSession body task =>
      session = { state := .inProgress, task := some task } ∧ body.Valid ∧
        task = body.toTask task.id
  | .commitTransaction task =>
      ∃ record, session = { state := .inProgress, task := some task, record := some record } ∧
        record.Announces task
  | .endSession outcome => Honest session outcome
  | .createTask body => call = .createSaga body
  | .emit event rest => ∀ copy ∈ event :: rest, ledger.Knows copy
  | .saveCompleted document rest => ∀ copy ∈ document.event :: rest, ledger.Knows copy
  | .saveCaught document rest => ∀ copy ∈ document.event :: rest, ledger.Knows copy
  | .abortTransaction _ | .findTasks _ | .findByIdAndDelete _ | .findPending => True

/-- What holds where a segment leads. -/
def Sound (ledger : Ledger) (session : Session) (call : Call) :
    Target Pc (Except Thrown Reply) → Prop
  | .running pc => pc.Sound ledger session call
  | .finished out => ∀ body, call = .create body → Honest session out

theorem Pc.Sound.mono {ledger ledger' : Ledger} {session : Session} {call : Call} {pc : Pc}
    (grown : ledger.commits ⊆ ledger'.commits) (sound : pc.Sound ledger session call) :
    pc.Sound ledger' session call := by
  cases pc with
  | emit event rest => exact fun copy held => (sound copy held).mono grown
  | saveCompleted document rest => exact fun copy held => (sound copy held).mono grown
  | saveCaught document rest => exact fun copy held => (sound copy held).mono grown
  | _ => exact sound

/-- The document a call is about to save is a copy of a known record. -/
theorem Pc.Sound.saves {ledger : Ledger} {session : Session} {call : Call} {pc : Pc}
    {document : OutboxDocument} (sound : pc.Sound ledger session call)
    (saves : pc.saves = some document) : ledger.Knows document.event := by
  cases pc with
  | saveCompleted document' rest => cases saves; exact sound _ List.mem_cons_self
  | saveCaught document' rest => cases saves; exact sound _ List.mem_cons_self
  | _ => cases saves

/-- `Provenance`, and the transaction of each call at its program point. -/
def transactional : Assertions World Call Pc (Except Thrown Reply) where
  Global world := Provenance world.toLedger
  Local world pid slot :=
    match slot with
    | .free => world.sessions pid = {}
    | .running call pc =>
        Authored call (world.sessions pid) ∧
          Sound world.toLedger (world.sessions pid) call (.running pc)
    | .finished call out =>
        Authored call (world.sessions pid) ∧
          Sound world.toLedger (world.sessions pid) call (.finished out)
    | .crashed call => Authored call (world.sessions pid)

/-- What a step of call `pid` does to the ledger as far as other calls can tell: it stays
with its own session, and commits are not undone. -/
structure Confined (pid : ℕ) (ledger ledger' : Ledger) : Prop where
  sessions : ∀ other, other ≠ pid → ledger'.sessions other = ledger.sessions other
  commits : ledger.commits ⊆ ledger'.commits

theorem Confined.refl (pid : ℕ) (ledger : Ledger) : Confined pid ledger ledger :=
  ⟨fun _ _ => rfl, List.Subset.refl _⟩

/-- A change of one session and of anything but the commits. -/
theorem Confined.setSession {pid : ℕ} {ledger ledger' : Ledger} {session : Session}
    (sessions : ledger'.sessions = Function.update ledger.sessions pid session)
    (commits : ledger'.commits = ledger.commits) : Confined pid ledger ledger' where
  sessions other different := by rw [sessions, Function.update_of_ne different]
  commits := by rw [commits]; exact List.Subset.refl _

/-- The assertions of other calls survive. -/
theorem Confined.others {pid : ℕ} {world world' : World}
    (confined : Confined pid world.toLedger world'.toLedger) {other : ℕ} (different : other ≠ pid)
    {slot : Slot Call Pc (Except Thrown Reply)} (holds : transactional.Local world other slot) :
    transactional.Local world' other slot := by
  have same : world'.sessions other = world.sessions other := confined.sessions other different
  cases slot with
  | free => exact same.trans holds
  | running call pc =>
      simp only [transactional, Sound, same]
      exact ⟨holds.1, holds.2.mono confined.commits⟩
  | finished call out =>
      simp only [transactional, Sound, same]
      exact holds
  | crashed call =>
      simp only [transactional, same]
      exact holds

/-! ## What a performed operation leaves -/

/-- What an operation leaves behind at a sound program point: everything the invariant asks
for, but for where the call goes next. -/
structure Performed (world : World) (pid : ℕ) (call : Call) (world' : World) : Prop where
  provenance : Provenance world'.toLedger
  confined : Confined pid world.toLedger world'.toLedger
  authored : Authored call (world'.sessions pid)

namespace Performed

variable {world : World} {pid : ℕ} {call : Call}

/-- Nothing happened. -/
theorem unchanged (provenance : Provenance world.toLedger)
    (authored : Authored call (world.sessions pid)) : Performed world pid call world :=
  ⟨provenance, .refl pid _, authored⟩

/-- The ledger changed, but not the sessions and the commits. -/
theorem elsewhere {world' : World} (authored : Authored call (world.sessions pid))
    (provenance : Provenance world'.toLedger)
    (sessions : world'.sessions = world.sessions) (commits : world'.commits = world.commits) :
    Performed world pid call world' where
  provenance := provenance
  confined := ⟨fun other _ => by rw [sessions], by rw [commits]; exact List.Subset.refl _⟩
  authored := by rw [sessions]; exact authored

/-- The state of the session changed, to one that is committed if the old one is. -/
theorem session {session : Session} (provenance : Provenance world.toLedger)
    (authored : Authored call (world.sessions pid))
    (task : session.task = (world.sessions pid).task)
    (record : session.record = (world.sessions pid).record)
    (state : session.state = .committed ↔ (world.sessions pid).state = .committed) :
    Performed world pid call { world with toLedger := world.setSession pid session } where
  provenance := provenance.setSessions (provenance.owned.setSession task record state)
  confined := .setSession rfl rfl
  authored := by
    simp only [Ledger.setSession, Function.update_self, Authored, task]
    exact authored

theorem saved {world' : World} {document : OutboxDocument} {answer : Answer}
    {reply : Except Thrown Unit} (provenance : Provenance world.toLedger)
    (authored : Authored call (world.sessions pid))
    (answered : exec world pid (.save document) answer = some (world', reply)) :
    Performed world pid call world' := by
  rcases respond_cases answered with ⟨rfl, _⟩ | ⟨_, rfl, _⟩
  · exact .unchanged provenance authored
  · split
    · exact .elsewhere authored (provenance.writeBack document) rfl rfl
    · exact .elsewhere authored (provenance.writeBack document) rfl rfl

end Performed

/-- The state after an operation at a sound program point. -/
theorem performed {world world' : World} {pid : ℕ} {call : Call} {pc : Pc} {answer : Answer}
    {reply : Except Thrown pc.op.Value} (provenance : Provenance world.toLedger)
    (authored : Authored call (world.sessions pid))
    (sound : pc.Sound world.toLedger (world.sessions pid) call)
    (answered : exec world pid pc.op answer = some (world', reply)) :
    Performed world pid call world' := by
  cases pc with
  | startSession body =>
      obtain ⟨rfl, fresh⟩ := sound
      rcases respond_cases answered with ⟨rfl, _⟩ | ⟨_, rfl, _⟩
      · exact .unchanged provenance authored
      · refine .session provenance authored ?_ ?_ ?_
        · rw [fresh]
        · rw [fresh]
        · simp [fresh]
  | createTaskInSession body =>
      obtain ⟨rfl, opened⟩ := sound
      rcases respond_cases answered with ⟨rfl, _⟩ | ⟨⟨_, _, fresh⟩, rfl, _⟩
      · exact .unchanged provenance authored
      · refine ⟨provenance.setSessions (provenance.owned.writeTask fresh ?_), .setSession rfl rfl, ?_⟩
        · simp [opened]
        · intro task written
          simp only [Ledger.writeTask, Ledger.setSession, Function.update_self,
            Option.mem_some_iff] at written
          exact ⟨body, rfl, by rw [← written]; rfl⟩
  | createOutboxInSession body task =>
      obtain ⟨opened, _, _⟩ := sound
      rcases respond_cases answered with ⟨rfl, _⟩ | ⟨⟨_, fresh⟩, rfl, _⟩
      · exact .unchanged provenance authored
      · refine ⟨provenance.setSessions (provenance.owned.writeRecord fresh ?_),
          .setSession rfl rfl, ?_⟩
        · simp [opened]
        · simp only [Ledger.writeRecord, Ledger.setSession, Function.update_self]
          exact authored
  | commitTransaction task =>
      obtain ⟨record, opened, announces⟩ := sound
      rcases respond_cases answered with ⟨rfl, _⟩ | ⟨_, rfl, _⟩
      · split
        · refine .session provenance authored rfl rfl ?_
          simp [opened]
        · exact .unchanged provenance authored
      · refine ⟨provenance.commit ?_ (by rw [opened]) (by rw [opened]) announces, ⟨?_, ?_⟩, ?_⟩
        · simp [opened]
        · intro other different
          simp only [Ledger.commit, Ledger.setSession, Function.update_of_ne different]
        · exact Provenance.commits_subset
        · simp only [Ledger.commit, Ledger.setSession, Function.update_self]
          exact authored
  | abortTransaction error =>
      rcases respond_cases answered with ⟨rfl, _⟩ | ⟨opened, rfl, _⟩
      · exact .unchanged provenance authored
      · refine .session provenance authored rfl rfl ?_
        simp [opened]
  | endSession outcome =>
      rcases respond_cases answered with ⟨rfl, _⟩ | ⟨_, rfl, _⟩
      · exact .unchanged provenance authored
      · refine .session provenance authored rfl rfl ?_
        by_cases opened : (world.sessions pid).state = .inProgress
        · simp [opened]
        · simp [opened]
  | createTask body =>
      rcases respond_cases answered with ⟨rfl, _⟩ | ⟨⟨_, fresh⟩, rfl, _⟩
      · exact .unchanged provenance authored
      · exact .elsewhere authored (provenance.insertTask fresh) rfl rfl
  | findTasks userId =>
      rcases respond_cases answered with ⟨rfl, _⟩ | ⟨_, rfl, _⟩
      · exact .unchanged provenance authored
      · exact .unchanged provenance authored
  | findByIdAndDelete taskId =>
      rcases respond_cases answered with ⟨rfl, _⟩ | ⟨_, rfl, _⟩
      · exact .unchanged provenance authored
      · exact .elsewhere authored provenance.deleteTask rfl rfl
  | findPending =>
      rcases respond_cases answered with ⟨rfl, _⟩ | ⟨_, rfl, _⟩
      · exact .unchanged provenance authored
      · split
        · exact .elsewhere authored provenance rfl rfl
        · exact .unchanged provenance authored
  | emit event rest =>
      have published := provenance.publish (sound event List.mem_cons_self) answer.outcome
      rcases respond_cases answered with ⟨rfl, _⟩ | ⟨_, rfl, _⟩
      · exact .elsewhere authored published rfl rfl
      · exact .elsewhere authored published rfl rfl
  | saveCompleted document rest => exact .saved provenance authored answered
  | saveCaught document rest => exact .saved provenance authored answered

/-! ## Records and messages -/

section Effect

variable {world world' : World} {pid : ℕ} {pc : Pc} {answer : Answer}
  {reply : Except Thrown pc.op.Value}

/-- A save writes the document back, unless it is rejected. -/
theorem outbox_save {document : OutboxDocument} {reply : Except Thrown Unit}
    (answered : exec world pid (.save document) answer = some (world', reply)) :
    (world'.outbox = world.outbox ∧ answer.outcome ≠ .resolved) ∨
      (world'.outbox = (world.writeBack document).outbox ∧
        ∀ error, answer.outcome ≠ .rejected error) := by
  rcases respond_cases answered with ⟨rfl, error, rejected, _⟩ | ⟨_, rfl, applied⟩
  · exact .inl ⟨rfl, fun resolved => by cases rejected.symm.trans resolved⟩
  · right
    refine ⟨?_, fun error rejected => ?_⟩
    · split <;> rfl
    · rcases applied with ⟨resolved, _⟩ | ⟨error', applied, _⟩
      · cases resolved.symm.trans rejected
      · cases applied.symm.trans rejected

/-- What an operation makes of the stored records: it leaves them as they are, it saves the
document the call works on, or it commits a new pending record. -/
theorem outbox_cases {call : Call} (provenance : Provenance world.toLedger)
    (sound : pc.Sound world.toLedger (world.sessions pid) call)
    (answered : exec world pid pc.op answer = some (world', reply)) :
    (world'.outbox = world.outbox ∧
        ∀ document, pc.saves = some document → answer.outcome ≠ .resolved) ∨
      (∃ document, pc.saves = some document ∧
        world'.outbox = (world.writeBack document).outbox ∧
        ∀ error, answer.outcome ≠ .rejected error) ∨
      ∃ record : Outbox, record.status = .pending ∧ record.attempts = 0 ∧
        record.processedAt = none ∧ pc.saves = none ∧ world'.outbox = world.outbox ++ [record] ∧
        ∀ commit ∈ world.commits, commit.record.id ≠ record.id := by
  cases pc with
  | commitTransaction task =>
      obtain ⟨record, opened, announces⟩ := sound
      rcases respond_cases answered with ⟨rfl, _⟩ | ⟨_, rfl, _⟩
      · left
        refine ⟨?_, fun _ saves => by cases saves⟩
        split <;> rfl
      · right; right
        refine ⟨record, announces.status, announces.attempts, announces.processedAt, rfl,
          ?_, fun commit found same => ?_⟩
        · simp only [Ledger.commit, opened, Option.toList_some]
        · have open' : (world.sessions pid).state ≠ .committed := by simp [opened]
          refine provenance.owned.caller_ne open' found ?_
          refine provenance.owned.unique (provenance.owned.holds_record found) ?_
          exact .inr ⟨record, by simp [opened], same.symm⟩
  | saveCompleted document rest =>
      rcases outbox_save answered with ⟨same, unresolved⟩ | ⟨written, applied⟩
      · exact .inl ⟨same, fun _ _ => unresolved⟩
      · exact .inr (.inl ⟨document, rfl, written, applied⟩)
  | saveCaught document rest =>
      rcases outbox_save answered with ⟨same, unresolved⟩ | ⟨written, applied⟩
      · exact .inl ⟨same, fun _ _ => unresolved⟩
      · exact .inr (.inl ⟨document, rfl, written, applied⟩)
  | findPending =>
      rcases respond_cases answered with ⟨rfl, _⟩ | ⟨_, rfl, _⟩
      · exact .inl ⟨rfl, fun _ saves => by cases saves⟩
      · left
        refine ⟨?_, fun _ saves => by cases saves⟩
        split <;> rfl
  | _ =>
      rcases respond_cases answered with ⟨rfl, _⟩ | ⟨_, rfl, _⟩
      · exact .inl ⟨rfl, fun _ saves => by cases saves⟩
      · exact .inl ⟨rfl, fun _ saves => by cases saves⟩

/-- `emit` adds its message, however it ends. -/
theorem emits_emit {event : Outbox} {rest : List Outbox}
    {reply : Except Thrown (Pc.emit event rest).op.Value}
    (answered : exec world pid (Pc.emit event rest).op answer = some (world', reply)) :
    ∃ stored, world'.emits = world.emits ++
      [⟨event.id, event.pattern, event.payload, decide (answer.outcome = .resolved), stored⟩] := by
  rcases respond_cases answered with ⟨rfl, _⟩ | ⟨_, rfl, _⟩
  · exact ⟨_, rfl⟩
  · exact ⟨_, rfl⟩

/-- What an operation makes of the messages: `emit` adds one, and nothing else does. -/
theorem emits_cases (answered : exec world pid pc.op answer = some (world', reply)) :
    world'.emits = world.emits ∨ ∃ event rest stored, pc = .emit event rest ∧
      world'.emits = world.emits ++
        [⟨event.id, event.pattern, event.payload, decide (answer.outcome = .resolved), stored⟩] := by
  cases pc with
  | commitTransaction task =>
      rcases respond_cases answered with ⟨rfl, _⟩ | ⟨_, rfl, _⟩
      · left
        split <;> rfl
      · exact .inl rfl
  | findPending =>
      rcases respond_cases answered with ⟨rfl, _⟩ | ⟨_, rfl, _⟩
      · exact .inl rfl
      · left
        split <;> rfl
  | emit event rest =>
      obtain ⟨stored, added⟩ := emits_emit answered
      exact .inr ⟨event, rest, stored, rfl, added⟩
  | saveCompleted document rest =>
      rcases respond_cases answered with ⟨rfl, _⟩ | ⟨_, rfl, _⟩
      · exact .inl rfl
      · left
        split <;> rfl
  | saveCaught document rest =>
      rcases respond_cases answered with ⟨rfl, _⟩ | ⟨_, rfl, _⟩
      · exact .inl rfl
      · left
        split <;> rfl
  | _ =>
      rcases respond_cases answered with ⟨rfl, _⟩ | ⟨_, rfl, _⟩
      · exact .inl rfl
      · exact .inl rfl

/-- No message is taken back. -/
theorem emits_subset (answered : exec world pid pc.op answer = some (world', reply)) :
    world.emits ⊆ world'.emits := by
  rcases emits_cases answered with same | ⟨event, rest, stored, _, added⟩
  · rw [same]
    exact List.Subset.refl _
  · rw [added]
    exact List.subset_append_left _ _

end Effect

/-! ## Where the calls go -/

/-- On to the rest of a batch of known records. -/
theorem sound_pollNext {ledger : Ledger} {session : Session} {call : Call} {fields : Fields}
    {rest : List Outbox} (known : ∀ copy ∈ rest, ledger.Knows copy) :
    Sound ledger session call (Led.pollNext fields rest).2 := by
  cases rest with
  | nil => exact fun _ _ _ _ created => nomatch created
  | cons event rest => exact known

theorem knows_completed {ledger : Ledger} {event : Outbox} {rest : List Outbox} {now : ℕ}
    (known : ∀ copy ∈ event :: rest, ledger.Knows copy) :
    ∀ copy ∈ (OutboxDocument.completed now { event }).event :: rest, ledger.Knows copy := by
  intro copy found
  rcases List.mem_cons.mp found with rfl | found
  · exact (known event List.mem_cons_self).congr rfl rfl rfl
  · exact known copy (List.mem_cons_of_mem _ found)

/-- The `catch` block assigns neither the id nor what was to be published. -/
theorem caught_same (now : ℕ) (error : Thrown) (document : OutboxDocument) :
    (document.caught now error).event.id = document.event.id ∧
      (document.caught now error).event.pattern = document.event.pattern ∧
      (document.caught now error).event.payload = document.event.payload := by
  simp only [OutboxDocument.caught]
  split
  · exact ⟨rfl, rfl, rfl⟩
  · exact ⟨rfl, rfl, rfl⟩

theorem knows_caught {ledger : Ledger} {document : OutboxDocument} {rest : List Outbox} {now : ℕ}
    {error : Thrown} (known : ∀ copy ∈ document.event :: rest, ledger.Knows copy) :
    ∀ copy ∈ (document.caught now error).event :: rest, ledger.Knows copy := by
  intro copy found
  rcases List.mem_cons.mp found with rfl | found
  · obtain ⟨id, pattern, payload⟩ := caught_same now error document
    exact (known _ List.mem_cons_self).congr id pattern payload
  · exact known copy (List.mem_cons_of_mem _ found)

theorem sound_enter {ledger : Ledger} {session : Session} {fields : Fields} {call : Call}
    (fresh : session = {}) : Sound ledger session call (Led.enter fields call).2 := by
  cases call with
  | create body => exact ⟨rfl, fresh⟩
  | findAllByUserId userId => trivial
  | createSaga body => exact rfl
  | deleteSaga taskId => trivial
  | pollOutbox instanceId =>
      simp only [Led.enter]
      split
      · exact fun _ _ _ _ created => nomatch created
      · trivial

/-- The program point after an operation at a sound program point is sound. -/
theorem sound_next {world world' : World} {pid : ℕ} {call : Call} {pc : Pc} {answer : Answer}
    {reply : Except Thrown pc.op.Value} {fields : Fields} (provenance : Provenance world.toLedger)
    (sound : pc.Sound world.toLedger (world.sessions pid) call)
    (answered : exec world pid pc.op answer = some (world', reply))
    (grown : world.commits ⊆ world'.commits) :
    Sound world'.toLedger (world'.sessions pid) call (Led.next fields pc reply).2 := by
  cases pc with
  | startSession body =>
      obtain ⟨rfl, fresh⟩ := sound
      cases reply with
      | error error => exact fun _ _ _ _ created => by cases created
      | ok _ =>
          obtain ⟨_, rfl, _, _⟩ := respond_ok answered
          exact ⟨rfl, by simp only [Ledger.setSession, Function.update_self]⟩
  | createTaskInSession body =>
      obtain ⟨rfl, opened⟩ := sound
      cases reply with
      | error error => trivial
      | ok task =>
          obtain ⟨⟨valid, _, _⟩, rfl, rfl, _⟩ := respond_ok answered
          refine ⟨?_, valid, rfl⟩
          simp only [Ledger.writeTask, Ledger.setSession, Function.update_self, opened]
  | createOutboxInSession body task =>
      obtain ⟨opened, valid, same⟩ := sound
      cases reply with
      | error error => trivial
      | ok _ =>
          obtain ⟨_, rfl, _, _⟩ := respond_ok answered
          let record : Outbox :=
            { id := answer.id, pattern := TASK_CREATED, payload := createPayload body task,
              status := .pending, attempts := 0, error := none, processedAt := none,
              createdAt := world.now }
          have announces : record.Announces task := ⟨rfl, ⟨body, valid, same, rfl⟩, rfl, rfl, rfl⟩
          refine ⟨record, ?_, announces⟩
          simp only [Ledger.writeRecord, Ledger.setSession, Function.update_self, opened, record]
  | commitTransaction task =>
      obtain ⟨record, opened, _⟩ := sound
      cases reply with
      | error error => trivial
      | ok _ =>
          obtain ⟨_, rfl, _, _⟩ := respond_ok answered
          intro message created same
          cases same
          simp only [Ledger.commit, Ledger.setSession, Function.update_self, opened, and_self]
  | abortTransaction error =>
      cases reply with
      | error error => exact fun _ _ created => by cases created
      | ok _ => exact fun _ _ created => by cases created
  | endSession outcome =>
      cases reply with
      | error error => exact fun _ _ _ _ created => by cases created
      | ok _ =>
          obtain ⟨_, rfl, _, _⟩ := respond_ok answered
          intro body _ message task created
          obtain ⟨committed, written⟩ := sound message task created
          simp only [Ledger.setSession, Function.update_self, committed, reduceCtorEq, ↓reduceIte,
            written, and_self]
  | createTask body =>
      have other : ∀ body', call ≠ .create body' := fun body' same => by cases sound.symm.trans same
      cases reply with
      | error error => exact fun body' same => absurd same (other body')
      | ok created =>
          cases created with
          | none => exact fun body' same => absurd same (other body')
          | some task => exact fun body' same => absurd same (other body')
  | findTasks userId =>
      cases reply with
      | error error => exact fun _ _ _ _ created => by cases created
      | ok tasks => exact fun _ _ _ _ created => by cases created
  | findByIdAndDelete taskId =>
      cases reply with
      | error error => exact fun _ _ _ _ created => by cases created
      | ok deleted =>
          cases deleted with
          | none => exact fun _ _ _ _ created => by cases created
          | some task => exact fun _ _ _ _ created => by cases created
  | findPending =>
      cases reply with
      | error error => exact fun _ _ _ _ created => by cases created
      | ok batch =>
          obtain ⟨_, rfl, rfl, _⟩ := respond_ok answered
          exact sound_pollNext fun copy fetched =>
            (provenance.stored copy (Ledger.mem_pendingBatch fetched).1).mono grown
  | emit event rest =>
      have known : ∀ copy ∈ event :: rest, world'.Knows copy :=
        fun copy held => (sound copy held).mono grown
      cases reply with
      | error error => exact knows_caught known
      | ok _ => exact knows_completed known
  | saveCompleted document rest =>
      have known : ∀ copy ∈ document.event :: rest, world'.Knows copy :=
        fun copy held => (sound copy held).mono grown
      cases reply with
      | error error => exact knows_caught known
      | ok _ => exact sound_pollNext fun copy held => known copy (List.mem_cons_of_mem _ held)
  | saveCaught document rest =>
      have known : ∀ copy ∈ document.event :: rest, world'.Knows copy :=
        fun copy held => (sound copy held).mono grown
      cases reply with
      | error error => exact fun _ _ _ _ created => by cases created
      | ok _ => exact sound_pollNext fun copy held => known copy (List.mem_cons_of_mem _ held)

/-- The entry of a call after a segment, from what holds where the segment leads. -/
theorem local_land {world : World} {pid : ℕ} {call : Call} {led : Led}
    (authored : Authored call (world.sessions pid))
    (sound : Sound world.toLedger (world.sessions pid) call led.2) :
    transactional.Local (Pool.land site world pid call led).1 pid
      (Pool.land site world pid call led).2 := by
  obtain ⟨fields, target⟩ := led
  cases target with
  | running pc =>
      simp only [transactional, Pool.land_running, store_toLedger]
      exact ⟨authored, sound⟩
  | finished out =>
      have same : (site.finish (site.store world call fields) pid call out).toLedger =
          world.toLedger := store_toLedger world call fields
      simp only [transactional, Pool.land_finished, same]
      exact ⟨authored, sound⟩

theorem transactional_valid : transactional.Valid site flow fun _ _ => True where
  call := by
    intro pool pid call world holds _ free started
    cases started
    have fresh : pool.world.sessions pid = {} := by
      simpa only [transactional, free] using holds.locally pid
    refine ⟨?_, local_land ?_ (sound_enter fresh), fun other different before => ?_⟩
    · simpa only [transactional, land_toLedger] using holds.globally
    · intro task written
      rw [fresh] at written
      cases written
    · refine Confined.others ?_ different before
      rw [land_toLedger]
      exact .refl pid _
  step := by
    intro pool pid choice call pc world reply holds _ running answered
    obtain ⟨authored, sound⟩ := by simpa only [transactional, running] using holds.locally pid
    have done := performed holds.globally authored sound answered
    refine ⟨?_, local_land done.authored
      (sound_next holds.globally sound answered done.confined.commits), ?_⟩
    · simpa only [transactional, land_toLedger] using done.provenance
    · intro other different before
      refine Confined.others ?_ different before
      rw [land_toLedger]
      exact done.confined
  crashPending := by
    intro pool pid call pc holds _ running
    obtain ⟨authored, _⟩ := by simpa only [transactional, running] using holds.locally pid
    exact ⟨holds.globally, authored, fun other different before =>
      Confined.others (.refl pid _) different before⟩
  crashPerformed := by
    intro pool pid choice call pc world reply holds _ running answered
    obtain ⟨authored, sound⟩ := by simpa only [transactional, running] using holds.locally pid
    have done := performed holds.globally authored sound answered
    exact ⟨done.provenance, done.authored, fun other different before =>
      Confined.others done.confined different before⟩
  env := by
    intro pool event world holds _ moved
    rcases env_cases moved with ⟨milliseconds, rfl, rfl⟩ | ⟨record, found, rfl, rfl⟩
    · exact ⟨holds.globally, fun pid before => before⟩
    · exact ⟨Provenance.prune holds.globally found, fun pid before => before⟩

theorem transactional_initial : transactional.Holds (.initial {}) := by
  refine ⟨⟨⟨?_, ?_, ?_, ?_, ?_, ?_, ?_⟩, ?_, ?_, ?_, ?_, ?_, ?_⟩, fun pid => rfl⟩
  all_goals simp [Pool.initial, Session.Holds]

/-- The runs of the table of program points, under a condition on what the states show. -/
abbrev FlowRuns (C : View → Happening → Prop) :
    Pool World Call Pc (Except Thrown Reply) → Pool World Call Pc (Except Thrown Reply) → Prop :=
  Path (Pool.step site flow) fun pool event => C (pool.observe flow) event

/-- The assertions hold in every state of the table of program points. -/
theorem transactional_holds {C : View → Happening → Prop}
    {machine : Pool World Call Pc (Except Thrown Reply)} (ran : FlowRuns C (.initial {}) machine) :
    transactional.Holds machine :=
  transactional_valid.path (ran.mono fun _ _ _ => trivial) transactional_initial

/-- They may be assumed at every step of a run. -/
theorem transactional_path {C : View → Happening → Prop}
    {machine : Pool World Call Pc (Except Thrown Reply)} (ran : FlowRuns C (.initial {}) machine) :
    Path (Pool.step site flow) (fun pool event => C (pool.observe flow) event ∧
      transactional.Holds pool) (.initial {}) machine :=
  ran.strengthen transactional_initial fun before event after _ =>
    transactional_valid.preserved before event after trivial

/-- Records and messages stem from commits in every state of the programs. -/
theorem provenance_of_run {C : View → Happening → Prop} {state : State}
    (ran : Runs C (.initial {}) state) : Provenance state.world.toLedger := by
  obtain ⟨machine, ran, same⟩ := implements.path ran
  have ran : FlowRuns C (.initial {}) machine := ran
  rw [← show machine.world = state.world from congrArg Pool.world same]
  exact (transactional_holds ran).globally

end WorkflowHub.TaskService
