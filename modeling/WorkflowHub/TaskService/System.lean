import Mathlib.Data.List.Sort
import Mathlib.Logic.Function.Basic
import WorkflowHub.Platform.Remote
import WorkflowHub.Processes.Tracking
import WorkflowHub.TaskService.OutboxPoller

/-!
# The task service with its database and Kafka

Any number of method calls and of poll runs, of any number of poller instances, side by
side over one MongoDB and one Kafka. `exec` is what each awaited operation does, under
each way it can end. A transaction writes to its session and becomes visible when it is
committed.

Some fields of the world are history that no operation reads: which calls committed what
(`commits`), which tasks came from `createSaga` (`sagaTasks`), which records the TTL index
removed (`pruned`), every call of `emit` (`emits`), and for each poll run which records it
has fetched and not written back yet (`copies`).
-/

set_option autoImplicit false

namespace WorkflowHub.TaskService

open Processes

/-! ## The world -/

inductive TransactionState where
  | absent
  | inProgress
  | committed
  | commitLost
  | aborted
  deriving DecidableEq, Repr

/-- The session of a call, with what its transaction has written. After a rejected commit
that was not applied the state is `commitLost`. -/
structure Session where
  state : TransactionState := .absent
  task : Option Task := none
  record : Option Outbox := none
  ended : ℕ := 0
  deriving DecidableEq, Repr

/-- One call of `emit`: whether Kafka acknowledged it, and whether the message is in the
topic. -/
structure Emit where
  event : ObjectId
  pattern : String
  payload : EventPayload
  acknowledged : Bool
  stored : Bool
  deriving DecidableEq, Repr

/-- What one call of `create` committed. -/
structure Commit where
  caller : ℕ
  task : Task
  record : Outbox
  deriving DecidableEq, Repr

/-- What MongoDB and Kafka hold, with the history. -/
structure Ledger where
  tasks : List Task := []
  outbox : List Outbox := []
  sessions : ℕ → Session := fun _ => {}
  emits : List Emit := []
  issued : List ObjectId := []
  commits : List Commit := []
  sagaTasks : List ObjectId := []
  pruned : List ObjectId := []

structure World extends Ledger where
  now : ℕ := 0
  isPolling : ℕ → Bool := fun _ => false
  copies : List (ℕ × ObjectId) := []

namespace Ledger

def setSession (ledger : Ledger) (pid : ℕ) (session : Session) : Ledger :=
  { ledger with sessions := Function.update ledger.sessions pid session }

/-- A new task in a transaction. -/
def writeTask (ledger : Ledger) (pid : ℕ) (task : Task) : Ledger :=
  { ledger.setSession pid { ledger.sessions pid with task := some task } with
    issued := task.id :: ledger.issued }

/-- A new outbox record in a transaction. -/
def writeRecord (ledger : Ledger) (pid : ℕ) (record : Outbox) : Ledger :=
  { ledger.setSession pid { ledger.sessions pid with record := some record } with
    issued := record.id :: ledger.issued }

/-- Make the writes of a transaction visible. -/
def commit (ledger : Ledger) (pid : ℕ) : Ledger :=
  let session := ledger.sessions pid
  { ledger.setSession pid { session with state := .committed } with
    tasks := ledger.tasks ++ session.task.toList
    outbox := ledger.outbox ++ session.record.toList
    commits := ledger.commits ++
      match session.task, session.record with
      | some task, some record => [⟨pid, task, record⟩]
      | _, _ => [] }

/-- A new task outside any transaction. -/
def insertTask (ledger : Ledger) (task : Task) : Ledger :=
  { ledger with
    tasks := ledger.tasks ++ [task]
    issued := task.id :: ledger.issued
    sagaTasks := ledger.sagaTasks ++ [task.id] }

def deleteTask (ledger : Ledger) (taskId : String) : Ledger :=
  { ledger with tasks := ledger.tasks.filter (·.id.toString ≠ taskId) }

/-- The oldest pending records, at most `limit` of them. -/
def pendingBatch (ledger : Ledger) (limit : ℕ) : List Outbox :=
  ((ledger.outbox.filter (·.status = .pending)).insertionSort (·.createdAt ≤ ·.createdAt)).take
    limit

theorem mem_pendingBatch {ledger : Ledger} {limit : ℕ} {record : Outbox}
    (fetched : record ∈ ledger.pendingBatch limit) :
    record ∈ ledger.outbox ∧ record.status = .pending := by
  have sorted := List.mem_of_mem_take fetched
  rw [List.mem_insertionSort, List.mem_filter] at sorted
  exact ⟨sorted.1, of_decide_eq_true sorted.2⟩

/-- The message of an `emit` call, with what becomes of it. -/
def publish (ledger : Ledger) (event : ObjectId) (pattern : String) (payload : EventPayload)
    (outcome : Outcome) : Ledger :=
  { ledger with
    emits := ledger.emits ++ [{
      event, pattern, payload
      acknowledged := outcome = .resolved
      stored := match outcome with
        | .rejected _ => false
        | _ => true }] }

/-- Write the modified fields of a document to the record with its id. -/
def writeBack (ledger : Ledger) (document : OutboxDocument) : Ledger :=
  { ledger with
    outbox := ledger.outbox.map fun record =>
      if record.id = document.event.id then document.applyTo record else record }

/-- The TTL index removes the record with this id. -/
def prune (ledger : Ledger) (id : ObjectId) : Ledger :=
  { ledger with
    outbox := ledger.outbox.filter (·.id ≠ id)
    pruned := ledger.pruned ++ [id] }

end Ledger

namespace World

/-- The records a call holds copies of. -/
def copiesOf (world : World) (pid : ℕ) : List ObjectId :=
  (world.copies.filter (·.1 = pid)).map (·.2)

/-- The call holds copies of these records, and of no others. -/
def hold (world : World) (pid : ℕ) (ids : List ObjectId) : World :=
  { world with copies := world.copies.filter (·.1 ≠ pid) ++ ids.map fun id => (pid, id) }

/-- The call is done with its copy of a record. -/
def release (world : World) (pid : ℕ) (id : ObjectId) : World :=
  world.hold pid ((world.copiesOf pid).erase id)

theorem mem_copiesOf {world : World} {pid : ℕ} {id : ObjectId} :
    id ∈ world.copiesOf pid ↔ (pid, id) ∈ world.copies := by
  simp [copiesOf]

@[simp] theorem copiesOf_hold_self (world : World) (pid : ℕ) (ids : List ObjectId) :
    (world.hold pid ids).copiesOf pid = ids := by
  simp [copiesOf, hold, List.filter_append, List.filter_filter, List.filter_map,
    Function.comp_def]

theorem copiesOf_hold_other (world : World) {pid other : ℕ} (different : other ≠ pid)
    (ids : List ObjectId) : (world.hold pid ids).copiesOf other = world.copiesOf other := by
  have kept : ∀ copy : ℕ × ObjectId, (decide (copy.1 = other) && !decide (copy.1 = pid)) =
      decide (copy.1 = other) := by
    intro copy
    by_cases same : copy.1 = other
    · simp [same, different]
    · simp [same]
  simp [copiesOf, hold, List.filter_append, List.filter_filter, List.filter_map,
    Function.comp_def, kept, Ne.symm different]

end World

/-! ## The operations -/

/-- A choice of the outside: how the operation ends, and the id a new document gets. -/
structure Answer where
  outcome : Outcome
  id : ObjectId
  deriving DecidableEq, Repr

/-- A call of a method, or a tick of a poller instance. -/
inductive Call where
  | create (body : TaskBody)
  | findAllByUserId (userId : String)
  | createSaga (body : TaskBody)
  | deleteSaga (taskId : String)
  | pollOutbox (instanceId : ℕ)
  deriving DecidableEq, Repr

/-- The method a call runs. -/
def program : Call → Method Reply
  | .create body => create body
  | .findAllByUserId userId => findAllByUserId userId
  | .createSaga body => createSaga body
  | .deleteSaga taskId => deleteSaga taskId
  | .pollOutbox _ => pollOutbox

/-- The effect of an operation, and its reply. The driver accepts a write of a session, a
commit or an abort only while the transaction is in progress; ids are never given out
twice; what cannot be cast to an id is rejected; a record that is not there cannot be saved. -/
def exec (world : World) (pid : ℕ) :
    (op : Op) → Answer → Option (World × Except Thrown op.Value)
  | .startSession, answer =>
      respond True answer.outcome world
        { world with toLedger := world.setSession pid { state := .inProgress } } ()
  | .createTaskInSession body, answer =>
      respond (body.Valid ∧ (world.sessions pid).state = .inProgress ∧ answer.id ∉ world.issued)
        answer.outcome world
        { world with toLedger := world.writeTask pid (body.toTask answer.id) }
        (body.toTask answer.id)
  | .createOutboxInSession pattern payload status attempts, answer =>
      let record : Outbox :=
        { id := answer.id, pattern, payload, status, attempts, error := none,
          processedAt := none, createdAt := world.now }
      respond ((world.sessions pid).state = .inProgress ∧ answer.id ∉ world.issued)
        answer.outcome world { world with toLedger := world.writeRecord pid record } ()
  | .commitTransaction, answer =>
      let session := world.sessions pid
      respond (session.state = .inProgress) answer.outcome
        (if session.state = .inProgress then
          { world with toLedger := world.setSession pid { session with state := .commitLost } }
        else world)
        { world with toLedger := world.commit pid } ()
  | .abortTransaction, answer =>
      let session := world.sessions pid
      respond (session.state = .inProgress) answer.outcome world
        { world with toLedger := world.setSession pid { session with state := .aborted } } ()
  | .endSession, answer =>
      let session := world.sessions pid
      respond True answer.outcome world
        { world with toLedger := world.setSession pid { session with
          state := if session.state = .inProgress then .aborted else session.state
          ended := session.ended + 1 } } ()
  | .createTask body, answer =>
      respond (body.Valid ∧ answer.id ∉ world.issued) answer.outcome world
        { world with toLedger := world.insertTask (body.toTask answer.id) }
        (some (body.toTask answer.id))
  | .findTasks userId, answer =>
      respond True answer.outcome world world (world.tasks.filter (·.userId = userId))
  | .findByIdAndDelete taskId, answer =>
      respond (isObjectId taskId) answer.outcome world
        { world with toLedger := world.deleteTask taskId }
        (world.tasks.find? (·.id.toString = taskId))
  | .findPending limit, answer =>
      let batch := world.pendingBatch limit
      respond True answer.outcome world
        (if answer.outcome = .resolved then world.hold pid (batch.map (·.id)) else world) batch
  | .emit event pattern payload, answer =>
      let published := { world with
        toLedger := world.publish event pattern payload answer.outcome }
      respond True answer.outcome published published ()
  | .save document, answer =>
      let written := { world with toLedger := world.writeBack document }
      respond (document.event.id ∈ world.outbox.map (·.id)) answer.outcome world
        (if answer.outcome = .resolved then written.release pid document.event.id else written) ()

/-! ## The system -/

/-- What moves by itself: time, and the TTL index. -/
inductive Env where
  | elapse (milliseconds : ℕ)
  | prune (id : ObjectId)
  deriving DecidableEq, Repr

/-- How long a record is kept after `processedAt`. -/
def expireAfterSeconds : ℕ := 604800

/-- The TTL index may remove the record. A record without `processedAt` never expires. -/
def Outbox.Expired (now : ℕ) (record : Outbox) : Prop :=
  ∃ date ∈ record.processedAt, date + expireAfterSeconds * 1000 ≤ now

instance (now : ℕ) (record : Outbox) : Decidable (record.Expired now) := by
  unfold Outbox.Expired
  infer_instance

def site : Site (promises Op Op.Value Thrown) Fields World Call (Except Thrown Reply) Answer Env where
  load world call :=
    { isPolling := match call with
        | .pollOutbox instanceId => world.isPolling instanceId
        | _ => false
      now := world.now }
  store world call fields :=
    match call with
    | .pollOutbox instanceId =>
        { world with isPolling := Function.update world.isPolling instanceId fields.isPolling }
    | _ => world
  start world _ _ := some world
  exec world pid _ := exec world pid
  finish world pid _ _ := world.hold pid []
  -- A crashed process takes its poller instance down with it; it comes back with fresh fields.
  crash world pid call :=
    { world.hold pid [] with
      isPolling := match call with
        | .pollOutbox instanceId => Function.update world.isPolling instanceId false
        | _ => world.isPolling }
  env world
    | .elapse milliseconds => some { world with now := world.now + milliseconds }
    | .prune id =>
        if ∃ record ∈ world.outbox, record.id = id ∧ record.Expired world.now then
          some { world with toLedger := world.prune id }
        else none

/-- What moves by itself is the clock, or it takes an expired record away. -/
theorem env_cases {world world' : World} {event : Env} (moved : site.env world event = some world') :
    (∃ milliseconds, event = .elapse milliseconds ∧
      world' = { world with now := world.now + milliseconds }) ∨
    ∃ record ∈ world.outbox, event = .prune record.id ∧
      world' = { world with toLedger := world.prune record.id } := by
  cases event with
  | elapse milliseconds => exact .inl ⟨milliseconds, rfl, (Option.some.inj moved).symm⟩
  | prune id =>
      simp only [site, Option.ite_none_right_eq_some, Option.some.injEq] at moved
      obtain ⟨⟨record, found, rfl, _⟩, rfl⟩ := moved
      exact .inr ⟨record, found, rfl, rfl⟩

theorem Ledger.prune_outbox_subset (ledger : Ledger) (id : ObjectId) :
    (ledger.prune id).outbox ⊆ ledger.outbox :=
  List.filter_subset_self _

/-! Neither the fields of the poller nor a call that ends or crashes touches the ledger. -/

theorem store_toLedger (world : World) (call : Call) (fields : Fields) :
    (site.store world call fields).toLedger = world.toLedger := by
  cases call <;> rfl

theorem land_toLedger {Pc : Type} (world : World) (pid : ℕ) (call : Call)
    (led : Fields × Target Pc (Except Thrown Reply)) :
    (Pool.land site world pid call led).1.toLedger = world.toLedger := by
  obtain ⟨fields, target⟩ := led
  cases target with
  | running pc => exact store_toLedger world call fields
  | finished out => exact store_toLedger world call fields

/-- The code of the calls. -/
def programs : Flow (promises Op Op.Value Thrown) Fields Call
    (Suspended (promises Op Op.Value Thrown) Fields (Except Thrown Reply)) (Except Thrown Reply) :=
  .ofPrograms fun call => (program call).run

/-- A state of the system. -/
abbrev State : Type :=
  Pool World Call (Suspended (promises Op Op.Value Thrown) Fields (Except Thrown Reply))
    (Except Thrown Reply)

/-- What a state shows: the world, and what each call awaits. -/
abbrev View : Type := Pool World Call Op (Except Thrown Reply)

abbrev Happening : Type := Event Call Answer Env

/-- One step of the system. -/
abbrev step : State → Happening → Option State := Pool.step site programs

/-- The runs of the system under a condition on what the states show. -/
abbrev Runs (C : View → Happening → Prop) : State → State → Prop :=
  Path step fun state event => C (state.observe programs) event

/-! ## Events of concrete runs -/

namespace Sample

def taskId : ObjectId := ⟨"65f0a1b2c3d4e5f6a7b8c9d0", rfl⟩

def recordId : ObjectId := ⟨"65f0a1b2c3d4e5f6a7b8c9d1", rfl⟩

def body : TaskBody := ⟨"65f0a1b2c3d4e5f6a7b8c9aa", "Welcome", "Your first task"⟩

def resolves (pid : ℕ) : Happening := .step pid ⟨.resolved, taskId⟩

def rejects (pid : ℕ) : Happening := .step pid ⟨.rejected (.error "Error" "timeout"), taskId⟩

/-- Call 0 creates a task and its outbox record. -/
def created : List Happening :=
  [.call 0 (.create body), resolves 0, resolves 0, .step 0 ⟨.resolved, recordId⟩, resolves 0,
    resolves 0]

/-- A poll run of one record, which Kafka acknowledges. -/
def deliveredBy (instanceId pid : ℕ) : List Happening :=
  [.call pid (.pollOutbox instanceId), resolves pid, resolves pid, resolves pid]

/-- A poll run of one record, which Kafka rejects. -/
def rejectedBy (instanceId pid : ℕ) : List Happening :=
  [.call pid (.pollOutbox instanceId), resolves pid, rejects pid, resolves pid]

/-- As many of them, one after the other. -/
def rejections : ℕ → List Happening
  | 0 => []
  | count + 1 => rejections count ++ rejectedBy 0 (count + 1)

end Sample

end WorkflowHub.TaskService
