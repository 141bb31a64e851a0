import WorkflowHub.Processes.Handler
import WorkflowHub.TaskService.Documents

/-!
# `TaskServiceService`

The operations the task service awaits (on its MongoDB and on Kafka), under the names of
the objects they are called on, and the methods of `TaskServiceService`.
-/

set_option autoImplicit false

namespace WorkflowHub.TaskService

open Processes

/-- What the task service awaits. -/
inductive Op where
  | startSession
  | createTaskInSession (body : TaskBody)
  | createOutboxInSession (pattern : String) (payload : EventPayload) (status : OutboxStatus)
      (attempts : ℕ)
  | commitTransaction
  | abortTransaction
  | endSession
  | createTask (body : TaskBody)
  | findTasks (userId : String)
  | findByIdAndDelete (taskId : String)
  | findPending (limit : ℕ)
  | emit (event : ObjectId) (pattern : String) (payload : EventPayload)
  | save (document : OutboxDocument)
  deriving DecidableEq

/-- What each operation resolves with. -/
def Op.Value : Op → Type
  | .startSession => Unit
  | .createTaskInSession _ => Task
  | .createOutboxInSession .. => Unit
  | .commitTransaction => Unit
  | .abortTransaction => Unit
  | .endSession => Unit
  | .createTask _ => Option Task
  | .findTasks _ => List Task
  | .findByIdAndDelete _ => Option Task
  | .findPending _ => List Outbox
  | .emit .. => Unit
  | .save _ => Unit

/-- What a segment can read and write without awaiting: the poller's `isPolling`, and the
clock. -/
structure Fields where
  isPolling : Bool
  now : ℕ
  deriving DecidableEq, Repr

/-- What the methods resolve with. -/
inductive Reply where
  | created (message : String) (task : Task)
  | listed (message : String) (tasks : List Task)
  | deleted (success : Bool) (message : String)
  | polled
  deriving DecidableEq, Repr

abbrev Method := Handler Op Op.Value Thrown Fields

def connection.startSession : Method Unit := await Op.startSession

/-- `taskModel.create([body], { session })`. -/
def taskModel.createInSession (body : TaskBody) : Method Task := await (Op.createTaskInSession body)

/-- `outboxModel.create([{ … }], { session })`. -/
def outboxModel.createInSession (pattern : String) (payload : EventPayload)
    (status : OutboxStatus) (attempts : ℕ) : Method Unit :=
  await (Op.createOutboxInSession pattern payload status attempts)

def session.commitTransaction : Method Unit := await Op.commitTransaction

def session.abortTransaction : Method Unit := await Op.abortTransaction

def session.endSession : Method Unit := await Op.endSession

/-- `taskModel.create(body)`. -/
def taskModel.create (body : TaskBody) : Method (Option Task) := await (Op.createTask body)

/-- `taskModel.find({ userId })`. -/
def taskModel.find (userId : String) : Method (List Task) := await (Op.findTasks userId)

def taskModel.findByIdAndDelete (taskId : String) : Method (Option Task) :=
  await (Op.findByIdAndDelete taskId)

/-- The payload `create` puts into the outbox. -/
def createPayload (body : TaskBody) (task : Task) : EventPayload where
  userId := some body.userId
  taskId := some task.id.toString
  title := some task.title
  message := some "Task Created Successfully"
  type := some "EMAIL"

/-- `create`. `session.startTransaction()` runs in the segment after `startSession`. -/
def create (body : TaskBody) : Method Reply := do
  connection.startSession
  try
    let task ← taskModel.createInSession body
    outboxModel.createInSession TASK_CREATED (createPayload body task) .pending 0
    session.commitTransaction
    pure (.created "Task created successfully" task)
  catch error =>
    session.abortTransaction
    throw (.rpcException 400 ("Task creation transaction failed: " ++ error.message))
  finally
    session.endSession

def findAllByUserId (userId : String) : Method Reply := do
  let tasks ← taskModel.find userId
  pure (.listed "Tasks fetched successfully" tasks)

def createSaga (body : TaskBody) : Method Reply := do
  match ← taskModel.create body with
  | none => throw (.rpcException 400 "Task creation failed via Saga")
  | some task => pure (.created "Task created successfully via Saga" task)

def deleteSaga (taskId : String) : Method Reply := do
  match ← taskModel.findByIdAndDelete taskId with
  | none => throw (.rpcException 404 ("Task with ID " ++ taskId ++ " not found for deletion"))
  | some _ => pure (.deleted true "Task deleted successfully")

end WorkflowHub.TaskService
