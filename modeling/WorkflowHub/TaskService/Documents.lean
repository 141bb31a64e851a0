import Mathlib.Data.Nat.Notation
import WorkflowHub.Platform.TaskCreated

/-!
# Documents of the task service

Tasks, outbox records, and an outbox record as the poller holds it in memory: the values
of its fields and which of them were assigned since it was last saved. Saving writes the
assigned fields by id and nothing else (`OutboxDocument.applyTo`).
-/

set_option autoImplicit false

namespace WorkflowHub.TaskService

/-- The body of a request to create a task, as gRPC delivers it. -/
structure TaskBody where
  userId : String
  title : String
  description : String
  deriving DecidableEq, Repr

structure Task where
  id : ObjectId
  title : String
  description : String
  userId : String
  deriving DecidableEq, Repr

/-- All three fields of the schema are required, and a required string is not empty. -/
def TaskBody.Valid (body : TaskBody) : Prop :=
  body.title ≠ "" ∧ body.description ≠ "" ∧ body.userId ≠ ""

instance (body : TaskBody) : Decidable body.Valid := by
  unfold TaskBody.Valid
  infer_instance

/-- The document a valid body is stored as. -/
def TaskBody.toTask (body : TaskBody) (id : ObjectId) : Task where
  id := id
  title := body.title
  description := body.description
  userId := body.userId

/-- The status lifecycle of an outbox message. -/
inductive OutboxStatus where
  | pending
  | completed
  | failed
  deriving DecidableEq, Repr

/-- An outbox record. Times are in milliseconds. -/
structure Outbox where
  id : ObjectId
  pattern : String
  payload : EventPayload
  status : OutboxStatus
  attempts : ℕ
  error : Option String
  processedAt : Option ℕ
  createdAt : ℕ
  deriving DecidableEq, Repr

/-- The fields of a record the poller assigns, each with whether it was assigned. -/
structure Modified where
  status : Bool := false
  attempts : Bool := false
  error : Bool := false
  processedAt : Bool := false
  deriving DecidableEq, Repr

/-- A record held in memory: its values, and the paths modified since it was saved. -/
structure OutboxDocument where
  event : Outbox
  modified : Modified := {}
  deriving DecidableEq, Repr

namespace OutboxDocument

/-! An assignment marks the path as modified unless the value is the one already there. -/

def setStatus (status : OutboxStatus) (document : OutboxDocument) : OutboxDocument where
  event := { document.event with status }
  modified := { document.modified with
    status := document.modified.status || document.event.status != status }

def setAttempts (attempts : ℕ) (document : OutboxDocument) : OutboxDocument where
  event := { document.event with attempts }
  modified := { document.modified with
    attempts := document.modified.attempts || document.event.attempts != attempts }

def setError (error : String) (document : OutboxDocument) : OutboxDocument where
  event := { document.event with error := some error }
  modified := { document.modified with
    error := document.modified.error || document.event.error != some error }

def setProcessedAt (date : ℕ) (document : OutboxDocument) : OutboxDocument where
  event := { document.event with processedAt := some date }
  modified := { document.modified with
    processedAt := document.modified.processedAt || document.event.processedAt != some date }

/-- What saving the document makes of the stored record. -/
def applyTo (document : OutboxDocument) (stored : Outbox) : Outbox :=
  { stored with
    status := if document.modified.status then document.event.status else stored.status
    attempts := if document.modified.attempts then document.event.attempts else stored.attempts
    error := if document.modified.error then document.event.error else stored.error
    processedAt :=
      if document.modified.processedAt then document.event.processedAt else stored.processedAt }

/-- The document after it was saved. -/
def saved (document : OutboxDocument) : OutboxDocument := { document with modified := {} }

end OutboxDocument

end WorkflowHub.TaskService
