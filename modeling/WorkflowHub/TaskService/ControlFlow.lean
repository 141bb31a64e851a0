import WorkflowHub.TaskService.System

/-!
# Program points of the task service

The points at which the methods and a poll run can be suspended, with the values they
carry along, and where each reply leads. `implements` says that this table describes the
programs of `TaskServiceService` and of `OutboxPollerService`.

A poll run carries the document it works on and the records of the batch it has not
reached yet. The two points at `event.save()` differ in what follows a rejection: the one
inside the `try` block falls into the `catch` block, the one inside the `catch` block ends
the run.
-/

set_option autoImplicit false

namespace WorkflowHub.TaskService

open Processes

/-- A point at which a call awaits an operation. -/
inductive Pc where
  | startSession (body : TaskBody)
  | createTaskInSession (body : TaskBody)
  | createOutboxInSession (body : TaskBody) (task : Task)
  | commitTransaction (task : Task)
  | abortTransaction (error : Thrown)
  | endSession (outcome : Except Thrown Reply)
  | createTask (body : TaskBody)
  | findTasks (userId : String)
  | findByIdAndDelete (taskId : String)
  | findPending
  | emit (event : Outbox) (rest : List Outbox)
  | saveCompleted (document : OutboxDocument) (rest : List Outbox)
  | saveCaught (document : OutboxDocument) (rest : List Outbox)

/-- The operation awaited at a point. -/
def Pc.op : Pc → Op
  | .startSession _ => .startSession
  | .createTaskInSession body => .createTaskInSession body
  | .createOutboxInSession body task =>
      .createOutboxInSession TASK_CREATED (createPayload body task) .pending 0
  | .commitTransaction _ => .commitTransaction
  | .abortTransaction _ => .abortTransaction
  | .endSession _ => .endSession
  | .createTask body => .createTask body
  | .findTasks userId => .findTasks userId
  | .findByIdAndDelete taskId => .findByIdAndDelete taskId
  | .findPending => .findPending batchSize
  | .emit event _ => .emit event.id event.pattern event.payload
  | .saveCompleted document _ => .save document
  | .saveCaught document _ => .save document

/-- The copies a call holds: the document it works on, and the rest of the batch. -/
def Pc.batch : Pc → List Outbox
  | .emit event rest => event :: rest
  | .saveCompleted document rest => document.event :: rest
  | .saveCaught document rest => document.event :: rest
  | _ => []

/-- The document a call is about to save. -/
def Pc.saves : Pc → Option OutboxDocument
  | .saveCompleted document _ => some document
  | .saveCaught document _ => some document
  | _ => none

theorem Pc.saves_op {pc : Pc} {document : OutboxDocument} (saves : pc.saves = some document) :
    pc.op = .save document ∧ ∃ rest, pc.batch = document.event :: rest := by
  cases pc with
  | saveCompleted document' rest => cases saves; exact ⟨rfl, rest, rfl⟩
  | saveCaught document' rest => cases saves; exact ⟨rfl, rest, rfl⟩
  | _ => cases saves

namespace OutboxDocument

/-- The assignments after an acknowledged `emit`. -/
def completed (now : ℕ) (document : OutboxDocument) : OutboxDocument :=
  let document := (document.setStatus .completed).setProcessedAt now
  document.setAttempts (document.event.attempts + 1)

/-- The assignments of the `catch` block. -/
def caught (now : ℕ) (error : Thrown) (document : OutboxDocument) : OutboxDocument :=
  let document := document.setAttempts (document.event.attempts + 1)
  let document := document.setError (errorText error)
  if document.event.attempts ≥ maxAttempts then
    (document.setStatus .failed).setProcessedAt now
  else document

end OutboxDocument

abbrev Led : Type := Fields × Target Pc (Except Thrown Reply)

namespace Led

/-- The end of a poll run that was past its check of `isPolling`. -/
def endPoll (fields : Fields) : Led := ({ fields with isPolling := false }, .finished (.ok .polled))

/-- On to the next record of the batch. -/
def pollNext (fields : Fields) : List Outbox → Led
  | [] => endPoll fields
  | event :: rest => (fields, .running (.emit event rest))

/-- Where a call goes first. -/
def enter (fields : Fields) : Call → Led
  | .create body => (fields, .running (.startSession body))
  | .findAllByUserId userId => (fields, .running (.findTasks userId))
  | .createSaga body => (fields, .running (.createTask body))
  | .deleteSaga taskId => (fields, .running (.findByIdAndDelete taskId))
  | .pollOutbox _ =>
      if fields.isPolling then (fields, .finished (.ok .polled))
      else ({ fields with isPolling := true }, .running .findPending)

/-- Where a reply leads. -/
def next (fields : Fields) : (pc : Pc) → Except Thrown pc.op.Value → Led
  | .startSession body, .ok _ => (fields, .running (.createTaskInSession body))
  | .startSession _, .error error => (fields, .finished (.error error))
  | .createTaskInSession body, .ok task => (fields, .running (.createOutboxInSession body task))
  | .createTaskInSession _, .error error => (fields, .running (.abortTransaction error))
  | .createOutboxInSession _ task, .ok _ => (fields, .running (.commitTransaction task))
  | .createOutboxInSession .., .error error => (fields, .running (.abortTransaction error))
  | .commitTransaction task, .ok _ =>
      (fields, .running (.endSession (.ok (.created "Task created successfully" task))))
  | .commitTransaction _, .error error => (fields, .running (.abortTransaction error))
  | .abortTransaction error, .ok _ =>
      (fields, .running (.endSession
        (.error (.rpcException 400 ("Task creation transaction failed: " ++ error.message)))))
  | .abortTransaction _, .error error => (fields, .running (.endSession (.error error)))
  | .endSession outcome, .ok _ => (fields, .finished outcome)
  | .endSession _, .error error => (fields, .finished (.error error))
  | .createTask _, .ok (some task) =>
      (fields, .finished (.ok (.created "Task created successfully via Saga" task)))
  | .createTask _, .ok none =>
      (fields, .finished (.error (.rpcException 400 "Task creation failed via Saga")))
  | .createTask _, .error error => (fields, .finished (.error error))
  | .findTasks _, .ok tasks =>
      (fields, .finished (.ok (.listed "Tasks fetched successfully" tasks)))
  | .findTasks _, .error error => (fields, .finished (.error error))
  | .findByIdAndDelete _, .ok (some _) =>
      (fields, .finished (.ok (.deleted true "Task deleted successfully")))
  | .findByIdAndDelete taskId, .ok none =>
      (fields, .finished (.error
        (.rpcException 404 ("Task with ID " ++ taskId ++ " not found for deletion"))))
  | .findByIdAndDelete _, .error error => (fields, .finished (.error error))
  | .findPending, .ok batch => pollNext fields batch
  | .findPending, .error _ => endPoll fields
  | .emit event rest, .ok _ =>
      (fields, .running (.saveCompleted (OutboxDocument.completed fields.now { event }) rest))
  | .emit event rest, .error error =>
      (fields, .running (.saveCaught (OutboxDocument.caught fields.now error { event }) rest))
  | .saveCompleted _ rest, .ok _ => pollNext fields rest
  | .saveCompleted document rest, .error error =>
      (fields, .running (.saveCaught (document.caught fields.now error) rest))
  | .saveCaught _ rest, .ok _ => pollNext fields rest
  | .saveCaught .., .error _ => endPoll fields

end Led

/-- The table of program points. -/
def flow : Flow (promises Op Op.Value Thrown) Fields Call Pc (Except Thrown Reply) where
  op _ pc := pc.op
  enter call fields := Led.enter fields call
  next _ pc reply fields := Led.next fields pc reply

/-! ## The table describes the programs -/

/-- The rest of a poll run that has `events` still to publish. -/
def pollRest (events : List Outbox) : Method Reply :=
  tryFinally
    (tryCatch
      (do
        events.forM fun event => publish.withVariable { event }
        pure .polled)
      fun _ => pure .polled)
    (setPolling false)

theorem tracks_pollRest (call : Call) : ∀ (events : List Outbox) (fields : Fields),
    Tracks flow call (Led.pollNext fields events) ((pollRest events).run fields)
  | [], _ => .done
  | event :: rest, fields => by
      refine Tracks.await fun reply fields => ?_
      cases reply with
      | ok _ =>
          refine Tracks.await fun reply fields => ?_
          cases reply with
          | ok _ => exact tracks_pollRest call rest fields
          | error error =>
              refine Tracks.await fun reply fields => ?_
              cases reply with
              | ok _ => exact tracks_pollRest call rest fields
              | error error => exact .done
      | error error =>
          refine Tracks.await fun reply fields => ?_
          cases reply with
          | ok _ => exact tracks_pollRest call rest fields
          | error error => exact .done

theorem tracks_pollOutbox (instanceId : ℕ) (fields : Fields) :
    Tracks flow (.pollOutbox instanceId) (Led.enter fields (.pollOutbox instanceId))
      (pollOutbox.run fields) := by
  obtain ⟨isPolling, now⟩ := fields
  cases isPolling with
  | true => exact .done
  | false =>
      refine Tracks.await fun reply fields => ?_
      cases reply with
      | ok batch =>
          cases batch with
          | nil => exact .done
          | cons event rest => exact tracks_pollRest _ (event :: rest) fields
      | error error => exact .done

/-- The `finally` block of `create`, after the rest of it ended with `outcome`. -/
theorem tracks_endSession {call : Call} (outcome : Except Thrown Reply) (fields : Fields) :
    Tracks flow call (fields, .running (.endSession outcome))
      ((tryFinally (ExceptT.mk (pure outcome)) session.endSession : Method Reply).run fields) := by
  cases outcome with
  | ok reply =>
      refine Tracks.await fun reply fields => ?_
      cases reply with
      | ok _ => exact .done
      | error error => exact .done
  | error error =>
      refine Tracks.await fun reply fields => ?_
      cases reply with
      | ok _ => exact .done
      | error error => exact .done

/-- The `catch` block of `create`, entered with `error`. -/
theorem tracks_abortTransaction {call : Call} (error : Thrown) (fields : Fields) :
    Tracks flow call (fields, .running (.abortTransaction error))
      ((tryFinally
        (do
          session.abortTransaction
          throw (.rpcException 400 ("Task creation transaction failed: " ++ error.message)))
        session.endSession : Method Reply).run fields) := by
  refine Tracks.await fun reply fields => ?_
  cases reply with
  | ok _ => exact tracks_endSession (.error _) fields
  | error error => exact tracks_endSession (.error error) fields

theorem tracks_create (body : TaskBody) (fields : Fields) :
    Tracks flow (.create body) (Led.enter fields (.create body)) ((create body).run fields) := by
  refine Tracks.await fun reply fields => ?_
  cases reply with
  | error error => exact .done
  | ok _ =>
      refine Tracks.await fun reply fields => ?_
      cases reply with
      | error error => exact tracks_abortTransaction error fields
      | ok task =>
          refine Tracks.await fun reply fields => ?_
          cases reply with
          | error error => exact tracks_abortTransaction error fields
          | ok _ =>
              refine Tracks.await fun reply fields => ?_
              cases reply with
              | error error => exact tracks_abortTransaction error fields
              | ok _ => exact tracks_endSession (.ok _) fields

/-- **The table of program points describes the programs.** -/
theorem implements : Implements flow fun call => (program call).run := by
  intro call fields
  cases call with
  | create body => exact tracks_create body fields
  | findAllByUserId userId =>
      refine Tracks.await fun reply fields => ?_
      cases reply with
      | ok tasks => exact .done
      | error error => exact .done
  | createSaga body =>
      refine Tracks.await fun reply fields => ?_
      cases reply with
      | ok created =>
          cases created with
          | none => exact .done
          | some task => exact .done
      | error error => exact .done
  | deleteSaga taskId =>
      refine Tracks.await fun reply fields => ?_
      cases reply with
      | ok deleted =>
          cases deleted with
          | none => exact .done
          | some task => exact .done
      | error error => exact .done
  | pollOutbox instanceId => exact tracks_pollOutbox instanceId fields

end WorkflowHub.TaskService
