import WorkflowHub.TaskService.Service

/-!
# `OutboxPollerService`

`pollOutbox`, and the body of its loop. The loop body works on one document and assigns
its fields; what it assigned before a rejection is still assigned in its `catch` block,
which serves both a rejected `emit` and a rejected `save` of the line after it.
-/

set_option autoImplicit false

namespace WorkflowHub.TaskService

open Processes

abbrev EventBlock := Block Op Op.Value Thrown Fields OutboxDocument

/-- `outboxModel.find({ status: PENDING }).sort({ createdAt: 1 }).limit(limit).exec()`. -/
def outboxModel.findPending (limit : ℕ) : Method (List Outbox) := await (Op.findPending limit)

/-- `firstValueFrom(kafkaClient.emit(event.pattern, event.payload))`. Kafka gets the pattern
and the payload. -/
def kafkaClient.emit (event : Outbox) : EventBlock Unit :=
  Block.await (Op.emit event.id event.pattern event.payload)

/-- `new Date()`. -/
def newDate : EventBlock ℕ := do
  let fields ← (ExceptT.lift (StateT.lift get) : EventBlock Fields)
  pure fields.now

/-- `event.save()`. -/
def event.save : EventBlock Unit := do
  Block.await (Op.save (← get))
  modify OutboxDocument.saved

/-- `error.message || String(error)`. -/
def errorText (error : Thrown) : String :=
  if error.message = "" then error.text else error.message

/-- The number of attempts after which an event is quarantined. -/
def maxAttempts : ℕ := 25

/-- The body of the loop over the pending events. -/
def publish : EventBlock Unit := do
  try
    kafkaClient.emit (← get).event
    modify (OutboxDocument.setStatus .completed)
    modify (OutboxDocument.setProcessedAt (← newDate))
    modify fun document => document.setAttempts (document.event.attempts + 1)
    event.save
  catch error =>
    modify fun document => document.setAttempts (document.event.attempts + 1)
    modify (OutboxDocument.setError (errorText error))
    let now ← newDate
    modify fun document =>
      if document.event.attempts ≥ maxAttempts then
        (document.setStatus .failed).setProcessedAt now
      else document
    event.save

/-- `this.isPolling = isPolling`. -/
def setPolling (isPolling : Bool) : Method Unit :=
  ExceptT.lift (modify fun fields => { fields with isPolling } : Async _ Fields Unit)

/-- The number of events one poll fetches. -/
def batchSize : ℕ := 10

def pollOutbox : Method Reply := do
  if (← fields).isPolling then
    return .polled
  setPolling true
  try
    let pendingEvents ← outboxModel.findPending batchSize
    if pendingEvents.length = 0 then
      setPolling false
      pure .polled
    else
      pendingEvents.forM fun event => publish.withVariable { event }
      pure .polled
  catch _ => pure .polled
  finally setPolling false

end WorkflowHub.TaskService
