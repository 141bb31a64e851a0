import WorkflowHub.Platform.Values

/-!
# The `task.created` event

The payload the task service writes and both consumers read. A consumer takes the
message as it comes, so every field may be missing there, and `eventId` is a field only
the consumers look at.
-/

set_option autoImplicit false

namespace WorkflowHub

/-- `KAFKA_TOPICS.TASK_CREATED`. -/
def TASK_CREATED : String := "task.created"

/-- The payload of an event: the strings it carries, `none` for a field that is not there. -/
structure EventPayload where
  userId : Option String := none
  taskId : Option String := none
  eventId : Option String := none
  title : Option String := none
  message : Option String := none
  type : Option String := none
  deriving DecidableEq, Repr

end WorkflowHub
