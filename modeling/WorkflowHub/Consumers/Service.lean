import WorkflowHub.Platform.TaskCreated
import WorkflowHub.Processes.Handler
import Mathlib.Data.Nat.Notation

/-!
# The two consumers of `task.created`

`handleTaskCreated` of the notification service and of the analytics service. Both take a
key of the task in Redis before they act and give it back when they fail; they differ in
the name of the key, in what they do, and in that the analytics service drops events
without a user or a task.
-/

set_option autoImplicit false

namespace WorkflowHub.Consumers

open Processes

/-! ## Documents -/

inductive NotificationType where
  | email
  | push
  | inApp
  deriving DecidableEq, Repr

/-- The value of the enum a string stands for; without one it is `IN_APP`. -/
def NotificationType.of? : Option String → Option NotificationType
  | none => some .inApp
  | some "EMAIL" => some .email
  | some "PUSH" => some .push
  | some "IN_APP" => some .inApp
  | some _ => none

structure Notification where
  id : ObjectId
  userId : String
  taskId : String
  title : String
  message : String
  type : NotificationType
  isRead : Bool
  deriving DecidableEq, Repr

/-- The document the schema makes of an event: the four strings are required, `type` is one
of the enum. -/
def Notification.of? (id : ObjectId) (data : EventPayload) : Option Notification := do
  let userId ← data.userId.filter (· ≠ "")
  let taskId ← data.taskId.filter (· ≠ "")
  let title ← data.title.filter (· ≠ "")
  let message ← data.message.filter (· ≠ "")
  let type ← NotificationType.of? data.type
  pure { id, userId, taskId, title, message, type, isRead := false }

/-- The document made of an event is about its task and its user. -/
theorem Notification.of?_eq_some {id : ObjectId} {data : EventPayload} {notification : Notification}
    (made : Notification.of? id data = some notification) :
    some notification.taskId = data.taskId ∧ some notification.userId = data.userId ∧
      notification.id = id := by
  simp only [Notification.of?, Option.pure_def, Option.bind_eq_bind, Option.bind_eq_some_iff,
    Option.filter_eq_some_iff, Option.some.injEq] at made
  obtain ⟨userId, ⟨user, _⟩, taskId, ⟨task, _⟩, title, _, message, _, type, _, rfl⟩ := made
  exact ⟨task.symm, user.symm, rfl⟩

theorem Notification.of?_taskId_ne {id : ObjectId} {data : EventPayload}
    {notification : Notification} (made : Notification.of? id data = some notification) :
    notification.taskId ≠ "" := by
  simp only [Notification.of?, Option.pure_def, Option.bind_eq_bind, Option.bind_eq_some_iff,
    Option.filter_eq_some_iff, Option.some.injEq] at made
  obtain ⟨userId, _, taskId, ⟨_, present⟩, title, _, message, _, type, _, rfl⟩ := made
  exact of_decide_eq_true present

structure UserCounter where
  userId : String
  taskCount : ℕ
  deriving DecidableEq, Repr

/-! ## Operations -/

/-- What the consumers await. -/
inductive Op where
  | set (key value : String) (seconds : ℕ)
  | del (key : String)
  | createNotification (data : EventPayload)
  | updateOne (userId : String)
  deriving DecidableEq

/-- What each operation resolves with: `set` with whether the result is `'OK'`. -/
def Op.Value : Op → Type
  | .set .. => Bool
  | .del _ => Unit
  | .createNotification _ => Unit
  | .updateOne _ => Unit

abbrev Method := Handler Op Op.Value Thrown Unit

/-- `redis.set(key, value, 'EX', seconds, 'NX')`. -/
def redis.set (key value : String) (seconds : ℕ) : Method Bool := await (Op.set key value seconds)

def redis.del (key : String) : Method Unit := await (Op.del key)

def notificationModel.create (data : EventPayload) : Method Unit :=
  await (Op.createNotification data)

/-- `userCounterModel.updateOne({ userId }, { $inc: { taskCount: 1 } }, { upsert: true })`. -/
def userCounterModel.updateOne (userId : String) : Method Unit := await (Op.updateOne userId)

/-- How long a key is kept. -/
def keySeconds : ℕ := 86400

/-! ## `NotificationServiceController` -/

namespace NotificationService

/-- The `handleTaskCreated` of `NotificationServiceService`. -/
def create (data : EventPayload) : Method Unit := notificationModel.create data

def key (data : EventPayload) : String :=
  "event:" ++ interpolated (jsOr data.taskId data.eventId)

def handleTaskCreated (data : EventPayload) : Method Unit := do
  let result ← redis.set (key data) "processed" keySeconds
  if result then
    try
      create data
    catch error =>
      redis.del (key data)
      throw error

end NotificationService

/-! ## `AnalyticsServiceController` -/

namespace AnalyticsService

def incrementUserCounter (userId : String) : Method Unit := userCounterModel.updateOne userId

def lockKey (taskId : String) : String := "analytics:event:" ++ taskId

def handleTaskCreated (data : EventPayload) : Method Unit := do
  match data.userId, jsOr data.taskId data.eventId with
  | some userId, some taskId =>
      if userId = "" ∨ taskId = "" then
        return
      let result ← redis.set (lockKey taskId) "processed" keySeconds
      if result then
        try
          incrementUserCounter userId
        catch error =>
          redis.del (lockKey taskId)
          throw error
  | _, _ => return

end AnalyticsService

end WorkflowHub.Consumers
