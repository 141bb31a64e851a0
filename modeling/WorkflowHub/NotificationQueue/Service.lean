import WorkflowHub.Consumers.Service

/-!
# The saga messages of the notification service

The two handlers of `notification_queue`: `sendSaga` makes the welcome notification of a
saga, and `deleteNotification` takes it back. Neither looks at the channel the message came
through, and the framework leaves acknowledging a message to its handler.
-/

set_option autoImplicit false

namespace WorkflowHub.NotificationQueue

open Processes Consumers

/-- A message, by its pattern: `notification.sendSaga` or `notification.deleteSaga`. -/
inductive Request where
  | sendSaga (data : EventPayload)
  | deleteSaga (notificationId : Option String)
  deriving DecidableEq, Repr

/-- What the handlers await. -/
inductive Op where
  | create (data : EventPayload)
  | findByIdAndDelete (notificationId : Option String)
  deriving DecidableEq

/-- What each operation resolves with. -/
def Op.Value : Op → Type
  | .create _ => Option Notification
  | .findByIdAndDelete _ => Option Notification

/-- What the handlers resolve with. -/
inductive Reply where
  | sent (message : String) (notification : Notification)
  | deleted (success : Bool) (message : String)
  deriving DecidableEq, Repr

abbrev Method := Handler Op Op.Value Thrown Unit

def notificationModel.create (data : EventPayload) : Method (Option Notification) :=
  await (Op.create data)

def notificationModel.findByIdAndDelete (notificationId : Option String) :
    Method (Option Notification) :=
  await (Op.findByIdAndDelete notificationId)

/-- `error.message || message`. -/
def messageOr (error : Thrown) (message : String) : String :=
  if error.message = "" then message else error.message

/-! ## `NotificationServiceService` -/

def createNotification (data : EventPayload) : Method Notification := do
  match ← notificationModel.create data with
  | none => throw (.error "Error" "Notification creation failed in Saga")
  | some result => pure result

/-- The `deleteNotification` of `NotificationServiceService`. -/
def deleteById (notificationId : Option String) : Method Reply := do
  match ← notificationModel.findByIdAndDelete notificationId with
  | none =>
      throw (.error "Error"
        ("Notification with ID " ++ interpolated notificationId ++ " not found"))
  | some _ => pure (.deleted true "Notification deleted successfully")

/-! ## `NotificationServiceController` -/

def sendSaga (data : EventPayload) : Method Reply := do
  try
    let notification ← createNotification data
    pure (.sent "Notification sent successfully via Saga" notification)
  catch error =>
    throw (.rpcException 500 (messageOr error "Notification creation failed in Saga"))

def deleteNotification (notificationId : Option String) : Method Reply := do
  try
    deleteById notificationId
  catch error =>
    throw (.rpcException 404 (messageOr error "Notification deletion failed"))

end WorkflowHub.NotificationQueue
