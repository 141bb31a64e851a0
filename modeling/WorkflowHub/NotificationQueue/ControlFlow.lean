import WorkflowHub.NotificationQueue.System

/-!
# Program points of the saga messages

Each handler awaits one operation. `implements` says that the table describes the handlers.
-/

set_option autoImplicit false

namespace WorkflowHub.NotificationQueue

open Processes Consumers

inductive Pc where
  | creating (data : EventPayload)
  | deleting (notificationId : Option String)

def Pc.op : Pc → Op
  | creating data => .create data
  | deleting notificationId => .findByIdAndDelete notificationId

/-- The message a handler is at this point for. -/
def Pc.request : Pc → Request
  | creating data => .sendSaga data
  | deleting notificationId => .deleteSaga notificationId

abbrev Led : Type := Unit × Target Pc (Except Thrown Reply)

namespace Led

def enter : Request → Led
  | .sendSaga data => ((), .running (.creating data))
  | .deleteSaga notificationId => ((), .running (.deleting notificationId))

def next : (pc : Pc) → Except Thrown pc.op.Value → Led
  | .creating _, .ok (some notification) =>
      ((), .finished (.ok (.sent "Notification sent successfully via Saga" notification)))
  | .creating _, .ok none =>
      ((), .finished (.error (.rpcException 500 "Notification creation failed in Saga")))
  | .creating _, .error error =>
      ((), .finished (.error
        (.rpcException 500 (messageOr error "Notification creation failed in Saga"))))
  | .deleting _, .ok (some _) =>
      ((), .finished (.ok (.deleted true "Notification deleted successfully")))
  | .deleting notificationId, .ok none =>
      ((), .finished (.error (.rpcException 404 (messageOr
        (.error "Error" ("Notification with ID " ++ interpolated notificationId ++ " not found"))
        "Notification deletion failed"))))
  | .deleting _, .error error =>
      ((), .finished (.error (.rpcException 404 (messageOr error "Notification deletion failed"))))

/-- No handler awaits a second operation. -/
theorem next_finished (pc : Pc) (reply : Except Thrown pc.op.Value) :
    ∃ out, next pc reply = ((), .finished out) := by
  cases pc with
  | creating data =>
      match reply with
      | .ok (some notification) => exact ⟨_, rfl⟩
      | .ok none => exact ⟨_, rfl⟩
      | .error error => exact ⟨_, rfl⟩
  | deleting notificationId =>
      match reply with
      | .ok (some notification) => exact ⟨_, rfl⟩
      | .ok none => exact ⟨_, rfl⟩
      | .error error => exact ⟨_, rfl⟩

end Led

/-- The table of program points. -/
def flow : Flow (promises Op Op.Value Thrown) Unit Delivery Pc (Except Thrown Reply) where
  op _ pc := pc.op
  enter delivery _ := Led.enter delivery.message.request
  next _ pc reply _ := Led.next pc reply

theorem tracks_sendSaga (delivery : Delivery) (data : EventPayload) :
    Tracks flow delivery (Led.enter (.sendSaga data)) ((sendSaga data).run ()) := by
  refine Tracks.await fun reply _ => ?_
  match reply with
  | .ok (some notification) => exact .done
  | .ok none => exact .done
  | .error error => exact .done

theorem tracks_deleteNotification (delivery : Delivery) (notificationId : Option String) :
    Tracks flow delivery (Led.enter (.deleteSaga notificationId))
      ((deleteNotification notificationId).run ()) := by
  refine Tracks.await fun reply _ => ?_
  match reply with
  | .ok (some notification) => exact .done
  | .ok none => exact .done
  | .error error => exact .done

/-- **The table of program points describes the handlers.** -/
theorem implements : Implements flow fun delivery => (program delivery).run := by
  rintro ⟨consumer, number, request⟩ _
  cases request with
  | sendSaga data => exact tracks_sendSaga _ data
  | deleteSaga notificationId => exact tracks_deleteNotification _ notificationId

end WorkflowHub.NotificationQueue
