import WorkflowHub.NotificationQueue.Service
import WorkflowHub.Platform.Remote
import WorkflowHub.Processes.Tracking

/-!
# The notification queue with its consumers

The queue is consumed with `noAck: false`: a message that was handed to a consumer stays
unacknowledged until the consumer acknowledges it, and goes back to the queue when the
connection of that consumer is lost. No handler acknowledges anything, so every message ever
handed to a consumer goes back then, also those that were handled long ago.

A consumer that reconnects goes on with the messages it was handling. A consumer that
restarts does not: its calls crash, and then its connection is lost. Two fields of the world
are history: the calls that are handling a message (`handling`), and the message each
notification was created for (`created`).
-/

set_option autoImplicit false

namespace WorkflowHub.NotificationQueue

open Processes Consumers

/-- A message as it was published: the how manieth, and what is in it. -/
structure Message where
  number : ℕ
  request : Request
  deriving DecidableEq, Repr

/-- A message handed to a consumer. -/
structure Delivery where
  consumer : ℕ
  message : Message
  deriving DecidableEq, Repr

structure World where
  published : List Request := []
  ready : List Message := []
  unacked : List Delivery := []
  notifications : List Notification := []
  handling : List (ℕ × Delivery) := []
  created : List Message := []

/-- The handler a delivery runs. -/
def program (delivery : Delivery) : Method Reply :=
  match delivery.message.request with
  | .sendSaga data => sendSaga data
  | .deleteSaga notificationId => deleteNotification notificationId

/-- A choice of the outside: how the operation ends, and the id a new document gets. -/
structure Answer where
  outcome : Outcome
  id : ObjectId
  deriving DecidableEq, Repr

def exec (world : World) (delivery : Delivery) :
    (op : Op) → Answer → Option (World × Except Thrown op.Value)
  | .create data, answer =>
      match Notification.of? answer.id data with
      | some notification =>
          respond (answer.id ∉ world.notifications.map (·.id)) answer.outcome world
            { world with
              notifications := world.notifications ++ [notification]
              created := world.created ++ [delivery.message] }
            (some notification)
      | none => respond False answer.outcome world world none
  | .findByIdAndDelete notificationId, answer =>
      respond (∀ id ∈ notificationId, isObjectId id) answer.outcome world
        { world with
          notifications := world.notifications.filter (some ·.id.toString ≠ notificationId) }
        (world.notifications.find? (some ·.id.toString = notificationId))

namespace World

/-- The queue hands a message to a consumer. -/
def deliver (world : World) (pid : ℕ) (delivery : Delivery) : World :=
  { world with
    ready := world.ready.erase delivery.message
    unacked := world.unacked ++ [delivery]
    handling := world.handling ++ [(pid, delivery)] }

/-- A call is over. Its message stays unacknowledged. -/
def leave (world : World) (pid : ℕ) : World :=
  { world with handling := world.handling.filter (·.1 ≠ pid) }

/-- The messages a consumer has not acknowledged go back to the queue. -/
def requeue (world : World) (consumer : ℕ) : World :=
  { world with
    ready := world.ready ++ (world.unacked.filter (·.consumer = consumer)).map (·.message)
    unacked := world.unacked.filter (·.consumer ≠ consumer) }

def publish (world : World) (request : Request) : World :=
  { world with
    published := world.published ++ [request]
    ready := world.ready ++ [⟨world.published.length, request⟩] }

end World

/-- What moves by itself: a message is published, or the connection of a consumer is lost. -/
inductive Env where
  | publish (request : Request)
  | disconnect (consumer : ℕ)
  deriving DecidableEq, Repr

def site : Site (promises Op Op.Value Thrown) Unit World Delivery (Except Thrown Reply) Answer Env where
  load _ _ := ()
  store world _ _ := world
  start world pid delivery :=
    if delivery.message ∈ world.ready then some (world.deliver pid delivery) else none
  exec world _ delivery := exec world delivery
  finish world pid _ _ := world.leave pid
  crash world pid _ := world.leave pid
  env world
    | .publish request => some (world.publish request)
    | .disconnect consumer => some (world.requeue consumer)

/-- The code of the deliveries. -/
def programs : Flow (promises Op Op.Value Thrown) Unit Delivery
    (Suspended (promises Op Op.Value Thrown) Unit (Except Thrown Reply)) (Except Thrown Reply) :=
  .ofPrograms fun delivery => (program delivery).run

abbrev State : Type :=
  Pool World Delivery (Suspended (promises Op Op.Value Thrown) Unit (Except Thrown Reply))
    (Except Thrown Reply)

/-- What a state shows: the world, and what each delivery awaits. -/
abbrev View : Type := Pool World Delivery Op (Except Thrown Reply)

abbrev Happening : Type := Event Delivery Answer Env

abbrev step : State → Happening → Option State := Pool.step site programs

abbrev Runs (C : View → Happening → Prop) : State → State → Prop :=
  Path step fun state event => C (state.observe programs) event

end WorkflowHub.NotificationQueue
