import WorkflowHub.Consumers.Service
import WorkflowHub.Platform.Redis
import WorkflowHub.Platform.Remote
import WorkflowHub.Processes.Tracking

/-!
# The consumers with Kafka, Redis and their databases

Any number of runs of the two handlers side by side. Kafka may deliver any message of the
topic at any time, again and again, to any number of workers; what it promises (that a
message comes again unless its handler returned normally) is a matter of which runs one
looks at, so the end of every delivery is recorded (`ended`). The other history is
`counted`: which task each increment of a counter was for.
-/

set_option autoImplicit false

namespace WorkflowHub.Consumers

open Processes

/-- The two consumer groups. -/
inductive Consumer where
  | notification
  | analytics
  deriving DecidableEq, Repr

/-- A message of the topic, handed to a worker of a group. -/
structure Delivery where
  consumer : Consumer
  offset : ℕ
  data : EventPayload
  deriving DecidableEq, Repr

/-- How a delivery ended: the handler returned normally, or it threw or the worker crashed. -/
structure Ended where
  consumer : Consumer
  offset : ℕ
  returned : Bool
  deriving DecidableEq, Repr

structure World where
  now : ℕ := 0
  keys : Keyspace String := .empty
  notifications : List Notification := []
  counters : List UserCounter := []
  topic : List EventPayload := []
  counted : List (String × Option String) := []
  ended : List Ended := []

/-- The handler a delivery runs. -/
def program (delivery : Delivery) : Method Unit :=
  match delivery.consumer with
  | .notification => NotificationService.handleTaskCreated delivery.data
  | .analytics => AnalyticsService.handleTaskCreated delivery.data

/-- A choice of the outside: how the operation ends, and the id a new document gets. -/
structure Answer where
  outcome : Outcome
  id : ObjectId
  deriving DecidableEq, Repr

/-- `$inc` with `upsert`, on a collection in which `userId` is unique. -/
def increment (userId : String) : List UserCounter → List UserCounter
  | [] => [{ userId, taskCount := 1 }]
  | counter :: counters =>
      if counter.userId = userId then
        { counter with taskCount := counter.taskCount + 1 } :: counters
      else counter :: increment userId counters

/-- The `taskCount` that `grpcGetUserCounter` replies. -/
def taskCount (counters : List UserCounter) (userId : String) : ℕ :=
  match counters.find? (·.userId = userId) with
  | some counter => counter.taskCount
  | none => 0

def exec (world : World) (delivery : Delivery) :
    (op : Op) → Answer → Option (World × Except Thrown op.Value)
  | .set key value seconds, answer =>
      let free := (world.keys.find world.now key).isNone
      let item : Item String := ⟨value, some (world.now + seconds * 1000)⟩
      respond True answer.outcome world
        { world with keys := if free then world.keys.put key item else world.keys } free
  | .del key, answer =>
      respond True answer.outcome world { world with keys := world.keys.remove key } ()
  | .createNotification data, answer =>
      match Notification.of? answer.id data with
      | some notification =>
          respond (answer.id ∉ world.notifications.map (·.id)) answer.outcome world
            { world with notifications := world.notifications ++ [notification] } ()
      | none => respond False answer.outcome world world ()
  | .updateOne userId, answer =>
      respond True answer.outcome world
        { world with
          counters := increment userId world.counters
          counted := world.counted ++ [(userId, jsOr delivery.data.taskId delivery.data.eventId)] }
        ()

/-- What moves by itself: time, and what is published to the topic. -/
inductive Env where
  | elapse (milliseconds : ℕ)
  | publish (data : EventPayload)
  deriving DecidableEq, Repr

def site : Site (promises Op Op.Value Thrown) Unit World Delivery (Except Thrown Unit) Answer Env where
  load _ _ := ()
  store world _ _ := world
  start world _ delivery :=
    if world.topic[delivery.offset]? = some delivery.data then some world else none
  exec world _ delivery := exec world delivery
  finish world _ delivery out :=
    { world with
      ended := world.ended ++ [⟨delivery.consumer, delivery.offset,
        match out with
        | .ok _ => true
        | .error _ => false⟩] }
  crash world _ delivery :=
    { world with ended := world.ended ++ [⟨delivery.consumer, delivery.offset, false⟩] }
  env world
    | .elapse milliseconds => some { world with now := world.now + milliseconds }
    | .publish data => some { world with topic := world.topic ++ [data] }

/-- The code of the deliveries. -/
def programs : Flow (promises Op Op.Value Thrown) Unit Delivery
    (Suspended (promises Op Op.Value Thrown) Unit (Except Thrown Unit)) (Except Thrown Unit) :=
  .ofPrograms fun delivery => (program delivery).run

abbrev State : Type :=
  Pool World Delivery (Suspended (promises Op Op.Value Thrown) Unit (Except Thrown Unit))
    (Except Thrown Unit)

/-- What a state shows: the world, and what each delivery awaits. -/
abbrev View : Type := Pool World Delivery Op (Except Thrown Unit)

abbrev Happening : Type := Event Delivery Answer Env

abbrev step : State → Happening → Option State := Pool.step site programs

abbrev Runs (C : View → Happening → Prop) : State → State → Prop :=
  Path step fun state event => C (state.observe programs) event

/-- How the delivery of a message that ended last has ended. -/
def lastEnded (world : World) (consumer : Consumer) (offset : ℕ) : Option Bool :=
  ((world.ended.filter fun ended => ended.consumer = consumer ∧ ended.offset = offset).getLast?).map
    (·.returned)

/-- No delivery of the message to the group is running, and the last one returned normally. -/
def Settled (state : View) (consumer : Consumer) (offset : ℕ) : Prop :=
  lastEnded state.world consumer offset = some true ∧
    ∀ pid delivery op, state.slots pid = .running delivery op →
      ¬ (delivery.consumer = consumer ∧ delivery.offset = offset)

/-! ## What a delivery does -/

/-- The key a delivery takes, and the operation that is its effect. -/
structure Plan where
  key : String
  effect : Op
  deriving DecidableEq

/-- What the handler of a group does with a message, if it does anything. -/
def plan : Consumer → EventPayload → Option Plan
  | .notification, data => some ⟨NotificationService.key data, .createNotification data⟩
  | .analytics, data =>
      match data.userId, jsOr data.taskId data.eventId with
      | some userId, some taskId =>
          if userId = "" ∨ taskId = "" then none
          else some ⟨AnalyticsService.lockKey taskId, .updateOne userId⟩
      | _, _ => none

/-- The analytics handler goes on only with a user and a task, or the event in its place. -/
theorem plan_analytics {data : EventPayload} {chosen : Plan}
    (planned : plan .analytics data = some chosen) :
    ∃ userId taskId, data.userId = some userId ∧ jsOr data.taskId data.eventId = some taskId ∧
      ¬ (userId = "" ∨ taskId = "") ∧
        chosen = ⟨AnalyticsService.lockKey taskId, .updateOne userId⟩ := by
  simp only [plan] at planned
  split at planned
  · rename_i userId taskId user task
    by_cases missing : userId = "" ∨ taskId = ""
    · rw [if_pos missing] at planned
      cases planned
    · rw [if_neg missing] at planned
      exact ⟨userId, taskId, user, task, missing, (Option.some.inj planned).symm⟩
  · cases planned

/-- The effect of a message: the notification of its task is stored, or its task is among
those its user's counter has counted. -/
def Effect (world : World) : Consumer → EventPayload → Prop
  | .notification, data => ∃ notification ∈ world.notifications,
      some notification.taskId = data.taskId ∧ some notification.userId = data.userId
  | .analytics, data => ∃ userId, data.userId = some userId ∧
      (userId, jsOr data.taskId data.eventId) ∈ world.counted

/-! ## Runs on concrete messages -/

namespace Sample

def notificationId : ObjectId := ⟨"65f0a1b2c3d4e5f6a7b8c9e0", rfl⟩

/-- The event of a task. -/
def event : EventPayload where
  userId := some "65f0a1b2c3d4e5f6a7b8c9aa"
  taskId := some "65f0a1b2c3d4e5f6a7b8c9d0"
  title := some "Welcome"
  message := some "A new task \"Welcome\" was created."
  type := some "IN_APP"

def resolves (pid : ℕ) : Happening := .step pid ⟨.resolved, notificationId⟩

def rejects (pid : ℕ) : Happening := .step pid ⟨.rejected (.error "Error" "timeout"), notificationId⟩

/-- The message at offset 0 is handed to a worker of the group. -/
def delivers (consumer : Consumer) (pid : ℕ) : Happening := .call pid ⟨consumer, 0, event⟩

end Sample

end WorkflowHub.Consumers
