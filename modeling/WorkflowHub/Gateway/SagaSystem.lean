import WorkflowHub.Gateway.RegistrationSaga
import WorkflowHub.Platform.Remote
import WorkflowHub.Processes.Tracking

/-!
# Registration sagas and the three stores

Any number of sagas side by side. A call of a saga may resolve, fail without effect, or take
effect although the gateway sees a rejection: because the reply is lost, or because the call
outlasts the timeout of the circuit breaker and goes on in the service. A call that outlasts
its saga's patience is outstanding until it takes effect or is given up.

One field of the world is history: which document which saga has created, and whether the
gateway has seen the reply (`created`).
-/

set_option autoImplicit false

namespace WorkflowHub.Gateway

open Processes AuthService TaskService Consumers

/-- A document of one of the three stores. -/
inductive Document where
  | user (id : ObjectId)
  | task (id : ObjectId)
  | notification (id : ObjectId)
  deriving DecidableEq, Repr

structure Creation where
  saga : ℕ
  document : Document
  reported : Bool
  deriving DecidableEq, Repr

/-- A call that goes on in a service after the gateway has given it up. -/
structure Outstanding where
  saga : ℕ
  op : Op
  deriving DecidableEq

structure World where
  users : List Auth := []
  tasks : List Task := []
  notifications : List Notification := []
  created : List Creation := []
  outstanding : List Outstanding := []

/-- The document is in its store. -/
def Document.Stored (world : World) : Document → Prop
  | .user id => id ∈ world.users.map (·.id)
  | .task id => id ∈ world.tasks.map (·.id)
  | .notification id => id ∈ world.notifications.map (·.id)

instance (world : World) : (document : Document) → Decidable (document.Stored world)
  | .user id => inferInstanceAs (Decidable (id ∈ world.users.map (·.id)))
  | .task id => inferInstanceAs (Decidable (id ∈ world.tasks.map (·.id)))
  | .notification id => inferInstanceAs (Decidable (id ∈ world.notifications.map (·.id)))

/-- The call that takes the creation of a document back. -/
def Document.undo : Document → Op
  | .user id => .deleteUser id.toString
  | .task id => .deleteSaga id.toString
  | .notification id => .deleteNotification (some id.toString)

namespace World

/-- What a saga has created. -/
def mine (world : World) (saga : ℕ) : List Creation := world.created.filter (·.saga = saga)

/-- Ids are not given out twice. -/
def Fresh (world : World) (document : Document) : Prop :=
  document ∉ world.created.map (·.document)

instance (world : World) (document : Document) : Decidable (world.Fresh document) := by
  unfold Fresh
  infer_instance

def record (world : World) (creation : Creation) : World :=
  { world with created := world.created ++ [creation] }

end World

/-- A choice of the outside for what a call does in its service: the id of a new document,
and the hash of the password. -/
structure Chosen where
  id : ObjectId
  digest : String
  deriving DecidableEq, Repr

/-- A call that takes effect in its service, and its reply. Without one the service rejects
the call. -/
def effect (world : World) (saga : ℕ) (reported : Bool) (chosen : Chosen) :
    (op : Op) → Option (World × op.Value)
  | .register body =>
      let user : Auth := ⟨chosen.id, body.name, body.email, chosen.digest⟩
      if world.users.find? (·.email = body.email) = none ∧
          (user.name ≠ "" ∧ user.email ≠ "" ∧ user.password ≠ "") ∧ world.Fresh (.user user.id) then
        some ({ world with users := world.users ++ [user] }.record ⟨saga, .user user.id, reported⟩,
          { message := "Registered Successfully"
            user := some ⟨some ⟨user.id.toString, user.id.toString_ne_empty⟩, user.name, user.email⟩
            token := jwtService.sign user })
      else none
  | .createSaga body =>
      let task := body.toTask chosen.id
      if body.Valid ∧ world.Fresh (.task task.id) then
        some ({ world with tasks := world.tasks ++ [task] }.record ⟨saga, .task task.id, reported⟩,
          { id := some ⟨task.id.toString, task.id.toString_ne_empty⟩
            title := task.title
            description := task.description
            userId := task.userId
            message := "Task created successfully via Saga" })
      else none
  | .sendSaga data =>
      match Notification.of? chosen.id data with
      | some notification =>
          if world.Fresh (.notification notification.id) then
            some ({ world with notifications := world.notifications ++ [notification] }.record
                ⟨saga, .notification notification.id, reported⟩,
              { message := "Notification sent successfully via Saga"
                notification := some notification })
          else none
      | none => none
  | .deleteUser userId =>
      if (world.users.find? (·.id.toString = userId)).isSome then
        some ({ world with users := world.users.filter (·.id.toString ≠ userId) },
          { message := "User deleted successfully" })
      else none
  | .deleteSaga taskId =>
      if (world.tasks.find? (·.id.toString = taskId)).isSome then
        some ({ world with tasks := world.tasks.filter (·.id.toString ≠ taskId) },
          { message := "Task deleted successfully" })
      else none
  | .deleteNotification notificationId =>
      if (world.notifications.find? (some ·.id.toString = notificationId)).isSome then
        some ({ world with
            notifications := world.notifications.filter (some ·.id.toString ≠ notificationId) },
          { message := "Notification deleted successfully" })
      else none

/-- How a call ends for the gateway: with its outcome, or with the timeout. -/
inductive Ending where
  | ended (outcome : Outcome)
  | outlasts (error : Thrown)
  deriving DecidableEq, Repr

structure Answer where
  ending : Ending
  chosen : Chosen
  deriving DecidableEq, Repr

def exec (world : World) (saga : ℕ) (op : Op) (answer : Answer) :
    Option (World × Except Thrown op.Value) :=
  match answer.ending with
  | .ended .resolved =>
      (effect world saga true answer.chosen op).map fun (after, value) => (after, .ok value)
  | .ended (.rejected error) => some (world, .error error)
  | .ended (.rejectedApplied error) =>
      (effect world saga false answer.chosen op).map fun (after, _) => (after, .error error)
  | .outlasts error =>
      some ({ world with outstanding := world.outstanding ++ [⟨saga, op⟩] }, .error error)

/-- An outstanding call takes effect, or is given up. -/
inductive Env where
  | settles (index : ℕ) (chosen : Chosen)
  | abandons (index : ℕ)
  deriving DecidableEq, Repr

def World.drop (world : World) (index : ℕ) : World :=
  { world with outstanding := world.outstanding.eraseIdx index }

def site : Site (promises Op Op.Value Thrown) Unit World RegisterBody
    (Except Thrown Registration) Answer Env where
  load _ _ := ()
  store world _ _ := world
  start world _ _ := some world
  exec world saga _ op := exec world saga op
  finish world _ _ _ := world
  crash world _ _ := world
  env world
    | .settles index chosen =>
        match world.outstanding[index]? with
        | some call => (effect world call.saga false chosen call.op).map fun (after, _) => after.drop index
        | none => none
    | .abandons index => if index < world.outstanding.length then some (world.drop index) else none

/-- The code of the sagas. -/
def programs : Flow (promises Op Op.Value Thrown) Unit RegisterBody
    (Suspended (promises Op Op.Value Thrown) Unit (Except Thrown Registration))
    (Except Thrown Registration) :=
  .ofPrograms fun registerDto => (executeRegistrationSaga registerDto).run

abbrev State : Type :=
  Pool World RegisterBody
    (Suspended (promises Op Op.Value Thrown) Unit (Except Thrown Registration))
    (Except Thrown Registration)

/-- What a state shows: the world, and what each saga awaits. -/
abbrev View : Type := Pool World RegisterBody Op (Except Thrown Registration)

abbrev Happening : Type := Event RegisterBody Answer Env

abbrev step : State → Happening → Option State := Pool.step site programs

abbrev Runs (C : View → Happening → Prop) : State → State → Prop :=
  Path step fun state event => C (state.observe programs) event

end WorkflowHub.Gateway
