import WorkflowHub.AuthService.Service
import WorkflowHub.Consumers.Service
import WorkflowHub.Gateway.HttpStatus
import WorkflowHub.TaskService.Service

/-!
# `RegistrationSagaService`

`executeRegistrationSaga` makes three calls, one in each service, and notes after each reply
how to take it back. When one of the calls is rejected it takes the noted ones back, the last
one first, and throws.
-/

set_option autoImplicit false

namespace WorkflowHub.Gateway

open Processes AuthService TaskService Consumers

/-! ## Replies -/

/-- An id that is not `""`; a reply without one has `none`, or `""`, which is as falsy. -/
abbrev ReplyId : Type := { id : String // id ≠ "" }

structure UserReply where
  id : Option ReplyId
  name : String
  email : String
  deriving DecidableEq, Repr

/-- What `grpcRegister` replies. -/
structure AuthReply where
  message : String
  user : Option UserReply
  token : Token
  deriving DecidableEq, Repr

/-- What `grpcCreateSaga` replies. -/
structure TaskReply where
  id : Option ReplyId
  title : String
  description : String
  userId : String
  message : String
  deriving DecidableEq, Repr

/-- What `sendSaga` replies. -/
structure NotificationReply where
  message : String
  notification : Option Notification
  deriving DecidableEq, Repr

/-- What `deleteUser`, `deleteSaga` and `notification.deleteSaga` reply. -/
structure DeletedReply where
  message : String
  deriving DecidableEq, Repr

/-! ## Operations -/

/-- The calls of the saga. -/
inductive Op where
  | register (registerDto : RegisterBody)
  | createSaga (data : TaskBody)
  | sendSaga (data : EventPayload)
  | deleteUser (userId : String)
  | deleteSaga (taskId : String)
  | deleteNotification (notificationId : Option String)
  deriving DecidableEq

/-- What each call resolves with. -/
def Op.Value : Op → Type
  | .register _ => AuthReply
  | .createSaga _ => TaskReply
  | .sendSaga _ => NotificationReply
  | .deleteUser _ => DeletedReply
  | .deleteSaga _ => DeletedReply
  | .deleteNotification _ => DeletedReply

/-- What a saga resolves with. -/
structure Registration where
  message : String
  user : Option UserReply
  token : Token
  deriving DecidableEq, Repr

abbrev Method := Handler Op Op.Value Thrown Unit

/-- An action of the rollback: the call it makes. -/
structure RollbackAction where
  name : String
  action : Op
  deriving DecidableEq

/-- The body of the saga, with `rollbackActions` as its variable. -/
abbrev SagaBlock := Block Op Op.Value Thrown Unit (List RollbackAction)

def authService.register (registerDto : RegisterBody) : SagaBlock AuthReply :=
  Block.await (Op.register registerDto)

def taskService.createSaga (data : TaskBody) : SagaBlock TaskReply :=
  Block.await (Op.createSaga data)

/-- `notificationClient.send('notification.sendSaga', data)`. -/
def notificationClient.sendSaga (data : EventPayload) : SagaBlock NotificationReply :=
  Block.await (Op.sendSaga data)

def rollbackActions.push (name : String) (action : Op) : SagaBlock Unit :=
  modify (· ++ [⟨name, action⟩])

/-! ## The saga -/

/-- The welcome task of a new user. -/
def welcomeTask (user : UserReply) (userId : String) : TaskBody where
  title := "Welcome to WorkflowHub"
  description := "Welcome " ++ user.name ++
    " to WorkflowHub. To get started, please complete the following steps"
  userId := userId

/-- The welcome notification of a new user. -/
def welcomeNotification (user : UserReply) (userId taskId : String) : EventPayload where
  userId := some userId
  taskId := some taskId
  title := some "Welcome to WorkflowHub!"
  message := some ("Hello " ++ user.name ++ ", your account is ready.")
  type := some "EMAIL"

/-- `rollback`: every action is tried, whatever becomes of the others. -/
def rollback (actions : List RollbackAction) : SagaBlock Unit :=
  actions.reverse.forM fun rollback => do
    try
      let _ ← (Block.await rollback.action : SagaBlock _)
    catch _ => pure ()

def executeRegistrationSaga (registerDto : RegisterBody) : Method Registration :=
  Block.withVariable [] do
    try
      let authResponse ← authService.register registerDto
      match authResponse.user.bind fun user => user.id.map fun userId => (user, userId) with
      | none => throw (.error "Error" "User creation succeeded but no userId was returned.")
      | some (user, userId) =>
          rollbackActions.push "Delete User from auth-service" (.deleteUser userId)
          let taskResponse ← taskService.createSaga (welcomeTask user userId)
          match taskResponse.id with
          | none => throw (.error "Error" "Task creation failed: No taskId returned")
          | some taskId =>
              rollbackActions.push "Delete Task from task-service" (.deleteSaga taskId)
              let notificationResponse ←
                notificationClient.sendSaga (welcomeNotification user userId taskId)
              let notificationId := notificationResponse.notification.map (·.id.toString)
              rollbackActions.push "Delete Notification from notification-service"
                (.deleteNotification notificationId)
              pure
                { message := "Registration workflow completed successfully"
                  user := authResponse.user
                  token := authResponse.token }
    catch error =>
      rollback (← get)
      throw (.httpException (toHttpStatus error)
        (if error.message = "" then "User Registration failed" else error.message))

end WorkflowHub.Gateway
