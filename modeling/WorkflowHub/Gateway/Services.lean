import WorkflowHub.AuthService.Sessions
import WorkflowHub.Gateway.Residue
import WorkflowHub.NotificationQueue.System
import WorkflowHub.Processes.Sequential
import WorkflowHub.TaskService.System

/-!
# The services behind a saga

`effect` says in one step what a call of a saga does in its service. Here the call is the
controller's method with the code of the service below it, run against the database of the
service, where any operation may fail with or without effect. The two agree: what the gateway can
see of a call, and what the call can leave behind, is the same (`services_refined`).
-/

set_option autoImplicit false

namespace WorkflowHub.Gateway

open Processes

/-! ## The controllers -/

/-- What reading a field of `undefined` throws. -/
def undefinedId : Thrown := .error "TypeError" "Cannot read properties of undefined (reading '_id')"

/-- `AuthServiceController.grpcRegister`. `register` gives no other reply. -/
def grpcRegister (data : AuthService.RegisterBody) : AuthService.Method AuthReply := do
  match ← AuthService.register data with
  | .registered message user token =>
      pure
        { message
          user := some ⟨some ⟨user.id.toString, user.id.toString_ne_empty⟩, user.name, user.email⟩
          token }
  | _ => throw undefinedId

/-- `AuthServiceController.grpcDeleteUser`. -/
def grpcDeleteUser (userId : String) : AuthService.Method DeletedReply := do
  match ← AuthService.deleteUser userId with
  | .registered message _ _ | .loggedIn message _ | .deleted message _ => pure { message }

/-- `TaskServiceController.grpcCreateSaga`. -/
def grpcCreateSaga (data : TaskService.TaskBody) : TaskService.Method TaskReply := do
  match ← TaskService.createSaga data with
  | .created message task =>
      pure
        { id := some ⟨task.id.toString, task.id.toString_ne_empty⟩
          title := task.title
          description := task.description
          userId := task.userId
          message }
  | _ => throw undefinedId

/-- `TaskServiceController.grpcDeleteSaga`. The gateway does not look at `success`. -/
def grpcDeleteSaga (taskId : String) : TaskService.Method DeletedReply := do
  match ← TaskService.deleteSaga taskId with
  | .created message _ | .listed message _ | .deleted _ message => pure { message }
  | .polled => throw (.error "TypeError" "Cannot read properties of undefined (reading 'success')")

/-- The reply to `notification.sendSaga`. -/
def sendSagaReply (data : EventPayload) : NotificationQueue.Method NotificationReply := do
  match ← NotificationQueue.sendSaga data with
  | .sent message notification => pure { message, notification := some notification }
  | .deleted _ message => pure { message, notification := none }

/-- The reply to `notification.deleteSaga`. -/
def deleteSagaReply (notificationId : Option String) : NotificationQueue.Method DeletedReply := do
  match ← NotificationQueue.deleteNotification notificationId with
  | .sent message _ | .deleted _ message => pure { message }

/-! ## Calls, run by the services -/

/-- The three stores. -/
structure Stores where
  users : List AuthService.Auth
  tasks : List TaskService.Task
  notifications : List Consumers.Notification
  deriving DecidableEq

def World.stores (world : World) : Stores := ⟨world.users, world.tasks, world.notifications⟩

/-- What is created gets an id that is fresh. -/
def Named (world : World) (outcome : Outcome) (document : Document) : Prop :=
  outcome.Applied → world.Fresh document

def usersAnswer (world : World) (call : AuthService.Call) (current : AuthService.World) :
    (op : AuthService.Op) → AuthService.Answer → Except Thrown op.Value → AuthService.World → Prop
  | .create name email password, answer, reply, next =>
      Named world answer.outcome (.user answer.id) ∧
        AuthService.exec current 0 call (.create name email password) answer = some (next, reply)
  | op, answer, reply, next => AuthService.exec current 0 call op answer = some (next, reply)

def tasksAnswer (world : World) (current : TaskService.World) :
    (op : TaskService.Op) → TaskService.Answer → Except Thrown op.Value → TaskService.World → Prop
  | .createTask body, answer, reply, next =>
      Named world answer.outcome (.task answer.id) ∧
        TaskService.exec current 0 (.createTask body) answer = some (next, reply)
  | op, answer, reply, next => TaskService.exec current 0 op answer = some (next, reply)

def notificationsAnswer (world : World) (delivery : NotificationQueue.Delivery)
    (current : NotificationQueue.World) :
    (op : NotificationQueue.Op) → NotificationQueue.Answer → Except Thrown op.Value →
      NotificationQueue.World → Prop
  | .create data, answer, reply, next =>
      Named world answer.outcome (.notification answer.id) ∧
        NotificationQueue.exec current delivery (.create data) answer = some (next, reply)
  | op, answer, reply, next =>
      NotificationQueue.exec current delivery op answer = some (next, reply)

/-- The call of a saga, as its service runs it on the stores: its reply, and the stores after. -/
def Served (world : World) : (op : Op) → Except Thrown op.Value → Stores → Prop
  | .register body, reply, stores => ∃ after : AuthService.World,
      Alone (usersAnswer world (.register body)) grpcRegister body () { users := world.users }
        reply after ∧ stores = { world.stores with users := after.users }
  | .deleteUser userId, reply, stores => ∃ after : AuthService.World,
      Alone (usersAnswer world (.deleteUser userId)) grpcDeleteUser userId ()
        { users := world.users } reply after ∧ stores = { world.stores with users := after.users }
  | .createSaga data, reply, stores =>
    ∃ (fields : TaskService.Fields) (after : TaskService.World),
      Alone (tasksAnswer world) grpcCreateSaga data fields { tasks := world.tasks } reply after ∧
        stores = { world.stores with tasks := after.tasks }
  | .deleteSaga taskId, reply, stores =>
    ∃ (fields : TaskService.Fields) (after : TaskService.World),
      Alone (tasksAnswer world) grpcDeleteSaga taskId fields { tasks := world.tasks } reply after ∧
        stores = { world.stores with tasks := after.tasks }
  | .sendSaga data, reply, stores => ∃ (delivery : NotificationQueue.Delivery)
      (after : NotificationQueue.World),
      Alone (notificationsAnswer world delivery) sendSagaReply data ()
        { notifications := world.notifications } reply after ∧
        stores = { world.stores with notifications := after.notifications }
  | .deleteNotification notificationId, reply, stores => ∃ (delivery : NotificationQueue.Delivery)
      (after : NotificationQueue.World),
      Alone (notificationsAnswer world delivery) deleteSagaReply notificationId ()
        { notifications := world.notifications } reply after ∧
        stores = { world.stores with notifications := after.notifications }

/-! ## What the methods do -/

/-- Nothing is removed when there is nothing to be found. -/
theorem filter_of_find?_none {α : Type} {items : List α} {hit kept : α → Bool}
    (opposite : ∀ item, hit item = false → kept item = true) (absent : items.find? hit = none) :
    items.filter kept = items := by
  refine List.filter_eq_self.mpr fun item there => opposite item ?_
  exact Bool.eq_false_iff.mpr (List.find?_eq_none.mp absent item there)

/-- An operation that was applied had a fresh id for what it created. -/
theorem Named.fresh {α : Type} {world : World} {document : Document} {outcome : Outcome}
    {reply : Except Thrown α} {value : α} (named : Named world outcome document)
    (applied : (outcome = .resolved ∧ reply = .ok value) ∨
      ∃ error, outcome = .rejectedApplied error ∧ reply = .error error) : world.Fresh document := by
  refine named ?_
  rcases applied with ⟨rfl, _⟩ | ⟨error, rfl, _⟩
  · trivial
  · trivial

/-- The caller of an operation that was applied may learn of it or not. -/
theorem learned {α : Type} {outcome : Outcome} {reply : Except Thrown α} {value : α}
    (applied : (outcome = .resolved ∧ reply = .ok value) ∨
      ∃ error, outcome = .rejectedApplied error ∧ reply = .error error) :
    (∃ error, reply = .error error) ∨ reply = .ok value := by
  rcases applied with ⟨_, ok⟩ | ⟨error, _, lost⟩
  · exact .inr ok
  · exact .inl ⟨error, lost⟩

section AuthService

open AuthService

variable {world : World} {call : Call} {current after : AuthService.World} {last : Unit}

theorem users_findOne {email : String} {reply : Except Thrown (Option Auth)}
    (answered : Possible (usersAnswer world call) current (.findOne email) reply after) :
    after.users = current.users ∧
      (reply = .ok (current.find email) ∨ ∃ error, reply = .error error) := by
  obtain ⟨answer, answered⟩ := answered
  rcases respond_cases answered with
    ⟨rfl, error, _, rfl⟩ | ⟨_, rfl, ⟨ok, rfl⟩ | ⟨error, failed, rfl⟩⟩
  · exact ⟨rfl, .inr ⟨error, rfl⟩⟩
  · rw [if_pos ok]
    exact ⟨enroll_users .., .inl rfl⟩
  · rw [if_neg (by simp [failed])]
    exact ⟨rfl, .inr ⟨error, rfl⟩⟩

theorem users_hash {password : String} {rounds : ℕ} {reply : Except Thrown String}
    (answered : Possible (usersAnswer world call) current (.hash password rounds) reply after) :
    after = current := by
  obtain ⟨answer, answered⟩ := answered
  rcases respond_cases answered with ⟨rfl, _⟩ | ⟨_, rfl, _⟩
  · rfl
  · rfl

/-- A user that was not there before is stored under a fresh id. -/
def UserCreated (world : World) (before : List Auth) (name email : String) (after : List Auth)
    (user : Auth) : Prop :=
  ∃ id digest, user = ⟨id, name, email, digest⟩ ∧ world.Fresh (.user id) ∧
    (name ≠ "" ∧ email ≠ "" ∧ digest ≠ "") ∧ after = before ++ [user]

theorem users_create {name email password : String} {reply : Except Thrown Auth}
    (answered : Possible (usersAnswer world call) current (.create name email password) reply
      after) :
    Writes (·.users) current after (UserCreated world current.users name email) reply := by
  obtain ⟨answer, named, answered⟩ := answered
  rcases respond_cases answered with ⟨rfl, error, _, rfl⟩ | ⟨⟨present, _⟩, rfl, applied⟩
  · exact .inl ⟨rfl, error, rfl⟩
  · refine .inr ⟨_, ⟨answer.id, password, rfl, named.fresh applied, present, rfl⟩, ?_⟩
    exact learned applied

theorem yields_register {body : RegisterBody} {reply : Except Thrown AuthService.Reply}
    (yields : Yields (Possible (usersAnswer world call)) (register body) () current reply last
      after) :
    Writes (·.users) current after (fun users reply =>
      ∃ user, current.find body.email = none ∧
        UserCreated world current.users body.name body.email users user ∧
        reply = .registered "Registered Successfully" user (jwtService.sign user)) reply := by
  rcases yields_bind.mp yields with ⟨found, _, first, looked, goesOn⟩ | ⟨error, looked, rfl⟩
  · obtain ⟨same, ok | ⟨error, failed⟩⟩ := users_findOne (yields_await.mp looked)
    · obtain rfl := Except.ok.inj ok
      cases absent : current.find body.email with
      | some user =>
          rw [absent] at goesOn
          obtain ⟨rfl, _, rfl⟩ := yields_throw.mp goesOn
          exact .inl ⟨same, _, rfl⟩
      | none =>
          rw [absent] at goesOn
          rcases yields_bind.mp goesOn with
            ⟨digest, _, second, hashed, creates⟩ | ⟨error, hashed, rfl⟩
          · obtain rfl := users_hash (yields_await.mp hashed)
            refine Writes.congr same (Writes.bind (fun performed =>
              users_create (yields_await.mp performed)) ?_ creates)
            intro users user created
            rw [same] at created
            exact ⟨_, rfl, user, rfl, created, rfl⟩
          · obtain rfl := users_hash (yields_await.mp hashed)
            exact .inl ⟨same, error, rfl⟩
    · cases failed
  · exact .inl ⟨(users_findOne (yields_await.mp looked)).1, error, rfl⟩

/-- What `findByIdAndDelete` makes of the users, and gives. -/
def UserDeleted (before : List Auth) (userId : String) (after : List Auth) (found : Option Auth) :
    Prop :=
  after = before.filter (·.id.toString ≠ userId) ∧ found = before.find? (·.id.toString = userId)

theorem yields_deleteUser {userId : String} {reply : Except Thrown AuthService.Reply}
    (yields : Yields (Possible (usersAnswer world call)) (deleteUser userId) () current reply last
      after) :
    Writes (·.users) current after (fun users reply =>
      ∃ user, UserDeleted current.users userId users (some user) ∧
        reply = .deleted "User deleted successfully" user) reply := by
  refine writes_of_yields (UserDeleted current.users userId) ?_ ?_ ⟨_, rfl⟩
    (fun _ => rfl) yields
  · intro reply last after performed
    obtain ⟨answer, answered⟩ := yields_await.mp performed
    rcases respond_cases answered with
      ⟨rfl, error, _, rfl⟩ | ⟨_, rfl, ⟨_, rfl⟩ | ⟨error, _, rfl⟩⟩
    · exact .inl ⟨rfl, error, rfl⟩
    · exact .inr ⟨_, ⟨rfl, rfl⟩, .inr rfl⟩
    · exact .inr ⟨_, ⟨rfl, rfl⟩, .inl ⟨error, rfl⟩⟩
  · rintro users ⟨rfl, absent⟩
    exact filter_of_find?_none (fun user other => by simpa using other) absent.symm

end AuthService

section TaskService

open TaskService

variable {world : World} {current after : TaskService.World} {fields last : Fields}

/-- A task is stored under a fresh id. -/
def TaskCreated (world : World) (before : List Task) (body : TaskBody) (after : List Task)
    (created : Option Task) : Prop :=
  ∃ id, created = some (body.toTask id) ∧ world.Fresh (.task id) ∧ body.Valid ∧
    after = before ++ [body.toTask id]

theorem yields_createSaga {body : TaskBody} {reply : Except Thrown TaskService.Reply}
    (yields : Yields (Possible (tasksAnswer world)) (createSaga body) fields current reply last
      after) :
    Writes (·.tasks) current after (fun tasks reply =>
      ∃ task, TaskCreated world current.tasks body tasks (some task) ∧
        reply = .created "Task created successfully via Saga" task) reply := by
  refine writes_of_yields (TaskCreated world current.tasks body) ?_ ?_ ⟨_, rfl⟩
    (fun _ => rfl) yields
  · intro reply last after performed
    obtain ⟨answer, named, answered⟩ := yields_await.mp performed
    rcases respond_cases answered with ⟨rfl, error, _, rfl⟩ | ⟨⟨valid, _⟩, rfl, applied⟩
    · exact .inl ⟨rfl, error, rfl⟩
    · refine .inr ⟨_, ⟨answer.id, rfl, named.fresh applied, valid, rfl⟩, ?_⟩
      exact learned applied
  · rintro tasks ⟨id, absent, _⟩
    cases absent

def TaskDeleted (before : List Task) (taskId : String) (after : List Task) (found : Option Task) :
    Prop :=
  after = before.filter (·.id.toString ≠ taskId) ∧ found = before.find? (·.id.toString = taskId)

theorem yields_deleteSaga {taskId : String} {reply : Except Thrown TaskService.Reply}
    (yields : Yields (Possible (tasksAnswer world)) (deleteSaga taskId) fields current reply last
      after) :
    Writes (·.tasks) current after (fun tasks reply =>
      ∃ task, TaskDeleted current.tasks taskId tasks (some task) ∧
        reply = .deleted true "Task deleted successfully") reply := by
  refine writes_of_yields (TaskDeleted current.tasks taskId) ?_ ?_ ⟨_, rfl⟩ (fun _ => rfl) yields
  · intro reply last after performed
    obtain ⟨answer, answered⟩ := yields_await.mp performed
    rcases respond_cases answered with
      ⟨rfl, error, _, rfl⟩ | ⟨_, rfl, ⟨_, rfl⟩ | ⟨error, _, rfl⟩⟩
    · exact .inl ⟨rfl, error, rfl⟩
    · exact .inr ⟨_, ⟨rfl, rfl⟩, .inr rfl⟩
    · exact .inr ⟨_, ⟨rfl, rfl⟩, .inl ⟨error, rfl⟩⟩
  · rintro tasks ⟨rfl, absent⟩
    exact filter_of_find?_none (fun task other => by simpa using other) absent.symm

end TaskService

section NotificationQueue

open NotificationQueue

variable {world : World} {delivery : Delivery} {current after : NotificationQueue.World}
  {last : Unit}

/-- A notification is stored under a fresh id. -/
def NotificationCreated (world : World) (before : List Consumers.Notification) (data : EventPayload)
    (after : List Consumers.Notification) (created : Option Consumers.Notification) : Prop :=
  ∃ id notification, created = some notification ∧
    Consumers.Notification.of? id data = some notification ∧ world.Fresh (.notification id) ∧
      after = before ++ [notification]

theorem yields_createNotification {data : EventPayload}
    {reply : Except Thrown Consumers.Notification}
    (yields : Yields (Possible (notificationsAnswer world delivery)) (createNotification data) ()
      current reply last after) :
    Writes (·.notifications) current after (fun notifications notification =>
      ∃ item, NotificationCreated world current.notifications data notifications (some item) ∧
        notification = item) reply := by
  refine writes_of_yields (NotificationCreated world current.notifications data) ?_ ?_ ⟨_, rfl⟩
    (fun _ => rfl) yields
  · intro reply last after performed
    obtain ⟨answer, named, answered⟩ := yields_await.mp performed
    simp only [NotificationQueue.exec] at answered
    cases made : Consumers.Notification.of? answer.id data with
    | none =>
        rw [made] at answered
        rcases respond_cases answered with ⟨rfl, error, _, rfl⟩ | ⟨impossible, _⟩
        · exact .inl ⟨rfl, error, rfl⟩
        · exact impossible.elim
    | some notification =>
        rw [made] at answered
        rcases respond_cases answered with ⟨rfl, error, _, rfl⟩ | ⟨_, rfl, applied⟩
        · exact .inl ⟨rfl, error, rfl⟩
        · refine .inr ⟨_, ⟨answer.id, notification, rfl, made, named.fresh applied, rfl⟩, ?_⟩
          exact learned applied
  · rintro notifications ⟨id, notification, absent, _⟩
    cases absent

theorem yields_sendSaga {data : EventPayload} {reply : Except Thrown NotificationQueue.Reply}
    (yields : Yields (Possible (notificationsAnswer world delivery)) (sendSaga data) () current
      reply last after) :
    Writes (·.notifications) current after (fun notifications reply =>
      ∃ item, NotificationCreated world current.notifications data notifications (some item) ∧
        reply = .sent "Notification sent successfully via Saga" item) reply := by
  refine Writes.tryCatch (fun performed => Writes.bind yields_createNotification ?_ performed)
    (fun error => ⟨_, rfl⟩) yields
  rintro notifications _ ⟨item, created, rfl⟩
  exact ⟨_, rfl, _, created, rfl⟩

def NotificationDeleted (before : List Consumers.Notification) (notificationId : Option String)
    (after : List Consumers.Notification) (found : Option Consumers.Notification) : Prop :=
  after = before.filter (some ·.id.toString ≠ notificationId) ∧
    found = before.find? (some ·.id.toString = notificationId)

theorem yields_deleteNotification {notificationId : Option String}
    {reply : Except Thrown NotificationQueue.Reply}
    (yields : Yields (Possible (notificationsAnswer world delivery))
      (deleteNotification notificationId) () current reply last after) :
    Writes (·.notifications) current after (fun notifications reply =>
      ∃ item, NotificationDeleted current.notifications notificationId notifications (some item) ∧
        reply = .deleted true "Notification deleted successfully") reply := by
  refine Writes.tryCatch (fun performed => writes_of_yields
    (NotificationDeleted current.notifications notificationId) ?_ ?_ ⟨_, rfl⟩ (fun _ => rfl)
      performed) (fun error => ⟨_, rfl⟩) yields
  · intro reply last after performed
    obtain ⟨answer, answered⟩ := yields_await.mp performed
    rcases respond_cases answered with
      ⟨rfl, error, _, rfl⟩ | ⟨_, rfl, ⟨_, rfl⟩ | ⟨error, _, rfl⟩⟩
    · exact .inl ⟨rfl, error, rfl⟩
    · exact .inr ⟨_, ⟨rfl, rfl⟩, .inr rfl⟩
    · exact .inr ⟨_, ⟨rfl, rfl⟩, .inl ⟨error, rfl⟩⟩
  · rintro notifications ⟨rfl, absent⟩
    exact filter_of_find?_none (fun item other => by simpa using other) absent.symm

end NotificationQueue

/-! ## The model of the saga -/

section Model

variable {world after : World} {saga : ℕ} {op : Op} {stores : Stores}

/-- The model of the saga has a step with this reply that leaves these stores. -/
def Modelled (world : World) (saga : ℕ) (op : Op) (reply : Except Thrown op.Value)
    (stores : Stores) : Prop :=
  ∃ answer after, exec world saga op answer = some (after, reply) ∧ after.stores = stores

theorem Modelled.nothing {reply : Except Thrown op.Value} (failed : ∃ error, reply = .error error)
    (same : stores = world.stores) : Modelled world saga op reply stores := by
  obtain ⟨error, rfl⟩ := failed
  exact ⟨⟨.ended (.rejected error), ⟨⟨"000000000000000000000000", rfl⟩, ""⟩⟩, world, rfl, same.symm⟩

/-- The effect of the call, whether or not the gateway learns of it. -/
theorem Modelled.applied (chosen : Chosen) {value : op.Value} {reply : Except Thrown op.Value}
    (performed : ∀ reported, ∃ after,
      effect world saga reported chosen op = some (after, value) ∧ after.stores = stores)
    (learns : (∃ error, reply = .error error) ∨ reply = .ok value) :
    Modelled world saga op reply stores := by
  rcases learns with ⟨error, rfl⟩ | rfl
  · obtain ⟨after, performed, same⟩ := performed false
    exact ⟨⟨.ended (.rejectedApplied error), chosen⟩, after, by simp [exec, performed], same⟩
  · obtain ⟨after, performed, same⟩ := performed true
    exact ⟨⟨.ended .resolved, chosen⟩, after, by simp [exec, performed], same⟩

/-- What a method of a service writes, the model of the saga writes. -/
theorem Modelled.of_writes {W γ : Type} {read : W → γ} {before after : W}
    {result : γ → op.Value → Prop} {reply : Except Thrown op.Value}
    (writes : Writes read before after result reply) (store : γ → Stores)
    (start : store (read before) = world.stores) (leaves : stores = store (read after))
    (effects : ∀ written value, result written value → ∃ chosen, ∀ reported, ∃ next,
      effect world saga reported chosen op = some (next, value) ∧ next.stores = store written) :
    Modelled world saga op reply stores := by
  subst leaves
  rcases writes with ⟨same, failed⟩ | ⟨value, written, learns⟩
  · exact .nothing failed (by rw [same, start])
  · obtain ⟨chosen, performed⟩ := effects _ value written
    exact .applied chosen performed learns

theorem served_register {body : AuthService.RegisterBody}
    {reply : Except Thrown (Op.register body).Value}
    (served : Served world (.register body) reply stores) :
    Modelled world saga (.register body) reply stores := by
  obtain ⟨after, alone, leaves⟩ := served
  obtain ⟨last, yields⟩ := alone_iff_yields.mp alone
  have writes : Writes (·.users) ({ users := world.users } : AuthService.World) after
      (fun users (reply : AuthReply) => ∃ user : AuthService.Auth,
        world.users.find? (·.email = body.email) = none ∧
        UserCreated world world.users body.name body.email users user ∧
        reply = ⟨"Registered Successfully",
          some ⟨some ⟨user.id.toString, user.id.toString_ne_empty⟩, user.name, user.email⟩,
          AuthService.jwtService.sign user⟩) reply := by
    refine Writes.bind yields_register ?_ yields
    rintro users _ ⟨user, absent, created, rfl⟩
    exact ⟨_, rfl, user, absent, created, rfl⟩
  refine .of_writes writes (fun users => { world.stores with users }) rfl leaves ?_
  rintro users _ ⟨_, absent, ⟨id, digest, rfl, fresh, present, rfl⟩, rfl⟩
  exact ⟨⟨id, digest⟩, fun _ => ⟨_, if_pos ⟨absent, present, fresh⟩, rfl⟩⟩

theorem served_deleteUser {userId : String}
    {reply : Except Thrown (Op.deleteUser userId).Value}
    (served : Served world (.deleteUser userId) reply stores) :
    Modelled world saga (.deleteUser userId) reply stores := by
  obtain ⟨after, alone, leaves⟩ := served
  obtain ⟨last, yields⟩ := alone_iff_yields.mp alone
  have writes : Writes (·.users) ({ users := world.users } : AuthService.World) after
      (fun users (reply : DeletedReply) =>
        (∃ user, UserDeleted world.users userId users (some user)) ∧
        reply = ⟨"User deleted successfully"⟩) reply := by
    refine Writes.bind yields_deleteUser ?_ yields
    rintro users _ ⟨user, deleted, rfl⟩
    exact ⟨_, rfl, ⟨user, deleted⟩, rfl⟩
  refine .of_writes writes (fun users => { world.stores with users }) rfl leaves ?_
  rintro users _ ⟨⟨user, rfl, there⟩, rfl⟩
  exact ⟨⟨user.id, ""⟩, fun _ => ⟨_, if_pos (there ▸ rfl), rfl⟩⟩

theorem served_createSaga {data : TaskService.TaskBody}
    {reply : Except Thrown (Op.createSaga data).Value}
    (served : Served world (.createSaga data) reply stores) :
    Modelled world saga (.createSaga data) reply stores := by
  obtain ⟨fields, after, alone, leaves⟩ := served
  obtain ⟨last, yields⟩ := alone_iff_yields.mp alone
  have writes : Writes (·.tasks) ({ tasks := world.tasks } : TaskService.World) after
      (fun tasks (reply : TaskReply) =>
        ∃ task, TaskCreated world world.tasks data tasks (some task) ∧
          reply = ⟨some ⟨task.id.toString, task.id.toString_ne_empty⟩, task.title,
            task.description, task.userId, "Task created successfully via Saga"⟩) reply := by
    refine Writes.bind yields_createSaga ?_ yields
    rintro tasks _ ⟨task, created, rfl⟩
    exact ⟨_, rfl, task, created, rfl⟩
  refine .of_writes writes (fun tasks => { world.stores with tasks }) rfl leaves ?_
  rintro tasks _ ⟨_, ⟨id, same, fresh, valid, rfl⟩, rfl⟩
  obtain rfl := Option.some.inj same
  exact ⟨⟨id, ""⟩, fun _ => ⟨_, if_pos ⟨valid, fresh⟩, rfl⟩⟩

theorem served_deleteSaga {taskId : String}
    {reply : Except Thrown (Op.deleteSaga taskId).Value}
    (served : Served world (.deleteSaga taskId) reply stores) :
    Modelled world saga (.deleteSaga taskId) reply stores := by
  obtain ⟨fields, after, alone, leaves⟩ := served
  obtain ⟨last, yields⟩ := alone_iff_yields.mp alone
  have writes : Writes (·.tasks) ({ tasks := world.tasks } : TaskService.World) after
      (fun tasks (reply : DeletedReply) =>
        (∃ task, TaskDeleted world.tasks taskId tasks (some task)) ∧
          reply = ⟨"Task deleted successfully"⟩) reply := by
    refine Writes.bind yields_deleteSaga ?_ yields
    rintro tasks _ ⟨task, deleted, rfl⟩
    exact ⟨_, rfl, ⟨task, deleted⟩, rfl⟩
  refine .of_writes writes (fun tasks => { world.stores with tasks }) rfl leaves ?_
  rintro tasks _ ⟨⟨task, rfl, there⟩, rfl⟩
  exact ⟨⟨task.id, ""⟩, fun _ => ⟨_, if_pos (there ▸ rfl), rfl⟩⟩

theorem served_sendSaga {data : EventPayload} {reply : Except Thrown (Op.sendSaga data).Value}
    (served : Served world (.sendSaga data) reply stores) :
    Modelled world saga (.sendSaga data) reply stores := by
  obtain ⟨delivery, after, alone, leaves⟩ := served
  obtain ⟨last, yields⟩ := alone_iff_yields.mp alone
  have writes : Writes (·.notifications)
      ({ notifications := world.notifications } : NotificationQueue.World) after
      (fun notifications (reply : NotificationReply) =>
        ∃ item, NotificationCreated world world.notifications data notifications (some item) ∧
          reply = ⟨"Notification sent successfully via Saga", some item⟩) reply := by
    refine Writes.bind yields_sendSaga ?_ yields
    rintro notifications _ ⟨item, created, rfl⟩
    exact ⟨_, rfl, item, created, rfl⟩
  refine .of_writes writes (fun notifications => { world.stores with notifications }) rfl leaves ?_
  rintro notifications _ ⟨item, ⟨id, notification, same, made, fresh, rfl⟩, rfl⟩
  obtain rfl := Option.some.inj same
  obtain ⟨_, _, rfl⟩ := Consumers.Notification.of?_eq_some made
  refine ⟨⟨item.id, ""⟩, fun _ => ?_⟩
  simp only [effect, made]
  exact ⟨_, if_pos fresh, rfl⟩

theorem served_deleteNotification {notificationId : Option String}
    {reply : Except Thrown (Op.deleteNotification notificationId).Value}
    (served : Served world (.deleteNotification notificationId) reply stores) :
    Modelled world saga (.deleteNotification notificationId) reply stores := by
  obtain ⟨delivery, after, alone, leaves⟩ := served
  obtain ⟨last, yields⟩ := alone_iff_yields.mp alone
  have writes : Writes (·.notifications)
      ({ notifications := world.notifications } : NotificationQueue.World) after
      (fun notifications (reply : DeletedReply) =>
        (∃ item, NotificationDeleted world.notifications notificationId notifications (some item)) ∧
          reply = ⟨"Notification deleted successfully"⟩) reply := by
    refine Writes.bind yields_deleteNotification ?_ yields
    rintro notifications _ ⟨item, deleted, rfl⟩
    exact ⟨_, rfl, ⟨item, deleted⟩, rfl⟩
  refine .of_writes writes (fun notifications => { world.stores with notifications }) rfl leaves ?_
  rintro notifications _ ⟨⟨item, rfl, there⟩, rfl⟩
  exact ⟨⟨item.id, ""⟩, fun _ => ⟨_, if_pos (there ▸ rfl), rfl⟩⟩

end Model

/-! ## The services do all of it -/

section Served

variable {world after : World} {saga : ℕ} {reported : Bool} {chosen : Chosen} {op : Op}

/-- What a call that fails may throw. -/
def lost : Thrown := .error "Error" "connection lost"

/-- Every stored document has been created by a saga. -/
def Recorded (world : World) : Prop :=
  ∀ document : Document, document.Stored world → document ∈ world.created.map (·.document)

/-- The service can do this, and the gateway may learn of it or not. -/
def Serves (world : World) (op : Op) (value : op.Value) (stores : Stores) : Prop :=
  Served world op (.ok value) stores ∧ ∃ error, Served world op (.error error) stores

theorem performs_register {body : AuthService.RegisterBody} {current : AuthService.World}
    {id : ObjectId} {digest : String} (absent : current.find body.email = none)
    (fresh : world.Fresh (.user id))
    (valid : (body.name ≠ "" ∧ body.email ≠ "" ∧ digest ≠ "") ∧ id ∉ current.users.map (·.id)) :
    ∃ next : AuthService.World,
      next.users = current.users ++ [⟨id, body.name, body.email, digest⟩] ∧
        Performs (Possible (usersAnswer world (.register body))) (AuthService.register body) ()
          current (.registered "Registered Successfully" ⟨id, body.name, body.email, digest⟩
            ⟨id, body.email⟩) () next := by
  let enrolled := current.enroll 0 (.register body) body.email
  have same : enrolled.users = current.users := AuthService.enroll_users ..
  rw [← same] at valid ⊢
  have looks : Possible (usersAnswer world (.register body)) current (.findOne body.email)
      (.ok none) enrolled := by
    refine ⟨⟨.resolved, id, "", false⟩, ?_⟩
    rw [← absent]
    exact congrArg (fun next => some (next, Except.ok (current.find body.email))) (if_pos rfl)
  have hashes : Possible (usersAnswer world (.register body)) enrolled (.hash body.password 10)
      (.ok digest) enrolled :=
    ⟨⟨.resolved, id, digest, false⟩, rfl⟩
  have creates : Performs (Possible (usersAnswer world (.register body)))
      (AuthService.authModel.create body.name body.email digest) () enrolled
      ⟨id, body.name, body.email, digest⟩ ()
      { enrolled with users := enrolled.users ++ [⟨id, body.name, body.email, digest⟩] } :=
    { resolves := yields_await.mpr ⟨⟨.resolved, id, "", false⟩, fun _ => fresh, if_pos valid⟩
      rejects := ⟨lost, yields_await.mpr
        ⟨⟨.rejectedApplied lost, id, "", false⟩, fun _ => fresh, if_pos valid⟩⟩ }
  exact ⟨_, rfl, .preceded () (yields_await.mpr looks)
    (.preceded () (yields_await.mpr hashes) (creates.bind rfl))⟩

theorem serves_register {body : AuthService.RegisterBody} {value : (Op.register body).Value}
    (recorded : Recorded world)
    (performed : effect world saga reported chosen (.register body) = some (after, value)) :
    Serves world (.register body) value after.stores := by
  simp only [effect, Option.ite_none_right_eq_some, Option.some.injEq] at performed
  obtain ⟨⟨absent, present, fresh⟩, same⟩ := performed
  obtain ⟨rfl, rfl⟩ := Prod.mk.inj same
  let current : AuthService.World := { users := world.users }
  have unknown : current.find body.email = none := absent
  obtain ⟨next, users, registers⟩ := performs_register unknown fresh
    ⟨present, fun stored => fresh (recorded (.user chosen.id) stored)⟩
  have performs : Performs (Possible (usersAnswer world (.register body))) (grpcRegister body) ()
      current _ () next := registers.bind rfl
  obtain ⟨resolves, error, rejects⟩ := performs.alone
  have stores :=
    congrArg (fun users : List AuthService.Auth => { world.stores with users }) users.symm
  exact ⟨⟨next, resolves, stores⟩, error, next, rejects, stores⟩

/-- The id of a document that is there can be cast to one. -/
theorem isObjectId_of_find? {α : Type} {items : List α} {id : α → ObjectId} {text : String} {item : α}
    (there : items.find? (fun item => (id item).toString = text) = some item) :
    isObjectId text = true := by
  have named : (id item).toString = text := by simpa using List.find?_some there
  rw [← named]
  exact (id item).isObjectId_toString

theorem serves_deleteUser {userId : String} {value : (Op.deleteUser userId).Value}
    (performed : effect world saga reported chosen (.deleteUser userId) = some (after, value)) :
    Serves world (.deleteUser userId) value after.stores := by
  simp only [effect, Option.ite_none_right_eq_some, Option.some.injEq] at performed
  obtain ⟨there, same⟩ := performed
  obtain ⟨rfl, rfl⟩ := Prod.mk.inj same
  obtain ⟨user, there⟩ := Option.isSome_iff_exists.mp there
  let next : AuthService.World := { users := world.users.filter (·.id.toString ≠ userId) }
  have valid : isObjectId userId = true := isObjectId_of_find? there
  have deletes : Performs (Possible (usersAnswer world (.deleteUser userId)))
      (AuthService.authModel.findByIdAndDelete userId) () { users := world.users } (some user) ()
      next :=
    { resolves := yields_await.mpr ⟨⟨.resolved, chosen.id, "", false⟩,
        (if_pos valid).trans (congrArg (fun found => some (next, Except.ok found)) there)⟩
      rejects := ⟨lost, yields_await.mpr
        ⟨⟨.rejectedApplied lost, chosen.id, "", false⟩, if_pos valid⟩⟩ }
  have performs : Performs (Possible (usersAnswer world (.deleteUser userId)))
      (grpcDeleteUser userId) () { users := world.users } _ () next :=
    Performs.bind (deletes.bind rfl) rfl
  obtain ⟨resolves, error, rejects⟩ := performs.alone
  exact ⟨⟨next, resolves, rfl⟩, error, next, rejects, rfl⟩

theorem serves_createSaga {data : TaskService.TaskBody} {value : (Op.createSaga data).Value}
    (performed : effect world saga reported chosen (.createSaga data) = some (after, value)) :
    Serves world (.createSaga data) value after.stores := by
  simp only [effect, Option.ite_none_right_eq_some, Option.some.injEq] at performed
  obtain ⟨⟨valid, fresh⟩, same⟩ := performed
  obtain ⟨rfl, rfl⟩ := Prod.mk.inj same
  let fields : TaskService.Fields := ⟨false, 0⟩
  let current : TaskService.World := { tasks := world.tasks }
  let next : TaskService.World :=
    { current with toLedger := current.insertTask (data.toTask chosen.id) }
  have free : chosen.id ∉ current.issued := List.not_mem_nil
  have creates : Performs (Possible (tasksAnswer world)) (TaskService.taskModel.create data) fields
      current (some (data.toTask chosen.id)) fields next :=
    { resolves := yields_await.mpr ⟨⟨.resolved, chosen.id⟩, fun _ => fresh, if_pos ⟨valid, free⟩⟩
      rejects := ⟨lost, yields_await.mpr
        ⟨⟨.rejectedApplied lost, chosen.id⟩, fun _ => fresh, if_pos ⟨valid, free⟩⟩⟩ }
  have performs : Performs (Possible (tasksAnswer world)) (grpcCreateSaga data) fields current _
      fields next :=
    Performs.bind (creates.bind rfl) rfl
  obtain ⟨resolves, error, rejects⟩ := performs.alone
  exact ⟨⟨_, next, resolves, rfl⟩, error, _, next, rejects, rfl⟩

theorem serves_deleteSaga {taskId : String} {value : (Op.deleteSaga taskId).Value}
    (performed : effect world saga reported chosen (.deleteSaga taskId) = some (after, value)) :
    Serves world (.deleteSaga taskId) value after.stores := by
  simp only [effect, Option.ite_none_right_eq_some, Option.some.injEq] at performed
  obtain ⟨there, same⟩ := performed
  obtain ⟨rfl, rfl⟩ := Prod.mk.inj same
  obtain ⟨task, there⟩ := Option.isSome_iff_exists.mp there
  let fields : TaskService.Fields := ⟨false, 0⟩
  let current : TaskService.World := { tasks := world.tasks }
  let next : TaskService.World := { current with toLedger := current.deleteTask taskId }
  have valid : isObjectId taskId = true := isObjectId_of_find? there
  have deletes : Performs (Possible (tasksAnswer world))
      (TaskService.taskModel.findByIdAndDelete taskId) fields current (some task) fields next :=
    { resolves := yields_await.mpr
        ⟨⟨.resolved, chosen.id⟩,
          (if_pos valid).trans (congrArg (fun found => some (next, Except.ok found)) there)⟩
      rejects := ⟨lost, yields_await.mpr ⟨⟨.rejectedApplied lost, chosen.id⟩, if_pos valid⟩⟩ }
  have performs : Performs (Possible (tasksAnswer world)) (grpcDeleteSaga taskId) fields current _
      fields next :=
    Performs.bind (deletes.bind rfl) rfl
  obtain ⟨resolves, error, rejects⟩ := performs.alone
  exact ⟨⟨_, next, resolves, rfl⟩, error, _, next, rejects, rfl⟩

/-- Any delivery will do. -/
def someDelivery : NotificationQueue.Delivery := ⟨0, ⟨0, .deleteSaga none⟩⟩

theorem serves_sendSaga {data : EventPayload} {value : (Op.sendSaga data).Value}
    (recorded : Recorded world)
    (performed : effect world saga reported chosen (.sendSaga data) = some (after, value)) :
    Serves world (.sendSaga data) value after.stores := by
  cases made : Consumers.Notification.of? chosen.id data with
  | none =>
      simp only [effect, made] at performed
      cases performed
  | some notification =>
      simp only [effect, made, Option.ite_none_right_eq_some, Option.some.injEq] at performed
      obtain ⟨fresh, same⟩ := performed
      obtain ⟨rfl, rfl⟩ := Prod.mk.inj same
      obtain ⟨_, _, named⟩ := Consumers.Notification.of?_eq_some made
      rw [named] at fresh
      let current : NotificationQueue.World := { notifications := world.notifications }
      let next : NotificationQueue.World :=
        { current with
          notifications := world.notifications ++ [notification]
          created := [someDelivery.message] }
      have unknown : chosen.id ∉ current.notifications.map (·.id) :=
        fun stored => fresh (recorded (.notification chosen.id) stored)
      have answered (outcome : Outcome) (reply : Except Thrown (Option Consumers.Notification))
          (ends : respond (chosen.id ∉ current.notifications.map (·.id)) outcome current next
            (some notification) = some (next, reply)) :
          Possible (notificationsAnswer world someDelivery) current (.create data) reply next := by
        refine ⟨⟨outcome, chosen.id⟩, fun _ => fresh, ?_⟩
        simp only [NotificationQueue.exec, made]
        exact ends
      have creates : Performs (Possible (notificationsAnswer world someDelivery))
          (NotificationQueue.notificationModel.create data) () current (some notification) ()
          next :=
        { resolves := yields_await.mpr (answered .resolved _ (if_pos unknown))
          rejects := ⟨lost, yields_await.mpr
            (answered (.rejectedApplied lost) _ (if_pos unknown))⟩ }
      have sends : Performs (Possible (notificationsAnswer world someDelivery))
          (NotificationQueue.sendSaga data) () current _ () next :=
        Performs.tryCatch (Performs.bind (creates.bind rfl) rfl) fun _ => ⟨_, rfl⟩
      have performs : Performs (Possible (notificationsAnswer world someDelivery))
          (sendSagaReply data) () current _ () next := sends.bind rfl
      obtain ⟨resolves, error, rejects⟩ := performs.alone
      exact ⟨⟨_, next, resolves, rfl⟩, error, _, next, rejects, rfl⟩

theorem serves_deleteNotification {notificationId : Option String}
    {value : (Op.deleteNotification notificationId).Value}
    (performed : effect world saga reported chosen (.deleteNotification notificationId) =
      some (after, value)) :
    Serves world (.deleteNotification notificationId) value after.stores := by
  simp only [effect, Option.ite_none_right_eq_some, Option.some.injEq] at performed
  obtain ⟨there, same⟩ := performed
  obtain ⟨rfl, rfl⟩ := Prod.mk.inj same
  obtain ⟨notification, there⟩ := Option.isSome_iff_exists.mp there
  let current : NotificationQueue.World := { notifications := world.notifications }
  let next : NotificationQueue.World :=
    { current with
      notifications := world.notifications.filter (some ·.id.toString ≠ notificationId) }
  have valid : ∀ id ∈ notificationId, isObjectId id := by
    have named : some notification.id.toString = notificationId := by
      simpa using List.find?_some there
    rintro id mine
    rw [← named] at mine
    exact Option.some.inj mine ▸ notification.id.isObjectId_toString
  have deletes : Performs (Possible (notificationsAnswer world someDelivery))
      (NotificationQueue.notificationModel.findByIdAndDelete notificationId) () current
      (some notification) () next :=
    { resolves := yields_await.mpr
        ⟨⟨.resolved, chosen.id⟩,
          (if_pos valid).trans (congrArg (fun found => some (next, Except.ok found)) there)⟩
      rejects := ⟨lost, yields_await.mpr ⟨⟨.rejectedApplied lost, chosen.id⟩, if_pos valid⟩⟩ }
  have removes : Performs (Possible (notificationsAnswer world someDelivery))
      (NotificationQueue.deleteNotification notificationId) () current _ () next :=
    Performs.tryCatch (deletes.bind rfl) fun _ => ⟨_, rfl⟩
  have performs : Performs (Possible (notificationsAnswer world someDelivery))
      (deleteSagaReply notificationId) () current _ () next := removes.bind rfl
  obtain ⟨resolves, error, rejects⟩ := performs.alone
  exact ⟨⟨_, next, resolves, rfl⟩, error, _, next, rejects, rfl⟩

/-- Any service may reject a call and do nothing. -/
theorem served_rejected (op : Op) : ∃ error, Served world op (.error error) world.stores := by
  let id : ObjectId := ⟨"000000000000000000000000", rfl⟩
  cases op with
  | register body =>
      have looks : Refuses (Possible (usersAnswer world (.register body)))
          (AuthService.authModel.findOne body.email) () { users := world.users } :=
        ⟨lost, (), yields_await.mpr ⟨⟨.rejected lost, id, "", false⟩, rfl⟩⟩
      have refuses : Refuses _ (grpcRegister body) () _ := looks.bind.bind
      obtain ⟨error, alone⟩ := refuses.alone
      exact ⟨error, _, alone, rfl⟩
  | createSaga data =>
      let fields : TaskService.Fields := ⟨false, 0⟩
      have creates : Refuses (Possible (tasksAnswer world)) (TaskService.taskModel.create data)
          fields { tasks := world.tasks } :=
        ⟨lost, fields, yields_await.mpr ⟨⟨.rejected lost, id⟩, fun applied => applied.elim, rfl⟩⟩
      have refuses : Refuses _ (grpcCreateSaga data) _ _ := creates.bind.bind
      obtain ⟨error, alone⟩ := refuses.alone
      exact ⟨error, _, _, alone, rfl⟩
  | sendSaga data =>
      let current : NotificationQueue.World := { notifications := world.notifications }
      have rejected : Possible (notificationsAnswer world someDelivery) current (.create data)
          (.error lost) current := by
        refine ⟨⟨.rejected lost, id⟩, fun applied => applied.elim, ?_⟩
        cases made : Consumers.Notification.of? id data with
        | none => simp only [NotificationQueue.exec, made, respond]
        | some notification => simp only [NotificationQueue.exec, made, respond]
      have creates : Refuses (Possible (notificationsAnswer world someDelivery))
          (NotificationQueue.notificationModel.create data) () current :=
        ⟨lost, (), yields_await.mpr rejected⟩
      have sends : Refuses _ (NotificationQueue.sendSaga data) () _ :=
        Refuses.tryCatch creates.bind.bind fun _ => ⟨_, rfl⟩
      have refuses : Refuses _ (sendSagaReply data) () _ := sends.bind
      obtain ⟨error, alone⟩ := refuses.alone
      exact ⟨error, _, _, alone, rfl⟩
  | deleteUser userId =>
      have deletes : Refuses (Possible (usersAnswer world (.deleteUser userId)))
          (AuthService.authModel.findByIdAndDelete userId) () { users := world.users } :=
        ⟨lost, (), yields_await.mpr ⟨⟨.rejected lost, id, "", false⟩, rfl⟩⟩
      have refuses : Refuses _ (grpcDeleteUser userId) () _ := deletes.bind.bind
      obtain ⟨error, alone⟩ := refuses.alone
      exact ⟨error, _, alone, rfl⟩
  | deleteSaga taskId =>
      let fields : TaskService.Fields := ⟨false, 0⟩
      have deletes : Refuses (Possible (tasksAnswer world))
          (TaskService.taskModel.findByIdAndDelete taskId) fields { tasks := world.tasks } :=
        ⟨lost, fields, yields_await.mpr ⟨⟨.rejected lost, id⟩, rfl⟩⟩
      have refuses : Refuses _ (grpcDeleteSaga taskId) _ _ := deletes.bind.bind
      obtain ⟨error, alone⟩ := refuses.alone
      exact ⟨error, _, _, alone, rfl⟩
  | deleteNotification notificationId =>
      have deletes : Refuses (Possible (notificationsAnswer world someDelivery))
          (NotificationQueue.notificationModel.findByIdAndDelete notificationId) ()
          { notifications := world.notifications } :=
        ⟨lost, (), yields_await.mpr ⟨⟨.rejected lost, id⟩, rfl⟩⟩
      have removes : Refuses _ (NotificationQueue.deleteNotification notificationId) () _ :=
        Refuses.tryCatch deletes.bind fun _ => ⟨_, rfl⟩
      have refuses : Refuses _ (deleteSagaReply notificationId) () _ := removes.bind
      obtain ⟨error, alone⟩ := refuses.alone
      exact ⟨error, _, _, alone, rfl⟩

theorem serves_effect (recorded : Recorded world) {value : op.Value}
    (performed : effect world saga reported chosen op = some (after, value)) :
    Serves world op value after.stores := by
  cases op with
  | register _ => exact serves_register recorded performed
  | createSaga _ => exact serves_createSaga performed
  | sendSaga _ => exact serves_sendSaga recorded performed
  | deleteUser _ => exact serves_deleteUser performed
  | deleteSaga _ => exact serves_deleteSaga performed
  | deleteNotification _ => exact serves_deleteNotification performed

variable {stores : Stores}

theorem served_modelled {reply : Except Thrown op.Value} (served : Served world op reply stores) :
    Modelled world saga op reply stores := by
  cases op with
  | register _ => exact served_register served
  | createSaga _ => exact served_createSaga served
  | sendSaga _ => exact served_sendSaga served
  | deleteUser _ => exact served_deleteUser served
  | deleteSaga _ => exact served_deleteSaga served
  | deleteNotification _ => exact served_deleteNotification served

theorem Modelled.resolved {value : op.Value}
    (modelled : Modelled world saga op (.ok value) stores) : ∃ chosen after,
      effect world saga true chosen op = some (after, value) ∧ after.stores = stores := by
  obtain ⟨⟨ending, chosen⟩, after, performed, same⟩ := modelled
  match ending with
  | .ended .resolved =>
      obtain ⟨⟨_, _⟩, effected, same'⟩ := Option.map_eq_some_iff.mp performed
      obtain ⟨rfl, ok⟩ := Prod.mk.inj same'
      obtain rfl := Except.ok.inj ok
      exact ⟨chosen, _, effected, same⟩
  | .ended (.rejected _) => cases performed
  | .ended (.rejectedApplied _) =>
      obtain ⟨_, _, same'⟩ := Option.map_eq_some_iff.mp performed
      cases same'
  | .outlasts _ => cases performed

theorem Modelled.rejected {error : Thrown}
    (modelled : Modelled world saga op (.error error) stores) :
    stores = world.stores ∨ ∃ chosen after value,
      effect world saga false chosen op = some (after, value) ∧ after.stores = stores := by
  obtain ⟨⟨ending, chosen⟩, after, performed, same⟩ := modelled
  match ending with
  | .ended .resolved =>
      obtain ⟨_, _, same'⟩ := Option.map_eq_some_iff.mp performed
      cases same'
  | .ended (.rejected _) | .outlasts _ =>
      cases performed
      exact .inl same.symm
  | .ended (.rejectedApplied _) =>
      obtain ⟨⟨_, value⟩, effected, same'⟩ := Option.map_eq_some_iff.mp performed
      obtain ⟨rfl, _⟩ := Prod.mk.inj same'
      exact .inr ⟨chosen, _, value, effected, same⟩

theorem recorded_of_run {state : State} (ran : Runs Always (.initial {}) state) :
    Recorded state.world := by
  intro document stored
  obtain ⟨machine, ran, same⟩ := implements.path ran
  have holds : standing.Holds machine :=
    standing_valid.path (ran.mono fun _ _ _ => trivial) standing_initial
  rw [← show machine.world = state.world from congrArg Pool.world same] at stored ⊢
  obtain ⟨saga, mine⟩ := holds.globally.owned.created stored
  obtain ⟨creation, found, rfl⟩ := List.mem_map.mp mine
  exact List.mem_map_of_mem (mem_mine.mp found).1

/-- **The services and the model of the saga agree.** In every state of every run, what the code
of a service can do with a call, in what it answers and in what it leaves in the stores, is what
the model of the saga has it do: all of it when the call resolves, and when it is rejected, all
that it can leave behind. -/
theorem services_agree {state : State} (ran : Runs Always (.initial {}) state) (saga : ℕ) (op : Op)
    (stores : Stores) :
    (∀ reply, Served state.world op reply stores → Modelled state.world saga op reply stores) ∧
    (∀ value, Modelled state.world saga op (.ok value) stores →
      Served state.world op (.ok value) stores) ∧
    ((∃ error, Modelled state.world saga op (.error error) stores) →
      ∃ error, Served state.world op (.error error) stores) := by
  refine ⟨fun reply => served_modelled, fun value modelled => ?_, ?_⟩
  · obtain ⟨chosen, after, performed, rfl⟩ := modelled.resolved
    exact (serves_effect (recorded_of_run ran) performed).1
  · rintro ⟨error, modelled⟩
    rcases modelled.rejected with rfl | ⟨chosen, after, value, performed, rfl⟩
    · exact served_rejected op
    · exact (serves_effect (recorded_of_run ran) performed).2

end Served

namespace Sample

def task : TaskService.TaskBody := ⟨userId.toString, "Welcome", "Welcome Ada."⟩

/-- The reply is lost. -/
def unseen : Answer := ⟨.ended (.rejectedApplied lost), chosen taskId⟩

end Sample

/-- The theorem at a task that is stored although its creation is rejected. -/
theorem services_agree_unseen :
    ∃ state ∈ run step (.initial {}) [.call 0 Sample.dto, Sample.resolves Sample.userId],
      ∃ error, Served state.world (.createSaga Sample.task) (.error error)
        { state.world.stores with tasks := [Sample.task.toTask Sample.taskId] } := by
  obtain ⟨state, ran, stored⟩ :
      ∃ state ∈ run step (.initial {}) [.call 0 Sample.dto, Sample.resolves Sample.userId],
        (exec state.world 0 (.createSaga Sample.task) Sample.unseen).map (·.1.stores) =
          some { state.world.stores with tasks := [Sample.task.toTask Sample.taskId] } := by
    decide +kernel
  obtain ⟨⟨after, reply⟩, performed, same⟩ := Option.map_eq_some_iff.mp stored
  obtain ⟨_, _, same'⟩ := Option.map_eq_some_iff.mp performed
  obtain ⟨rfl, rfl⟩ := Prod.mk.inj same'
  exact ⟨state, ran, (services_agree (.of_run ran .always) 0 _ _).2.2
    ⟨lost, Sample.unseen, _, performed, same⟩⟩

end WorkflowHub.Gateway
