import WorkflowHub.Gateway.Controllers
import WorkflowHub.TaskService.ControlFlow

/-!
# `GET task/all`

The tasks of a user. `findAllByUserId` of the task service lists them (`findAllByUserId_lists`), but
no call reaches it: it is bound to a message pattern, which a gRPC server does not serve
(`findAllByUserId_unserved`), and the gateway calls `send`, which a gRPC client does not support. So
the route answers every request with 500 (`listing_never_agrees`).
-/

set_option autoImplicit false

namespace WorkflowHub.TaskListing

open Processes Grpc TaskService

/-! ## The task service -/

/-- The rpcs of `service TaskService` in `task.proto`. -/
def rpcs : List String := ["CreateTask", "GetTasks", "CreateSaga", "DeleteSaga"]

/-- What the decorator of a handler binds it to. -/
inductive Binding where
  | grpcMethod (service method : String)
  | messagePattern (pattern : String)
  deriving DecidableEq, Repr

/-- The handlers of `TaskServiceController`. -/
inductive Handler where
  | grpcCreateTask
  | findAllByUserId
  | grpcCreateSaga
  | grpcDeleteSaga
  deriving DecidableEq, Repr

def Handler.all : List Handler :=
  [.grpcCreateTask, .findAllByUserId, .grpcCreateSaga, .grpcDeleteSaga]

def Handler.binding : Handler → Binding
  | .grpcCreateTask => .grpcMethod "TaskService" "CreateTask"
  | .findAllByUserId => .messagePattern "task.findAllByUserId"
  | .grpcCreateSaga => .grpcMethod "TaskService" "CreateSaga"
  | .grpcDeleteSaga => .grpcMethod "TaskService" "DeleteSaga"

/-- The handler a gRPC server runs for an rpc: the one that is bound to it. -/
def served (rpc : String) : Option Handler :=
  if rpc ∈ rpcs then Handler.all.find? (·.binding = .grpcMethod "TaskService" rpc) else none

/-- **No rpc reaches `findAllByUserId`,** and `GetTasks` reaches no handler. -/
theorem findAllByUserId_unserved :
    (∀ rpc, served rpc ≠ some .findAllByUserId) ∧ served "GetTasks" = none := by
  refine ⟨fun rpc found => ?_, by decide⟩
  simp only [served, Option.ite_none_right_eq_some] at found
  have bound : decide (Handler.findAllByUserId.binding = .grpcMethod "TaskService" rpc) = true :=
    List.find?_some (p := fun handler : Handler =>
      decide (handler.binding = .grpcMethod "TaskService" rpc)) found.2
  cases of_decide_eq_true bound

/-- The method itself lists the tasks of the user that are stored. -/
theorem findAllByUserId_lists {world after : World} {pid : ℕ} {userId : String} {fields : Fields}
    {exchanges : List (Exchange (promises TaskService.Op TaskService.Op.Value Thrown) Answer)}
    {reply : TaskService.Reply}
    (executes : Executes (fun world op answer reply world' =>
        TaskService.exec world pid op answer = some (world', reply))
      TaskService.programs (.findAllByUserId userId) world
      (TaskService.programs.enter (.findAllByUserId userId) fields) exchanges (.ok reply) after) :
    reply = .listed "Tasks fetched successfully" (world.tasks.filter (·.userId = userId)) := by
  obtain ⟨answer, (found : Except Thrown (List Task)), _, _, _, rfl, answered, executes⟩ :=
    (TaskService.implements.executes executes).of_running
  cases found with
  | error error => cases executes.of_finished.2.1
  | ok tasks =>
      obtain ⟨_, _, rfl, _⟩ := respond_ok answered
      cases executes.of_finished.2.1
      rfl

/-! ## The route -/

/-- What `findAllByUserId` replies. -/
structure TaskList where
  message : String
  tasks : List Task
  deriving DecidableEq, Repr

/-- What `getAll` awaits. -/
inductive Op where
  | send (pattern userId : String)
  deriving DecidableEq

/-- What the operation resolves with. -/
def Op.Value : Op → Type
  | .send _ _ => TaskList

abbrev Method := Async (promises Op Op.Value CallError) Unit

/-- `taskClient.send(pattern, { userId })`: the client of gRPC gives out the stubs of its proto, and
throws whenever it is to send a pattern. -/
def taskClient.send (_pattern _userId : String) :
    Except Thrown (Method (Except CallError TaskList)) :=
  .error (.error "Error" ("Method is not supported in gRPC mode. " ++
    "Use ClientGrpc instead (learn more in the documentation)."))

/-- `getAll`. What `send` throws is thrown before there is anything to pipe through `catchError`. -/
def getAll (userId : String) : Method (Except Thrown TaskList) :=
  match taskClient.send "task.findAllByUserId" userId with
  | .error error => pure (.error error)
  | .ok sent => do
      match ← sent with
      | .ok list => pure (.ok list)
      | .error err =>
          pure (.error (.httpException (toHttpStatus err.thrown)
            (interpolated (jsOr (some err.thrown.message) (some "Failed to fetch tasks")))))

/-- The code of the route. -/
def programs : Flow (promises Op Op.Value CallError) Unit String
    (Suspended (promises Op Op.Value CallError) Unit (Except Thrown TaskList))
    (Except Thrown TaskList) :=
  .ofPrograms getAll

/-- What Nest answers a `GET` with: the value, or a status and a message. -/
structure HttpReply where
  status : ℕ
  body : Except String TaskList
  deriving DecidableEq, Repr

def HttpReply.of : Except Thrown TaskList → HttpReply
  | .ok list => ⟨200, .ok list⟩
  | .error (.httpException status message) => ⟨status, .error message⟩
  | .error _ => ⟨500, .error "Internal server error"⟩

/-- The reply to a request of a user whose token is valid. -/
def Gets (userId : String) (reply : HttpReply) : Prop :=
  ∃ (exchanges : List (Exchange (promises Op Op.Value CallError) Unit))
      (out : Except Thrown TaskList),
    Executes anyReply programs userId () (programs.enter userId ()) exchanges out () ∧
      reply = .of out

/-- The reply lists the tasks of the user that are stored, and no others. -/
def Agrees (world : World) (userId : String) (reply : HttpReply) : Prop :=
  ∃ list, reply = ⟨200, .ok list⟩ ∧ list.tasks.Perm (world.tasks.filter (·.userId = userId))

/-- Every request is answered with 500. -/
theorem gets_iff {userId : String} {reply : HttpReply} :
    Gets userId reply ↔ reply = ⟨500, .error "Internal server error"⟩ := by
  constructor
  · rintro ⟨exchanges, out, executes, rfl⟩
    obtain ⟨_, rfl, _⟩ := executes.of_finished
    rfl
  · rintro rfl
    exact ⟨[], _, .finished, rfl⟩

/-- **The listing never agrees with the task store,** whatever has been stored and whoever asks. -/
theorem listing_never_agrees (state : State) (userId : String) :
    (∃ reply, Gets userId reply) ∧
      ∀ reply, Gets userId reply → ¬ Agrees state.world userId reply := by
  refine ⟨⟨_, gets_iff.mpr rfl⟩, fun reply gets agrees => ?_⟩
  obtain ⟨list, listed, _⟩ := agrees
  rw [gets_iff.mp gets] at listed
  cases listed

/-- The theorem where a task is stored. -/
theorem listing_never_agrees_created :
    ∃ state ∈ run step (.initial {}) TaskService.Sample.created,
      state.world.tasks.map (·.userId) = [TaskService.Sample.body.userId] ∧
      ∀ userId, ∃ reply, Gets userId reply ∧ ¬ Agrees state.world userId reply := by
  obtain ⟨state, ran, stored⟩ :
      ∃ state ∈ run step (.initial {}) TaskService.Sample.created,
        state.world.tasks.map (·.userId) = [TaskService.Sample.body.userId] := by decide +kernel
  refine ⟨state, ran, stored, fun userId => ?_⟩
  obtain ⟨⟨reply, gets⟩, never⟩ := listing_never_agrees state userId
  exact ⟨reply, gets, never reply gets⟩

/-- **A task that is not listed.** It was created, and its user gets the status 500. -/
theorem created_not_listed :
    ∃ state ∈ run step (.initial {}) TaskService.Sample.created,
      state.world.tasks.map (·.userId) = [TaskService.Sample.body.userId] ∧
      ∃ reply, Gets TaskService.Sample.body.userId reply ∧ reply.status = 500 ∧
        ¬ Agrees state.world TaskService.Sample.body.userId reply := by
  obtain ⟨state, ran, stored⟩ :
      ∃ state ∈ run step (.initial {}) TaskService.Sample.created,
        state.world.tasks.map (·.userId) = [TaskService.Sample.body.userId] := by decide +kernel
  refine ⟨state, ran, stored, _, gets_iff.mpr rfl, rfl, fun agrees => ?_⟩
  obtain ⟨list, listed, _⟩ := agrees
  cases listed

end WorkflowHub.TaskListing
