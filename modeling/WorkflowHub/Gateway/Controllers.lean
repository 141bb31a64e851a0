import WorkflowHub.AnalyticsService.Counter
import WorkflowHub.Gateway.RegistrationSaga
import WorkflowHub.Platform.Grpc
import WorkflowHub.Processes.Executions

/-!
# The controllers of the gateway

`AuthController`, `TaskController` and `AnalyticsController`: each route makes one call over gRPC,
through the circuit breaker, and turns a rejection of it into an `HttpException`. Nest answers a
route that throws one with its status, and one that throws anything else with 500.
-/

set_option autoImplicit false

namespace WorkflowHub.Controllers

open Processes Grpc AuthService TaskService AnalyticsService Gateway

/-! ## The calls -/

/-- What `grpcLogin` replies. -/
structure LoginReply where
  message : String
  token : Token
  deriving DecidableEq, Repr

/-- The calls the controllers make. -/
inductive Op where
  | register (data : RegisterBody)
  | login (data : LoginBody)
  | createTask (data : TaskBody)
  | getUserCounter (userId : String)
  deriving DecidableEq

/-- What each call resolves with. -/
def Op.Value : Op → Type
  | .register _ => AuthReply
  | .login _ => LoginReply
  | .createTask _ => TaskReply
  | .getUserCounter _ => CounterReply

/-! ## The circuit breaker -/

/-- `serverCodes`. -/
def serverCodes : List ℕ := [2, 3, 5, 6, 7, 16]

/-- `errorFilter`: whether an error is not counted as a failure. -/
def errorFilter : CallError → Bool
  | .status status => serverCodes.contains status.code
  | .breaker _ _ => false

/-! ## The routes -/

/-- The handler of `catchError`. -/
def httpException (fallback : String) (err : CallError) : Thrown :=
  .httpException (toHttpStatus err.thrown)
    (interpolated (jsOr err.details (jsOr (some err.thrown.message) (some fallback))))

abbrev Method := Async (promises Op Op.Value CallError) Unit

/-- A call, piped through `catchError`. -/
def forward (op : Op) (fallback : String) : Method (Except Thrown op.Value) := do
  match ← Async.await (S := promises Op Op.Value CallError) op with
  | .ok value => pure (.ok value)
  | .error err => pure (.error (httpException fallback err))

def AuthController.register (body : RegisterBody) : Method (Except Thrown AuthReply) :=
  forward (.register body) "Authentication failed"

def AuthController.login (body : LoginBody) : Method (Except Thrown LoginReply) :=
  forward (.login body) "Authentication failed"

/-- The body of a request to create a task. -/
structure TaskDto where
  title : String
  description : String
  deriving DecidableEq, Repr

def TaskController.create (body : TaskDto) (userId : String) : Method (Except Thrown TaskReply) :=
  forward (.createTask ⟨userId, body.title, body.description⟩) "Task Creation failed"

def AnalyticsController.getCounter (userId : String) : Method (Except Thrown CounterReply) :=
  forward (.getUserCounter userId) "Failed to fetch analytics counter"

/-- What a route resolves with. -/
inductive Reply where
  | registered (reply : AuthReply)
  | loggedIn (reply : LoginReply)
  | created (reply : TaskReply)
  | counted (reply : CounterReply)
  deriving DecidableEq, Repr

/-- A request that one of the controllers handles; those to `task` and `analytics` come with the id
of their user. -/
inductive Request where
  | register (body : RegisterBody)
  | login (body : LoginBody)
  | create (body : TaskDto) (userId : String)
  | getCounter (userId : String)
  deriving DecidableEq, Repr

def handle : Request → Method (Except Thrown Reply)
  | .register body => (·.map Reply.registered) <$> AuthController.register body
  | .login body => (·.map Reply.loggedIn) <$> AuthController.login body
  | .create body userId => (·.map Reply.created) <$> TaskController.create body userId
  | .getCounter userId => (·.map Reply.counted) <$> AnalyticsController.getCounter userId

/-- The code of the routes. -/
def programs : Flow (promises Op Op.Value CallError) Unit Request
    (Suspended (promises Op Op.Value CallError) Unit (Except Thrown Reply)) (Except Thrown Reply) :=
  .ofPrograms handle

/-- The status Nest answers a `POST` with. -/
def httpStatus {α : Type} : Except Thrown α → ℕ
  | .ok _ => 201
  | .error (.httpException status _) => status
  | .error _ => 500

/-- **A route whose call is rejected** answers with the status of the error. -/
theorem executes_rejected {request : Request}
    {exchanges : List (Exchange (promises Op Op.Value CallError) Unit)} {out : Except Thrown Reply}
    {exchange : Exchange (promises Op Op.Value CallError) Unit} {err : CallError}
    (executes : Executes anyReply programs request () (programs.enter request ()) exchanges out ())
    (called : exchange ∈ exchanges) (rejected : exchange.reply = .error err) :
    ∃ message, out = .error (.httpException (toHttpStatus err.thrown) message) := by
  cases request with
  | _ =>
      obtain ⟨_, reply, _, _, rest, rfl, _, executes⟩ := executes.of_running
      cases reply with
      | ok value =>
          obtain ⟨rfl, _⟩ := executes.of_finished
          cases List.mem_singleton.mp called
          cases rejected
      | error error =>
          obtain ⟨rfl, rfl, _⟩ := executes.of_finished
          cases List.mem_singleton.mp called
          cases rejected
          exact ⟨_, rfl⟩

end WorkflowHub.Controllers
