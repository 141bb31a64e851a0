import WorkflowHub.AuthService.ControlFlow
import WorkflowHub.Gateway.Controllers
import WorkflowHub.TaskService.ControlFlow

/-!
# Which failed calls the circuit breaker counts

A call over gRPC fails because it outlasts the timeout of the breaker, because the connection
fails, or because its handler throws. What a handler throws arrives under code 2, whether the
service has turned the request down or its database has rejected an operation, and the breaker
ignores code 2 (`failure_filter_iff`).
-/

set_option autoImplicit false

namespace WorkflowHub.Gateway

open Processes Grpc

/-! ## The handlers -/

/-- The calls the gateway makes over gRPC. -/
inductive Rpc where
  | register (data : AuthService.RegisterBody)
  | login (data : AuthService.LoginBody)
  | deleteUser (userId : String)
  | createTask (data : TaskService.TaskBody)
  | createSaga (data : TaskService.TaskBody)
  | deleteSaga (taskId : String)
  | getUserCounter (userId : String)
  deriving DecidableEq, Repr

/-- What a handler awaits: an operation of its database, or of bcrypt. -/
inductive Awaited where
  | database
  | bcrypt
  deriving DecidableEq, Repr

def authAwaits : AuthService.Op → Awaited
  | .hash _ _ => .bcrypt
  | .compare _ _ => .bcrypt
  | _ => .database

/-- What a handler has awaited, each with whether it rejected. -/
abbrev Trace : Type := List (Awaited × Bool)

/-- Nothing that was awaited has rejected. -/
def Trace.Unrejected (trace : Trace) : Prop := ∀ entry ∈ trace, entry.2 = false

/-- The trace of an execution. -/
def traceOf {Op : Type} {Value : Op → Type} {Choice : Type} (awaits : Op → Awaited)
    (exchanges : List (Exchange (promises Op Value Thrown) Choice)) : Trace :=
  exchanges.map fun exchange => (awaits exchange.op, rejects exchange.reply)

/-- The calls of the auth service that serve a call over gRPC. -/
def Rpc.authCall : Rpc → Option AuthService.Call
  | .register data => some (.register data)
  | .login data => some (.login data)
  | .deleteUser userId => some (.deleteUser userId)
  | _ => none

/-- The calls of the task service that serve a call over gRPC. -/
def Rpc.taskCall : Rpc → Option TaskService.Call
  | .createTask data => some (.create data)
  | .createSaga data => some (.createSaga data)
  | .deleteSaga taskId => some (.deleteSaga taskId)
  | _ => none

abbrev AuthExchange : Type :=
  Exchange (promises AuthService.Op AuthService.Op.Value Thrown) AuthService.Answer

abbrev TaskExchange : Type :=
  Exchange (promises TaskService.Op TaskService.Op.Value Thrown) TaskService.Answer

abbrev AnalyticsExchange : Type :=
  Exchange (promises AnalyticsService.Op AnalyticsService.Op.Value Thrown) Outcome

/-! The executions of the methods. Between two operations the database may change as it likes. -/

abbrev AuthThrows (call : AuthService.Call) (exchanges : List AuthExchange) (thrown : Thrown) : Prop :=
  Executes (fun _ op answer reply _ => ∃ world pid world',
      AuthService.exec world pid call op answer = some (world', reply))
    AuthService.programs call () (AuthService.programs.enter call ()) exchanges (.error thrown) ()

abbrev TaskThrows (call : TaskService.Call) (exchanges : List TaskExchange) (thrown : Thrown) : Prop :=
  ∃ fields, Executes (fun _ op answer reply _ => ∃ world pid world',
      TaskService.exec world pid op answer = some (world', reply))
    TaskService.programs call () (TaskService.programs.enter call fields) exchanges (.error thrown) ()

abbrev AnalyticsThrows (userId : String) (exchanges : List AnalyticsExchange) (thrown : Thrown) :
    Prop :=
  Executes (fun _ op outcome reply _ => ∃ counters counters',
      AnalyticsService.exec counters op outcome = some (counters', reply))
    AnalyticsService.programs userId () (AnalyticsService.programs.enter userId ()) exchanges
    (.error thrown) ()

/-- The handler of a call ends with an exception. -/
inductive HandlerFails : Rpc → Trace → Thrown → Prop where
  | auth {rpc : Rpc} {call : AuthService.Call} {exchanges : List AuthExchange} {thrown : Thrown}
      (serves : rpc.authCall = some call) (throws : AuthThrows call exchanges thrown) :
      HandlerFails rpc (traceOf authAwaits exchanges) thrown
  | task {rpc : Rpc} {call : TaskService.Call} {exchanges : List TaskExchange} {thrown : Thrown}
      (serves : rpc.taskCall = some call) (throws : TaskThrows call exchanges thrown) :
      HandlerFails rpc (traceOf (fun _ => .database) exchanges) thrown
  | analytics {userId : String} {exchanges : List AnalyticsExchange} {thrown : Thrown}
      (throws : AnalyticsThrows userId exchanges thrown) :
      HandlerFails (.getUserCounter userId) (traceOf (fun _ => .database) exchanges) thrown

/-- The exceptions by which a service turns a request down. -/
def Rpc.decided : Rpc → List Thrown
  | .register _ => [.rpcException 409 "User already exists"]
  | .login _ =>
      [.rpcException 404 "User does not exists", .rpcException 401 "Invalid credentials"]
  | .deleteUser userId => [.rpcException 404 ("User with ID " ++ userId ++ " not found for deletion")]
  | .deleteSaga taskId => [.rpcException 404 ("Task with ID " ++ taskId ++ " not found for deletion")]
  | .createTask _ => []
  | .createSaga _ => []
  | .getUserCounter _ => []

/-! ## Failed calls -/

/-- Why a call has failed. -/
inductive Cause where
  | timeout
  | connection
  | handler (trace : Trace) (thrown : Thrown)
  deriving DecidableEq, Repr

/-- The error a failed call is rejected with. -/
inductive Fails (rpc : Rpc) : Cause → CallError → Prop where
  | timedOut : Fails rpc .timeout .timedOut
  | disconnected (details : String) : Fails rpc .connection (.status ⟨unavailable, details⟩)
  | handler {trace : Trace} {thrown : Thrown} (fails : HandlerFails rpc trace thrown) :
      Fails rpc (.handler trace thrown) (.status (.ofThrown thrown))

namespace Cause

/-- Nothing the handler awaited has rejected. -/
def Unrejected : Cause → Prop
  | .handler trace _ => trace.Unrejected
  | _ => True

/-- A failure of the system: a timeout, a connection, or an operation of the database. -/
def System : Cause → Prop
  | .handler trace _ => (.database, true) ∈ trace
  | _ => True

/-- The service has turned the request down. -/
def Business (rpc : Rpc) : Cause → Prop
  | .handler trace thrown => trace.Unrejected ∧ thrown ∈ rpc.decided
  | _ => False

/-- The database rejects every operation. -/
def DatabaseDown : Cause → Prop
  | .handler trace _ => ∀ entry ∈ trace, entry.1 = .database → entry.2 = true
  | _ => True

end Cause

structure FailedCall where
  rpc : Rpc
  cause : Cause
  err : CallError
  fails : Fails rpc cause err

/-- The breaker counts the rejection as a failure. -/
def FailedCall.Counted (call : FailedCall) : Prop := Controllers.errorFilter call.err = false

/-- The filter tells failures of the system from requests that were turned down. -/
structure FailedCall.Separated (call : FailedCall) : Prop where
  counted : call.Counted ↔ call.cause.System
  ignored : Controllers.errorFilter call.err = true ↔ call.cause.Business call.rpc

/-! ## What handlers throw -/

namespace Trace.Unrejected

variable {Op : Type} {Value : Op → Type} {Choice : Type} {awaits : Op → Awaited}
  {rest : List (Exchange (promises Op Value Thrown) Choice)}

theorem tail {exchange : Exchange (promises Op Value Thrown) Choice}
    (unrejected : Unrejected (traceOf awaits (exchange :: rest))) :
    Unrejected (traceOf awaits rest) :=
  (List.forall_mem_cons.mp unrejected).2

theorem elim {op : Op} {choice : Choice} {error : Thrown} {P : Prop}
    (unrejected : Unrejected (traceOf awaits (⟨op, choice, .error error⟩ :: rest))) : P := by
  cases unrejected _ (.head _)

end Trace.Unrejected

/-- What the auth service throws when nothing it awaits rejects. -/
theorem auth_decided {rpc : Rpc} {call : AuthService.Call} {exchanges : List AuthExchange}
    {thrown : Thrown} (serves : rpc.authCall = some call) (throws : AuthThrows call exchanges thrown)
    (unrejected : Trace.Unrejected (traceOf authAwaits exchanges)) : thrown ∈ rpc.decided := by
  have executes := AuthService.implements.executes throws
  cases rpc with
  | register data =>
      cases serves
      obtain ⟨_, (found : Except Thrown (Option AuthService.Auth)), _, _, _, rfl, _, executes⟩ :=
        executes.of_running
      rcases found with error | _ | user
      · exact unrejected.elim
      · obtain ⟨_, hashed, _, _, _, rfl, _, executes⟩ := executes.of_running
        rcases hashed with error | hashedPassword
        · exact unrejected.tail.elim
        · obtain ⟨_, created, _, _, _, rfl, _, executes⟩ := executes.of_running
          rcases created with error | user
          · exact unrejected.tail.tail.elim
          · cases executes.of_finished.2.1
      · cases executes.of_finished.2.1
        exact .head _
  | login data =>
      cases serves
      obtain ⟨_, (found : Except Thrown (Option AuthService.Auth)), _, _, _, rfl, _, executes⟩ :=
        executes.of_running
      rcases found with error | _ | user
      · exact unrejected.elim
      · cases executes.of_finished.2.1
        exact .head _
      · obtain ⟨_, (compared : Except Thrown Bool), _, _, _, rfl, _, executes⟩ :=
          executes.of_running
        rcases compared with error | _ | _
        · exact unrejected.tail.elim
        · cases executes.of_finished.2.1
          exact .tail _ (.head _)
        · cases executes.of_finished.2.1
  | deleteUser userId =>
      cases serves
      obtain ⟨_, (found : Except Thrown (Option AuthService.Auth)), _, _, _, rfl, _, executes⟩ :=
        executes.of_running
      rcases found with error | _ | user
      · exact unrejected.elim
      · cases executes.of_finished.2.1
        exact .head _
      · cases executes.of_finished.2.1
  | _ => cases serves

/-- The task service turns down the deletion of a task that is not there, and nothing else. -/
theorem task_decided {rpc : Rpc} {call : TaskService.Call} {exchanges : List TaskExchange}
    {thrown : Thrown} (serves : rpc.taskCall = some call) (throws : TaskThrows call exchanges thrown)
    (unrejected : Trace.Unrejected (traceOf (fun _ => .database) exchanges)) :
    thrown ∈ rpc.decided := by
  obtain ⟨fields, executes⟩ := throws
  have executes := TaskService.implements.executes executes
  cases rpc with
  | createTask data =>
      cases serves
      obtain ⟨_, started, _, _, _, rfl, _, executes⟩ := executes.of_running
      rcases started with error | _
      · exact unrejected.elim
      obtain ⟨_, task, _, _, _, rfl, _, executes⟩ := executes.of_running
      rcases task with error | task
      · exact unrejected.tail.elim
      obtain ⟨_, record, _, _, _, rfl, _, executes⟩ := executes.of_running
      rcases record with error | _
      · exact unrejected.tail.tail.elim
      obtain ⟨_, committed, _, _, _, rfl, _, executes⟩ := executes.of_running
      rcases committed with error | _
      · exact unrejected.tail.tail.tail.elim
      obtain ⟨_, ended, _, _, _, rfl, _, executes⟩ := executes.of_running
      rcases ended with error | _
      · exact unrejected.tail.tail.tail.tail.elim
      cases executes.of_finished.2.1
  | createSaga data =>
      cases serves
      obtain ⟨_, (created : Except Thrown (Option TaskService.Task)), _, _, _, rfl, answered,
        executes⟩ := executes.of_running
      rcases created with error | _ | task
      · exact unrejected.elim
      · obtain ⟨_, _, _, answered⟩ := answered
        obtain ⟨_, _, same, _⟩ := respond_ok answered
        cases same
      · cases executes.of_finished.2.1
  | deleteSaga taskId =>
      cases serves
      obtain ⟨_, (deleted : Except Thrown (Option TaskService.Task)), _, _, _, rfl, _, executes⟩ :=
        executes.of_running
      rcases deleted with error | _ | task
      · exact unrejected.elim
      · cases executes.of_finished.2.1
        exact .head _
      · cases executes.of_finished.2.1
  | _ => cases serves

namespace HandlerFails

variable {rpc : Rpc} {trace : Trace} {thrown : Thrown}

/-- **A handler that throws although nothing it awaited has rejected** has turned the request
down. -/
theorem decided (fails : HandlerFails rpc trace thrown) (unrejected : trace.Unrejected) :
    thrown ∈ rpc.decided := by
  cases fails with
  | auth serves throws => exact auth_decided serves throws unrejected
  | task serves throws => exact task_decided serves throws unrejected
  | analytics throws =>
      obtain ⟨_, found, _, _, _, rfl, _, executes⟩ := throws.of_running
      rcases found with error | found
      · exact unrejected.elim
      · cases executes.of_finished.2.1

/-- Every handler goes to its database first. -/
theorem database_first (fails : HandlerFails rpc trace thrown) :
    ∃ rejected rest, trace = (.database, rejected) :: rest := by
  cases fails with
  | @auth _ call _ _ serves throws =>
      have executes := AuthService.implements.executes throws
      cases call with
      | _ =>
          obtain ⟨_, _, _, _, _, rfl, _⟩ := executes.of_running
          exact ⟨_, _, rfl⟩
  | @task rpc _ _ _ serves throws =>
      obtain ⟨fields, executes⟩ := throws
      have executes := TaskService.implements.executes executes
      cases rpc with
      | createTask data =>
          cases serves
          obtain ⟨_, _, _, _, _, rfl, _⟩ := executes.of_running
          exact ⟨_, _, rfl⟩
      | createSaga data =>
          cases serves
          obtain ⟨_, _, _, _, _, rfl, _⟩ := executes.of_running
          exact ⟨_, _, rfl⟩
      | deleteSaga taskId =>
          cases serves
          obtain ⟨_, _, _, _, _, rfl, _⟩ := executes.of_running
          exact ⟨_, _, rfl⟩
      | _ => cases serves
  | analytics throws =>
      obtain ⟨_, _, _, _, _, rfl, _⟩ := throws.of_running
      exact ⟨_, _, rfl⟩

end HandlerFails

/-! ## The filter -/

/-- No exception of a handler is counted. -/
theorem errorFilter_ofThrown (thrown : Thrown) :
    Controllers.errorFilter (.status (.ofThrown thrown)) = true := by
  cases thrown with
  | _ => rfl

theorem separated_iff (call : FailedCall) : call.Separated ↔ call.cause.Unrejected := by
  obtain ⟨rpc, cause, err, fails⟩ := call
  cases fails with
  | timedOut =>
      refine iff_of_true ⟨iff_of_true rfl trivial, iff_of_false ?_ id⟩ trivial
      exact Bool.false_ne_true
  | disconnected details =>
      refine iff_of_true ⟨iff_of_true rfl trivial, iff_of_false ?_ id⟩ trivial
      exact Bool.false_ne_true
  | @handler trace thrown fails =>
      have ignored := errorFilter_ofThrown thrown
      constructor
      · intro separated
        exact (separated.ignored.mp ignored).1
      · intro unrejected
        refine ⟨iff_of_false (fun counted => ?_) fun rejected => ?_, iff_of_true ignored ?_⟩
        · exact Bool.false_ne_true (counted.symm.trans ignored)
        · cases unrejected _ rejected
        · exact ⟨unrejected, fails.decided unrejected⟩

/-- When the database rejects every operation, a call is counted exactly if nothing its handler
awaited has rejected. -/
theorem counted_iff_of_down {call : FailedCall} (down : call.cause.DatabaseDown) :
    call.Counted ↔ call.cause.Unrejected := by
  obtain ⟨rpc, cause, err, fails⟩ := call
  cases fails with
  | timedOut => exact iff_of_true rfl trivial
  | disconnected details => exact iff_of_true rfl trivial
  | @handler trace thrown fails =>
      refine iff_of_false (fun counted => ?_) fun unrejected => ?_
      · exact Bool.false_ne_true (counted.symm.trans (errorFilter_ofThrown thrown))
      · obtain ⟨rejected, rest, rfl⟩ := fails.database_first
        have first : rejected = true := down _ (.head _) rfl
        have second : rejected = false := unrejected _ (.head _)
        exact Bool.false_ne_true (second.symm.trans first)

/-- **The filter separates failures of the system from requests that were turned down** exactly if
nothing the handler awaited has rejected. If the database rejects every operation in a run, all its
failed calls are counted exactly if that is so for each of them. -/
theorem failure_filter_iff (calls : List FailedCall) :
    (∀ call ∈ calls, call.Separated ↔ call.cause.Unrejected) ∧
      ((∀ call ∈ calls, call.cause.DatabaseDown) →
        ((∀ call ∈ calls, call.Counted) ↔ ∀ call ∈ calls, call.cause.Unrejected)) := by
  refine ⟨fun call _ => separated_iff call, fun down => ?_⟩
  exact forall₂_congr fun call failed => counted_iff_of_down (down call failed)

namespace Sample

def grace : AuthService.RegisterBody := ⟨"Grace", "grace@example.org", "secret"⟩

def serverSelection : Thrown := .error "MongoServerSelectionError" "connect ECONNREFUSED"

def replied (outcome : Outcome) : AuthService.Answer :=
  ⟨outcome, ⟨"65f0a1b2c3d4e5f6a7b8ca30", rfl⟩, "$2b$10$", true⟩

def graceUser : AuthService.Auth := ⟨(replied .resolved).id, "Grace", grace.email, "$2b$10$"⟩

/-- The e-mail is taken. -/
def turnedDown : FailedCall where
  rpc := .register grace
  cause := .handler [(.database, false)] (.rpcException 409 "User already exists")
  err := .status ⟨unknown, "User already exists"⟩
  fails := by
    have throws : AuthThrows (.register grace)
        [⟨.findOne grace.email, replied .resolved, .ok (some graceUser)⟩]
        (.rpcException 409 "User already exists") :=
      .running () ⟨{ users := [graceUser] }, 0, _, rfl⟩ .finished
    exact .handler (.auth rfl throws)

/-- The database rejects the first operation. -/
def databaseDown : FailedCall where
  rpc := .register grace
  cause := .handler [(.database, true)] serverSelection
  err := .status ⟨unknown, "Internal server error"⟩
  fails := by
    have throws : AuthThrows (.register grace)
        [⟨.findOne grace.email, replied (.rejected serverSelection), .error serverSelection⟩]
        serverSelection :=
      .running () ⟨{}, 0, _, rfl⟩ .finished
    exact .handler (.auth rfl throws)

end Sample

/-- The theorem at a registration that is turned down, and at a run of a timeout. -/
theorem failure_filter_iff_taken : Sample.turnedDown.Separated ∧
    ∀ call ∈ [(⟨.register Sample.grace, .timeout, .timedOut, .timedOut⟩ : FailedCall)],
      call.Counted := by
  refine ⟨((failure_filter_iff [Sample.turnedDown]).1 _ (.head _)).mpr ?_,
    ((failure_filter_iff _).2 ?_).mpr ?_⟩
  · exact List.forall_mem_singleton.mpr rfl
  · exact List.forall_mem_singleton.mpr trivial
  · exact List.forall_mem_singleton.mpr trivial

/-- **A database that is down, and nothing is counted.** The handler of `Register` awaits the
database first and lets the rejection through, and the filter ignores it. -/
theorem rejected_database_ignored :
    Sample.databaseDown.cause.DatabaseDown ∧ Sample.databaseDown.cause.System ∧
      ¬ Sample.databaseDown.Counted ∧ ¬ Sample.databaseDown.Separated := by
  have ignored : ¬ Sample.databaseDown.Counted := fun counted => Bool.false_ne_true counted.symm
  refine ⟨List.forall_mem_singleton.mpr fun _ => rfl, .head _, ignored, fun separated => ?_⟩
  exact ignored (separated.counted.mpr (.head _))

end WorkflowHub.Gateway
