import Mathlib.Data.Nat.Notation
import WorkflowHub.Platform.Values

/-!
# Calls over gRPC

How an exception that escapes a handler reaches the caller. An `RpcException` of the services
carries an HTTP status and no gRPC code, so the server sends code 2 with its message; any other
exception is sent as code 2 with a fixed text. The caller's circuit breaker hands the error on, or
rejects the call with an error of its own.
-/

set_option autoImplicit false

namespace WorkflowHub.Grpc

/-- The status a server ends a failed call with. -/
structure Status where
  code : ℕ
  details : String
  deriving DecidableEq, Repr

/-- `UNKNOWN`. -/
def unknown : ℕ := 2

/-- `UNAVAILABLE`: the connection has failed. -/
def unavailable : ℕ := 14

/-- What becomes of an exception that escapes a handler. -/
def Status.ofThrown : Thrown → Status
  | .rpcException _ message => ⟨unknown, message⟩
  | _ => ⟨unknown, "Internal server error"⟩

/-- The names of the codes. -/
def codeName : ℕ → String
  | 0 => "OK"
  | 1 => "CANCELLED"
  | 2 => "UNKNOWN"
  | 3 => "INVALID_ARGUMENT"
  | 4 => "DEADLINE_EXCEEDED"
  | 5 => "NOT_FOUND"
  | 6 => "ALREADY_EXISTS"
  | 7 => "PERMISSION_DENIED"
  | 8 => "RESOURCE_EXHAUSTED"
  | 9 => "FAILED_PRECONDITION"
  | 10 => "ABORTED"
  | 11 => "OUT_OF_RANGE"
  | 12 => "UNIMPLEMENTED"
  | 13 => "INTERNAL"
  | 14 => "UNAVAILABLE"
  | 15 => "DATA_LOSS"
  | 16 => "UNAUTHENTICATED"
  | _ => ""

/-- The error a call through the circuit breaker is rejected with: the status of the call, or an
error of the breaker with a code that is a string. -/
inductive CallError where
  | status (status : Status)
  | breaker (code message : String)
  deriving DecidableEq, Repr

namespace CallError

/-- The call outlasted the timeout of the breaker. -/
def timedOut : CallError := .breaker "ETIMEDOUT" "Timed out after 5000ms"

/-- The error as a thrown value. -/
def thrown : CallError → Thrown
  | .status ⟨code, details⟩ =>
      .grpc code (code.repr ++ " " ++ codeName code ++ ": " ++ details)
  | .breaker code message => .coded code message

/-- The `details` property. -/
def details : CallError → Option String
  | .status sent => some sent.details
  | .breaker _ _ => none

end CallError

/-- How the exception of a handler ends the call of it: it arrives, or the call had already
outlasted the timeout. -/
inductive Arrives (thrown : Thrown) : CallError → Prop where
  | passed : Arrives thrown (.status (.ofThrown thrown))
  | late : Arrives thrown .timedOut

end WorkflowHub.Grpc
