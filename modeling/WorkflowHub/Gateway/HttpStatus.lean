import Mathlib.Data.Nat.Notation
import WorkflowHub.Platform.Values

/-!
# `toHttpStatus`

The HTTP status the gateway answers with when a call has failed.
-/

set_option autoImplicit false

namespace WorkflowHub

namespace Thrown

/-- `err.status ?? err.statusCode`, if one of the two is there. An `RpcException` keeps its
status in the error it wraps. -/
def status : Thrown → Option ℕ
  | .httpException status _ => some status
  | .remote statusCode _ => some statusCode
  | _ => none

/-- `err.code` of a gRPC client. -/
def grpcCode : Thrown → Option ℕ
  | .grpc code _ => some code
  | _ => none

/-- The errors of an open circuit breaker. -/
def OpenCircuit (thrown : Thrown) : Prop :=
  thrown.name = some "OpenCircuitError" ∨ thrown.message = "The circuit is open" ∨
    thrown.message = "Breaker is open" ∨ ∃ message, thrown = .coded "EOPENBREAKER" message

instance (thrown : Thrown) : Decidable thrown.OpenCircuit := by
  have : Decidable (∃ message, thrown = .coded "EOPENBREAKER" message) :=
    decidable_of_iff (thrown = .coded "EOPENBREAKER" thrown.message) <| by
      constructor
      · exact fun same => ⟨_, same⟩
      · rintro ⟨message, rfl⟩
        rfl
  unfold OpenCircuit
  infer_instance

end Thrown

/-- The gRPC codes that have a status of their own. -/
def grpcStatus : ℕ → Option ℕ
  | 3 => some 400
  | 5 => some 404
  | 6 => some 409
  | 16 => some 401
  | 4 => some 504
  | 14 => some 503
  | _ => none

def toHttpStatus (err : Thrown) : ℕ :=
  match err.status.filter (· ≠ 0) with
  | some status => status
  | none =>
      match err.grpcCode.bind grpcStatus with
      | some status => status
      | none => if err.OpenCircuit then 503 else 500

end WorkflowHub
