import WorkflowHub.AuthService.ControlFlow
import WorkflowHub.Gateway.Compensation
import WorkflowHub.Gateway.Controllers

/-!
# The status of a business error

The exception of a handler arrives at the gateway without the status it was thrown with, and
`toHttpStatus` knows no status for the code it arrives under. So every route answers it with 500
(`status_survives_iff`).
-/

set_option autoImplicit false

namespace WorkflowHub.Gateway

open Processes Grpc AuthService TaskService

/-! ## What the gateway makes of the error -/

/-- The message of an error sent under code 2 is not the one of an open circuit. -/
theorem message_ne {details text : String} (other : text.toList.head? ≠ some '2') :
    "2" ++ " " ++ "UNKNOWN" ++ ": " ++ details ≠ text := by
  rintro rfl
  apply other
  simp only [String.toList_append]
  rfl

theorem toHttpStatus_unknown (details : String) :
    toHttpStatus (CallError.status ⟨unknown, details⟩).thrown = 500 := by
  have closed : ¬ (CallError.status ⟨unknown, details⟩).thrown.OpenCircuit := by
    rintro (name | message | message | ⟨message, same⟩)
    · have name : some "Error" = some "OpenCircuitError" := name
      exact absurd name (by decide)
    · exact message_ne (by decide) message
    · exact message_ne (by decide) message
    · cases same
  calc toHttpStatus (CallError.status ⟨unknown, details⟩).thrown
      = if (CallError.status ⟨unknown, details⟩).thrown.OpenCircuit then 503 else 500 := rfl
    _ = 500 := if_neg closed

/-- **No exception of a handler has a status of its own** at the gateway. -/
theorem toHttpStatus_arrives {thrown : Thrown} {err : CallError} (arrives : Arrives thrown err) :
    toHttpStatus err.thrown = 500 := by
  cases arrives with
  | passed =>
      cases thrown with
      | _ => exact toHttpStatus_unknown _
  | late => decide

/-! ## The step of a saga that is rejected -/

section Saga

variable {World : Type} {before after : World}
  {answers : World → (op : Op) → Unit → Except Thrown op.Value → World → Prop}
  {registerDto : RegisterBody} {exchange : SagaExchange} {exchanges : List SagaExchange}
  {out : Except Thrown Registration} {err : Thrown}

/-- The error a call was rejected with. -/
def errorOf : SagaExchange → Option Thrown
  | ⟨_, _, .error error⟩ => some error
  | _ => none

theorem errorOf_eq (rejected : exchange.reply = .error err) : errorOf exchange = some err := by
  obtain ⟨op, _, reply⟩ := exchange
  cases reply with
  | ok value => cases rejected
  | error error =>
      cases rejected
      rfl

/-- A saga that is rolled back throws what one of its steps was rejected with. -/
theorem failure_of_rollback (steps : List SagaExchange) (actions : List Op)
    {back : List SagaExchange} {error : Thrown}
    (executes : Executes answers flow registerDto before (Led.rollback error actions) back out after)
    (areActions : (actions.all fun action => !action.isStep) = true)
    (only : steps.filterMap errorOf ⊆ [error]) (made : exchange ∈ steps ++ back)
    (isStep : exchange.op.isStep = true) (rejected : exchange.reply = .error err) :
    out = .error (failure err) := by
  obtain ⟨takesBack, rfl⟩ := executes_rollback actions executes
  rcases List.mem_append.mp made with step | action
  · have same := only (List.mem_filterMap.mpr ⟨exchange, step, errorOf_eq rejected⟩)
    rw [List.mem_singleton.mp same]
  · have action : exchange.op ∈ actions := takesBack ▸ List.mem_map_of_mem action
    have different := List.all_eq_true.mp areActions _ action
    rw [isStep] at different
    cases different

/-- **A saga throws what its step was rejected with.** -/
theorem failure_of_rejected
    (executes : Executes answers flow registerDto before (flow.enter registerDto ()) exchanges out
      after)
    (made : exchange ∈ exchanges) (isStep : exchange.op.isStep = true)
    (rejected : exchange.reply = .error err) : out = .error (failure err) := by
  obtain ⟨_, (registered : Except Thrown AuthReply), _, _, exchanges, rfl, _, executes⟩ :=
    executes.of_running
  rcases registered with error | ⟨message, _ | ⟨_ | userId, name, email⟩, token⟩
  · exact failure_of_rollback [_] [] executes rfl (List.Subset.refl _) made isStep rejected
  · exact failure_of_rollback [_] [] executes rfl (List.nil_subset _) made isStep rejected
  · exact failure_of_rollback [_] [] executes rfl (List.nil_subset _) made isStep rejected
  obtain ⟨_, (created : Except Thrown TaskReply), _, _, exchanges, rfl, _, executes⟩ :=
    executes.of_running
  rcases created with error | ⟨_ | taskId, title, description, owner, message⟩
  · exact failure_of_rollback [_, _] [_] executes rfl (List.Subset.refl _) made isStep rejected
  · exact failure_of_rollback [_, _] [_] executes rfl (List.nil_subset _) made isStep rejected
  obtain ⟨_, (sent : Except Thrown NotificationReply), _, _, exchanges, rfl, _, executes⟩ :=
    executes.of_running
  cases sent with
  | error error =>
      exact failure_of_rollback [_, _, _] [_, _] executes rfl (List.Subset.refl _) made isStep rejected
  | ok response =>
      obtain ⟨rfl, _⟩ := executes.of_finished
      simp only [List.mem_cons, List.not_mem_nil, or_false] at made
      rcases made with rfl | rfl | rfl
      all_goals cases rejected

end Saga

/-! ## The routes -/

/-- A route of the gateway whose call over gRPC was rejected with the error, and the status of its
reply: one of the controllers, or a step of a registration saga. -/
inductive RepliesTo (err : CallError) : ℕ → Prop where
  | direct {request : Controllers.Request}
      {exchanges : List (Exchange (promises Controllers.Op Controllers.Op.Value CallError) Unit)}
      {out : Except Thrown Controllers.Reply}
      {exchange : Exchange (promises Controllers.Op Controllers.Op.Value CallError) Unit}
      (executes : Executes anyReply Controllers.programs request ()
        (Controllers.programs.enter request ()) exchanges out ())
      (called : exchange ∈ exchanges) (rejected : exchange.reply = .error err) :
      RepliesTo err (Controllers.httpStatus out)
  | step {registerDto : RegisterBody} {exchanges : List SagaExchange}
      {out : Except Thrown Registration} {exchange : SagaExchange}
      (executes : Executes anyReply programs registerDto () (programs.enter registerDto ()) exchanges
        out ())
      (called : exchange ∈ exchanges) (isStep : exchange.op.isStep = true)
      (rejected : exchange.reply = .error err.thrown) :
      RepliesTo err (Controllers.httpStatus out)

theorem RepliesTo.eq {err : CallError} {status : ℕ} (replies : RepliesTo err status) :
    status = toHttpStatus err.thrown := by
  cases replies with
  | direct executes called rejected =>
      obtain ⟨message, rfl⟩ := Controllers.executes_rejected executes called rejected
      rfl
  | step executes called isStep rejected =>
      rw [failure_of_rejected (implements.executes executes) called isStep rejected]
      rfl

/-- **The status of a business error** survives the hop exactly if it is 500. -/
theorem status_survives_iff {statusCode : ℕ} {message : String} {err : CallError}
    (arrives : Arrives (.rpcException statusCode message) err) {status : ℕ}
    (replies : RepliesTo err status) : status = statusCode ↔ statusCode = 500 := by
  rw [replies.eq, toHttpStatus_arrives arrives]
  exact eq_comm

namespace Sample

def taken : Auth := ⟨⟨"65f0a1b2c3d4e5f6a7b8ca20", rfl⟩, "Ada", ada.email, "$2b$10$"⟩

/-- What `POST auth/register` answers to an error. -/
theorem replies_register (err : CallError) : RepliesTo err (toHttpStatus err.thrown) := by
  have executes : Executes anyReply Controllers.programs (.register ada) ()
      (Controllers.programs.enter (.register ada) ()) [⟨.register ada, (), .error err⟩]
      (.error (Controllers.httpException "Authentication failed" err)) () :=
    .running () trivial .finished
  exact .direct executes (.head _) rfl

end Sample

/-- The theorem at an exception with status 500. -/
theorem status_survives_iff_internal :
    ∃ err, Arrives (.rpcException 500 "Internal server error") err ∧ RepliesTo err 500 := by
  have replies := Sample.replies_register (.status (.ofThrown (.rpcException 500 "Internal server error")))
  refine ⟨_, .passed, ?_⟩
  rwa [(status_survives_iff .passed replies).mpr rfl] at replies

/-- **A conflict answered with 500.** The handler of `Register` finds a user with the e-mail and
throws the exception with status 409, and the gateway answers with 500. -/
theorem conflict_becomes_internal :
    ∃ exchanges error err status,
      Executes (fun world op answer reply world' =>
          AuthService.exec world 0 (.register Sample.ada) op answer = some (world', reply))
        AuthService.programs (.register Sample.ada) { users := [Sample.taken] }
        (AuthService.programs.enter (.register Sample.ada) ()) exchanges (.error error)
        { users := [Sample.taken] } ∧
      error = .rpcException 409 "User already exists" ∧ Arrives error err ∧ RepliesTo err status ∧
        status ≠ 409 := by
  have executes : Executes (fun world op answer reply world' =>
        AuthService.exec world 0 (.register Sample.ada) op answer = some (world', reply))
      AuthService.programs (.register Sample.ada) { users := [Sample.taken] }
      (AuthService.programs.enter (.register Sample.ada) ())
      [⟨.findOne Sample.ada.email, ⟨.resolved, Sample.taken.id, "", true⟩, .ok (some Sample.taken)⟩]
      (.error (.rpcException 409 "User already exists")) { users := [Sample.taken] } :=
    .running () rfl .finished
  refine ⟨_, _, _, _, executes, rfl, .passed, Sample.replies_register _, ?_⟩
  rw [toHttpStatus_arrives .passed]
  decide

end WorkflowHub.Gateway
