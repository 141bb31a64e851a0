import WorkflowHub.Gateway.SagaSystem

/-!
# Program points of the saga

The three calls of the saga, and the rollback, at the call it makes with those that are left.
`implements` says that the table describes the saga.
-/

set_option autoImplicit false

namespace WorkflowHub.Gateway

open Processes AuthService TaskService Consumers

inductive Pc where
  | registering (registerDto : RegisterBody)
  | creatingTask (auth : AuthReply) (user : UserReply) (userId : ReplyId)
  | sending (auth : AuthReply) (user : UserReply) (userId taskId : ReplyId)
  | rollingBack (op : Op) (rest : List Op) (error : Thrown)

def Pc.op : Pc → Op
  | registering registerDto => .register registerDto
  | creatingTask _ user userId => .createSaga (welcomeTask user userId)
  | sending _ user userId taskId => .sendSaga (welcomeNotification user userId taskId)
  | rollingBack op _ _ => op

abbrev Led : Type := Unit × Target Pc (Except Thrown Registration)

/-- The exception the saga throws in the end. -/
def failure (error : Thrown) : Thrown :=
  .httpException (toHttpStatus error)
    (if error.message = "" then "User Registration failed" else error.message)

namespace Led

/-- On with the rollback, or to its end. -/
def rollback (error : Thrown) : List Op → Led
  | [] => ((), .finished (.error (failure error)))
  | op :: rest => ((), .running (.rollingBack op rest error))

def next : (pc : Pc) → Except Thrown pc.op.Value → Led
  | .registering _, .ok auth =>
      match auth.user.bind fun user => user.id.map fun userId => (user, userId) with
      | some (user, userId) => ((), .running (.creatingTask auth user userId))
      | none => rollback (.error "Error" "User creation succeeded but no userId was returned.") []
  | .registering _, .error error => rollback error []
  | .creatingTask auth user userId, .ok task =>
      match task.id with
      | some taskId => ((), .running (.sending auth user userId taskId))
      | none =>
          rollback (.error "Error" "Task creation failed: No taskId returned") [.deleteUser userId]
  | .creatingTask _ _ userId, .error error => rollback error [.deleteUser userId]
  | .sending auth _ _ _, .ok _ =>
      ((), .finished (.ok
        { message := "Registration workflow completed successfully"
          user := auth.user
          token := auth.token }))
  | .sending _ _ userId taskId, .error error =>
      rollback error [.deleteSaga taskId, .deleteUser userId]
  | .rollingBack _ rest error, _ => rollback error rest

end Led

/-- The table of program points. -/
def flow : Flow (promises Op Op.Value Thrown) Unit RegisterBody Pc (Except Thrown Registration) where
  op _ pc := pc.op
  enter registerDto _ := ((), .running (.registering registerDto))
  next _ pc reply _ := Led.next pc reply

/-- The rest of a saga whose rollback has these actions to run. -/
def rollbackRest (error : Thrown) (actions : List RollbackAction) : SagaBlock Registration := do
  actions.forM fun rollback => do
    try
      let _ ← (Block.await rollback.action : SagaBlock _)
    catch _ => pure ()
  throw (failure error)

theorem tracks_rollbackRest (call : RegisterBody) (error : Thrown) (noted : List RollbackAction) :
    ∀ (actions : List RollbackAction),
      Tracks flow call (Led.rollback error (actions.map (·.action)))
        (((rollbackRest error actions).withVariable noted).run ())
  | [] => .done
  | action :: actions => by
      refine Tracks.await fun reply _ => ?_
      cases reply with
      | ok _ => exact tracks_rollbackRest call error noted actions
      | error _ => exact tracks_rollbackRest call error noted actions

/-- **The table of program points describes the saga.** -/
theorem implements : Implements flow fun registerDto => (executeRegistrationSaga registerDto).run := by
  intro registerDto _
  refine Tracks.await fun reply _ => ?_
  match reply with
  | .error error => exact tracks_rollbackRest registerDto error [] []
  | .ok ⟨message, none, token⟩ => exact tracks_rollbackRest registerDto _ [] []
  | .ok ⟨message, some ⟨none, name, email⟩, token⟩ => exact tracks_rollbackRest registerDto _ [] []
  | .ok ⟨message, some ⟨some userId, name, email⟩, token⟩ =>
      refine Tracks.await fun reply _ => ?_
      match reply with
      | .error error => exact tracks_rollbackRest registerDto error _ [⟨_, .deleteUser userId⟩]
      | .ok ⟨none, _, _, _, _⟩ => exact tracks_rollbackRest registerDto _ _ [⟨_, .deleteUser userId⟩]
      | .ok ⟨some taskId, _, _, _, _⟩ =>
          refine Tracks.await fun reply _ => ?_
          cases reply with
          | error error =>
              exact tracks_rollbackRest registerDto error _
                [⟨_, .deleteSaga taskId⟩, ⟨_, .deleteUser userId⟩]
          | ok notification => exact .done

end WorkflowHub.Gateway
