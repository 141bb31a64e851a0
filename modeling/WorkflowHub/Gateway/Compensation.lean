import WorkflowHub.Gateway.SagaControlFlow
import WorkflowHub.Processes.Executions
import Mathlib.Data.List.Nodup

/-!
# What a saga takes back

A saga is followed through all outcomes of its calls. It throws exactly if one of its steps has
failed, and then it has taken back the steps whose response carried an id, the last one first
(`compensation_exact`). This rests on what `rollback` does with any list of actions
(`rollback_runs_all`): a rejected action does not keep it from the next one.
-/

set_option autoImplicit false

namespace WorkflowHub.Gateway

open Processes AuthService TaskService Consumers

/-- A call of a saga with its outcome. -/
abbrev SagaExchange : Type := Exchange (promises Op Op.Value Thrown) Unit

/-- The outcome of every call, by how many were made before it. -/
abbrev Pattern : Type := ℕ → (op : Op) → Except Thrown op.Value

/-- The call is one of the steps, and not one that takes a step back. -/
def Op.isStep : Op → Bool
  | .register _ => true
  | .createSaga _ => true
  | .sendSaga _ => true
  | _ => false

/-- The call that takes a step back whose response carried an id. -/
def undo : SagaExchange → Option Op
  | ⟨.register _, _, .ok (response : AuthReply)⟩ =>
      (response.user.bind (·.id)).map fun userId => .deleteUser userId
  | ⟨.createSaga _, _, .ok (response : TaskReply)⟩ => response.id.map fun taskId => .deleteSaga taskId
  | _ => none

/-- The step was rejected, or its response should have carried an id and did not. -/
def StepFailed : SagaExchange → Prop
  | ⟨.register _, _, .ok (response : AuthReply)⟩ => response.user.bind (·.id) = none
  | ⟨.createSaga _, _, .ok (response : TaskReply)⟩ => response.id = none
  | ⟨op, _, .error _⟩ => op.isStep = true
  | _ => False

/-- The calls that were made to take steps back. -/
def compensations (exchanges : List SagaExchange) : List Op :=
  (exchanges.map (·.op)).filter fun op => !op.isStep

/-- The calls of a saga, and what it ends with. -/
structure Compensated (exchanges : List SagaExchange) (out : Except Thrown Registration) : Prop where
  throws : (∃ error, out = .error error) ↔ ∃ exchange ∈ exchanges, StepFailed exchange
  undone : ∀ error, out = .error error →
    compensations exchanges = (exchanges.filterMap undo).reverse
  once : (compensations exchanges).Nodup
  kept : ∀ registration, out = .ok registration → compensations exchanges = []

/-! ## Rollback -/

/-- `rollback` on its own, as the code of calls that are given its actions. -/
def rollbacks : Flow (promises Op Op.Value Thrown) Unit (List RollbackAction)
    (Suspended (promises Op Op.Value Thrown) Unit (Except Thrown Unit)) (Except Thrown Unit) :=
  .ofPrograms fun actions => ((rollback actions).withVariable []).run

section Rollback

variable {World : Type} {before after : World}
  {answers : World → (op : Op) → Unit → Except Thrown op.Value → World → Prop}
  {exchanges : List SagaExchange}

/-- The loop of `rollback`: every action is tried, whatever became of the one before it. -/
theorem executes_actions {call : List RollbackAction} {out : Except Thrown Unit} :
    ∀ (actions : List RollbackAction) {before : World} {exchanges : List SagaExchange},
      Executes answers rollbacks call before
        (Resumption.target ((Block.withVariable []
          (actions.forM fun rollback => do
            try
              let _ ← (Block.await rollback.action : SagaBlock _)
            catch _ => pure () : SagaBlock Unit)).run ())) exchanges out after →
      exchanges.map (·.op) = actions.map (·.action) ∧ out = .ok ()
  | [], _, _, executes => by
      obtain ⟨rfl, rfl, rfl⟩ := executes.of_finished
      exact ⟨rfl, rfl⟩
  | action :: actions, _, _, executes => by
      obtain ⟨_, reply, _, _, rest, rfl, _, executes⟩ := executes.of_running
      have later : rest.map (·.op) = actions.map (·.action) ∧ out = .ok () := by
        cases reply with
        | ok _ => exact executes_actions actions executes
        | error _ => exact executes_actions actions executes
      refine ⟨?_, later.2⟩
      rw [List.map_cons, later.1]
      rfl

/-- **`rollback` makes the call of every action once, from the last action to the first, and
does not reject.** -/
theorem rollback_runs_all {actions : List RollbackAction} {out : Except Thrown Unit}
    (executes : Executes answers rollbacks actions before (rollbacks.enter actions ()) exchanges out
      after) :
    exchanges.map (·.op) = actions.reverse.map (·.action) ∧ out = .ok () :=
  executes_actions actions.reverse executes

/-- The rollback of a saga makes the calls noted, and ends with the exception. -/
theorem executes_rollback {call : RegisterBody} {error : Thrown} {out : Except Thrown Registration} :
    ∀ (actions : List Op) {before : World} {exchanges : List SagaExchange},
      Executes answers flow call before (Led.rollback error actions) exchanges out after →
        exchanges.map (·.op) = actions ∧ out = .error (failure error) := by
  intro actions
  induction actions with
  | nil =>
      intro before exchanges executes
      obtain ⟨rfl, rfl, rfl⟩ := executes.of_finished
      exact ⟨rfl, rfl⟩
  | cons action actions ih =>
      intro before exchanges executes
      obtain ⟨_, reply, _, _, rest, rfl, _, executes⟩ := executes.of_running
      have later := ih executes
      exact ⟨by rw [List.map_cons, later.1]; rfl, later.2⟩

end Rollback

/-! ## The saga -/

theorem isStep_of_undo {exchange : SagaExchange} {action : Op} (undone : undo exchange = some action) :
    exchange.op.isStep = true ∧ action.isStep = false := by
  obtain ⟨op, _, reply⟩ := exchange
  cases op with
  | register registerDto =>
      cases reply with
      | ok response =>
          obtain ⟨userId, _, rfl⟩ := Option.map_eq_some_iff.mp undone
          exact ⟨rfl, rfl⟩
      | error error => cases undone
  | createSaga data =>
      cases reply with
      | ok response =>
          obtain ⟨taskId, _, rfl⟩ := Option.map_eq_some_iff.mp undone
          exact ⟨rfl, rfl⟩
      | error error => cases undone
  | _ => cases undone

/-- Some steps of which one has failed, and then the rollback of those that carried an id. -/
theorem compensated_of_rollback {World : Type} {before after : World}
    {answers : World → (op : Op) → Unit → Except Thrown op.Value → World → Prop}
    {registerDto : RegisterBody} {error : Thrown} {actions : List Op} {back : List SagaExchange}
    {out : Except Thrown Registration} (steps : List SagaExchange)
    (executes : Executes answers flow registerDto before (Led.rollback error actions) back out after)
    (areSteps : steps.all (·.op.isStep) = true) (failed : ∃ exchange ∈ steps, StepFailed exchange)
    (noted : (steps.filterMap undo).reverse = actions) (once : actions.Nodup) :
    Compensated (steps ++ back) out := by
  obtain ⟨takesBack, rfl⟩ := executes_rollback actions executes
  rw [List.all_eq_true] at areSteps
  have notSteps : ∀ action ∈ actions, action.isStep = false := by
    intro action there
    rw [← noted, List.mem_reverse, List.mem_filterMap] at there
    obtain ⟨step, _, undone⟩ := there
    exact (isStep_of_undo undone).2
  have undone : (steps ++ back).filterMap undo = steps.filterMap undo := by
    have none : back.filterMap undo = [] := by
      refine List.filterMap_eq_nil_iff.mpr fun exchange made => ?_
      have action : exchange.op ∈ back.map (·.op) := List.mem_map_of_mem made
      rw [takesBack] at action
      cases found : undo exchange with
      | none => rfl
      | some _ => cases (isStep_of_undo found).1.symm.trans (notSteps _ action)
    rw [List.filterMap_append, none, List.append_nil]
  have made : compensations (steps ++ back) = actions := by
    have none : (steps.map (·.op)).filter (fun op => !op.isStep) = [] := by
      refine List.filter_eq_nil_iff.mpr fun op issued => ?_
      obtain ⟨exchange, there, rfl⟩ := List.mem_map.mp issued
      simp only [areSteps exchange there, Bool.not_true, Bool.false_eq_true, not_false_eq_true]
    have all : actions.filter (fun op => !op.isStep) = actions := by
      refine List.filter_eq_self.mpr fun op issued => ?_
      rw [notSteps op issued]
      rfl
    rw [compensations, List.map_append, List.filter_append, none, List.nil_append, takesBack, all]
  refine ⟨⟨fun _ => ?_, fun _ => ⟨failure error, rfl⟩⟩, fun _ _ => ?_, ?_, fun _ returned => ?_⟩
  · obtain ⟨exchange, there, failed⟩ := failed
    exact ⟨exchange, List.mem_append_left _ there, failed⟩
  · rw [made, undone, noted]
  · rw [made]
    exact once
  · cases returned

/-- Each end of a saga: after a failed step, or after all of them. -/
theorem compensated_of_executes {World : Type} {before after : World}
    {answers : World → (op : Op) → Unit → Except Thrown op.Value → World → Prop}
    {registerDto : RegisterBody} {exchanges : List SagaExchange} {out : Except Thrown Registration}
    (executes : Executes answers flow registerDto before (flow.enter registerDto ()) exchanges out
      after) :
    Compensated exchanges out := by
  obtain ⟨_, (registered : Except Thrown AuthReply), _, _, exchanges, rfl, _, executes⟩ :=
    executes.of_running
  rcases registered with error | ⟨message, _ | ⟨_ | userId, name, email⟩, token⟩
  · exact compensated_of_rollback [_] executes rfl ⟨_, List.mem_cons_self, rfl⟩ rfl .nil
  · exact compensated_of_rollback [_] executes rfl ⟨_, List.mem_cons_self, rfl⟩ rfl .nil
  · exact compensated_of_rollback [_] executes rfl ⟨_, List.mem_cons_self, rfl⟩ rfl .nil
  obtain ⟨_, (created : Except Thrown TaskReply), _, _, exchanges, rfl, _, executes⟩ :=
    executes.of_running
  rcases created with error | ⟨_ | taskId, title, description, owner, message⟩
  · exact compensated_of_rollback [_, _] executes rfl
      ⟨_, List.mem_cons_of_mem _ List.mem_cons_self, rfl⟩ rfl (List.nodup_singleton _)
  · exact compensated_of_rollback [_, _] executes rfl
      ⟨_, List.mem_cons_of_mem _ List.mem_cons_self, rfl⟩ rfl (List.nodup_singleton _)
  obtain ⟨_, (sent : Except Thrown NotificationReply), _, _, exchanges, rfl, _, executes⟩ :=
    executes.of_running
  cases sent with
  | error error =>
      have once : [Op.deleteSaga taskId, Op.deleteUser userId].Nodup :=
        List.nodup_cons.mpr
          ⟨fun there => (by cases List.mem_singleton.mp there), List.nodup_singleton _⟩
      exact compensated_of_rollback [_, _, _] executes rfl
        ⟨_, .tail _ (.tail _ (.head _)), rfl⟩ rfl once
  | ok response =>
      obtain ⟨rfl, rfl, rfl⟩ := executes.of_finished
      refine ⟨⟨fun ⟨_, thrown⟩ => ?_, ?_⟩, fun _ thrown => ?_, .nil, fun _ _ => rfl⟩
      · cases thrown
      · rintro ⟨exchange, there, failed⟩
        simp only [List.mem_cons, List.not_mem_nil, or_false] at there
        rcases there with rfl | rfl | rfl
        all_goals cases failed
      · cases thrown

/-- A saga whose calls end by the pattern. -/
def SagaRuns (registerDto : RegisterBody) (pattern : Pattern) (exchanges : List SagaExchange)
    (out : Except Thrown Registration) : Prop :=
  ∃ after, Executes (following pattern) programs registerDto 0 (programs.enter registerDto ())
    exchanges out after

/-- A rollback whose calls end by the pattern. -/
def RollbackRuns (actions : List RollbackAction) (pattern : Pattern) (exchanges : List SagaExchange)
    (out : Except Thrown Unit) : Prop :=
  ∃ after, Executes (following pattern) rollbacks actions 0 (rollbacks.enter actions ()) exchanges
    out after

/-- **Compensation is exact.** Whatever the outcomes of its calls, a saga comes to an end, and has
taken back what it should. A rollback comes to an end, and has made the call of every action. -/
theorem compensation_exact :
    (∀ registerDto pattern, (∃ exchanges out, SagaRuns registerDto pattern exchanges out) ∧
      ∀ exchanges out, SagaRuns registerDto pattern exchanges out → Compensated exchanges out) ∧
    ∀ actions pattern, (∃ exchanges out, RollbackRuns actions pattern exchanges out) ∧
      ∀ exchanges out, RollbackRuns actions pattern exchanges out →
        exchanges.map (·.op) = actions.reverse.map (·.action) ∧ out = .ok () := by
  refine ⟨fun registerDto pattern => ⟨?_, ?_⟩, fun actions pattern => ⟨?_, ?_⟩⟩
  · exact Executes.exists_following (S := promises Op Op.Value Thrown) _ registerDto () pattern
  · rintro exchanges out ⟨after, executes⟩
    exact compensated_of_executes (implements.executes executes)
  · exact Executes.exists_following (S := promises Op Op.Value Thrown) _ actions () pattern
  · rintro exchanges out ⟨after, executes⟩
    exact rollback_runs_all executes

namespace Sample

def ada : RegisterBody := ⟨"Ada", "ada@example.org", "secret"⟩

def user : UserReply := ⟨some ⟨"user", by decide⟩, "Ada", "ada@example.org"⟩

def registered : AuthReply where
  message := "Registered Successfully"
  user := some user
  token := ⟨⟨"65f0a1b2c3d4e5f6a7b8ca10", rfl⟩, "ada@example.org"⟩

def created : TaskReply where
  id := some ⟨"task", by decide⟩
  title := "Welcome to WorkflowHub"
  description := "Welcome Ada to WorkflowHub."
  userId := "user"
  message := "Task created successfully via Saga"

def unreachable : Thrown := .error "Error" "connect ECONNREFUSED"

/-- The notification is rejected, and so is the deletion of the task. -/
def pattern : Pattern
  | _, .register _ => .ok registered
  | _, .createSaga _ => .ok created
  | _, .deleteUser _ => .ok (⟨"User deleted successfully"⟩ : DeletedReply)
  | _, _ => .error unreachable

/-- The calls under the pattern. -/
def calls : List SagaExchange :=
  [⟨.register ada, (), .ok registered⟩,
    ⟨.createSaga (welcomeTask user "user"), (), .ok created⟩,
    ⟨.sendSaga (welcomeNotification user "user" "task"), (), .error unreachable⟩,
    ⟨.deleteSaga "task", (), .error unreachable⟩,
    ⟨.deleteUser "user", (), .ok (⟨"User deleted successfully"⟩ : DeletedReply)⟩]

end Sample

/-- The theorem at a saga that is rolled back, with a compensation that is rejected. -/
theorem compensation_exact_rejected :
    ∃ error, SagaRuns Sample.ada Sample.pattern Sample.calls (.error error) ∧
      compensations Sample.calls = [.deleteSaga "task", .deleteUser "user"] ∧
        Compensated Sample.calls (.error error) := by
  have runs : SagaRuns Sample.ada Sample.pattern Sample.calls
      (.error (failure Sample.unreachable)) :=
    ⟨5, .running () ⟨rfl, rfl⟩ (.running () ⟨rfl, rfl⟩ (.running () ⟨rfl, rfl⟩
      (.running () ⟨rfl, rfl⟩ (.running () ⟨rfl, rfl⟩ .finished))))⟩
  exact ⟨_, runs, rfl, (compensation_exact.1 Sample.ada Sample.pattern).2 _ _ runs⟩

end WorkflowHub.Gateway
