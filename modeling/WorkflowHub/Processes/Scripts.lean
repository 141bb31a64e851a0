import WorkflowHub.Processes.Executions
import WorkflowHub.Processes.Handler

/-!
# Scripts

Many a call awaits one operation after the other and ends with the first that is rejected. What
it awaits is then a list of operations, its script, and an execution follows the script as far
as the replies let it (`Scripted.executes_iff`).
-/

set_option autoImplicit false

namespace WorkflowHub.Processes

variable {Op Error σ Call Pc Out Choice : Type} {Value : Op → Type}

/-- The operations are awaited in the order of the script, until one is rejected, with the error
that is left, or until its end. -/
inductive Follows :
    List Op → List (Exchange (promises Op Value Error) Choice) → Option Error → Prop where
  | done : Follows [] [] none
  | rejected {op : Op} {ops : List Op} {choice : Choice} {error : Error} :
      Follows (op :: ops) [⟨op, choice, .error error⟩] (some error)
  | resolved {op : Op} {ops : List Op} {choice : Choice} {value : Value op}
      {exchanges : List (Exchange (promises Op Value Error) Choice)} {error? : Option Error}
      (rest : Follows ops exchanges error?) :
      Follows (op :: ops) (⟨op, choice, .ok value⟩ :: exchanges) error?

/-- From where it has been led, the call awaits the operations of the script, and ends with what
`ends` makes of the first error. -/
inductive Scripted (flow : Flow (promises Op Value Error) σ Call Pc Out) (call : Call)
    (ends : Option Error → Out) : List Op → σ × Target Pc Out → Prop where
  | done {fields : σ} : Scripted flow call ends [] (fields, .finished (ends none))
  | await {fields : σ} {pc : Pc} {ops : List Op}
      (rejected : ∀ error fields', ∃ left,
        flow.next call pc (.error error) fields' = (left, .finished (ends (some error))))
      (resolved : ∀ value fields', Scripted flow call ends ops
        (flow.next call pc (.ok value) fields')) :
      Scripted flow call ends (flow.op call pc :: ops) (fields, .running pc)

/-- **The executions of a script**: they follow it, whatever is replied. -/
theorem Scripted.executes_iff [Inhabited σ] {flow : Flow (promises Op Value Error) σ Call Pc Out}
    {call : Call} {ends : Option Error → Out}
    {answers : Unit → (op : Op) → Choice → Except Error (Value op) → Unit → Prop}
    {script : List Op} {led : σ × Target Pc Out} (scripted : Scripted flow call ends script led) :
    (∀ op ∈ script, ∀ choice reply, answers () op choice reply ()) →
      ∀ (exchanges : List (Exchange (promises Op Value Error) Choice)) (out : Out),
        Executes answers flow call () led exchanges out () ↔
          ∃ error?, Follows script exchanges error? ∧ out = ends error? := by
  induction scripted with
  | done =>
      intro _ exchanges out
      constructor
      · intro executes
        obtain ⟨rfl, rfl, _⟩ := executes.of_finished
        exact ⟨none, .done, rfl⟩
      · rintro ⟨error?, follows, rfl⟩
        cases follows
        exact .finished
  | @await fields pc ops rejected _ ih =>
      intro anything exchanges out
      have answered := anything _ List.mem_cons_self
      have later := fun value fields' => ih value fields' fun op found =>
        anything op (List.mem_cons_of_mem _ found)
      constructor
      · intro executes
        obtain ⟨choice, reply, _, fields', rest, rfl, _, executes⟩ := executes.of_running
        cases reply with
        | ok value =>
            obtain ⟨error?, follows, ended⟩ := (later value fields' rest out).mp executes
            exact ⟨error?, .resolved follows, ended⟩
        | error error =>
            obtain ⟨left, ends⟩ := rejected error fields'
            rw [ends] at executes
            obtain ⟨rfl, rfl, _⟩ := executes.of_finished
            exact ⟨some error, .rejected, rfl⟩
      · rintro ⟨error?, follows, rfl⟩
        cases follows with
        | @rejected _ _ choice error =>
            obtain ⟨left, ends⟩ := rejected error default
            refine .running default (answered choice _) ?_
            rw [ends]
            exact .finished
        | @resolved _ _ choice value rest _ follows =>
            exact .running default (answered choice _)
              ((later value default rest _).mpr ⟨error?, follows, rfl⟩)

end WorkflowHub.Processes
