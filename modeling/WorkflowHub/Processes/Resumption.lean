/-!
# Programs that await operations

An `async` function runs without interruption up to its next `await`, hands one
operation to the outside, and goes on when the reply arrives. Between two awaits no
other code of the same process runs, so the fields the functions of one object share
are read and written atomically there.

`Resumption` is one such segment together with everything that may follow it: it ends
with a value, or it awaits an operation and says how to go on from the reply and from
the fields as they are by then. `Async` is a function of the fields that runs a segment.
It is a monad with the fields as its state (`Async.await` is the only way to stop), so
an `async` function is written in `do` notation, with `ExceptT` for rejections and
`StateT` for the variables a function assigns.
-/

set_option autoImplicit false

namespace WorkflowHub.Processes

/-- The operations a family of programs may await, each with the type of its replies. -/
structure Signature where
  Op : Type
  Res : Op → Type

variable {S : Signature} {σ α β : Type}

/-- A segment that ran to completion: it ended with a value, or it awaits `op`. Either
way `fields` is what the segment left in the shared fields. -/
inductive Resumption (S : Signature) (σ α : Type) where
  | done (value : α) (fields : σ)
  | await (op : S.Op) (fields : σ) (resume : S.Res op → σ → Resumption S σ α)

/-- Run `rest` after the segment and everything it awaits. -/
def Resumption.bind : Resumption S σ α → (α → σ → Resumption S σ β) → Resumption S σ β
  | .done value fields, rest => rest value fields
  | .await op fields resume, rest =>
      .await op fields fun reply fields' => (resume reply fields').bind rest

theorem Resumption.bind_assoc {γ : Type} (resumption : Resumption S σ α)
    (rest : α → σ → Resumption S σ β) (rest' : β → σ → Resumption S σ γ) :
    (resumption.bind rest).bind rest' =
      resumption.bind fun value fields => (rest value fields).bind rest' := by
  induction resumption with
  | done value fields => rfl
  | await op fields resume ih =>
      simp only [bind, await.injEq, heq_eq_eq, true_and]
      funext reply fields'
      exact ih reply fields'

/-- A program: what it does when it is given the processor with the fields as they are. -/
def Async (S : Signature) (σ α : Type) : Type := σ → Resumption S σ α

namespace Async

instance : Monad (Async S σ) where
  pure value := fun fields => .done value fields
  bind program rest := fun fields => (program fields).bind fun value fields' => rest value fields'

instance : MonadStateOf σ (Async S σ) where
  get := fun fields => .done fields fields
  set fields := fun _ => .done ⟨⟩ fields
  modifyGet change := fun fields => .done (change fields).1 (change fields).2

instance : MonadFinally (Async S σ) where
  tryFinally' program cleanup := do
    let value ← program
    let cleaned ← cleanup (some value)
    pure (value, cleaned)

/-- Hand `op` to the outside and stop until its reply. -/
def await (op : S.Op) : Async S σ (S.Res op) := fun fields =>
  .await op fields fun reply fields' => .done reply fields'

end Async

end WorkflowHub.Processes
