import WorkflowHub.Processes.Resumption

/-!
# Handlers whose operations may reject

Every promise resolves with a value or rejects with an exception, and an `await` on a
rejected promise throws that exception. A handler is a program over operations of this
kind: the exceptions it throws and catches are those of `ExceptT`, on top of the program,
so what a segment wrote to the fields stays written when it throws.
-/

set_option autoImplicit false

namespace WorkflowHub.Processes

variable {Op : Type} {Value : Op → Type} {ε σ α : Type}

/-- Operations that resolve with a value or reject with an exception of type `ε`. -/
abbrev promises (Op : Type) (Value : Op → Type) (ε : Type) : Signature where
  Op := Op
  Res op := Except ε (Value op)

/-- The body of an `async` function. -/
abbrev Handler (Op : Type) (Value : Op → Type) (ε σ α : Type) : Type :=
  ExceptT ε (Async (promises Op Value ε) σ) α

/-- `await` on the promise of an operation. -/
def await (op : Op) : Handler Op Value ε σ (Value op) :=
  ExceptT.mk (@Async.await (promises Op Value ε) σ op)

/-- The body of an `async` function that also assigns a variable of type `ν`. What was
assigned before an exception is there when the exception is caught. -/
abbrev Block (Op : Type) (Value : Op → Type) (ε σ ν α : Type) : Type :=
  ExceptT ε (StateT ν (Async (promises Op Value ε) σ)) α

/-- `await` inside such a body. -/
def Block.await {ν : Type} (op : Op) : Block Op Value ε σ ν (Value op) :=
  ExceptT.mk (StateT.lift (@Async.await (promises Op Value ε) σ op))

/-- Run such a body with the variable set to `variable₀`. -/
def Block.withVariable {ν : Type} (variable₀ : ν) (block : Block Op Value ε σ ν α) :
    Handler Op Value ε σ α :=
  ExceptT.mk do
    let (outcome, _) ← (block.run.run variable₀ : Async (promises Op Value ε) σ (Except ε α × ν))
    pure outcome

/-- The fields of the object a handler runs on. -/
def fields : Handler Op Value ε σ σ :=
  ExceptT.lift (get : Async (promises Op Value ε) σ σ)

end WorkflowHub.Processes
