import Mathlib.Data.Nat.Notation
import Mathlib.Logic.Function.Basic
import WorkflowHub.Processes.Paths

/-!
# Atomic objects

What a service is for whose calls all work on one value. A call takes effect at one moment between
its invocation and its return, and returns what it found there; a call that fails has taken effect
once, or not at all, and nobody is told. A service whose runs are runs of an atomic object is
linearizable: the calls that return do so as if they had been made one after the other, each
between its invocation and its return (`linearized`).
-/

set_option autoImplicit false

namespace WorkflowHub.Processes

/-- What the operations of an object do, under each choice they leave open. -/
structure AtomicObject (Value Op Choice Res : Type*) where
  apply : Value → Op → Choice → Option (Value × Res)

namespace AtomicObject

variable {Value Op Choice Res : Type*}

/-- How far a call has come. -/
inductive Status (Op Res : Type*) where
  | idle
  | invoked (op : Op)
  | performed (op : Op) (res : Res)
  | returned (op : Op) (res : Res)
  | failed (op : Op)

/-- The operation of a call. -/
def Status.op? : Status Op Res → Option Op
  | .idle => none
  | .invoked op => some op
  | .performed op _ => some op
  | .returned op _ => some op
  | .failed op => some op

/-- What a call has found, unless it has failed. -/
def Status.found? : Status Op Res → Option (Op × Res)
  | .performed op res => some (op, res)
  | .returned op res => some (op, res)
  | _ => none

/-- The value, and the calls. -/
structure State (Value Op Res : Type*) where
  value : Value
  calls : ℕ → Status Op Res

/-- The object before any call. -/
def State.initial (value : Value) : State Value Op Res := ⟨value, fun _ => .idle⟩

def State.update (state : State Value Op Res) (value : Value) (pid : ℕ) (status : Status Op Res) :
    State Value Op Res :=
  ⟨value, Function.update state.calls pid status⟩

inductive Move (Op Choice : Type*) where
  | invoke (pid : ℕ) (op : Op)
  | perform (pid : ℕ) (choice : Choice)
  | giveBack (pid : ℕ)
  | fail (pid : ℕ)

variable (object : AtomicObject Value Op Choice Res)

def step (state : State Value Op Res) : Move Op Choice → Option (State Value Op Res)
  | .invoke pid op =>
      match state.calls pid with
      | .idle => some (state.update state.value pid (.invoked op))
      | _ => none
  | .perform pid choice =>
      match state.calls pid with
      | .invoked op =>
          (object.apply state.value op choice).map fun (value, res) =>
            state.update value pid (.performed op res)
      | _ => none
  | .giveBack pid =>
      match state.calls pid with
      | .performed op res => some (state.update state.value pid (.returned op res))
      | _ => none
  | .fail pid =>
      match state.calls pid with
      | .invoked op => some (state.update state.value pid (.failed op))
      | .performed op _ => some (state.update state.value pid (.failed op))
      | _ => none

/-- All a move can be. -/
inductive Stepped (state : State Value Op Res) :
    Move Op Choice → State Value Op Res → Prop where
  | invoke {pid : ℕ} {op : Op} (idle : state.calls pid = .idle) :
      Stepped state (.invoke pid op) (state.update state.value pid (.invoked op))
  | perform {pid : ℕ} {choice : Choice} {op : Op} {value : Value} {res : Res}
      (invoked : state.calls pid = .invoked op)
      (applied : object.apply state.value op choice = some (value, res)) :
      Stepped state (.perform pid choice) (state.update value pid (.performed op res))
  | giveBack {pid : ℕ} {op : Op} {res : Res} (performed : state.calls pid = .performed op res) :
      Stepped state (.giveBack pid) (state.update state.value pid (.returned op res))
  | fail {pid : ℕ} {op : Op} (pending : state.calls pid = .invoked op ∨
      ∃ res, state.calls pid = .performed op res) :
      Stepped state (.fail pid) (state.update state.value pid (.failed op))

variable {object} {state state' : State Value Op Res}

theorem stepped {move : Move Op Choice} (taken : object.step state move = some state') :
    Stepped object state move state' := by
  cases move with
  | invoke pid op =>
      simp only [step] at taken
      split at taken
      · rename_i idle
        cases taken
        exact .invoke idle
      · cases taken
  | perform pid choice =>
      simp only [step] at taken
      split at taken
      · rename_i invoked
        obtain ⟨⟨value, res⟩, applied, rfl⟩ := Option.map_eq_some_iff.mp taken
        exact .perform invoked applied
      · cases taken
  | giveBack pid =>
      simp only [step] at taken
      split at taken
      · rename_i performed
        cases taken
        exact .giveBack performed
      · cases taken
  | fail pid =>
      simp only [step] at taken
      split at taken
      · rename_i invoked
        cases taken
        exact .fail (.inl invoked)
      · rename_i performed
        cases taken
        exact .fail (.inr ⟨_, performed⟩)
      · cases taken

/-! ## Moves of one call -/

section Moves

variable {pid : ℕ} {op : Op} {res : Res}

@[simp] theorem update_value (value : Value) (status : Status Op Res) :
    (state.update value pid status).value = value := rfl

@[simp] theorem update_self (value : Value) (status : Status Op Res) :
    (state.update value pid status).calls pid = status :=
  Function.update_self ..

theorem update_other {other : ℕ} (different : other ≠ pid) (value : Value)
    (status : Status Op Res) : (state.update value pid status).calls other = state.calls other :=
  Function.update_of_ne different ..

@[simp] theorem update_update (value value' : Value) (status status' : Status Op Res) :
    (state.update value pid status).update value' pid status' = state.update value' pid status' := by
  simp only [State.update, Function.update_idem]

theorem invokes (idle : state.calls pid = .idle) :
    Path object.step Always state (state.update state.value pid (.invoked op)) := by
  have taken : object.step state (.invoke pid op) =
      some (state.update state.value pid (.invoked op)) := by
    simp only [step, idle]
  exact .single trivial taken

theorem performs {choice : Choice} {value : Value} (invoked : state.calls pid = .invoked op)
    (applied : object.apply state.value op choice = some (value, res)) :
    Path object.step Always state (state.update value pid (.performed op res)) := by
  have taken : object.step state (.perform pid choice) =
      some (state.update value pid (.performed op res)) := by
    simp only [step, invoked, applied, Option.map_some]
  exact .single trivial taken

theorem givesBack (performed : state.calls pid = .performed op res) :
    Path object.step Always state (state.update state.value pid (.returned op res)) := by
  have taken : object.step state (.giveBack pid) =
      some (state.update state.value pid (.returned op res)) := by
    simp only [step, performed]
  exact .single trivial taken

theorem fails (pending : state.calls pid = .invoked op ∨ ∃ res, state.calls pid = .performed op res) :
    Path object.step Always state (state.update state.value pid (.failed op)) := by
  have taken : object.step state (.fail pid) =
      some (state.update state.value pid (.failed op)) := by
    rcases pending with invoked | ⟨res, performed⟩
    · simp only [step, invoked]
    · simp only [step, performed]
  exact .single trivial taken

/-- A call that has just come to a status fails. -/
theorem fails_after {value : Value} {status : Status Op Res}
    (pending : status = .invoked op ∨ ∃ res, status = .performed op res) :
    Path object.step Always (state.update value pid status)
      (state.update value pid (.failed op)) := by
  have here : (state.update value pid status).calls pid = .invoked op ∨
      ∃ res, (state.update value pid status).calls pid = .performed op res := by
    simpa only [update_self] using pending
  have path : Path object.step Always (state.update value pid status) _ := fails here
  simpa only [update_update, update_value] using path

/-- A call that has just been performed gives back its result. -/
theorem givesBack_after (value : Value) :
    Path object.step Always (state.update value pid (.performed op res))
      (state.update value pid (.returned op res)) := by
  have path : Path object.step Always (state.update value pid (.performed op res)) _ :=
    givesBack (update_self value _)
  simpa only [update_update, update_value] using path

end Moves

/-! ## What holds of every run -/

section Runs

variable {first last : State Value Op Res} {pid : ℕ} {op : Op} {res : Res}

/-- A call keeps its operation. -/
theorem op?_step {move : Move Op Choice} (taken : object.step state move = some state')
    (mine : (state.calls pid).op? = some op) : (state'.calls pid).op? = some op := by
  have keeps : ∀ {other : ℕ} {value : Value} {status : Status Op Res},
      (state.calls other).op? = status.op? ∨ state.calls other = .idle →
        ((state.update value other status).calls pid).op? = some op := by
    intro other value status same
    by_cases here : pid = other
    · subst here
      rw [update_self]
      rcases same with same | idle
      · exact same.symm.trans mine
      · rw [idle] at mine
        cases mine
    · rw [update_other here]
      exact mine
  cases stepped taken with
  | invoke idle => exact keeps (.inr idle)
  | perform invoked applied => exact keeps (.inl (by rw [invoked]; rfl))
  | giveBack performed => exact keeps (.inl (by rw [performed]; rfl))
  | fail pending =>
      rcases pending with invoked | ⟨res, performed⟩
      · exact keeps (.inl (by rw [invoked]; rfl))
      · exact keeps (.inl (by rw [performed]; rfl))

theorem op?_path (path : Path object.step Always first last)
    (mine : (first.calls pid).op? = some op) : (last.calls pid).op? = some op :=
  path.invariant (P := fun state => (state.calls pid).op? = some op) mine
    fun _ _ _ _ before taken => op?_step taken before

/-- A call that has found something had found it before, or this move performs its operation. -/
theorem found?_step {move : Move Op Choice} (taken : object.step state move = some state')
    (found : (state'.calls pid).found? = some (op, res)) :
    (state.calls pid).found? = some (op, res) ∨
      ∃ choice, object.apply state.value op choice = some (state'.value, res) := by
  have elsewhere : ∀ {other : ℕ} {value : Value} {status : Status Op Res},
      status.found? = (state.calls other).found? ∨ status.found? = none →
        ((state.update value other status).calls pid).found? = some (op, res) →
          (state.calls pid).found? = some (op, res) := by
    intro other value status same found
    by_cases here : pid = other
    · subst here
      rw [update_self] at found
      rcases same with same | none
      · exact same.symm.trans found
      · cases none.symm.trans found
    · rwa [update_other here] at found
  cases stepped taken with
  | invoke idle => exact .inl (elsewhere (.inr rfl) found)
  | @perform other choice op' value res' invoked applied =>
      by_cases here : pid = other
      · subst here
        rw [update_self] at found
        cases found
        exact .inr ⟨choice, applied⟩
      · rw [update_other here] at found
        exact .inl found
  | giveBack performed => exact .inl (elsewhere (.inl (by rw [performed]; rfl)) found)
  | fail pending => exact .inl (elsewhere (.inr rfl) found)

/-- A move leaves the value alone, or it performs the operation of a call. -/
theorem value_step {move : Move Op Choice} (taken : object.step state move = some state') :
    state'.value = state.value ∨ ∃ pid op choice res, (state.calls pid).op? = some op ∧
      object.apply state.value op choice = some (state'.value, res) := by
  cases stepped taken with
  | invoke idle => exact .inl rfl
  | @perform pid choice op value res invoked applied =>
      exact .inr ⟨pid, op, choice, res, by rw [invoked]; rfl, applied⟩
  | giveBack performed => exact .inl rfl
  | fail pending => exact .inl rfl

/-- **A call that returns has taken effect between its invocation and its return.** -/
theorem linearized (path : Path object.step Always first last) (idle : first.calls pid = .idle)
    (found : (last.calls pid).found? = some (op, res)) :
    ∃ before after choice, Path object.step Always first before ∧
      object.apply before.value op choice = some (after.value, res) ∧
        Path object.step Always before after ∧ Path object.step Always after last := by
  induction path with
  | refl =>
      rw [idle] at found
      cases found
  | @tail middle last earlier edge ih =>
      obtain ⟨move, _, taken⟩ := edge
      rcases found?_step taken found with before | ⟨choice, applied⟩
      · obtain ⟨state, state', choice, path, applied, effect, rest⟩ := ih before
        exact ⟨state, state', choice, path, applied, effect, rest.tail ⟨move, trivial, taken⟩⟩
      · exact ⟨middle, last, choice, earlier, applied, Path.single trivial taken, .refl⟩

/-- What every operation that was invoked keeps of the value, every run keeps. -/
theorem value_path {P : Value → Prop} {Q : Op → Prop} (path : Path object.step Always first last)
    (holds : P first.value)
    (kept : ∀ value op choice value' res, Q op → P value →
      object.apply value op choice = some (value', res) → P value') :
    P last.value ∨ ∃ pid op, (last.calls pid).op? = some op ∧ ¬ Q op := by
  induction path with
  | refl => exact .inl holds
  | @tail middle last earlier edge ih =>
      obtain ⟨move, _, taken⟩ := edge
      rcases ih with before | ⟨pid, op, mine, other⟩
      · rcases value_step taken with same | ⟨pid, op, choice, res, mine, applied⟩
        · exact .inl (same ▸ before)
        · by_cases allowed : Q op
          · exact .inl (kept _ op choice _ res allowed before applied)
          · exact .inr ⟨pid, op, op?_step taken mine, allowed⟩
      · exact .inr ⟨pid, op, op?_step taken mine, other⟩

end Runs

end AtomicObject

end WorkflowHub.Processes
