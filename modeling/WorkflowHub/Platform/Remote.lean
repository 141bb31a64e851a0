import WorkflowHub.Platform.Values

/-!
# Calls that may fail with or without effect

An operation of a remote store resolves, rejects without having been applied, or rejects
although it was applied (the reply was lost). `respond` is the operation under each of
these outcomes. An operation whose `guard` fails can only reject.
-/

set_option autoImplicit false

namespace WorkflowHub

/-- How a remote operation ends. -/
inductive Outcome where
  | resolved
  | rejected (error : Thrown)
  | rejectedApplied (error : Thrown)
  deriving DecidableEq, Repr

/-- A rejection means that the operation was not applied. -/
def Outcome.Clean : Outcome → Prop
  | .rejectedApplied _ => False
  | _ => True

instance : (outcome : Outcome) → Decidable outcome.Clean
  | .resolved => isTrue trivial
  | .rejected _ => isTrue trivial
  | .rejectedApplied _ => isFalse id

/-- The operation was applied, whether or not the caller learns of it. -/
def Outcome.Applied : Outcome → Prop
  | .rejected _ => False
  | _ => True

instance : (outcome : Outcome) → Decidable outcome.Applied
  | .resolved => isTrue trivial
  | .rejected _ => isFalse id
  | .rejectedApplied _ => isTrue trivial

/-- A clean operation was applied exactly if it resolved. -/
theorem Outcome.Clean.resolved {outcome : Outcome} (clean : outcome.Clean)
    (applied : ∀ error, outcome ≠ .rejected error) : outcome = .resolved := by
  cases outcome with
  | resolved => rfl
  | rejected error => exact absurd rfl (applied error)
  | rejectedApplied error => exact clean.elim

variable {World α : Type}

/-- The reply is a rejection. -/
def rejects : Except Thrown α → Bool
  | .ok _ => false
  | .error _ => true

/-- An operation that takes the world from `before` to `after` and resolves with `value`. -/
def respond (guard : Prop) [Decidable guard] (outcome : Outcome) (before after : World)
    (value : α) : Option (World × Except Thrown α) :=
  match outcome with
  | .resolved => if guard then some (after, .ok value) else none
  | .rejected error => some (before, .error error)
  | .rejectedApplied error => if guard then some (after, .error error) else none

/-- The operation was applied, or it was not and the caller sees a rejection. -/
theorem respond_cases {guard : Prop} [Decidable guard] {outcome : Outcome} {before after : World}
    {value : α} {world : World} {reply : Except Thrown α}
    (answered : respond guard outcome before after value = some (world, reply)) :
    (world = before ∧ ∃ error, outcome = .rejected error ∧ reply = .error error) ∨
      (guard ∧ world = after ∧ (outcome = .resolved ∧ reply = .ok value ∨
        ∃ error, outcome = .rejectedApplied error ∧ reply = .error error)) := by
  cases outcome with
  | resolved =>
      simp only [respond, Option.ite_none_right_eq_some, Option.some.injEq, Prod.mk.injEq]
        at answered
      obtain ⟨holds, rfl, rfl⟩ := answered
      exact .inr ⟨holds, rfl, .inl ⟨rfl, rfl⟩⟩
  | rejected error =>
      simp only [respond, Option.some.injEq, Prod.mk.injEq] at answered
      obtain ⟨rfl, rfl⟩ := answered
      exact .inl ⟨rfl, error, rfl, rfl⟩
  | rejectedApplied error =>
      simp only [respond, Option.ite_none_right_eq_some, Option.some.injEq, Prod.mk.injEq]
        at answered
      obtain ⟨holds, rfl, rfl⟩ := answered
      exact .inr ⟨holds, rfl, .inr ⟨error, rfl, rfl⟩⟩

/-- An operation that may take place in both of two worlds goes the same way in both. -/
theorem respond_related {World' : Type} {R : World → World' → Prop} {guard guard' : Prop}
    [Decidable guard] [Decidable guard'] {outcome : Outcome} {before after : World}
    {before' after' : World'} {value : α} {world : World} {reply : Except Thrown α}
    (alike : guard ↔ guard') (start : R before before') (takes : R after after')
    (answered : respond guard outcome before after value = some (world, reply)) :
    ∃ world', respond guard' outcome before' after' value = some (world', reply) ∧ R world world' := by
  rcases respond_cases answered with
    ⟨rfl, error, rfl, rfl⟩ | ⟨holds, rfl, ⟨rfl, rfl⟩ | ⟨error, rfl, rfl⟩⟩
  · exact ⟨before', rfl, start⟩
  · exact ⟨after', by simp only [respond, if_pos (alike.mp holds)], takes⟩
  · exact ⟨after', by simp only [respond, if_pos (alike.mp holds)], takes⟩

/-- Operations that end alike in two worlds and would resolve with the same value give the same
reply. -/
theorem respond_alike {World' : Type} {R : World → World' → Prop} {guard guard' : Prop}
    [Decidable guard] [Decidable guard'] {outcome : Outcome} {before after : World}
    {before' after' : World'} {value value' : α} {world : World} {world' : World'}
    {reply reply' : Except Thrown α} (same : value = value') (start : R before before')
    (takes : R after after') (answered : respond guard outcome before after value = some (world, reply))
    (answered' : respond guard' outcome before' after' value' = some (world', reply')) :
    reply = reply' ∧ R world world' := by
  subst same
  cases outcome with
  | resolved =>
      simp only [respond, Option.ite_none_right_eq_some] at answered answered'
      cases answered.2
      cases answered'.2
      exact ⟨rfl, takes⟩
  | rejected error =>
      cases answered
      cases answered'
      exact ⟨rfl, start⟩
  | rejectedApplied error =>
      simp only [respond, Option.ite_none_right_eq_some] at answered answered'
      cases answered.2
      cases answered'.2
      exact ⟨rfl, takes⟩

/-- An operation that resolves was applied. -/
theorem respond_resolved {guard : Prop} [Decidable guard] {outcome : Outcome}
    {before after : World} {value : α} {world : World} {reply : Except Thrown α}
    (resolved : outcome = .resolved)
    (answered : respond guard outcome before after value = some (world, reply)) :
    guard ∧ world = after ∧ reply = .ok value := by
  subst resolved
  simp only [respond, Option.ite_none_right_eq_some, Option.some.injEq, Prod.mk.injEq] at answered
  exact ⟨answered.1, answered.2.1.symm, answered.2.2.symm⟩

/-- A reply that resolved comes from an operation that was applied. -/
theorem respond_ok {guard : Prop} [Decidable guard] {outcome : Outcome} {before after : World}
    {value resolved : α} {world : World}
    (answered : respond guard outcome before after value = some (world, .ok resolved)) :
    guard ∧ world = after ∧ resolved = value ∧ outcome = .resolved := by
  rcases respond_cases answered with
    ⟨_, error, _, failed⟩ | ⟨holds, same, ⟨ok, done⟩ | ⟨error, _, failed⟩⟩
  · cases failed
  · cases done
    exact ⟨holds, same, rfl, ok⟩
  · cases failed

/-- A reply that rejected comes from an operation that did not resolve. -/
theorem respond_error {guard : Prop} [Decidable guard] {outcome : Outcome} {before after : World}
    {value : α} {world : World} {error : Thrown}
    (answered : respond guard outcome before after value = some (world, .error error)) :
    outcome ≠ .resolved := by
  rintro rfl
  simp [respond] at answered

end WorkflowHub
