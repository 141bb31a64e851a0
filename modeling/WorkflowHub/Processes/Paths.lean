import Mathlib.Logic.Relation

/-!
# Runs of a transition function

A system is a transition function `step : State → Event → Option State`: in a given
state an event either cannot happen or has exactly one successor. All nondeterminism
(which process moves, how an operation ends, how much time passes) is in the event.

A *path under* `C` is a run each of whose steps satisfies `C`, a condition on the state
before the step and on the event. `Path.invariant` carries what one such step preserves
to the whole run. A concrete run is a list of events; `Path.of_run` turns it into a path.
-/

set_option autoImplicit false

namespace WorkflowHub.Processes

variable {State Event : Type*} {step : State → Event → Option State}

/-- A run from one state to another, each step of which satisfies `C`. -/
abbrev Path (step : State → Event → Option State) (C : State → Event → Prop) :
    State → State → Prop :=
  Relation.ReflTransGen fun before after => ∃ event, C before event ∧ step before event = some after

/-- The condition that every step satisfies. -/
abbrev Always : State → Event → Prop := fun _ _ => True

namespace Path

variable {C D : State → Event → Prop}

/-- What a step under `C` preserves holds all along a path under `C`. -/
theorem invariant {P : State → Prop} {first last : State} (path : Path step C first last)
    (initial : P first)
    (preserved : ∀ before event after, C before event → P before →
      step before event = some after → P after) : P last := by
  induction path with
  | refl => exact initial
  | tail _ edge ih =>
      obtain ⟨event, allowed, stepped⟩ := edge
      exact preserved _ event _ allowed ih stepped

/-- The same, where a step may assume that its state was reached. -/
theorem reached {P : State → Prop} {first last : State} (path : Path step C first last)
    (initial : P first)
    (preserved : ∀ before event after, Path step C first before → C before event → P before →
      step before event = some after → P after) : P last := by
  induction path with
  | refl => exact initial
  | tail earlier edge ih =>
      obtain ⟨event, allowed, stepped⟩ := edge
      exact preserved _ event _ earlier allowed ih stepped

/-- A path whose steps are each a path of another system, as far as `image` shows of it, is
a path of that system. -/
theorem simulated {State' Event' : Type*} {step' : State' → Event' → Option State'}
    {D : State' → Event' → Prop} {first last : State}
    (path : Path step C first last) (image : State → State')
    (simulates : ∀ before event after, Path step C first before → C before event →
      step before event = some after → Path step' D (image before) (image after)) :
    Path step' D (image first) (image last) := by
  induction path with
  | refl => exact .refl
  | tail earlier edge ih =>
      obtain ⟨event, allowed, stepped⟩ := edge
      exact ih.trans (simulates _ event _ earlier allowed stepped)

/-- A path of one step. -/
theorem single {before after : State} {event : Event} (allowed : C before event)
    (stepped : step before event = some after) : Path step C before after :=
  Relation.ReflTransGen.single ⟨event, allowed, stepped⟩

/-- A weaker condition admits every path of a stronger one. -/
theorem mono (weaker : ∀ state event, C state event → D state event)
    {first last : State} (path : Path step C first last) : Path step D first last :=
  Relation.ReflTransGen.mono
    (fun _ _ ⟨event, allowed, stepped⟩ => ⟨event, weaker _ _ allowed, stepped⟩) _ _ path

/-- What is preserved along a path may be assumed at each of its steps. -/
theorem strengthen {P : State → Prop} {first last : State} (path : Path step C first last)
    (initial : P first)
    (preserved : ∀ before event after, C before event → P before →
      step before event = some after → P after) :
    Path step (fun state event => C state event ∧ P state) first last := by
  induction path with
  | refl => exact .refl
  | tail earlier edge ih =>
      obtain ⟨event, allowed, stepped⟩ := edge
      exact ih.tail ⟨event, ⟨allowed, Path.invariant earlier initial preserved⟩, stepped⟩

end Path

/-- The state after a list of events, if each of them can happen. -/
def run (step : State → Event → Option State) : State → List Event → Option State
  | state, [] => some state
  | state, event :: events => (step state event).bind fun next => run step next events

/-- What none of the events changes is at the end what it was at the start. -/
theorem run_unchanged {β : Type*} (read : State → β) {P : Event → Prop}
    (keeps : ∀ before event after, P event → step before event = some after →
      read after = read before) {events : List Event} :
    ∀ {first last : State}, run step first events = some last → (∀ event ∈ events, P event) →
      read last = read first := by
  induction events with
  | nil =>
      intro first last ran _
      cases ran
      rfl
  | cons event events ih =>
      intro first last ran all
      simp only [run, Option.bind_eq_some_iff] at ran
      obtain ⟨next, taken, rest⟩ := ran
      rw [ih rest fun event later => all event (List.mem_cons_of_mem _ later)]
      exact keeps first event next (all event List.mem_cons_self) taken

/-- Every step of the run over a list of events satisfies `C`. -/
def Meets (step : State → Event → Option State) (C : State → Event → Prop) :
    State → List Event → Prop
  | _, [] => True
  | state, event :: events =>
      C state event ∧ ∀ next ∈ step state event, Meets step C next events

instance decidableMeets (step : State → Event → Option State) (C : State → Event → Prop)
    [∀ state event, Decidable (C state event)] :
    ∀ state events, Decidable (Meets step C state events)
  | _, [] => isTrue trivial
  | state, event :: events =>
      match found : step state event with
      | none => decidable_of_iff (C state event) (by simp [Meets, found])
      | some next =>
          have := decidableMeets step C next events
          decidable_of_iff (C state event ∧ Meets step C next events) (by simp [Meets, found])

/-- A run over a list of events is a path. -/
theorem Path.of_run {C : State → Event → Prop} {events : List Event} :
    ∀ {first last : State}, run step first events = some last →
      Meets step C first events → Path step C first last := by
  induction events with
  | nil =>
      intro first last ran _
      simp only [run, Option.some.injEq] at ran
      subst ran
      exact .refl
  | cons event events ih =>
      intro first last ran meets
      simp only [run, Option.bind_eq_some_iff] at ran
      obtain ⟨next, stepped, rest⟩ := ran
      exact .head ⟨event, meets.1, stepped⟩ (ih rest (meets.2 next stepped))

/-- A run satisfies the trivial condition. -/
theorem Meets.always {events : List Event} : ∀ {state : State}, Meets step Always state events := by
  induction events with
  | nil => intro _; trivial
  | cons event events ih => intro state; exact ⟨trivial, fun _ _ => ih⟩

/-- What every event satisfies on its own, every step does. -/
theorem Meets.of_forall {C : State → Event → Prop} {events : List Event} :
    (∀ event ∈ events, ∀ state, C state event) → ∀ {state : State}, Meets step C state events := by
  induction events with
  | nil => exact fun _ _ => trivial
  | cons event events ih =>
      intro every state
      exact ⟨every event List.mem_cons_self state,
        fun _ _ => ih fun later there => every later (List.mem_cons_of_mem _ there)⟩

theorem Meets.and {C D : State → Event → Prop} {events : List Event} :
    ∀ {state : State}, Meets step C state events → Meets step D state events →
      Meets step (fun state event => C state event ∧ D state event) state events := by
  induction events with
  | nil => exact fun _ _ => trivial
  | cons event events ih =>
      intro state first second
      exact ⟨⟨first.1, second.1⟩, fun next taken => ih (first.2 next taken) (second.2 next taken)⟩

/-- A run satisfies a condition at every step, or it takes a step that does not. -/
theorem Meets.or_breaks {C D : State → Event → Prop} {events : List Event} :
    ∀ {first last : State}, run step first events = some last → Meets step D first events →
      Meets step C first events ∨ ∃ before event after, Path step D first before ∧
        D before event ∧ ¬ C before event ∧ step before event = some after ∧
          Path step D after last := by
  induction events with
  | nil => exact fun _ _ => .inl trivial
  | cons event events ih =>
      intro first last ran meets
      simp only [run, Option.bind_eq_some_iff] at ran
      obtain ⟨next, taken, rest⟩ := ran
      by_cases allowed : C first event
      · rcases ih rest (meets.2 next taken) with
          every | ⟨before, later, after, path, domain, breaks, taken', path'⟩
        · refine .inl ⟨allowed, fun other taken' => ?_⟩
          cases taken.symm.trans taken'
          exact every
        · exact .inr ⟨before, later, after, .head ⟨event, meets.1, taken⟩ path, domain, breaks, taken',
            path'⟩
      · exact .inr ⟨first, event, next, .refl, meets.1, allowed, taken,
          .of_run rest (meets.2 next taken)⟩

end WorkflowHub.Processes
