import WorkflowHub.CircuitBreaker.Breakers

/-!
# What a call applies and how it settles

In every state that is reached, a call that its breaker let through has applied the method of
its property once, to the target and its own arguments, and any other call has applied nothing.
Unless its timeout was faster, it settles as that method did (`Fair`).
-/

set_option autoImplicit false

namespace WorkflowHub.CircuitBreaker

open Processes

variable {Name Method Value : Type} {wrapping : Wrapping Name Method Value}

/-! ## How a call settles -/

/-- Further signals do not change how an action settles. -/
theorem yields_append {emptyError : Value} {result : Result Value} {signals : List (Signal Value)}
    {outcome : Except Value Value} (settles : yields emptyError result signals = some outcome)
    (signal : Signal Value) : yields emptyError result (signals ++ [signal]) = some outcome := by
  cases result with
  | throws error => exact settles
  | plain value => exact settles
  | promise =>
      cases signals with
      | nil => cases settles
      | cons first rest => exact settles
  | observable =>
      cases signals with
      | nil => cases settles
      | cons first rest => exact settles

/-- A call settles as its action did, if it was let through, unless its timeout was faster. -/
structure Settles (wrapping : Wrapping Name Method Value) (progress : Progress Value) : Prop where
  rejected : progress.result = none → ∃ error, progress.promise = some (.error error)
  pending : ∀ result, progress.result = some result → progress.timedOut = false →
    progress.settled = false → progress.promise = none
  settled : ∀ result, progress.result = some result → progress.timedOut = false →
    progress.settled = true → ∃ outcome, progress.promise = some outcome ∧
      yields wrapping.emptyError result progress.signals = some outcome

namespace Settles

variable {progress : Progress Value}

theorem fire (breaker : Breaker wrapping) (args : List Value) (result : Result Value) :
    Settles wrapping (breaker.fire args result).2 := by
  unfold Breaker.fire
  split
  · rename_i fired error answered
    refine ⟨fun _ => ⟨error, rfl⟩, fun result back => ?_, fun result back => ?_⟩
    · cases back
    · cases back
  · refine ⟨fun back => ?_, fun _ _ _ _ => rfl, fun _ _ _ settled => ?_⟩
    · cases back
    · cases settled

theorem signal (settles : Settles wrapping progress) (signal : Signal Value) :
    Settles wrapping { progress with signals := progress.signals ++ [signal] } where
  rejected := settles.rejected
  pending := settles.pending
  settled result back inTime settled := by
    obtain ⟨outcome, promised, yielded⟩ := settles.settled result back inTime settled
    exact ⟨outcome, promised, yields_append yielded signal⟩

theorem settle (breaker : Breaker wrapping) {outcome : Except Value Value}
    (comes : outcomeOf wrapping progress = some outcome) :
    Settles wrapping (breaker.settle progress outcome).2 := by
  simp only [outcomeOf, Option.ite_none_left_eq_some, Option.bind_eq_some_iff] at comes
  obtain ⟨_, result, back, yielded⟩ := comes
  refine ⟨fun none => ?_, fun _ _ _ unsettled => ?_, fun result' back' inTime _ => ?_⟩
  · rw [show progress.result = Option.none from none] at back
    cases back
  · cases unsettled
  · rw [show progress.result = some result' from back', Option.some.injEq] at back
    subst back
    refine ⟨outcome, ?_, yielded⟩
    simp only [Breaker.settle] at inTime ⊢
    rw [inTime]
    rfl

theorem timeOut (breaker : Breaker wrapping) (pending : progress.Pending) :
    Settles wrapping (breaker.timeOut progress).2 := by
  refine ⟨fun back => ?_, fun _ _ inTime => ?_, fun _ _ inTime => ?_⟩
  · have there := pending.1
    rw [show progress.result = none from back] at there
    cases there
  · cases inTime
  · cases inTime

end Settles

/-! ## What is invoked -/

/-- What a call applies: the method that was read under its name, if the call was let through,
to the target and the arguments of the call. -/
def applied (wrapping : Wrapping Name Method Value) (pid : ℕ) (call : Call Name Value) :
    List (Invocation Method Value) :=
  match call.progress.result, Reflect.get wrapping.service call.method .proxy with
  | some _, .function method => [⟨pid, method, .target, call.progress.args⟩]
  | _, _ => []

/-- What a state says of its calls. -/
structure Fair (state : State wrapping) : Prop where
  invoked : ∀ pid, state.invocations.filter (·.call = pid) =
    ((state.calls pid).map (applied wrapping pid)).getD []
  settles : ∀ pid call, state.calls pid = some call → Settles wrapping call.progress

namespace Fair

variable {state : State wrapping}

/-- A call goes on, having been let through or not as before. -/
theorem update (fair : Fair state) {pid : ℕ} {call : Call Name Value} {progress : Progress Value}
    {created : List (Breaker wrapping)} (called : state.calls pid = some call)
    (args : progress.args = call.progress.args) (result : progress.result = call.progress.result)
    (settles : Settles wrapping progress) :
    Fair { state with
      created
      calls := Function.update state.calls pid (some { call with progress }) } := by
  constructor
  case invoked =>
    intro other
    rw [show State.invocations _ = state.invocations from rfl, fair.invoked other]
    by_cases same : other = pid
    · subst same
      simp only [Function.update_self, called, Option.map_some, applied, args, result]
    · simp only [Function.update_of_ne same]
  case settles => exact forall_update settles fair.settles

/-- A call starts: the breaker lets it through and the method is applied, or neither. -/
theorem start (fair : Fair state) {pid index : ℕ} {name : Name} {breaker : Breaker wrapping}
    {args : List Value} {result : Result Value} (free : state.calls pid = none)
    (found : Reflect.get wrapping.service name .proxy = .function breaker.originalMethod) :
    Fair ((state.invoke pid breaker.originalMethod (breaker.fire args result).2).set pid name index
      (breaker.fire args result)) := by
  have fired : (breaker.fire args result).2.args = args := by
    unfold Breaker.fire
    split
    · rfl
    · rfl
  constructor
  case invoked =>
    intro other
    have before := fair.invoked other
    by_cases same : other = pid
    · subst same
      rw [free, Option.map_none, Option.getD_none] at before
      rw [set_calls_self, Option.map_some, Option.getD_some]
      simp only [State.set, State.invoke, applied, found]
      cases (breaker.fire args result).2.result with
      | none => simpa using before
      | some result => simp [before]
    · rw [set_calls_of_ne same]
      simp only [State.set, State.invoke]
      split
      · simp [before, Ne.symm same]
      · exact before
  case settles =>
    refine forall_update (.fire breaker args result) ?_
    rw [invoke_calls]
    exact fair.settles

end Fair

variable [DecidableEq Name]

/-- **A step keeps what a state says of its calls.** -/
theorem Fair.step {state after : State wrapping} {event : Happening Name Value}
    (fair : Fair state) (sound : Sound state) (taken : step state event = some after) :
    Fair after := by
  have unchanged : ∀ after : State wrapping, after.calls = state.calls →
      after.invocations = state.invocations → Fair after := by
    intro after calls invocations
    exact ⟨fun pid => by rw [calls, invocations]; exact fair.invoked pid,
      fun pid call called => fair.settles pid call (by rw [← calls]; exact called)⟩
  have provided : ∀ prop method, (state.breakerFor prop method).1.calls = state.calls ∧
      (state.breakerFor prop method).1.invocations = state.invocations := by
    intro prop method
    unfold State.breakerFor
    split
    · exact ⟨rfl, rfl⟩
    · exact ⟨rfl, rfl⟩
  cases stepped taken with
  | value free found => exact fair
  | refused free found fixed => exact unchanged _ (provided _ _).1 (provided _ _).2
  | function free found given => exact unchanged _ (provided _ _).1 (provided _ _).2
  | @call pid slot args result reference breaker free read held =>
      apply fair.start free
      obtain ⟨there, owns⟩ := sound.owned _ breaker held
      obtain ⟨breaker', held', named⟩ := sound.registered _ _ (sound.functions slot reference read)
      rw [held, Option.some.injEq] at held'
      rw [← named, ← held']
      exact owns
  | signal called back may =>
      exact fair.update called rfl rfl ((fair.settles _ _ called).signal _)
  | settle called comes held => exact fair.update called rfl rfl (.settle _ comes)
  | timeOut called held pending => exact fair.update called rfl rfl (.timeOut _ pending)
  | elapse => exact unchanged _ rfl rfl

/-- What every state that is reached satisfies. -/
theorem fair_of_path {state : State wrapping} (path : Path step Always {} state) :
    Sound state ∧ Fair state := by
  refine path.invariant (P := fun state => Sound state ∧ Fair state) ?_ ?_
  · refine ⟨.initial, fun pid => rfl, fun pid call called => ?_⟩
    cases called
  · rintro before event after - ⟨sound, fair⟩ taken
    exact ⟨sound.step taken, fair.step sound taken⟩

end WorkflowHub.CircuitBreaker
