import WorkflowHub.CircuitBreaker.Breakers
import WorkflowHub.Processes.Noninterference

/-!
# One property by itself

`Share` is a machine with the breaker, the functions and the calls of a single property. What
the proxy holds of a property is a run of that machine over the steps that are about the
property (`share_shows`), so nothing else has a part in it.
-/

set_option autoImplicit false

namespace WorkflowHub.CircuitBreaker

open Processes

variable {Name Method Value : Type} [DecidableEq Name]
  {wrapping : Wrapping Name Method Value}

/-- What the proxy holds of one property: its breaker, the functions that were read as it, and
the calls of those. -/
@[ext]
structure Share (wrapping : Wrapping Name Method Value) where
  breaker : Option (Breaker wrapping)
  functions : ℕ → Bool
  calls : ℕ → Option (Progress Value)

def State.share (state : State wrapping) (prop : Name) : Share wrapping where
  breaker := (state.breakers prop).bind fun index => state.created[index]?
  functions slot := (state.functions slot).any fun reference => reference.prop = prop
  calls pid := ((state.calls pid).filter fun call => call.method = prop).map (·.progress)

/-- The step is about the property: it reads it, calls a function that was read as it, or goes
on with such a call. The passing of time is about every property. -/
def about (prop : Name) (state : State wrapping) : Happening Name Value → Bool
  | .read _ name => name = prop
  | .call _ slot _ _ => (state.functions slot).any fun reference => reference.prop = prop
  | .signal pid _ | .settle pid | .timeOut pid =>
      (state.calls pid).any fun call => call.method = prop
  | .elapse _ => true

/-- What is seen of a step by someone who looks at one property. -/
def sees (prop : Name) (state : State wrapping) (event : Happening Name Value) :
    Option (Happening Name Value) :=
  if about prop state event then some event else none

namespace Share

/-- A breaker and a call on it have changed. -/
def set (share : Share wrapping) (pid : ℕ) (changed : Breaker wrapping × Progress Value) :
    Share wrapping :=
  { share with
    breaker := some changed.1
    calls := Function.update share.calls pid (some changed.2) }

/-- One step of the machine for a property. -/
def next (prop : Name) (share : Share wrapping) : Happening Name Value → Share wrapping
  | .read slot _ =>
      match Reflect.get wrapping.service prop .proxy with
      | .other _ => share
      | .function method =>
          { share with
            breaker := some (share.breaker.getD (.new prop method))
            functions :=
              match (wrapped (wrapping.service prop) 0 : Read Value) with
              | .function _ => Function.update share.functions slot true
              | _ => share.functions }
  | .call pid _ args result =>
      match share.breaker with
      | some breaker => share.set pid (breaker.fire args result)
      | none => share
  | .signal pid signal =>
      { share with
        calls := Function.update share.calls pid ((share.calls pid).map fun progress =>
          { progress with signals := progress.signals ++ [signal] }) }
  | .settle pid =>
      match share.calls pid, share.breaker with
      | some progress, some breaker =>
          match outcomeOf wrapping progress with
          | some outcome => share.set pid (breaker.settle progress outcome)
          | none => share
      | _, _ => share
  | .timeOut pid =>
      match share.calls pid, share.breaker with
      | some progress, some breaker => share.set pid (breaker.timeOut progress)
      | _, _ => share
  | .elapse milliseconds =>
      { share with breaker := share.breaker.map fun breaker => breaker.elapse milliseconds }

end Share

section ShareStep

variable {state : State wrapping} {prop : Name}

omit [DecidableEq Name] in
/-- The breaker of a property that has one. -/
theorem Sound.held_of_breakers (sound : Sound state) {index : ℕ}
    (there : state.breakers prop = some index) {breaker : Breaker wrapping}
    (held : state.created[index]? = some breaker) : breaker.prop = prop := by
  obtain ⟨breaker', held', named⟩ := sound.registered prop index there
  rw [held, Option.some.injEq] at held'
  rw [held', named]

theorem share_invoke (pid : ℕ) (method : Method) (progress : Progress Value) :
    (state.invoke pid method progress).share prop = state.share prop := by
  unfold State.invoke
  split
  · rfl
  · rfl

/-- A breaker and a call of the property have changed. -/
theorem share_set_self {pid index : ℕ} {changed : Breaker wrapping × Progress Value}
    {breaker : Breaker wrapping} (there : state.breakers prop = some index)
    (held : state.created[index]? = some breaker) :
    (state.set pid prop index changed).share prop = (state.share prop).set pid changed := by
  obtain ⟨inside, _⟩ := List.getElem?_eq_some_iff.mp held
  ext1
  · simp [State.share, State.set, Share.set, there, List.getElem?_set_self inside]
  · rfl
  · funext other
    by_cases same : other = pid
    · subst same
      simp [State.share, Share.set, Option.filter]
    · simp [State.share, Share.set, set_calls_of_ne same, Function.update_of_ne same]

/-- A breaker and a call of another property have changed. -/
theorem share_set_other (sound : Sound state) {pid index : ℕ} {name : Name}
    {changed : Breaker wrapping × Progress Value} {breaker : Breaker wrapping}
    (different : name ≠ prop) (there : state.breakers name = some index)
    (held : state.created[index]? = some breaker)
    (mine : ∀ call, state.calls pid = some call → call.method = name) :
    (state.set pid name index changed).share prop = state.share prop := by
  ext1
  · simp only [State.share, State.set]
    cases own : state.breakers prop with
    | none => rfl
    | some index' =>
        have apart : index ≠ index' := by
          rintro rfl
          exact different
            ((sound.held_of_breakers there held).symm.trans (sound.held_of_breakers own held))
        exact List.getElem?_set_ne apart
  · rfl
  · funext other
    by_cases same : other = pid
    · subst same
      simp only [State.share, set_calls_self]
      cases called : state.calls other with
      | none => simp [Option.filter, different]
      | some call => simp [Option.filter, different, mine call called]
    · simp [State.share, set_calls_of_ne same]

/-- The breaker of the property is asked for. -/
theorem share_breakerFor_self (sound : Sound state) (method : Method) :
    (state.breakerFor prop method).1.share prop =
      { state.share prop with
        breaker := some ((state.share prop).breaker.getD (.new prop method)) } := by
  cases there : state.breakers prop with
  | some index =>
      obtain ⟨breaker, held, _⟩ := sound.registered prop index there
      rw [Sound.breakerFor_of_some there]
      simp [State.share, there, held]
  | none =>
      rw [Sound.breakerFor_of_none there]
      ext1
      · simp [State.share, there]
      · rfl
      · rfl

/-- The breaker of another property is asked for. -/
theorem share_breakerFor_other (sound : Sound state) {name : Name} (different : name ≠ prop)
    (method : Method) : (state.breakerFor name method).1.share prop = state.share prop := by
  unfold State.breakerFor
  split
  · rfl
  · ext1
    · simp only [State.share, create_breakers_of_ne (Ne.symm different), create_created]
      cases own : state.breakers prop with
      | none => rfl
      | some index =>
          obtain ⟨breaker, held, _⟩ := sound.registered prop index own
          obtain ⟨inside, _⟩ := List.getElem?_eq_some_iff.mp held
          exact List.getElem?_append_left inside
    · rfl
    · rfl

/-- A function was read as some property. -/
theorem share_function {slot : ℕ} {reference : Reference Name} (state : State wrapping) :
    State.share { state with functions := Function.update state.functions slot (some reference) }
        prop =
      { state.share prop with
        functions :=
          Function.update (state.share prop).functions slot (decide (reference.prop = prop)) } := by
  ext1
  · rfl
  · funext other
    by_cases same : other = slot
    · subst same
      simp [State.share]
    · simp [State.share, Function.update_of_ne same]
  · rfl

/-- **What the proxy holds of a property changes as the machine of the property does**, by the
steps that are about it and by no others. -/
theorem share_step (sound : Sound state) {after : State wrapping} {event : Happening Name Value}
    (taken : step state event = some after) :
    after.share prop =
      if about prop state event then (state.share prop).next prop event else state.share prop := by
  cases stepped taken with
  | @value slot name value free found =>
      by_cases same : name = prop
      · subst same
        simp [about, Share.next, found]
      · simp [about, same]
  | @refused slot name method free found fixed =>
      by_cases same : name = prop
      · subst same
        rw [share_breakerFor_self sound]
        simp [about, Share.next, found, fixed]
      · rw [share_breakerFor_other sound same]
        simp [about, same]
  | @function slot name method free found given =>
      rw [share_function]
      by_cases same : name = prop
      · subst same
        rw [share_breakerFor_self sound]
        simp [about, Share.next, found, given]
      · rw [share_breakerFor_other sound same]
        have nothing : (state.share prop).functions slot = false := by
          simp [State.share, free]
        rw [decide_eq_false same, ← nothing, Function.update_eq_self]
        simp [about, same]
  | @call pid slot args result reference breaker free read held =>
      have there := sound.functions slot reference read
      have registers : (state.invoke pid breaker.originalMethod
          (breaker.fire args result).2).breakers reference.prop = some reference.breaker := by
        rw [invoke_breakers]
        exact there
      have held' : (state.invoke pid breaker.originalMethod
          (breaker.fire args result).2).created[reference.breaker]? = some breaker := by
        rw [invoke_created]
        exact held
      by_cases same : reference.prop = prop
      · subst same
        rw [share_set_self registers held', share_invoke]
        simp [about, read, Share.next, State.share, there, held]
      · rw [share_set_other (sound.invoke ..) same registers held', share_invoke]
        · simp [about, read, same]
        · intro call called
          rw [invoke_calls, free] at called
          cases called
  | @signal pid signal call result called back may =>
      by_cases same : call.method = prop
      · ext1
        · simp [about, called, same, Share.next, State.share]
        · simp [about, called, same, Share.next, State.share]
        · funext other
          by_cases here : other = pid
          · subst here
            simp [about, called, same, Share.next, State.share, Option.filter]
          · simp [about, called, same, Share.next, State.share, Function.update_of_ne here]
      · ext1
        · simp [about, called, same, State.share]
        · simp [about, called, same, State.share]
        · funext other
          by_cases here : other = pid
          · subst here
            simp [about, called, same, State.share, Option.filter]
          · simp [about, called, same, State.share, Function.update_of_ne here]
  | @settle pid call outcome breaker called settles held =>
      have there := sound.calls pid call called
      by_cases same : call.method = prop
      · subst same
        rw [share_set_self there held]
        simp [about, Share.next, State.share, called, there, held, settles, Option.filter]
      · rw [share_set_other sound same there held fun call' called' => ?_]
        · simp [about, called, same]
        · rw [called, Option.some.injEq] at called'
          rw [called']
  | @timeOut pid call breaker called held pending =>
      have there := sound.calls pid call called
      by_cases same : call.method = prop
      · subst same
        rw [share_set_self there held]
        simp [about, Share.next, State.share, called, there, held, Option.filter]
      · rw [share_set_other sound same there held fun call' called' => ?_]
        · simp [about, called, same]
        · rw [called, Option.some.injEq] at called'
          rw [called']
  | elapse =>
      ext1
      · simp only [State.share, about, Share.next, if_true]
        cases state.breakers prop with
        | none => rfl
        | some index => simp
      · rfl
      · rfl

/-- **What the proxy holds of a property is a run of the machine of that property**, over the
steps that are about it. -/
theorem share_shows {first last : State wrapping} {seen : List (Happening Name Value)}
    (shows : Shows step Always (sees prop) first seen last) (sound : Sound first) :
    last.share prop = seen.foldl (Share.next prop) (first.share prop) := by
  induction shows with
  | refl => rfl
  | @unseen before between after event seen allowed taken hidden rest ih =>
      have elsewhere : about prop before event = false := by
        simpa [sees] using hidden
      rw [ih (sound.step taken), share_step sound taken, elsewhere]
      rfl
  | @seen before between after event obs seen allowed taken shown rest ih =>
      simp only [sees, Option.ite_none_right_eq_some, Option.some.injEq] at shown
      obtain ⟨here, rfl⟩ := shown
      rw [ih (sound.step taken), share_step sound taken, if_pos here]
      rfl

end ShareStep

end WorkflowHub.CircuitBreaker
