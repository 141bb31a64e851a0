import WorkflowHub.CircuitBreaker.Proxy

/-!
# One breaker for each property

What a step of the proxy does (`Stepped`), and that every step keeps the breakers in order:
the map of the proxy has each breaker that was created, and whoever uses one uses that of its
own property (`Sound`).
-/

set_option autoImplicit false

namespace WorkflowHub.CircuitBreaker

open Processes

variable {Name Method Value : Type} {wrapping : Wrapping Name Method Value}

/-! ## Breakers and who uses them -/

/-- The map of the proxy has every breaker, under the property it was created for and with the
method that was read there, and functions and calls are on the breaker of their property. -/
structure Sound (state : State wrapping) : Prop where
  registered : ∀ prop index, state.breakers prop = some index →
    ∃ breaker, state.created[index]? = some breaker ∧ breaker.prop = prop
  owned : ∀ (index : ℕ) breaker, state.created[index]? = some breaker →
    state.breakers breaker.prop = some index ∧
      Reflect.get wrapping.service breaker.prop .proxy = .function breaker.originalMethod
  functions : ∀ slot reference, state.functions slot = some reference →
    state.breakers reference.prop = some reference.breaker
  calls : ∀ pid call, state.calls pid = some call → state.breakers call.method = some call.breaker

/-- What a breaker is for. -/
def Breaker.label (breaker : Breaker wrapping) : Name × Method :=
  (breaker.prop, breaker.originalMethod)

/-- What is true of every entry of a table still is when an entry is written of which it is
true. -/
theorem forall_update {α : Type} {table : ℕ → Option α} {pid : ℕ} {entry : α} {P : α → Prop}
    (here : P entry) (there : ∀ other found, table other = some found → P found) :
    ∀ other found, Function.update table pid (some entry) other = some found → P found := by
  intro other found holds
  by_cases same : other = pid
  · subst same
    rw [Function.update_self, Option.some.injEq] at holds
    subst holds
    exact here
  · rw [Function.update_of_ne same] at holds
    exact there other found holds

@[simp] theorem set_calls_self (state : State wrapping) (pid : ℕ) (method : Name) (index : ℕ)
    (changed : Breaker wrapping × Progress Value) :
    (state.set pid method index changed).calls pid = some ⟨method, index, changed.2⟩ :=
  Function.update_self ..

theorem set_calls_of_ne {state : State wrapping} {pid other : ℕ} {method : Name} {index : ℕ}
    {changed : Breaker wrapping × Progress Value} (different : other ≠ pid) :
    (state.set pid method index changed).calls other = state.calls other :=
  Function.update_of_ne different ..

@[simp] theorem invoke_created (state : State wrapping) (pid : ℕ) (method : Method)
    (progress : Progress Value) : (state.invoke pid method progress).created = state.created := by
  unfold State.invoke
  split
  · rfl
  · rfl

@[simp] theorem invoke_breakers (state : State wrapping) (pid : ℕ) (method : Method)
    (progress : Progress Value) : (state.invoke pid method progress).breakers = state.breakers := by
  unfold State.invoke
  split
  · rfl
  · rfl

@[simp] theorem invoke_calls (state : State wrapping) (pid : ℕ) (method : Method)
    (progress : Progress Value) : (state.invoke pid method progress).calls = state.calls := by
  unfold State.invoke
  split
  · rfl
  · rfl

theorem fire_label (breaker : Breaker wrapping) (args : List Value) (result : Result Value) :
    (breaker.fire args result).1.label = breaker.label := by
  unfold Breaker.fire
  split
  · rfl
  · rfl

namespace Sound

variable {state : State wrapping}

theorem initial : Sound ({} : State wrapping) where
  registered _ _ found := by cases found
  owned _ _ found := by cases found
  functions _ _ found := by cases found
  calls _ _ found := by cases found

/-- Breakers may change what they keep, as long as they stay where they are. -/
theorem change (sound : Sound state) {created : List (Breaker wrapping)}
    (same : ∀ index : ℕ, (created[index]?).map Breaker.label =
      (state.created[index]?).map Breaker.label) :
    Sound { state with created } := by
  constructor
  case registered =>
    intro prop index there
    obtain ⟨breaker, held, named⟩ := sound.registered prop index there
    have after := same index
    rw [held, Option.map_some, Option.map_eq_some_iff] at after
    obtain ⟨breaker', held', alike⟩ := after
    exact ⟨breaker', held', (congrArg Prod.fst alike).trans named⟩
  case owned =>
    intro index breaker held
    have before := (same index).symm
    rw [show created[index]? = some breaker from held, Option.map_some,
      Option.map_eq_some_iff] at before
    obtain ⟨breaker', held', alike⟩ := before
    obtain ⟨there, owns⟩ := sound.owned index breaker' held'
    rw [← show breaker'.prop = breaker.prop from congrArg Prod.fst alike,
      ← show breaker'.originalMethod = breaker.originalMethod from congrArg Prod.snd alike]
    exact ⟨there, owns⟩
  case functions => exact sound.functions
  case calls => exact sound.calls

/-- A breaker and a call on it change. -/
theorem set (sound : Sound state) {pid index : ℕ} {method : Name} {breaker : Breaker wrapping}
    {changed : Breaker wrapping × Progress Value} (held : state.created[index]? = some breaker)
    (label : changed.1.label = breaker.label) (there : state.breakers method = some index) :
    Sound (state.set pid method index changed) := by
  have changes : Sound { state with created := state.created.set index changed.1 } := by
    apply sound.change
    intro other
    rw [List.getElem?_set]
    split
    · rename_i same
      subst same
      obtain ⟨inside, _⟩ := List.getElem?_eq_some_iff.mp held
      rw [if_pos inside, held, Option.map_some, Option.map_some, label]
    · rfl
  exact ⟨changes.registered, changes.owned, changes.functions, forall_update there sound.calls⟩

theorem invoke (sound : Sound state) (pid : ℕ) (method : Method) (progress : Progress Value) :
    Sound (state.invoke pid method progress) := by
  unfold State.invoke
  split
  · exact ⟨sound.registered, sound.owned, sound.functions, sound.calls⟩
  · exact sound

end Sound

variable [DecidableEq Name]

@[simp] theorem create_created (state : State wrapping) (prop : Name) (method : Method) :
    (state.create prop method).created = state.created ++ [.new prop method] := rfl

@[simp] theorem create_breakers_self (state : State wrapping) (prop : Name) (method : Method) :
    (state.create prop method).breakers prop = some state.created.length :=
  Function.update_self ..

theorem create_breakers_of_ne {state : State wrapping} {prop other : Name} {method : Method}
    (different : other ≠ prop) :
    (state.create prop method).breakers other = state.breakers other :=
  Function.update_of_ne different ..

namespace Sound

variable {state : State wrapping}

/-- A breaker that is there is used as it is. -/
theorem breakerFor_of_some {prop : Name} {index : ℕ} (there : state.breakers prop = some index)
    (method : Method) : state.breakerFor prop method = (state, index) := by
  simp only [State.breakerFor, there]

/-- A breaker that is not there is created. -/
theorem breakerFor_of_none {prop : Name} (absent : state.breakers prop = none) (method : Method) :
    state.breakerFor prop method = (state.create prop method, state.created.length) := by
  simp only [State.breakerFor, absent]

theorem create (sound : Sound state) {prop : Name} {method : Method}
    (absent : state.breakers prop = none)
    (found : Reflect.get wrapping.service prop .proxy = .function method) :
    Sound (state.create prop method) := by
  have kept : ∀ other index, state.breakers other = some index →
      (state.create prop method).breakers other = some index := by
    intro other index there
    rw [create_breakers_of_ne, there]
    rintro rfl
    rw [absent] at there
    cases there
  constructor
  case registered =>
    intro other index there
    by_cases same : other = prop
    · subst same
      rw [create_breakers_self, Option.some.injEq] at there
      subst there
      exact ⟨.new other method, List.getElem?_concat_length, rfl⟩
    · rw [create_breakers_of_ne same] at there
      obtain ⟨breaker, held, named⟩ := sound.registered other index there
      obtain ⟨inside, _⟩ := List.getElem?_eq_some_iff.mp held
      exact ⟨breaker, by rw [create_created, List.getElem?_append_left inside]; exact held, named⟩
  case owned =>
    intro index breaker held
    rw [create_created] at held
    rcases Nat.lt_or_ge index state.created.length with inside | outside
    · rw [List.getElem?_append_left inside] at held
      obtain ⟨there, owns⟩ := sound.owned index breaker held
      exact ⟨kept _ _ there, owns⟩
    · rw [List.getElem?_append_right outside, List.getElem?_singleton] at held
      split at held
      · cases held
        have same : index = state.created.length := by omega
        subst same
        exact ⟨create_breakers_self .., found⟩
      · cases held
  case functions => exact fun slot reference read => kept _ _ (sound.functions slot reference read)
  case calls => exact fun pid call called => kept _ _ (sound.calls pid call called)

/-- Asking for a breaker keeps the state sound, and the breaker is there. -/
theorem breakerFor (sound : Sound state) {prop : Name} {method : Method}
    (found : Reflect.get wrapping.service prop .proxy = .function method) :
    Sound (state.breakerFor prop method).1 ∧
      (state.breakerFor prop method).1.breakers prop = some (state.breakerFor prop method).2 := by
  cases there : state.breakers prop with
  | some index =>
      rw [breakerFor_of_some there]
      exact ⟨sound, there⟩
  | none =>
      rw [breakerFor_of_none there]
      exact ⟨sound.create there found, create_breakers_self ..⟩

end Sound

/-! ## One step -/

/-- What a step does. -/
inductive Stepped (state : State wrapping) : Happening Name Value → State wrapping → Prop where
  | value {slot : ℕ} {prop : Name} {value : Value} (free : state.functions slot = none)
      (found : Reflect.get wrapping.service prop .proxy = .other value) :
      Stepped state (.read slot prop) state
  | refused {slot : ℕ} {prop : Name} {method : Method} (free : state.functions slot = none)
      (found : Reflect.get wrapping.service prop .proxy = .function method)
      (fixed : ∀ breaker, wrapped (wrapping.service prop) breaker = .typeError) :
      Stepped state (.read slot prop) (state.breakerFor prop method).1
  | function {slot : ℕ} {prop : Name} {method : Method} (free : state.functions slot = none)
      (found : Reflect.get wrapping.service prop .proxy = .function method)
      (given : ∀ breaker, wrapped (wrapping.service prop) breaker = .function breaker) :
      Stepped state (.read slot prop) { (state.breakerFor prop method).1 with
        functions := Function.update (state.breakerFor prop method).1.functions slot
          (some ⟨prop, (state.breakerFor prop method).2⟩) }
  | call {pid slot : ℕ} {args : List Value} {result : Result Value} {reference : Reference Name}
      {breaker : Breaker wrapping} (free : state.calls pid = none)
      (read : state.functions slot = some reference)
      (held : state.created[reference.breaker]? = some breaker) :
      Stepped state (.call pid slot args result)
        ((state.invoke pid breaker.originalMethod (breaker.fire args result).2).set pid
          reference.prop reference.breaker (breaker.fire args result))
  | signal {pid : ℕ} {signal : Signal Value} {call : Call Name Value} {result : Result Value}
      (called : state.calls pid = some call) (back : call.progress.result = some result)
      (may : result.MaySignal call.progress.signals signal) :
      Stepped state (.signal pid signal)
        { state with calls := Function.update state.calls pid (some { call with
          progress := { call.progress with signals := call.progress.signals ++ [signal] } }) }
  | settle {pid : ℕ} {call : Call Name Value} {outcome : Except Value Value}
      {breaker : Breaker wrapping} (called : state.calls pid = some call)
      (settles : outcomeOf wrapping call.progress = some outcome)
      (held : state.created[call.breaker]? = some breaker) :
      Stepped state (.settle pid)
        (state.set pid call.method call.breaker (breaker.settle call.progress outcome))
  | timeOut {pid : ℕ} {call : Call Name Value} {breaker : Breaker wrapping}
      (called : state.calls pid = some call) (held : state.created[call.breaker]? = some breaker)
      (pending : call.progress.Pending) :
      Stepped state (.timeOut pid)
        (state.set pid call.method call.breaker (breaker.timeOut call.progress))
  | elapse {milliseconds : ℕ} : Stepped state (.elapse milliseconds)
      { state with created := state.created.map fun breaker => breaker.elapse milliseconds }

/-- What `wrapped` gives does not depend on the breaker. -/
theorem wrapped_cases (descriptor : Descriptor Method Value) :
    (∀ breaker, wrapped descriptor breaker = .typeError) ∨
      ∀ breaker, wrapped descriptor breaker = .function breaker := by
  cases descriptor with
  | data value fixed =>
      cases fixed with
      | true => exact .inl fun _ => rfl
      | false => exact .inr fun _ => rfl
  | accessor get => exact .inr fun _ => rfl

theorem stepped {state after : State wrapping} {event : Happening Name Value}
    (taken : step state event = some after) : Stepped state event after := by
  cases event with
  | read slot prop =>
      simp only [step, Option.ite_none_right_eq_some, Option.isNone_iff_eq_none] at taken
      obtain ⟨free, taken⟩ := taken
      unfold State.get at taken
      cases found : Reflect.get wrapping.service prop .proxy with
      | other value =>
          simp only [found, Option.some.injEq] at taken
          subst taken
          exact .value free found
      | function method =>
          rcases wrapped_cases (wrapping.service prop) with fixed | given
          · simp only [found, fixed, Option.some.injEq] at taken
            subst taken
            exact .refused free found fixed
          · simp only [found, given, Option.some.injEq] at taken
            subst taken
            exact .function free found given
  | call pid slot args result =>
      simp only [step, Option.ite_none_right_eq_some, Option.isNone_iff_eq_none,
        Option.bind_eq_bind, Option.bind_eq_some_iff, Option.some.injEq] at taken
      obtain ⟨free, reference, read, breaker, held, rfl⟩ := taken
      exact .call free read held
  | signal pid signal =>
      simp only [step, Option.ite_none_right_eq_some, Option.bind_eq_bind,
        Option.bind_eq_some_iff, Option.some.injEq] at taken
      obtain ⟨call, called, result, back, may, rfl⟩ := taken
      exact .signal called back may
  | settle pid =>
      simp only [step, Option.bind_eq_bind, Option.bind_eq_some_iff, Option.some.injEq] at taken
      obtain ⟨call, called, outcome, settles, breaker, held, rfl⟩ := taken
      exact .settle called settles held
  | timeOut pid =>
      simp only [step, Option.ite_none_right_eq_some, Option.bind_eq_bind,
        Option.bind_eq_some_iff, Option.some.injEq] at taken
      obtain ⟨call, called, breaker, held, pending, rfl⟩ := taken
      exact .timeOut called held pending
  | elapse milliseconds =>
      cases taken
      exact .elapse

/-- **A step keeps the breakers in order.** -/
theorem Sound.step {state after : State wrapping} {event : Happening Name Value}
    (sound : Sound state) (taken : step state event = some after) : Sound after := by
  cases stepped taken with
  | value free found => exact sound
  | refused free found fixed => exact (sound.breakerFor found).1
  | @function slot prop method free found given =>
      obtain ⟨provided, there⟩ := sound.breakerFor found
      refine ⟨provided.registered, provided.owned, ?_, provided.calls⟩
      exact forall_update there provided.functions
  | @call pid slot args result reference breaker free read held =>
      apply (sound.invoke pid _ _).set
      · rw [invoke_created]
        exact held
      · exact fire_label breaker args result
      · rw [invoke_breakers]
        exact sound.functions slot reference read
  | @signal pid signal call result called back may =>
      exact ⟨sound.registered, sound.owned, sound.functions,
        forall_update (sound.calls pid call called) sound.calls⟩
  | settle called settles held => exact sound.set held rfl (sound.calls _ _ called)
  | timeOut called held pending => exact sound.set held rfl (sound.calls _ _ called)
  | elapse =>
      apply sound.change
      intro index
      rw [List.getElem?_map, Option.map_map]
      rfl

end WorkflowHub.CircuitBreaker
