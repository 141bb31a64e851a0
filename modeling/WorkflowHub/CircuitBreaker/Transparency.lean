import WorkflowHub.CircuitBreaker.Calls
import WorkflowHub.CircuitBreaker.Isolation

/-!
# What the proxy changes and what it does not

In every state that reads, calls, settlements, timeouts and time lead to, a property has one
breaker at most, a call applies the method that was read under its name once at most and to
its own arguments, and a call that was let through and settled before its timeout settles as
that method did (`Wrapped`). What happens to other properties changes none of it
(`Transparent`).

A value that is no function is what `Reflect.get` gives with the proxy as the receiver: the
value of a data property, and of an accessor what its getter makes of the proxy.
-/

set_option autoImplicit false

namespace WorkflowHub.CircuitBreaker

open Processes

variable {Name Method Value : Type} [DecidableEq Name]
  {wrapping : Wrapping Name Method Value}

/-! ## The proxy as a whole -/

/-- What holds of the proxy in a state. -/
structure Wrapped (state : State wrapping) : Prop where
  /-- A property that is no function is given as it is: the value of a data property, and of an
  accessor what its getter returns when `this` is the proxy. -/
  data : ∀ prop value fixed, wrapping.service prop = .data (.other value) fixed →
    state.get prop = (state, .value value)
  accessor : ∀ prop get value, wrapping.service prop = .accessor get → get .proxy = .other value →
    state.get prop = (state, .value value)
  /-- A property has one breaker at most. -/
  single : ∀ (index index' : ℕ) breaker breaker', state.created[index]? = some breaker →
    state.created[index']? = some breaker' → breaker.prop = breaker'.prop → index = index'
  /-- A call applies the method of its name, to the target and its own arguments, if it is let
  through, and otherwise nothing; and nothing but calls applies a method. -/
  invoked : ∀ pid call, state.calls pid = some call →
    ∃ method, Reflect.get wrapping.service call.method .proxy = .function method ∧
      state.invocations.filter (·.call = pid) =
        if call.progress.result.isSome then [⟨pid, method, .target, call.progress.args⟩] else []
  called : ∀ invocation ∈ state.invocations, (state.calls invocation.call).isSome = true
  /-- A call that was let through and did not time out emits what the method yields. -/
  settles : ∀ pid call result, state.calls pid = some call → call.progress.result = some result →
    call.progress.timedOut = false →
      fromPromise call.progress.promise =
        if call.progress.settled then
          fromPromise (yields wrapping.emptyError result call.progress.signals)
        else []

/-- What is proved of the proxy: every state is `Wrapped`, and what it holds of a property, the
outcomes of its calls among it, is the same in any two runs with the same steps about it. -/
structure Transparent (wrapping : Wrapping Name Method Value) : Prop where
  wrapped : ∀ state, Path step Always ({} : State wrapping) state → Wrapped state
  isolated : ∀ prop seen (state state' : State wrapping),
    Shows step Always (sees prop) {} seen state → Shows step Always (sees prop) {} seen state' →
      state.share prop = state'.share prop

theorem Wrapped.of_path {state : State wrapping} (path : Path step Always {} state) :
    Wrapped state := by
  obtain ⟨sound, fair⟩ := fair_of_path path
  constructor
  case data =>
    intro prop value fixed held
    simp only [State.get, Reflect.get_data held]
  case accessor =>
    intro prop get value held given
    simp only [State.get, Reflect.get, held, given]
  case single =>
    intro index index' breaker breaker' held held' same
    have there := (sound.owned index breaker held).1
    rw [same, (sound.owned index' breaker' held').1, Option.some.injEq] at there
    exact there.symm
  case invoked =>
    intro pid call called
    obtain ⟨breaker, held, named⟩ := sound.registered _ _ (sound.calls pid call called)
    have owns := (sound.owned _ breaker held).2
    rw [named] at owns
    refine ⟨_, owns, ?_⟩
    rw [fair.invoked pid, called]
    cases back : call.progress.result with
    | none => simp [applied, back]
    | some result => simp [applied, back, owns]
  case called =>
    intro invocation inside
    cases called : state.calls invocation.call with
    | some call => rfl
    | none =>
        have nothing := fair.invoked invocation.call
        rw [called, Option.map_none, Option.getD_none, List.filter_eq_nil_iff] at nothing
        exact absurd (decide_eq_true rfl) (nothing invocation inside)
  case settles =>
    intro pid call result called back inTime
    have settles := fair.settles pid call called
    split
    · rename_i settled
      obtain ⟨outcome, promised, yielded⟩ := settles.settled result back inTime settled
      rw [promised, yielded]
    · rename_i unsettled
      rw [settles.pending result back inTime (by simpa using unsettled)]
      rfl

/-- **The proxy isolates methods and is otherwise transparent.** -/
theorem proxy_transparent (wrapping : Wrapping Name Method Value) : Transparent wrapping where
  wrapped _ path := .of_path path
  isolated prop seen state state' shows shows' := by
    rw [share_shows shows .initial, share_shows shows' .initial]

/-! ## A getter that returns `this` -/

namespace Sample

inductive Object where
  | undefined
  | this (receiver : Receiver)
  | text (text : String)
  deriving DecidableEq, Repr

/-- A service with a method `ping` and a getter `self` that returns `this`. -/
def service : Service String String Object
  | "ping" => .data (.function "ping") false
  | "self" => .accessor fun this => .other (.this this)
  | _ => .data (.other .undefined) false

/-- A breaker that stays closed. -/
def closed : Opossum Object where
  State := Unit
  create _ := ()
  fire _ _ := ((), none)
  settled _ _ _ := ()
  timedOut _ := ((), .text "ETIMEDOUT")
  elapsed _ _ := ()

def echo : Wrapping String String Object where
  service := service
  options := id
  opossum := closed
  code _ := none
  emptyError := .text "EmptyError"

/-- `ping` is read and called, its observable emits twice, and the call settles. -/
def pings : List (Happening String Object) :=
  [.read 0 "ping", .call 0 0 [.text "hello"] .observable, .signal 0 (.value (.text "pong")),
    .signal 0 (.value (.text "again")), .settle 0]

end Sample

/-- The theorem at a run in which a method is called. -/
theorem proxy_transparent_pings :
    ∃ state ∈ run step ({} : State Sample.echo) Sample.pings,
      (state.calls 0).map (fun call => fromPromise call.progress.promise) =
          some [.next (.text "pong"), .complete] ∧
        Wrapped state := by
  obtain ⟨state, ran, settled⟩ :
      ∃ state ∈ run step ({} : State Sample.echo) Sample.pings,
        (state.calls 0).map (fun call => fromPromise call.progress.promise) =
          some [.next (.text "pong"), .complete] := by
    decide +kernel
  exact ⟨state, ran, settled, (proxy_transparent _).wrapped state (.of_run ran .always)⟩

/-- The getter is run on the proxy, so what it returns is not what the target has there. -/
theorem not_read_of_target :
    ¬∀ (wrapping : Wrapping String String Sample.Object) (state : State wrapping),
      Path step Always {} state → ∀ prop value,
        Reflect.get wrapping.service prop .target = .other value →
          (state.get prop).2 = .value value := by
  intro reads
  have read := reads Sample.echo {} .refl "self" (.this .target) rfl
  cases read

end WorkflowHub.CircuitBreaker
