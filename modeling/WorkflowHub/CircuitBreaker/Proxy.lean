import WorkflowHub.Processes.Paths
import Mathlib.Data.Nat.Notation
import Mathlib.Logic.Function.Basic

/-!
# `wrapWithCircuitbreaker`

The proxy around a service object, and what happens to it: properties are read, the functions
that were read are called, the results of the original methods settle, calls time out, and
time passes, all of it in any order. opossum is a parameter. A breaker of it is what it keeps
of its own past, and firing it either runs the action once or rejects.

The options are without fallbacks. Loggers are left out.
-/

set_option autoImplicit false

namespace WorkflowHub.CircuitBreaker

open Processes

/-! ## Objects -/

/-- What reading a property gives, as `typeof` tells it. -/
inductive Property (Method Value : Type) where
  | function (method : Method)
  | other (value : Value)

/-- What `this` may be in a getter. -/
inductive Receiver where
  | target
  | proxy
  deriving DecidableEq, Repr

/-- A property of an object or of its prototypes. A data property is `fixed` when it is one of the
object's own and neither writable nor configurable, as a proxy has to report the value of such a
property of its target; a name the object does not have is one that holds `undefined`. What else a
getter does on its `this` counts as reads and calls of their own. -/
inductive Descriptor (Method Value : Type) where
  | data (value : Property Method Value) (fixed : Bool)
  | accessor (get : Receiver → Property Method Value)

abbrev Service (Name Method Value : Type) : Type := Name → Descriptor Method Value

variable {Name Method Value : Type}

/-- `Reflect.get(service, prop, receiver)`. -/
def Reflect.get (service : Service Name Method Value) (prop : Name) (receiver : Receiver) :
    Property Method Value :=
  match service prop with
  | .data value _ => value
  | .accessor get => get receiver

/-- A data property gives every receiver the same. -/
theorem Reflect.get_data {service : Service Name Method Value} {prop : Name}
    {property : Property Method Value} {fixed : Bool} (held : service prop = .data property fixed)
    (receiver : Receiver) : Reflect.get service prop receiver = property := by
  rw [Reflect.get, held]

/-! ## opossum -/

structure Options (Value : Type) where
  timeout : ℕ
  errorThresholdPercentage : ℕ
  resetTimeout : ℕ
  volumeThreshold : ℕ
  errorFilter : Value → Bool

/-- A breaker of opossum. `fire` lets a call through, or gives the error it rejects with
without running the action; the other functions say what the breaker makes of a settlement,
which may come after the timeout, of a timeout, and of time that passes. -/
structure Opossum (Value : Type) where
  State : Type
  create : Options Value → State
  fire : State → List Value → State × Option Value
  settled : State → (late : Bool) → Except Value Value → State
  timedOut : State → State × Value
  elapsed : State → ℕ → State

/-- The codes of gRPC that do not count as failures. -/
def serverCodes : List ℕ := [2, 3, 5, 6, 7, 16]

/-- What a breaker is created with, before the options of the caller are spread over it. -/
def defaults (code : Value → Option ℕ) : Options Value where
  timeout := 5000
  errorThresholdPercentage := 50
  resetTimeout := 10000
  volumeThreshold := 5
  errorFilter error := (code error).any fun code => serverCodes.contains code

/-- What `wrapWithCircuitbreaker` is given and uses: the service, the options as a change of
the defaults, the `code` of an error, and what `firstValueFrom` rejects with when nothing was
emitted. -/
structure Wrapping (Name Method Value : Type) where
  service : Service Name Method Value
  options : Options Value → Options Value
  opossum : Opossum Value
  code : Value → Option ℕ
  emptyError : Value

/-! ## Results of a method -/

/-- What a method comes back with at once. -/
inductive Result (Value : Type) where
  | throws (error : Value)
  | plain (value : Value)
  | promise
  | observable

/-- What a promise or an observable does later. -/
inductive Signal (Value : Type) where
  | value (value : Value)
  | error (error : Value)
  | complete

/-- How `firstValueFrom` settles at the first signal; a promise settles like this too. -/
def firstValueFrom (emptyError : Value) : Signal Value → Except Value Value
  | .value value => .ok value
  | .error error => .error error
  | .complete => .error emptyError

/-- How the action settles, of a result and its signals so far. -/
def yields (emptyError : Value) : Result Value → List (Signal Value) → Option (Except Value Value)
  | .throws error, _ => some (.error error)
  | .plain value, _ => some (.ok value)
  | .promise, signals | .observable, signals => signals.head?.map (firstValueFrom emptyError)

/-- What a result may still do: a promise settles once, and never completes empty. -/
def Result.MaySignal : Result Value → List (Signal Value) → Signal Value → Prop
  | .throws _, _, _ | .plain _, _, _ => False
  | .promise, _, .complete => False
  | .promise, signals, .value _ | .promise, signals, .error _ => signals.isEmpty = true
  | .observable, _, _ => True

instance : (result : Result Value) → (signals : List (Signal Value)) → (signal : Signal Value) →
    Decidable (result.MaySignal signals signal)
  | .throws _, _, _ | .plain _, _, _ => isFalse id
  | .promise, signals, .value _ | .promise, signals, .error _ =>
      inferInstanceAs (Decidable (signals.isEmpty = true))
  | .promise, _, .complete => isFalse id
  | .observable, _, _ => isTrue trivial

/-- What an observable does for its subscriber. -/
inductive Notification (Value : Type) where
  | next (value : Value)
  | error (error : Value)
  | complete
  deriving DecidableEq, Repr

/-- `from(promise)`, of a promise that is pending or has settled. -/
def fromPromise : Option (Except Value Value) → List (Notification Value)
  | none => []
  | some (.ok value) => [.next value, .complete]
  | some (.error error) => [.error error]

/-! ## Breakers -/

/-- How far a call has come. `result` is what the original method came back with, if the
breaker let the call through; `settled` says that the action has settled with it, and `promise`
how the promise of `fire` has settled. -/
structure Progress (Value : Type) where
  args : List Value
  result : Option (Result Value)
  signals : List (Signal Value) := []
  settled : Bool := false
  timedOut : Bool := false
  promise : Option (Except Value Value) := none

section Proxy

variable (wrapping : Wrapping Name Method Value)

/-- A breaker with the method its action closes over. -/
structure Breaker where
  prop : Name
  originalMethod : Method
  state : wrapping.opossum.State

variable {wrapping}

/-- `breaker.fire(...args)`: if the breaker runs the action, the original method is applied, and
comes back with `result`. -/
def Breaker.fire (breaker : Breaker wrapping) (args : List Value) (result : Result Value) :
    Breaker wrapping × Progress Value :=
  match wrapping.opossum.fire breaker.state args with
  | (fired, some error) =>
      ({ breaker with state := fired },
        { args, result := none, promise := some (.error error) })
  | (fired, none) => ({ breaker with state := fired }, { args, result := some result })

/-- The action of a call settles, and the promise of `fire` with it, unless the timeout was
faster. -/
def Breaker.settle (breaker : Breaker wrapping) (progress : Progress Value)
    (outcome : Except Value Value) : Breaker wrapping × Progress Value :=
  ({ breaker with state := wrapping.opossum.settled breaker.state progress.timedOut outcome },
    { progress with
      settled := true
      promise := if progress.timedOut then progress.promise else some outcome })

/-- The timeout of a pending call. -/
def Breaker.timeOut (breaker : Breaker wrapping) (progress : Progress Value) :
    Breaker wrapping × Progress Value :=
  ({ breaker with state := (wrapping.opossum.timedOut breaker.state).1 },
    { progress with
      timedOut := true
      promise := some (.error (wrapping.opossum.timedOut breaker.state).2) })

def Breaker.elapse (breaker : Breaker wrapping) (milliseconds : ℕ) : Breaker wrapping :=
  { breaker with state := wrapping.opossum.elapsed breaker.state milliseconds }

/-- How the action of a call can settle, if it has not yet. -/
def outcomeOf (wrapping : Wrapping Name Method Value) (progress : Progress Value) :
    Option (Except Value Value) :=
  if progress.settled then none
  else progress.result.bind fun result => yields wrapping.emptyError result progress.signals

/-- A call that the breaker let through and that has not settled. -/
def Progress.Pending (progress : Progress Value) : Prop :=
  progress.result.isSome = true ∧ progress.promise.isNone = true

instance (progress : Progress Value) : Decidable progress.Pending :=
  inferInstanceAs (Decidable (_ ∧ _))

/-! ## The proxy -/

variable (wrapping)

/-- A function the proxy has returned: the property that was read, and the breaker it closes
over. -/
structure Reference (Name : Type) where
  prop : Name
  breaker : ℕ

/-- A call of a function that was read as the property `method`. -/
structure Call (Name Value : Type) where
  method : Name
  breaker : ℕ
  progress : Progress Value

/-- An original method was applied. -/
structure Invocation (Method Value : Type) where
  call : ℕ
  method : Method
  this : Receiver
  args : List Value

/-- `created` lists the breakers in the order of their creation, `breakers` is the map of the
proxy. -/
structure State where
  created : List (Breaker wrapping) := []
  breakers : Name → Option ℕ := fun _ => none
  functions : ℕ → Option (Reference Name) := fun _ => none
  calls : ℕ → Option (Call Name Value) := fun _ => none
  invocations : List (Invocation Method Value) := []

variable {wrapping}

/-- What a read gives: the value, a function on a breaker, or the `TypeError` of a trap that
reports another value for a property that is fixed. -/
inductive Read (Value : Type) where
  | value (value : Value)
  | function (breaker : ℕ)
  | typeError

variable [DecidableEq Name]

/-- The breaker that is created for a property. -/
def Breaker.new (prop : Name) (originalMethod : Method) : Breaker wrapping where
  prop := prop
  originalMethod := originalMethod
  state := wrapping.opossum.create (wrapping.options (defaults wrapping.code))

/-- `breakers.set(prop, breaker)` with a breaker that is created for it. -/
def State.create (state : State wrapping) (prop : Name) (originalMethod : Method) :
    State wrapping :=
  { state with
    created := state.created ++ [.new prop originalMethod]
    breakers := Function.update state.breakers prop (some state.created.length) }

/-- The breaker of a property, created when there is none. -/
def State.breakerFor (state : State wrapping) (prop : Name) (originalMethod : Method) :
    State wrapping × ℕ :=
  match state.breakers prop with
  | some breaker => (state, breaker)
  | none => (state.create prop originalMethod, state.created.length)

/-- What the trap gives for a function: its own function on the breaker, but if the property is
fixed, the proxy throws instead. -/
def wrapped (descriptor : Descriptor Method Value) (breaker : ℕ) : Read Value :=
  match descriptor with
  | .data _ true => .typeError
  | .data _ false | .accessor _ => .function breaker

/-- The `get` trap. A value that is no function is never `Object.prototype.hasOwnProperty`. -/
def State.get (state : State wrapping) (prop : Name) : State wrapping × Read Value :=
  match Reflect.get wrapping.service prop .proxy with
  | .other value => (state, .value value)
  | .function originalMethod =>
      let (state', breaker) := state.breakerFor prop originalMethod
      (state', wrapped (wrapping.service prop) breaker)

/-- A breaker and a call on it have changed. -/
def State.set (state : State wrapping) (pid : ℕ) (method : Name) (index : ℕ)
    (changed : Breaker wrapping × Progress Value) : State wrapping :=
  { state with
    created := state.created.set index changed.1
    calls := Function.update state.calls pid (some ⟨method, index, changed.2⟩) }

/-- The original method is applied to the target, if the breaker has let the call through. -/
def State.invoke (state : State wrapping) (pid : ℕ) (method : Method)
    (progress : Progress Value) : State wrapping :=
  if progress.result.isSome then
    { state with invocations := state.invocations ++ [⟨pid, method, .target, progress.args⟩] }
  else state

/-- What can happen. Functions and calls are named by numbers that are not in use yet, and
`result` is what the original method comes back with if it is applied. -/
inductive Happening (Name Value : Type) where
  | read (slot : ℕ) (prop : Name)
  | call (pid slot : ℕ) (args : List Value) (result : Result Value)
  | signal (pid : ℕ) (signal : Signal Value)
  | settle (pid : ℕ)
  | timeOut (pid : ℕ)
  | elapse (milliseconds : ℕ)

/-- One step. -/
def step (state : State wrapping) : Happening Name Value → Option (State wrapping)
  | .read slot prop =>
      if (state.functions slot).isNone then
        match state.get prop with
        | (state', .function breaker) =>
            some { state' with
              functions := Function.update state'.functions slot (some ⟨prop, breaker⟩) }
        | (state', _) => some state'
      else none
  | .call pid slot args result =>
      if (state.calls pid).isNone then do
        let reference ← state.functions slot
        let breaker ← state.created[reference.breaker]?
        let fired := breaker.fire args result
        some ((state.invoke pid breaker.originalMethod fired.2).set pid reference.prop
          reference.breaker fired)
      else none
  | .signal pid signal => do
      let call ← state.calls pid
      let result ← call.progress.result
      if result.MaySignal call.progress.signals signal then
        some { state with calls := Function.update state.calls pid (some { call with
          progress := { call.progress with signals := call.progress.signals ++ [signal] } }) }
      else none
  | .settle pid => do
      let call ← state.calls pid
      let outcome ← outcomeOf wrapping call.progress
      let breaker ← state.created[call.breaker]?
      some (state.set pid call.method call.breaker (breaker.settle call.progress outcome))
  | .timeOut pid => do
      let call ← state.calls pid
      let breaker ← state.created[call.breaker]?
      if call.progress.Pending then
        some (state.set pid call.method call.breaker (breaker.timeOut call.progress))
      else none
  | .elapse milliseconds =>
      some { state with created := state.created.map fun breaker => breaker.elapse milliseconds }

end Proxy

end WorkflowHub.CircuitBreaker
