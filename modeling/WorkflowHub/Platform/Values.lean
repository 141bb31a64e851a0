/-!
# Values of the platform

What the services share with the JavaScript runtime and with MongoDB: thrown values,
document ids, and the truthiness of an optional string.
-/

set_option autoImplicit false

namespace WorkflowHub

/-- A thrown value: an `Error` of some class, one of the two exceptions of Nest that carry a
status, or what a client makes of a failed call. That is the status code of gRPC, a code of
the circuit breaker such as `'EOPENBREAKER'`, or over RabbitMQ the object the other side
threw. -/
inductive Thrown where
  | error (name message : String)
  | rpcException (statusCode : Nat) (message : String)
  | httpException (status : Nat) (message : String)
  | grpc (code : Nat) (message : String)
  | coded (code message : String)
  | remote (statusCode : Nat) (message : String)
  deriving DecidableEq, Repr

namespace Thrown

/-- The `message` property. -/
def message : Thrown → String
  | .error _ message => message
  | .rpcException _ message => message
  | .httpException _ message => message
  | .grpc _ message => message
  | .coded _ message => message
  | .remote _ message => message

/-- The `name` property; the object from RabbitMQ has none. -/
def name : Thrown → Option String
  | .error name _ => some name
  | .rpcException _ _ => some "Error"
  | .httpException _ _ => some "HttpException"
  | .grpc _ _ => some "Error"
  | .coded _ _ => some "Error"
  | .remote _ _ => none

/-- `String(error)`. -/
def text (thrown : Thrown) : String :=
  match thrown.name with
  | some name => if thrown.message = "" then name else name ++ ": " ++ thrown.message
  | none => "[object Object]"

/-- `error instanceof HttpException`. -/
def isHttpException : Thrown → Bool
  | .httpException _ _ => true
  | _ => false

end Thrown

/-- A text that can be cast to an id: 24 hexadecimal digits. -/
def isObjectId (text : String) : Bool :=
  text.length = 24 && text.toList.all Char.isHexDigit

/-- The id of a document, by its digits. -/
structure ObjectId where
  hex : String
  isObjectId_hex : isObjectId hex = true
  deriving DecidableEq, Repr

namespace ObjectId

/-- `toString()`. -/
def toString (id : ObjectId) : String := id.hex

theorem toString_injective {first second : ObjectId} (same : first.toString = second.toString) :
    first = second := by
  cases first
  cases second
  simpa [toString] using same

/-- `toString()` is truthy. -/
theorem toString_ne_empty (id : ObjectId) : id.toString ≠ "" := by
  intro empty
  have digits := id.isObjectId_hex
  rw [show id.hex = "" from empty] at digits
  cases digits

theorem isObjectId_toString (id : ObjectId) : isObjectId id.toString = true := id.isObjectId_hex

end ObjectId

/-- A value is truthy when it is a string other than `""`. -/
def truthy : Option String → Bool
  | some text => text ≠ ""
  | none => false

/-- `first || second`. -/
def jsOr (first second : Option String) : Option String :=
  if truthy first then first else second

/-- A value as it appears in a template string. -/
def interpolated : Option String → String
  | some text => text
  | none => "undefined"

@[simp] theorem truthy_some {text : String} : truthy (some text) = true ↔ text ≠ "" := by
  simp [truthy]

@[simp] theorem truthy_none : truthy none = false := rfl

theorem jsOr_of_truthy {first : Option String} (holds : truthy first = true)
    (second : Option String) : jsOr first second = first := by
  simp [jsOr, holds]

end WorkflowHub
