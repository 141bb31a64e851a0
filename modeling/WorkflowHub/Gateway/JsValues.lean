import Mathlib.Data.Nat.Notation
import WorkflowHub.Throttling.Guard

/-!
# Values of the language

The values a field of an error may hold, and what the language makes of them: truthiness, `??`,
and `Number(value)`. A number is a double. An object is given by what it converts to, since
that is all that is ever asked of one here.
-/

set_option autoImplicit false

namespace WorkflowHub.Gateway

/-! ## Values -/

inductive Primitive where
  | undefined
  | null
  | boolean (value : Bool)
  | number (value : Float.Model)
  | bigint (value : ℤ)
  | string (text : String)
  | symbol
  deriving DecidableEq

/-- An object converts to a primitive value, or throws when it is to be converted. -/
inductive JsValue where
  | primitive (value : Primitive)
  | object (toPrimitive : Option Primitive)
  deriving DecidableEq

namespace JsValue

abbrev undefined : JsValue := .primitive .undefined

abbrev null : JsValue := .primitive .null

abbrev number (value : Float.Model) : JsValue := .primitive (.number value)

abbrev string (text : String) : JsValue := .primitive (.string text)

/-- `Boolean(value)`. -/
def truthy : JsValue → Bool
  | .primitive .undefined | .primitive .null => false
  | .primitive (.boolean value) => value
  | .primitive (.number value) =>
      match value.unpack with
      | .zero _ | .notANumber => false
      | _ => true
  | .primitive (.bigint value) => value ≠ 0
  | .primitive (.string text) => text ≠ ""
  | .primitive .symbol | .object _ => true

/-- The value is `undefined` or `null`. -/
def nullish : JsValue → Bool
  | .primitive .undefined | .primitive .null => true
  | _ => false

/-- `first ?? second`. -/
def coalesce (first second : JsValue) : JsValue := if first.nullish then second else first

@[simp] theorem coalesce_of_nullish {first : JsValue} (nullish : first.nullish = true)
    (second : JsValue) : first.coalesce second = second := by
  simp [coalesce, nullish]

@[simp] theorem coalesce_of_not_nullish {first : JsValue} (nullish : first.nullish = false)
    (second : JsValue) : first.coalesce second = first := by
  simp [coalesce, nullish]

theorem coalesce_eq_or (first second : JsValue) :
    first.coalesce second = first ∨ first.coalesce second = second := by
  cases nullish : first.nullish with
  | false => exact .inl (coalesce_of_not_nullish nullish second)
  | true => exact .inr (coalesce_of_nullish nullish second)

/-- The value is a number: of that type, and not `NaN`. -/
def isNumber : JsValue → Bool
  | .primitive (.number value) => !value.isNaN
  | _ => false

theorem nullish_of_isNumber {value : JsValue} (isNumber : value.isNumber = true) :
    value.nullish = false := by
  cases value with
  | primitive value =>
      cases value with
      | undefined => cases isNumber
      | null => cases isNumber
      | _ => rfl
  | object toPrimitive => rfl

end JsValue

/-! ## Numbers from strings -/

/-- The digit a character is in some radix. -/
def digit? (radix : ℕ) (char : Char) : Option ℕ :=
  let value :=
    if '0' ≤ char ∧ char ≤ '9' then some (char.toNat - '0'.toNat)
    else if 'a' ≤ char ∧ char ≤ 'z' then some (char.toNat - 'a'.toNat + 10)
    else if 'A' ≤ char ∧ char ≤ 'Z' then some (char.toNat - 'A'.toNat + 10)
    else none
  value.filter (· < radix)

/-- The value of a string of digits, after digits of the value `value`. -/
def digits? (radix value : ℕ) : List Char → Option ℕ
  | [] => some value
  | char :: rest => (digit? radix char).bind fun digit => digits? radix (radix * value + digit) rest

/-- The same for a string that may not be empty. -/
def literal? (radix : ℕ) : List Char → Option ℕ
  | [] => none
  | chars => digits? radix 0 chars

/-- The sign of a number, and what follows it. -/
def signed : List Char → Bool × List Char
  | '-' :: rest => (true, rest)
  | '+' :: rest => (false, rest)
  | chars => (false, chars)

/-- The exponent after the `e` of a decimal literal; without one it is 0. -/
def exponent? : List Char → Option ℤ
  | [] => some 0
  | _ :: chars =>
      let (negative, digits) := signed chars
      (literal? 10 digits).map fun value => if negative then -(value : ℤ) else value

def isExponentMark (char : Char) : Bool := char = 'e' || char = 'E'

/-- An unsigned decimal literal: digits with a point among them or not, at least one, and an
exponent. -/
def unsignedDecimal? (chars : List Char) : Option Float.Model :=
  if chars = "Infinity".toList then some (Float.Model.ofScientific 1 400)
  else
    let mantissa := chars.takeWhile fun char => !isExponentMark char
    let whole := mantissa.takeWhile (· ≠ '.')
    let fraction := (mantissa.dropWhile (· ≠ '.')).drop 1
    (literal? 10 (whole ++ fraction)).bind fun value =>
      (exponent? (chars.dropWhile fun char => !isExponentMark char)).map fun exponent =>
        Float.Model.ofScientific value (exponent - fraction.length)

def decimal? (chars : List Char) : Option Float.Model :=
  let (negative, digits) := signed chars
  (unsignedDecimal? digits).map fun value => if negative then value.neg else value

/-- The value of a string without white space around it, if it is that of a number. -/
def stringToNumber? : List Char → Option Float.Model
  | [] => some (.ofNat 0)
  | '0' :: 'x' :: digits | '0' :: 'X' :: digits => (literal? 16 digits).map .ofNat
  | '0' :: 'o' :: digits | '0' :: 'O' :: digits => (literal? 8 digits).map .ofNat
  | '0' :: 'b' :: digits | '0' :: 'B' :: digits => (literal? 2 digits).map .ofNat
  | chars => decimal? chars

/-- Not a number. -/
def NaN : Float.Model := .pack .notANumber

/-! ## `Number` -/

/-- `Number(value)`, `none` if it throws. -/
def Primitive.toNumber : Primitive → Option Float.Model
  | .undefined => some NaN
  | .null => some (.ofNat 0)
  | .boolean value => some (.ofNat value.toNat)
  | .number value => some value
  | .bigint value => some (.ofInt value)
  | .string text => some ((stringToNumber? (Throttling.trim text.toList)).getD NaN)
  | .symbol => none

def JsValue.toNumber : JsValue → Option Float.Model
  | .primitive value => value.toNumber
  | .object toPrimitive => toPrimitive.bind Primitive.toNumber

/-- The value of a number for which `Number.isInteger` is true. -/
def integer? (number : Float.Model) : Option ℤ :=
  match number.unpack with
  | .zero _ => some 0
  | .finite sign mantissa exponent _ =>
      if 0 ≤ exponent then some (sign.apply (mantissa <<< exponent.toNat : ℕ))
      else if mantissa % 1 <<< (-exponent).toNat = 0 then
        some (sign.apply (mantissa >>> (-exponent).toNat : ℕ))
      else none
  | .infinity _ | .notANumber => none

/-- The integer that `Number(value)` is, if it is one and does not throw. -/
def JsValue.integer? (value : JsValue) : Option ℤ := value.toNumber.bind Gateway.integer?

theorem JsValue.integer?_eq {value : JsValue} {number : Float.Model}
    (converts : value.toNumber = some number) : value.integer? = Gateway.integer? number := by
  simp [JsValue.integer?, converts]

/-- Zero and `NaN` are the numbers that are not truthy. -/
theorem truthy_number {number : Float.Model} {integer : ℤ}
    (isInteger : integer? number = some integer) (nonzero : integer ≠ 0) :
    (JsValue.number number).truthy = true := by
  simp only [integer?] at isInteger
  simp only [JsValue.truthy]
  split
  next zero =>
    rw [zero] at isInteger
    exact absurd (Option.some.inj isInteger).symm nonzero
  next notANumber =>
    rw [notANumber] at isInteger
    cases isInteger
  next => rfl

theorem JsValue.truthy_of_integer? {value : JsValue} {integer : ℤ}
    (isNumber : value.isNumber = true) (isInteger : value.integer? = some integer)
    (nonzero : integer ≠ 0) : value.truthy = true := by
  cases value with
  | object toPrimitive => rfl
  | primitive value =>
      cases value with
      | number value => exact truthy_number isInteger nonzero
      | _ => cases isNumber

example : (JsValue.string " 4.04e2\n").integer? = some 404 := by decide +kernel

end WorkflowHub.Gateway
