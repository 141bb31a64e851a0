import Mathlib.Data.Rat.Defs

/-!
# JSON values

What a message carries over a transport, with the operations of the language on such a
value: truthiness, `typeof`, reading a field, the spread of a value into an object, setting
a field and deleting it. `undefined` is no JSON value; where one may stand, the value is
optional.
-/

set_option autoImplicit false

namespace WorkflowHub

/-- A JSON value: a number is given by its value, an object by its fields in their order. -/
inductive Json where
  | null
  | boolean (value : Bool)
  | number (value : ℚ)
  | string (text : String)
  | array (items : List Json)
  | object (fields : List (String × Json))

/-! ## Fields -/

namespace Fields

variable {Value : Type}

/-- `{ ...fields, [key]: value }`: a field that is there keeps its place. -/
def assign : List (String × Value) → String → Value → List (String × Value)
  | [], key, value => [(key, value)]
  | (name, old) :: rest, key, value =>
      if name = key then (name, value) :: rest else (name, old) :: assign rest key value

/-- `delete fields[key]`. -/
def erase (fields : List (String × Value)) (key : String) : List (String × Value) :=
  fields.filter fun field => field.1 ≠ key

@[simp] theorem lookup_assign (fields : List (String × Value)) (key : String) (value : Value) :
    (assign fields key value).lookup key = some value := by
  induction fields with
  | nil => simp [assign]
  | cons field rest ih =>
      obtain ⟨name, old⟩ := field
      by_cases same : name = key
      · simp [assign, same]
      · have other : (key == name) = false := by simpa using Ne.symm same
        simp [assign, same, List.lookup_cons, other, ih]

/-- Deleting a field forgets what was assigned to it. -/
@[simp] theorem erase_assign (fields : List (String × Value)) (key : String) (value : Value) :
    erase (assign fields key value) key = erase fields key := by
  induction fields with
  | nil => simp [assign, erase]
  | cons field rest ih =>
      obtain ⟨name, old⟩ := field
      by_cases same : name = key
      · simp [assign, erase, same]
      · simp only [erase, assign, if_neg same, List.filter_cons] at ih ⊢
        rw [ih]

/-- Deleting changes nothing exactly when the field is not there. -/
theorem erase_eq_self {fields : List (String × Value)} {key : String} :
    erase fields key = fields ↔ fields.lookup key = none := by
  rw [erase, List.filter_eq_self, List.lookup_eq_none_iff]
  constructor
  · intro others field inside
    have other := others field inside
    simp only [ne_eq, decide_eq_true_eq] at other
    simpa using Ne.symm other
  · intro others field inside
    have other := others field inside
    simp only [bne_iff_ne, ne_eq] at other
    simpa using Ne.symm other

end Fields

namespace Json

/-- The truthiness of a value that may be `undefined`. -/
def truthy : Option Json → Bool
  | none | some .null => false
  | some (.boolean value) => value
  | some (.number value) => value ≠ 0
  | some (.string text) => text ≠ ""
  | some (.array _) | some (.object _) => true

/-- `typeof value === 'object'`. -/
def typeofObject : Json → Bool
  | .null | .array _ | .object _ => true
  | .boolean _ | .number _ | .string _ => false

/-- `value?.[key]` for a key that is no index and no name of a prototype. -/
def field : Json → String → Option Json
  | .object fields, key => fields.lookup key
  | _, _ => none

/-- `delete value[key]`, for such a key. -/
def erase : Json → String → Json
  | .object fields, key => .object (Fields.erase fields key)
  | value, _ => value

/-- The code units of a string, each a string of its own. The two halves of a surrogate pair
are no text by themselves and stand here as U+FFFD. -/
def codeUnits (text : String) : List String :=
  text.toList.flatMap fun character =>
    if character.val < 0x10000 then [character.toString] else ["\uFFFD", "\uFFFD"]

/-- The own enumerable properties of a value that may be `undefined`: what `...value` puts
into an object. -/
def spread : Option Json → List (String × Json)
  | some (.object fields) => fields
  | some (.array items) => items.zipIdx.map fun (item, index) => (toString index, item)
  | some (.string text) =>
      (codeUnits text).zipIdx.map fun (unit, index) => (toString index, .string unit)
  | none | some .null | some (.boolean _) | some (.number _) => []

@[simp] theorem field_object (fields : List (String × Json)) (key : String) :
    (object fields).field key = fields.lookup key := rfl

@[simp] theorem erase_object (fields : List (String × Json)) (key : String) :
    (object fields).erase key = object (Fields.erase fields key) := rfl

/-- Deleting changes nothing exactly when the field is not there. -/
theorem erase_eq_self {value : Json} {key : String} :
    value.erase key = value ↔ value.field key = none := by
  cases value with
  | object fields => simp [Fields.erase_eq_self]
  | null | boolean _ | number _ | string _ | array _ => simp [erase, field]

end Json

end WorkflowHub
