import WorkflowHub.Gateway.HttpStatus
import WorkflowHub.Gateway.JsValues

/-!
# Every value as an HTTP error

`toHttpStatus` is called with whatever was thrown, so the five fields it reads may hold anything.
It answers with a proper HTTP error for all but three kinds of errors
(`proper_iff_wellFormed`): a status that is no HTTP error, a `status` that hides the `statusCode`,
and a timeout of the circuit breaker.
-/

set_option autoImplicit false

namespace WorkflowHub.Gateway

/-- What `toHttpStatus` reads of an error. An error that is `undefined` or `null` itself has
`undefined` for all of it. -/
structure ErrorValue where
  status : JsValue
  statusCode : JsValue
  code : JsValue
  name : JsValue
  message : JsValue
  deriving DecidableEq

namespace ErrorValue

/-! ## `toHttpStatus` -/

/-- `err?.status || err?.statusCode` is truthy. -/
def hasStatus (err : ErrorValue) : Bool := err.status.truthy || err.statusCode.truthy

/-- What the `switch` over the gRPC codes returns. -/
def codeStatus (err : ErrorValue) : Option ℕ :=
  match err.code with
  | .primitive (.number code) =>
      (integer? code).bind fun code => if 0 ≤ code then grpcStatus code.toNat else none
  | _ => none

/-- The errors of an open circuit breaker. -/
def isOpenCircuit (err : ErrorValue) : Bool :=
  err.name = .string "OpenCircuitError" || err.message = .string "The circuit is open" ||
    err.message = .string "Breaker is open" || err.code = .string "EOPENBREAKER"

/-- The status of an error that brings none along. -/
def mappedStatus (err : ErrorValue) : ℤ :=
  match err.codeStatus with
  | some status => status
  | none => if err.isOpenCircuit then 503 else 500

/-- The status that is returned, `none` if `Number` throws. -/
def toHttpStatus (err : ErrorValue) : Option ℤ :=
  if err.hasStatus then
    (err.status.coalesce err.statusCode).toNumber.map fun status =>
      (integer? status).getD err.mappedStatus
  else some err.mappedStatus

end ErrorValue

/-! ## Proper HTTP errors -/

/-- A status between 400 and 599. -/
def IsHttpError (status : ℤ) : Prop := 400 ≤ status ∧ status ≤ 599

/-- The value is a number, and a status between 400 and 599. -/
def JsValue.Holds (value : JsValue) (status : ℤ) : Prop :=
  value.isNumber = true ∧ value.integer? = some status ∧ IsHttpError status

/-- Read as a number, the value is a status between 400 and 599. -/
def JsValue.Carries (value : JsValue) : Prop :=
  ∃ status, value.integer? = some status ∧ IsHttpError status

namespace ErrorValue

/-- The error carries an HTTP status. -/
def Carries (err : ErrorValue) : Prop := err.status.Carries ∨ err.statusCode.Carries

/-- The error becomes a proper HTTP error. -/
structure Proper (err : ErrorValue) : Prop where
  returned : ∃ status, err.toHttpStatus = some status ∧ IsHttpError status
  status : ∀ status, err.status.Holds status → err.statusCode.isNumber = false →
    err.toHttpStatus = some status
  statusCode : ∀ status, err.statusCode.Holds status → err.status.isNumber = false →
    err.toHttpStatus = some status
  openCircuit : err.code = .string "EOPENBREAKER" → ¬err.Carries → err.toHttpStatus = some 503
  timeout : err.code = .string "ETIMEDOUT" → ¬err.Carries → err.toHttpStatus = some 504

/-- The value that is read as the status can be converted to a number, and if that is an integer,
it is the status of an HTTP error. -/
def Readable (err : ErrorValue) : Prop :=
  err.hasStatus = true →
    ∃ number, (err.status.coalesce err.statusCode).toNumber = some number ∧
      ∀ status, integer? number = some status → IsHttpError status

/-- The errors that do. The value that is read is `readable`; a `statusCode` is not hidden behind
a `status` that is no number; and no timeout of the circuit breaker comes without a status. -/
structure WellFormed (err : ErrorValue) : Prop where
  readable : err.Readable
  unhidden : ∀ status, err.statusCode.Holds status → err.status.isNumber = false →
    err.status.nullish = true ∨ err.status.integer? = some status ∨
      err.status.integer? = none ∧
        match err.codeStatus with
        | some mapped => (mapped : ℤ) = status
        | none => status = if err.isOpenCircuit then 503 else 500
  timeout : err.code = .string "ETIMEDOUT" → err.Carries

/-! ## The status that is returned -/

theorem grpcStatus_isHttpError {code status : ℕ} (mapped : grpcStatus code = some status) :
    IsHttpError status := by
  unfold grpcStatus at mapped
  split at mapped
  case h_7 => cases mapped
  all_goals
    obtain rfl := Option.some.inj mapped
    constructor
    · decide
    · decide

variable {err : ErrorValue} {status : ℤ} {number : Float.Model}

theorem codeStatus_isHttpError {mapped : ℕ} (codeStatus : err.codeStatus = some mapped) :
    IsHttpError mapped := by
  unfold ErrorValue.codeStatus at codeStatus
  split at codeStatus
  case h_1 code _ =>
    obtain ⟨code, -, codeStatus⟩ := Option.bind_eq_some_iff.mp codeStatus
    split at codeStatus
    · exact grpcStatus_isHttpError codeStatus
    · cases codeStatus
  case h_2 => cases codeStatus

theorem mappedStatus_of_code {mapped : ℕ} (codeStatus : err.codeStatus = some mapped) :
    err.mappedStatus = mapped := by
  simp only [mappedStatus, codeStatus]

theorem mappedStatus_of_no_code (codeStatus : err.codeStatus = none) :
    err.mappedStatus = if err.isOpenCircuit then 503 else 500 := by
  simp only [mappedStatus, codeStatus]

/-- An error that brings no status along gets one. -/
theorem mappedStatus_isHttpError (err : ErrorValue) : IsHttpError err.mappedStatus := by
  cases codeStatus : err.codeStatus with
  | some mapped =>
      rw [mappedStatus_of_code codeStatus]
      exact codeStatus_isHttpError codeStatus
  | none =>
      rw [mappedStatus_of_no_code codeStatus]
      split
      · constructor
        · decide
        · decide
      · constructor
        · decide
        · decide

theorem codeStatus_string {text : String} (code : err.code = .string text) :
    err.codeStatus = none := by
  simp only [codeStatus, code]

theorem toHttpStatus_of_hasStatus (hasStatus : err.hasStatus = true)
    (converts : (err.status.coalesce err.statusCode).toNumber = some number) :
    err.toHttpStatus = some ((integer? number).getD err.mappedStatus) := by
  simp only [toHttpStatus, hasStatus, if_true, converts, Option.map_some]

theorem toHttpStatus_of_no_status (hasStatus : err.hasStatus = false) :
    err.toHttpStatus = some err.mappedStatus := by
  simp [toHttpStatus, hasStatus]

theorem hasStatus_of_status (holds : err.status.Holds status) : err.hasStatus = true := by
  have nonzero : status ≠ 0 := by
    have := holds.2.2.1
    omega
  simp [hasStatus, JsValue.truthy_of_integer? holds.1 holds.2.1 nonzero]

theorem hasStatus_of_statusCode (holds : err.statusCode.Holds status) : err.hasStatus = true := by
  have nonzero : status ≠ 0 := by
    have := holds.2.2.1
    omega
  simp [hasStatus, JsValue.truthy_of_integer? holds.1 holds.2.1 nonzero]

/-- A value that is an integer is returned where it is the one that is read. -/
theorem toHttpStatus_of_integer (hasStatus : err.hasStatus = true)
    (isInteger : (err.status.coalesce err.statusCode).integer? = some status) :
    err.toHttpStatus = some status := by
  obtain ⟨number, converts, isInteger⟩ := Option.bind_eq_some_iff.mp isInteger
  rw [toHttpStatus_of_hasStatus hasStatus converts, isInteger]
  rfl

theorem returned_of_readable (readable : err.Readable) :
    ∃ status, err.toHttpStatus = some status ∧ IsHttpError status := by
  cases hasStatus : err.hasStatus with
  | false =>
      exact ⟨_, toHttpStatus_of_no_status hasStatus, mappedStatus_isHttpError err⟩
  | true =>
      obtain ⟨number, converts, isHttpError⟩ := readable hasStatus
      refine ⟨_, toHttpStatus_of_hasStatus hasStatus converts, ?_⟩
      cases isInteger : integer? number with
      | some status => exact isHttpError status isInteger
      | none => exact mappedStatus_isHttpError err

theorem readable_of_returned
    (returned : ∃ status, err.toHttpStatus = some status ∧ IsHttpError status) : err.Readable := by
  intro hasStatus
  obtain ⟨returned, toHttpStatus, isHttpError⟩ := returned
  cases converts : (err.status.coalesce err.statusCode).toNumber with
  | none => simp [ErrorValue.toHttpStatus, hasStatus, converts] at toHttpStatus
  | some number =>
      refine ⟨number, rfl, ?_⟩
      intro status isInteger
      have same : err.toHttpStatus = some status := by
        rw [toHttpStatus_of_hasStatus hasStatus converts, isInteger]
        rfl
      obtain rfl : status = returned := Option.some.inj (same.symm.trans toHttpStatus)
      exact isHttpError

theorem carries_of_coalesce (isHttpError : IsHttpError status)
    (isInteger : (err.status.coalesce err.statusCode).integer? = some status) : err.Carries := by
  rcases JsValue.coalesce_eq_or err.status err.statusCode with same | same
  · rw [same] at isInteger
    exact .inl ⟨status, isInteger, isHttpError⟩
  · rw [same] at isInteger
    exact .inr ⟨status, isInteger, isHttpError⟩

/-- An error that carries no status gets the one it is mapped to. -/
theorem toHttpStatus_of_not_carries (readable : err.Readable) (carries : ¬err.Carries) :
    err.toHttpStatus = some err.mappedStatus := by
  cases hasStatus : err.hasStatus with
  | false => exact toHttpStatus_of_no_status hasStatus
  | true =>
      obtain ⟨number, converts, isHttpError⟩ := readable hasStatus
      have noInteger : integer? number = none := by
        cases isInteger : integer? number with
        | none => rfl
        | some status =>
            apply absurd _ carries
            apply carries_of_coalesce (isHttpError status isInteger)
            rw [JsValue.integer?_eq converts, isInteger]
      rw [toHttpStatus_of_hasStatus hasStatus converts, noInteger]
      rfl

/-- A timeout of the circuit breaker is mapped to 503 or 500. -/
theorem mappedStatus_timeout (code : err.code = .string "ETIMEDOUT") : err.mappedStatus ≠ 504 := by
  rw [mappedStatus_of_no_code (codeStatus_string code)]
  split
  · decide
  · decide

/-- A timeout of the circuit breaker that is well formed brings its status along. -/
theorem carries_of_timeout (readable : err.Readable) (code : err.code = .string "ETIMEDOUT")
    (timeout : ¬err.Carries → err.toHttpStatus = some 504) : err.Carries := by
  rcases Classical.em err.Carries with carries | carries
  · exact carries
  · have mapped := toHttpStatus_of_not_carries readable carries
    rw [timeout carries] at mapped
    exact absurd (Option.some.inj mapped).symm (mappedStatus_timeout code)

/-- The status of a `statusCode` next to a `status` that is no number. -/
theorem toHttpStatus_of_statusCode (readable : err.Readable) (holds : err.statusCode.Holds status) :
    err.toHttpStatus = some status ↔
      err.status.nullish = true ∨ err.status.integer? = some status ∨
        err.status.integer? = none ∧ err.mappedStatus = status := by
  have hasStatus := hasStatus_of_statusCode holds
  cases nullish : err.status.nullish with
  | true =>
      have read : (err.status.coalesce err.statusCode).integer? = some status := by
        rw [JsValue.coalesce_of_nullish nullish]
        exact holds.2.1
      simp [toHttpStatus_of_integer hasStatus read]
  | false =>
      obtain ⟨number, converts, -⟩ := readable hasStatus
      have returned := toHttpStatus_of_hasStatus hasStatus converts
      rw [JsValue.coalesce_of_not_nullish nullish] at converts
      rw [returned, JsValue.integer?_eq converts]
      cases isInteger : integer? number with
      | some integer => simp
      | none => simp

theorem mappedStatus_eq_iff : err.mappedStatus = status ↔
    match err.codeStatus with
    | some mapped => (mapped : ℤ) = status
    | none => status = if err.isOpenCircuit then 503 else 500 := by
  cases codeStatus : err.codeStatus with
  | some mapped => rw [mappedStatus_of_code codeStatus]
  | none =>
      rw [mappedStatus_of_no_code codeStatus]
      exact eq_comm

/-- **An error becomes a proper HTTP error exactly if it is well formed.** -/
theorem proper_iff_wellFormed (err : ErrorValue) : err.Proper ↔ err.WellFormed := by
  constructor
  · intro proper
    have readable := readable_of_returned proper.returned
    refine ⟨readable, ?_, ?_⟩
    · intro status holds notNumber
      rw [← mappedStatus_eq_iff]
      exact (toHttpStatus_of_statusCode readable holds).mp
        (proper.statusCode status holds notNumber)
    · intro code
      exact carries_of_timeout readable code (proper.timeout code)
  · intro wellFormed
    have readable := wellFormed.readable
    refine ⟨returned_of_readable readable, ?_, ?_, ?_, ?_⟩
    · intro status holds _
      apply toHttpStatus_of_integer (hasStatus_of_status holds)
      rw [JsValue.coalesce_of_not_nullish (JsValue.nullish_of_isNumber holds.1)]
      exact holds.2.1
    · intro status holds notNumber
      rw [toHttpStatus_of_statusCode readable holds, mappedStatus_eq_iff]
      exact wellFormed.unhidden status holds notNumber
    · intro code carries
      rw [toHttpStatus_of_not_carries readable carries,
        mappedStatus_of_no_code (codeStatus_string code)]
      simp [isOpenCircuit, code]
    · intro code carries
      exact absurd (wellFormed.timeout code) carries

/-- The rejection of a call that took longer than the circuit breaker allows. -/
def timedOut : ErrorValue where
  status := .undefined
  statusCode := .undefined
  code := .string "ETIMEDOUT"
  name := .string "Error"
  message := .string "Timed out after 5000ms"

/-- A timeout is answered as an internal error. -/
theorem timedOut_not_proper : ¬timedOut.Proper := by
  intro proper
  have isTimeout : timedOut.toHttpStatus = some 504 := by
    apply proper.timeout rfl
    rintro (⟨status, isInteger, -⟩ | ⟨status, isInteger, -⟩)
    · cases isInteger
    · cases isInteger
  have internal : timedOut.toHttpStatus = some 500 := by decide +kernel
  rw [isTimeout] at internal
  cases internal

/-! ## The errors of the services -/

/-- What an error that a service or a client throws has in its fields. -/
def ofThrown : Thrown → ErrorValue
  | .error name message =>
      ⟨.undefined, .undefined, .undefined, .string name, .string message⟩
  | .rpcException _ message =>
      ⟨.undefined, .undefined, .undefined, .string "Error", .string message⟩
  | .httpException status message =>
      ⟨.number (.ofNat status), .undefined, .undefined, .string "HttpException", .string message⟩
  | .grpc code message =>
      ⟨.undefined, .undefined, .number (.ofNat code), .string "Error", .string message⟩
  | .coded code message =>
      ⟨.undefined, .undefined, .string code, .string "Error", .string message⟩
  | .remote statusCode message =>
      ⟨.undefined, .number (.ofNat statusCode), .undefined, .undefined, .string message⟩

theorem isOpenCircuit_ofThrown (thrown : Thrown) :
    (ofThrown thrown).isOpenCircuit = true ↔ thrown.OpenCircuit := by
  cases thrown with
  | _ => simp [ofThrown, isOpenCircuit, Thrown.OpenCircuit, Thrown.name, Thrown.message, or_assoc]

/-- The number is a double. -/
def Exact (number : ℕ) : Prop := integer? (.ofNat number) = some (number : ℤ)

theorem codeStatus_ofThrown {thrown : Thrown}
    (exact : ∀ code, thrown.grpcCode = some code → Exact code) :
    (ofThrown thrown).codeStatus = thrown.grpcCode.bind grpcStatus := by
  cases thrown with
  | grpc code message =>
      have exact : integer? (.ofNat code) = some (code : ℤ) := exact code rfl
      simp [ofThrown, codeStatus, Thrown.grpcCode, exact]
  | _ => rfl

/-- The status of an error without one is mapped alike. -/
theorem mappedStatus_ofThrown {thrown : Thrown}
    (exact : ∀ code, thrown.grpcCode = some code → Exact code)
    (noStatus : thrown.status.filter (· ≠ 0) = none) :
    (ofThrown thrown).mappedStatus = WorkflowHub.toHttpStatus thrown := by
  have codeStatus := codeStatus_ofThrown exact
  unfold WorkflowHub.toHttpStatus
  rw [noStatus, ← codeStatus]
  cases codeStatus : (ofThrown thrown).codeStatus with
  | some status => exact mappedStatus_of_code codeStatus
  | none =>
      rw [mappedStatus_of_no_code codeStatus]
      simp only [isOpenCircuit_ofThrown]
      split
      · rfl
      · rfl

/-- A number is truthy unless it is 0. -/
theorem truthy_ofNat {number : ℕ} (exact : Exact number) :
    (JsValue.number (.ofNat number)).truthy = decide (number ≠ 0) := by
  cases number with
  | zero => decide +kernel
  | succ number =>
      have nonzero : ((number + 1 : ℕ) : ℤ) ≠ 0 := by omega
      rw [truthy_number exact nonzero]
      rfl

theorem hasStatus_ofThrown {thrown : Thrown}
    (exact : ∀ status, thrown.status = some status → Exact status) :
    (ofThrown thrown).hasStatus = (thrown.status.filter (· ≠ 0)).isSome := by
  cases thrown with
  | httpException status message =>
      calc (ofThrown (.httpException status message)).hasStatus
          = ((JsValue.number (.ofNat status)).truthy || false) := rfl
        _ = decide (status ≠ 0) := by rw [truthy_ofNat (exact status rfl), Bool.or_false]
        _ = ((some status).filter (· ≠ 0)).isSome := by by_cases zero : status = 0 <;> simp [zero]
  | remote statusCode message =>
      calc (ofThrown (.remote statusCode message)).hasStatus
          = (JsValue.number (.ofNat statusCode)).truthy := rfl
        _ = decide (statusCode ≠ 0) := truthy_ofNat (exact statusCode rfl)
        _ = ((some statusCode).filter (· ≠ 0)).isSome := by
            by_cases zero : statusCode = 0 <;> simp [zero]
  | _ => rfl

/-- The value that is read is the status. -/
theorem coalesce_ofThrown {thrown : Thrown} {status : ℕ} (own : thrown.status = some status) :
    (ofThrown thrown).status.coalesce (ofThrown thrown).statusCode = .number (.ofNat status) := by
  cases thrown with
  | httpException status message =>
      obtain rfl := Option.some.inj own
      rfl
  | remote statusCode message =>
      obtain rfl := Option.some.inj own
      rfl
  | _ => cases own

/-- **`toHttpStatus` does with an error what it does with its fields.** -/
theorem toHttpStatus_ofThrown {thrown : Thrown}
    (exact : ∀ number, thrown.status = some number ∨ thrown.grpcCode = some number →
      Exact number) :
    (ofThrown thrown).toHttpStatus = some (WorkflowHub.toHttpStatus thrown : ℤ) := by
  have hasStatus := hasStatus_ofThrown fun status own => exact status (.inl own)
  cases own : thrown.status.filter (· ≠ 0) with
  | none =>
      rw [own] at hasStatus
      rw [toHttpStatus_of_no_status hasStatus,
        mappedStatus_ofThrown (fun code own => exact code (.inr own)) own]
  | some status =>
      rw [own] at hasStatus
      have isStatus : thrown.status = some status := Option.eq_some_of_filter_eq_some own
      have returned : (ofThrown thrown).toHttpStatus = some (status : ℤ) := by
        apply toHttpStatus_of_integer hasStatus
        rw [coalesce_ofThrown isStatus]
        exact exact status (.inl isStatus)
      rw [returned]
      unfold WorkflowHub.toHttpStatus
      rw [own]

example : (ofThrown (.httpException 404 "Not Found")).toHttpStatus = some 404 := by
  decide +kernel

end ErrorValue

end WorkflowHub.Gateway
