import WorkflowHub.Logging.Correlation
import Mathlib.Logic.Function.Basic

/-!
# The round trip of a message

What a handler gets of a message that was sent by `CorrelationIdClientRmq` and received
through `RpcCorrelationIdInterceptor`. The correlation id of the sender always arrives. The
payload arrives unchanged when it is an object without a `_metadata` field; the interceptor
undoes neither the wrapping of a scalar nor the spread of an array, and it deletes a
`_metadata` field of the payload itself.
-/

set_option autoImplicit false

namespace WorkflowHub
namespace Logging

/-- The two methods of the client that send a packet. -/
inductive Sending where
  | publish
  | dispatchEvent
  deriving DecidableEq, Repr

/-- The packet a method hands on. -/
def Sending.packet : Sending → Option Store → Packet → Packet
  | .publish => Logging.publish
  | .dispatchEvent => Logging.dispatchEvent

theorem Sending.packet_eq (sending : Sending) : sending.packet = correlated := by
  cases sending <;> rfl

/-! ## What is in the envelope -/

/-- The interceptor deletes the metadata of whatever has some. -/
theorem intercept_data (context : RpcContext) (uuid : String) (data : Json) :
    (intercept context uuid data).data = data.erase "_metadata" := by
  cases data with
  | object fields => rfl
  | array items => rfl
  | null | boolean _ | number _ | string _ => simp [intercept, Json.erase]

theorem carriedId_eq (data : Json) :
    carriedId data =
      (data.field "_metadata").bind fun metadata => metadata.field "correlationId" := by
  cases data with
  | object fields =>
      have seen : (Json.truthy (some (.object fields)) && (Json.object fields).typeofObject)
          = true := rfl
      rw [carriedId, if_pos seen]
      exact ite_self _
  | null | boolean _ | number _ | string _ | array _ => simp [carriedId, Json.field]

/-- The metadata of an envelope carries the correlation id. -/
theorem carriedId_enveloped (correlationId data : Json) :
    carriedId (enveloped correlationId data) = some correlationId := by
  rw [carriedId_eq]
  unfold enveloped
  split
  · simp
  · simp [List.lookup_cons]

/-- What is left of an envelope when its metadata is deleted. -/
theorem erase_enveloped (correlationId data : Json) :
    (enveloped correlationId data).erase "_metadata" =
      if Json.truthy (some data) && data.typeofObject then
        .object (Fields.erase (Json.spread (some data)) "_metadata")
      else .object [("payload", data)] := by
  unfold enveloped
  split
  · simp
  · simp [Fields.erase]

/-- The payload is left exactly when it was an object without metadata. -/
theorem erase_enveloped_eq_self {correlationId data : Json} :
    (enveloped correlationId data).erase "_metadata" = data ↔
      ∃ fields, data = .object fields ∧ fields.lookup "_metadata" = none := by
  rw [erase_enveloped]
  cases data with
  | object fields => simp [Json.truthy, Json.typeofObject, Json.spread, Fields.erase_eq_self]
  | array items => simp [Json.truthy, Json.typeofObject]
  | null => simp [Json.truthy]
  | boolean _ | number _ | string _ => simp [Json.typeofObject]

/-! ## What the handler gets -/

/-- **The correlation id of a message arrives**, whatever its payload is. -/
theorem getCorrelationId_intercept {correlationId data : Json} (context : RpcContext)
    (uuid : String) (carried : carriedId data = some correlationId)
    (given : Json.truthy (some correlationId) = true) :
    getCorrelationId (some (intercept context uuid data).store) = some correlationId := by
  simp [getCorrelationId, intercept, carried, given]

/-- What the client sends under a correlation id. -/
theorem correlated_of_some {store : Option Store} {correlationId : Json}
    (held : getCorrelationId store = some correlationId)
    (given : Json.truthy (some correlationId) = true) (packet : Packet) :
    (correlated store packet).data = enveloped correlationId packet.data := by
  simp [correlated, held, given]

/-- Without a correlation id the client sends the packet as it is. -/
theorem correlated_of_not {store : Option Store}
    (missing : ¬Json.truthy (getCorrelationId store) = true) (packet : Packet) :
    correlated store packet = packet := by
  unfold correlated
  split
  · rename_i correlationId held
    rw [held] at missing
    simp [missing]
  · rfl

/-- The message arrives: whatever the context of the call and the id the interceptor may
draw, the handler gets the payload that was sent, and runs under the correlation id of the
sender if there is one. -/
structure RoundTrip (sending : Sending) (store : Option Store) (packet : Packet) : Prop where
  payload : ∀ (context : RpcContext) (uuid : String),
    (intercept context uuid (sending.packet store packet).data).data = packet.data
  correlationId : ∀ (context : RpcContext) (uuid : String) (correlationId : Json),
    getCorrelationId store = some correlationId → Json.truthy (some correlationId) = true →
      getCorrelationId
          (some (intercept context uuid (sending.packet store packet).data).store) =
        some correlationId

/-- The payloads that survive: with a correlation id in the context of the sender, the
objects that have no `_metadata` field; without one, everything that has none. -/
def Survives (store : Option Store) (payload : Json) : Prop :=
  payload.field "_metadata" = none ∧
    (Json.truthy (getCorrelationId store) = true → ∃ fields, payload = .object fields)

/-- **The round trip**: for either method, every store and every packet, the message arrives
exactly when its payload survives. -/
theorem roundTrip_iff (sending : Sending) (store : Option Store) (packet : Packet) :
    RoundTrip sending store packet ↔ Survives store packet.data := by
  unfold Survives
  constructor
  · intro trip
    have arrived := trip.payload .absent ""
    rw [intercept_data, sending.packet_eq] at arrived
    by_cases given : Json.truthy (getCorrelationId store) = true
    · obtain ⟨correlationId, held⟩ : ∃ correlationId,
          getCorrelationId store = some correlationId := by
        cases held : getCorrelationId store with
        | none => rw [held] at given; cases given
        | some correlationId => exact ⟨correlationId, rfl⟩
      rw [held] at given
      rw [correlated_of_some held given, erase_enveloped_eq_self] at arrived
      obtain ⟨fields, same, without⟩ := arrived
      rw [same]
      exact ⟨without, fun _ => ⟨fields, rfl⟩⟩
    · rw [correlated_of_not given, Json.erase_eq_self] at arrived
      exact ⟨arrived, fun there => absurd there given⟩
  · rintro ⟨without, plain⟩
    constructor
    · intro context uuid
      rw [intercept_data, sending.packet_eq]
      by_cases given : Json.truthy (getCorrelationId store) = true
      · obtain ⟨fields, same⟩ := plain given
        rw [same] at without
        cases held : getCorrelationId store with
        | none => rw [held] at given; cases given
        | some correlationId =>
            rw [held] at given
            rw [correlated_of_some held given]
            exact erase_enveloped_eq_self.mpr ⟨fields, same, without⟩
      · rw [correlated_of_not given]
        exact Json.erase_eq_self.mpr without
    · intro context uuid correlationId held given
      rw [sending.packet_eq, correlated_of_some held given]
      exact getCorrelationId_intercept context uuid (carriedId_enveloped _ _) given

/-- A store that holds a correlation id. -/
def Store.of (correlationId : String) : Store :=
  Function.update (fun _ => none) "correlationId" (some (.string correlationId))

@[simp] theorem getCorrelationId_of (correlationId : String) :
    getCorrelationId (some (.of correlationId)) = some (.string correlationId) := by
  simp [getCorrelationId, Store.of]

/-- A string is wrapped and never unwrapped: the handler gets `{ payload: 'done' }`. -/
theorem not_always_roundTrip :
    ¬∀ (sending : Sending) (store : Option Store) (packet : Packet),
      (getCorrelationId store = none ∨ ∃ correlationId, correlationId ≠ "" ∧
        getCorrelationId store = some (.string correlationId)) →
      RoundTrip sending store packet := by
  intro arrives
  have arrived := (arrives .dispatchEvent (some (.of "c1"))
    { pattern := "notify", data := .string "done" }
    (.inr ⟨"c1", by decide, getCorrelationId_of "c1"⟩)).payload .absent ""
  rw [intercept_data, Sending.packet_eq, correlated_of_some (getCorrelationId_of "c1") rfl,
    erase_enveloped] at arrived
  cases arrived

end Logging
end WorkflowHub
