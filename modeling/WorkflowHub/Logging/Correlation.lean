import WorkflowHub.Platform.Json

/-!
# Correlation ids

`contextStorage` holds the correlation id of the request that is being handled.
`CorrelationIdClientRmq` puts it into every message it sends, and
`RpcCorrelationIdInterceptor` takes it out again before a handler runs that it wraps.
-/

set_option autoImplicit false

namespace WorkflowHub
namespace Logging

/-! ## The context -/

/-- The map of `contextStorage`. -/
abbrev Store := String → Option Json

/-- `getCorrelationId`, in what `contextStorage.getStore()` gives. -/
def getCorrelationId (store : Option Store) : Option Json :=
  store.bind fun entries => entries "correlationId"

/-! ## The client -/

/-- A packet of the client. -/
structure Packet where
  pattern : String
  data : Json
  id : Option String := none

/-- The data of a packet as both methods of the client rewrite it. -/
def enveloped (correlationId data : Json) : Json :=
  if Json.truthy (some data) && data.typeofObject then
    .object (Fields.assign (Json.spread (some data)) "_metadata"
      (.object (Fields.assign (Json.spread (data.field "_metadata"))
        "correlationId" correlationId)))
  else
    .object [("payload", data), ("_metadata", .object [("correlationId", correlationId)])]

/-- A packet with the correlation id of the context, if there is one. -/
def correlated (store : Option Store) (packet : Packet) : Packet :=
  match getCorrelationId store with
  | some correlationId =>
      if Json.truthy (some correlationId) then
        { packet with data := enveloped correlationId packet.data }
      else packet
  | none => packet

/-- `CorrelationIdClientRmq.publish`: the packet it hands to `super.publish`. -/
def publish (store : Option Store) (packet : Packet) : Packet := correlated store packet

/-- `CorrelationIdClientRmq.dispatchEvent`: the packet it hands to `super.dispatchEvent`. -/
def dispatchEvent (store : Option Store) (packet : Packet) : Packet := correlated store packet

/-! ## The interceptor -/

/-- What `getContext()` gives: nothing, a context with `get`, which is the metadata of gRPC,
one with `getMessage`, whose message may have headers, or one with neither. -/
inductive RpcContext where
  | absent
  | metadata (get : String → Option (List String))
  | message (header : String → Option Json)
  | other

/-- The correlation id the context of the call carries. -/
def RpcContext.correlationId : RpcContext → Option Json
  | .metadata get => (get "x-correlation-id").bind fun ids => ids.head?.map .string
  | .message header => header "x-correlation-id"
  | .absent | .other => none

/-- What the handler runs with: the data, and the store of its context. -/
structure Handled where
  data : Json
  store : Store

/-- The correlation id that the data itself carries. -/
def carriedId (data : Json) : Option Json :=
  if Json.truthy (some data) && data.typeofObject then
    let correlationId := (data.field "_metadata").bind fun metadata =>
      metadata.field "correlationId"
    if !Json.truthy correlationId && (data.field "payload").isSome
        && Json.truthy (data.field "_metadata") then
      (data.field "_metadata").bind fun metadata => metadata.field "correlationId"
    else correlationId
  else none

/-- `RpcCorrelationIdInterceptor.intercept`, where `uuid` is what `randomUUID()` gives. -/
def intercept (context : RpcContext) (uuid : String) (data : Json) : Handled :=
  let cleaned :=
    if Json.truthy (some data) && data.typeofObject then data.erase "_metadata" else data
  let carried := carriedId data
  let found := if Json.truthy carried then carried else context.correlationId
  let correlationId := if Json.truthy found then found else some (.string uuid)
  { data := cleaned, store := Function.update (fun _ => none) "correlationId" correlationId }

end Logging
end WorkflowHub
