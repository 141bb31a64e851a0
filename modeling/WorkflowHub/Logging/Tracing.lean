import WorkflowHub.Logging.RoundTrip
import WorkflowHub.Processes.Paths

/-!
# Correlation ids along a request

`HttpCorrelationMiddleware` gives a request its correlation id. The id goes with every gRPC call
(`getGrpcMetadata`) and with every message of `CorrelationIdClientRmq`, and
`RpcCorrelationIdInterceptor` takes it up again in the services whose handlers it wraps. Here
requests, calls and messages of all services interleave, and messages are lost and delivered
again. The id of a request reaches every handler of auth-service and task-service. The other two
services are hybrid applications: their handlers run without an id, and a message comes to them
with its envelope (`ids_traced`).
-/

set_option autoImplicit false

namespace WorkflowHub
namespace Logging

open Processes

/-! ## Requests and calls -/

/-- The value of a header: there may be none, or several. -/
inductive Header where
  | absent
  | value (text : String)
  | values (texts : List String)
  deriving DecidableEq, Repr

/-- The first value, if the header has one. -/
def Header.first? : Header → Option String
  | .absent => none
  | .value text => some text
  | .values texts => texts.head?

/-- `HttpCorrelationMiddleware.use`: the id it sets in the header of the response and in the
store the request is handled with, where `uuid` is what `randomUUID()` gives. -/
def HttpCorrelationMiddleware.use (header : Header) (uuid : String) : String :=
  match header.first? with
  | some correlationId => if correlationId = "" then uuid else correlationId
  | none => uuid

/-- `String(value)`, where `text` is what it gives for what is no string. -/
def written (text : Json → String) : Json → String
  | .string value => value
  | value => text value

/-- `getGrpcMetadata`, as the service that is called sees it. `metadata.add` tests the text of the
id, which is what goes over the wire, and throws unless it accepts this text. -/
def getGrpcMetadata (text : Json → String) (accepts : String → Bool) (store : Option Store) :
    Option RpcContext :=
  match getCorrelationId store with
  | some correlationId =>
      if Json.truthy (some correlationId) then
        if accepts (written text correlationId) then
          some (.metadata fun key =>
            some (if key = "x-correlation-id" then [written text correlationId] else []))
        else none
      else some (.metadata fun _ => some [])
  | none => some (.metadata fun _ => some [])

/-- The first correlation id in the metadata of gRPC, unless it is empty. -/
def RpcContext.id? : RpcContext → Option String
  | .metadata get => ((get "x-correlation-id").bind List.head?).filter (· ≠ "")
  | .absent | .message _ | .other => none

/-! ## The services -/

inductive Service where
  | auth
  | task
  | notification
  | analytics
  deriving DecidableEq, Repr

inductive Transport where
  | grpc
  | rmq
  | kafka
  deriving DecidableEq, Repr

/-- An application that `createMicroservice` makes, or one of `create` that is connected to its
transports with `connectMicroservice`. -/
inductive Application where
  | microservice (transport : Transport)
  | hybrid (transports : List Transport) (inheritAppConfig : Bool)

/-- `bootstrap`, in the `main.ts` of the service. -/
def Service.bootstrap : Service → Application
  | .auth => .microservice .grpc
  | .task => .microservice .grpc
  | .notification => .hybrid [.rmq, .kafka] false
  | .analytics => .hybrid [.grpc, .kafka] false

def Application.transports : Application → List Transport
  | .microservice transport => [transport]
  | .hybrid transports _ => transports

/-- Whether `useGlobalInterceptors` reaches the handlers of the transports. In a hybrid application
it does so only where they inherit its configuration. -/
def Application.intercepts : Application → Bool
  | .microservice _ => true
  | .hybrid _ inheritAppConfig => inheritAppConfig

theorem Service.intercepts_iff {service : Service} :
    service.bootstrap.intercepts = true ↔ service = .auth ∨ service = .task := by
  cases service <;> simp [Service.bootstrap, Application.intercepts]

/-- The other services are hybrid applications. -/
theorem Service.hybrid_iff {service : Service} :
    service = .notification ∨ service = .analytics ↔ ¬service.bootstrap.intercepts = true := by
  cases service <;> simp [Service.bootstrap, Application.intercepts]

/-- What a transport carries. No schema of gRPC has a field `_metadata`. -/
def Transport.carries : Transport → RpcContext → Json → Bool
  | .grpc, .metadata _, data => (data.field "_metadata").isNone
  | .rmq, .message _, _ | .kafka, .message _, _ => true
  | _, _, _ => false

/-- The service listens to the transport, which carries this. -/
def Fits (service : Service) (transport : Transport) (context : RpcContext) (data : Json) : Prop :=
  transport ∈ service.bootstrap.transports ∧ transport.carries context data = true

instance (service : Service) (transport : Transport) (context : RpcContext) (data : Json) :
    Decidable (Fits service transport context data) :=
  inferInstanceAs (Decidable (_ ∧ _))

/-! ## The system -/

/-- Where an id comes from: a request, a call of somebody else, or `randomUUID()`. -/
inductive Origin where
  | request (number : ℕ)
  | call (correlationId : String)
  | drawn (uuid : String)

/-- A call or a message on its way: the origin of the id it goes with, what arrives, and the
payload that was sent. -/
structure Parcel where
  service : Service
  transport : Transport
  origin : Option Origin
  context : RpcContext
  data : Json
  payload : Json
  fits : Fits service transport context data

def Parcel.post? (service : Service) (transport : Transport) (origin : Option Origin)
    (context : RpcContext) (data payload : Json) : Option Parcel :=
  if fits : Fits service transport context data then
    some { service, transport, origin, context, data, payload, fits }
  else none

/-- What the handler of a parcel runs with. -/
structure Handler where
  parcel : Parcel
  uuid : String
  data : Json
  store : Option Store

/-- The handler of a parcel, behind the interceptor or without it. -/
def Parcel.handler (parcel : Parcel) (uuid : String) : Handler :=
  if parcel.service.bootstrap.intercepts then
    { parcel, uuid
      data := (intercept parcel.context uuid parcel.data).data
      store := some (intercept parcel.context uuid parcel.data).store }
  else { parcel, uuid, data := parcel.data, store := none }

/-- What may call services and send messages. -/
inductive Context where
  | gateway (number : ℕ) (store : Store)
  | service (handler : Handler)

def Context.store : Context → Option Store
  | .gateway _ store => some store
  | .service handler => handler.store

/-- The origin of the id of a handler. -/
def Handler.origin (handler : Handler) : Option Origin :=
  if handler.parcel.service.bootstrap.intercepts then
    some (handler.parcel.origin.getD (.drawn handler.uuid))
  else none

def Context.origin : Context → Option Origin
  | .gateway number _ => some (.request number)
  | .service handler => handler.origin

structure Traffic where
  /-- The headers of the responses. -/
  responses : List String := []
  contexts : List Context := []
  parcels : List Parcel := []

inductive Hop where
  | request (header : Header) (uuid : String)
  | call (sender : ℕ) (service : Service) (data : Json)
  | send (sending : Sending) (sender : ℕ) (packet : Packet)
  | arrive (service : Service) (transport : Transport) (context : RpcContext) (data : Json)
  | deliver (parcel : ℕ) (uuid : String)

/-- The parcel of a hop that sends one. -/
def Traffic.parcel? (text : Json → String) (accepts : String → Bool) (traffic : Traffic) :
    Hop → Option Parcel
  | .call sender service data => do
      let context ← traffic.contexts[sender]?
      let metadata ← getGrpcMetadata text accepts context.store
      Parcel.post? service .grpc context.origin metadata data data
  | .send sending sender packet => do
      let context ← traffic.contexts[sender]?
      Parcel.post? .notification .rmq context.origin (.message fun _ => none)
        (sending.packet context.store packet).data packet.data
  | .arrive service transport context data =>
      Parcel.post? service transport (context.id?.map .call) context data data
  | .request .. | .deliver .. => none

/-- A request is admitted, a context calls a service over gRPC, which carries `data`, or sends a
message to notification-service, a call, a message or an event comes from elsewhere, or a parcel is
delivered, which may happen again. -/
def Traffic.step (text : Json → String) (accepts : String → Bool) (traffic : Traffic) :
    Hop → Option Traffic
  | .request header uuid =>
      let correlationId := HttpCorrelationMiddleware.use header uuid
      some { traffic with
        responses := traffic.responses ++ [correlationId]
        contexts := traffic.contexts ++
          [.gateway traffic.responses.length (.of correlationId)] }
  | .deliver index uuid => do
      let parcel ← traffic.parcels[index]?
      some { traffic with contexts := traffic.contexts ++ [.service (parcel.handler uuid)] }
  | hop => do
      let parcel ← traffic.parcel? text accepts hop
      some { traffic with parcels := traffic.parcels ++ [parcel] }

/-! ## What a hop does to an id -/

section Hops

variable {service : Service} {transport : Transport} {context : RpcContext} {data : Json}
  {store : Option Store} {text : Json → String} {accepts : String → Bool}

theorem Fits.metadata (fits : Fits service .grpc context data) :
    (∃ get, context = .metadata get) ∧ data.field "_metadata" = none := by
  obtain ⟨_, carried⟩ := fits
  cases context with
  | metadata get => exact ⟨⟨get, rfl⟩, Option.isNone_iff_eq_none.mp carried⟩
  | absent | message _ | other => cases carried

/-- Only calls over gRPC reach the interceptor. -/
theorem Fits.grpc (fits : Fits service transport context data)
    (intercepts : service.bootstrap.intercepts = true) : transport = .grpc := by
  obtain ⟨listens, _⟩ := fits
  cases service with
  | auth | task => exact List.mem_singleton.mp listens
  | notification | analytics => cases intercepts

/-- Only the metadata of a call has an id. -/
theorem id?_cases (fits : Fits service transport context data) {correlationId : String}
    (found : context.id? = some correlationId) : transport = .grpc ∧ correlationId ≠ "" := by
  obtain ⟨_, carried⟩ := fits
  cases context with
  | metadata get =>
      obtain ⟨_, given⟩ := Option.filter_eq_some_iff.mp found
      refine ⟨?_, by simpa using given⟩
      cases transport with
      | grpc => rfl
      | rmq | kafka => cases carried
  | absent | message _ | other => cases found

/-- The id of the context goes with a call. -/
theorem id?_of_metadata {correlationId : String}
    (held : getCorrelationId store = some (.string correlationId)) (given : correlationId ≠ "")
    (made : getGrpcMetadata text accepts store = some context) :
    context.id? = some correlationId := by
  have truthy : Json.truthy (some (.string correlationId)) = true := by
    simpa [Json.truthy] using given
  simp only [getGrpcMetadata, held, truthy, ↓reduceIte] at made
  split at made
  · rw [← Option.some.inj made]
    simp [RpcContext.id?, written, Option.filter_some, given]
  · cases made

/-- Without an id none goes with it. -/
theorem id?_of_missing (missing : getCorrelationId store = none)
    (made : getGrpcMetadata text accepts store = some context) : context.id? = none := by
  simp only [getGrpcMetadata, missing, Option.some.injEq] at made
  rw [← made]
  rfl

/-- The interceptor takes up the id of a call, and draws one where there is none. -/
theorem getCorrelationId_intercept_metadata (get : String → Option (List String)) (uuid : String)
    (plain : data.field "_metadata" = none) :
    getCorrelationId (some (intercept (.metadata get) uuid data).store) =
      some (.string ((RpcContext.metadata get).id?.getD uuid)) := by
  have carried : carriedId data = none := by
    rw [carriedId_eq, plain]
    rfl
  have held : (RpcContext.metadata get).correlationId =
      ((get "x-correlation-id").bind List.head?).map .string := Option.map_bind.symm
  simp only [getCorrelationId, intercept, Option.bind_some, Function.update_self, carried, held,
    RpcContext.id?]
  cases (get "x-correlation-id").bind List.head? with
  | none => rfl
  | some correlationId =>
      by_cases empty : correlationId = ""
      · simp [Json.truthy, Option.filter_some, empty]
      · simp [Json.truthy, Option.filter_some, empty]

end Hops

/-! ## Every step -/

/-- The id that belongs to an origin. -/
def Origin.correlationId (responses : List String) : Origin → Option String
  | .request number => responses[number]?
  | .call correlationId => some correlationId
  | .drawn uuid => some uuid

/-- `randomUUID()` gives a text. -/
def Draws (_ : Traffic) : Hop → Prop
  | .request _ uuid | .deliver _ uuid => uuid ≠ ""
  | .call .. | .send .. | .arrive .. => True

/-- The id belongs to the origin. -/
structure Belongs (responses : List String) (origin : Origin) (correlationId : String) : Prop where
  same : origin.correlationId responses = some correlationId
  given : correlationId ≠ ""

/-- The id goes with the parcel: in the metadata of a call, or in the envelope of a message. -/
def Parcel.Carries (parcel : Parcel) (correlationId : String) : Prop :=
  match parcel.transport with
  | .grpc => parcel.context.id? = some correlationId ∧ parcel.data = parcel.payload
  | .rmq | .kafka => parcel.data = enveloped (.string correlationId) parcel.payload

/-- The parcel carries the id of its origin, or none if it has no origin. -/
structure Parcel.Traced (responses : List String) (parcel : Parcel) : Prop where
  carries : ∀ origin, parcel.origin = some origin →
    ∃ correlationId, Belongs responses origin correlationId ∧ parcel.Carries correlationId
  bare : parcel.origin = none → parcel.context.id? = none ∧ parcel.data = parcel.payload

/-- What a handler runs with, and whose id it has. -/
structure Handler.Traced (responses : List String) (handler : Handler) : Prop where
  parcel : handler.parcel.Traced responses
  /-- Behind the interceptor: the payload, and the id that went with it, or a new one. -/
  intercepted : handler.parcel.service = .auth ∨ handler.parcel.service = .task →
    handler.data = handler.parcel.payload ∧ ∃ correlationId,
      Belongs responses (handler.parcel.origin.getD (.drawn handler.uuid)) correlationId ∧
        getCorrelationId handler.store = some (.string correlationId)
  /-- Without it: what has arrived, and no id. -/
  bare : handler.parcel.service = .notification ∨ handler.parcel.service = .analytics →
    handler.data = handler.parcel.data ∧ getCorrelationId handler.store = none

def Context.Traced (responses : List String) : Context → Prop
  | .gateway number store => ∃ correlationId,
      Belongs responses (.request number) correlationId ∧
        getCorrelationId (some store) = some (.string correlationId)
  | .service handler => handler.Traced responses

structure Traced (traffic : Traffic) : Prop where
  contexts : ∀ context ∈ traffic.contexts, context.Traced traffic.responses
  parcels : ∀ parcel ∈ traffic.parcels, parcel.Traced traffic.responses

section Steps

variable {responses : List String} {text : Json → String} {accepts : String → Bool}
  {before after : Traffic} {parcel : Parcel} {context : Context}

theorem Belongs.mono {origin : Origin} {correlationId : String} {more : List String}
    (belongs : Belongs responses origin correlationId) :
    Belongs (responses ++ more) origin correlationId := by
  refine ⟨?_, belongs.given⟩
  have same := belongs.same
  cases origin with
  | request number =>
      obtain ⟨bound, _⟩ := List.getElem?_eq_some_iff.mp same
      exact (List.getElem?_append_left bound).trans same
  | call _ => exact same
  | drawn _ => exact same

theorem Parcel.Traced.mono {more : List String} (traced : parcel.Traced responses) :
    parcel.Traced (responses ++ more) := by
  refine ⟨fun origin its => ?_, traced.bare⟩
  obtain ⟨correlationId, belongs, carries⟩ := traced.carries origin its
  exact ⟨correlationId, belongs.mono, carries⟩

theorem Context.Traced.mono {more : List String} (traced : context.Traced responses) :
    context.Traced (responses ++ more) := by
  cases context with
  | gateway number store =>
      obtain ⟨correlationId, belongs, held⟩ := traced
      exact ⟨correlationId, belongs.mono, held⟩
  | service handler =>
      obtain ⟨parcel, intercepted, bare⟩ := traced
      refine ⟨parcel.mono, fun service => ?_, bare⟩
      obtain ⟨data, correlationId, belongs, held⟩ := intercepted service
      exact ⟨data, correlationId, belongs.mono, held⟩

theorem use_ne_empty {header : Header} {uuid : String} (drawn : uuid ≠ "") :
    HttpCorrelationMiddleware.use header uuid ≠ "" := by
  unfold HttpCorrelationMiddleware.use
  split
  · split
    · exact drawn
    · assumption
  · exact drawn

/-! ### Parcels that are sent -/

theorem Parcel.post?_cases {service : Service} {transport : Transport} {origin : Option Origin}
    {rpc : RpcContext} {data payload : Json}
    (posted : Parcel.post? service transport origin rpc data payload = some parcel) :
    ∃ fits, parcel = ⟨service, transport, origin, rpc, data, payload, fits⟩ := by
  unfold Parcel.post? at posted
  split at posted
  · rename_i fits
    exact ⟨fits, (Option.some.inj posted).symm⟩
  · cases posted

/-- A context with an origin has its id. -/
theorem Context.Traced.identified (traced : context.Traced responses) {origin : Origin}
    (its : context.origin = some origin) :
    ∃ correlationId, Belongs responses origin correlationId ∧
      getCorrelationId context.store = some (.string correlationId) := by
  cases context with
  | gateway number store =>
      cases its
      exact traced
  | service handler =>
      simp only [Context.origin, Handler.origin, Service.intercepts_iff,
        Option.ite_none_right_eq_some, Option.some.injEq] at its
      obtain ⟨service, rfl⟩ := its
      exact (traced.intercepted service).2

/-- A context without an origin has no id. -/
theorem Context.Traced.anonymous (traced : context.Traced responses)
    (its : context.origin = none) : getCorrelationId context.store = none := by
  cases context with
  | gateway number store => cases its
  | service handler =>
      simp only [Context.origin, Handler.origin, ite_eq_right_iff, reduceCtorEq,
        imp_false] at its
      exact (traced.bare (Service.hybrid_iff.mpr its)).2

/-- A hop sends what its sender may send. -/
theorem Traced.sends (traced : Traced before) {hop : Hop}
    (sent : before.parcel? text accepts hop = some parcel) :
    parcel.Traced before.responses := by
  cases hop with
  | request header uuid => cases sent
  | deliver index uuid => cases sent
  | call sender service data =>
      simp only [Traffic.parcel?, Option.bind_eq_bind, Option.bind_eq_some_iff] at sent
      obtain ⟨context, there, metadata, made, posted⟩ := sent
      obtain ⟨_, rfl⟩ := Parcel.post?_cases posted
      have its := traced.contexts context (List.mem_of_getElem? there)
      constructor
      case carries =>
        intro origin mine
        obtain ⟨correlationId, belongs, held⟩ := its.identified mine
        exact ⟨correlationId, belongs, id?_of_metadata held belongs.given made, rfl⟩
      case bare =>
        intro missing
        exact ⟨id?_of_missing (its.anonymous missing) made, rfl⟩
  | send sending sender packet =>
      simp only [Traffic.parcel?, Option.bind_eq_bind, Option.bind_eq_some_iff] at sent
      obtain ⟨context, there, posted⟩ := sent
      obtain ⟨_, rfl⟩ := Parcel.post?_cases posted
      have its := traced.contexts context (List.mem_of_getElem? there)
      constructor
      case carries =>
        intro origin mine
        obtain ⟨correlationId, belongs, held⟩ := its.identified mine
        have given : Json.truthy (some (.string correlationId)) = true := by
          simpa [Json.truthy] using belongs.given
        refine ⟨correlationId, belongs, ?_⟩
        rw [Parcel.Carries, sending.packet_eq]
        exact correlated_of_some held given packet
      case bare =>
        intro missing
        refine ⟨rfl, ?_⟩
        rw [sending.packet_eq, correlated_of_not]
        rw [its.anonymous missing]
        exact Bool.false_ne_true
  | arrive service transport context data =>
      obtain ⟨fits, rfl⟩ := Parcel.post?_cases sent
      constructor
      case carries =>
        intro origin mine
        obtain ⟨correlationId, found, rfl⟩ := Option.map_eq_some_iff.mp mine
        obtain ⟨rfl, given⟩ := id?_cases fits found
        exact ⟨correlationId, ⟨rfl, given⟩, found, rfl⟩
      case bare =>
        intro missing
        exact ⟨Option.map_eq_none_iff.mp missing, rfl⟩

/-! ### Parcels that are delivered -/

/-- A call brings its payload, and its id if it has one. -/
theorem Parcel.Traced.call (traced : parcel.Traced responses) (grpc : parcel.transport = .grpc)
    {uuid : String} (drawn : uuid ≠ "") :
    parcel.data = parcel.payload ∧
      Belongs responses (parcel.origin.getD (.drawn uuid)) (parcel.context.id?.getD uuid) := by
  cases origin : parcel.origin with
  | none =>
      obtain ⟨missing, same⟩ := traced.bare origin
      rw [missing]
      exact ⟨same, rfl, drawn⟩
  | some origin' =>
      obtain ⟨correlationId, belongs, carries⟩ := traced.carries origin' origin
      rw [Parcel.Carries, grpc] at carries
      obtain ⟨found, same⟩ := carries
      rw [found]
      exact ⟨same, belongs⟩

theorem Parcel.Traced.handler (traced : parcel.Traced responses) {uuid : String}
    (drawn : uuid ≠ "") : (parcel.handler uuid).Traced responses := by
  unfold Parcel.handler
  split
  · rename_i intercepts
    refine ⟨traced, fun _ => ?_, fun hybrid => absurd intercepts (Service.hybrid_iff.mp hybrid)⟩
    have grpc := parcel.fits.grpc intercepts
    obtain ⟨⟨get, metadata⟩, plain⟩ := (grpc ▸ parcel.fits).metadata
    obtain ⟨same, belongs⟩ := traced.call grpc drawn
    refine ⟨?_, _, belongs, ?_⟩
    · rw [intercept_data, Json.erase_eq_self.mpr plain, same]
    · rw [metadata]
      exact getCorrelationId_intercept_metadata get uuid plain
  · rename_i bare
    exact ⟨traced, fun service => absurd (Service.intercepts_iff.mpr service) bare,
      fun _ => ⟨rfl, rfl⟩⟩

/-! ### Any hop -/

/-- Another parcel. -/
theorem Traced.posts (traced : Traced before) (its : parcel.Traced before.responses) :
    Traced { before with parcels := before.parcels ++ [parcel] } :=
  ⟨traced.contexts, List.forall_mem_append.mpr ⟨traced.parcels, List.forall_mem_singleton.mpr its⟩⟩

/-- Another context. -/
theorem Traced.runs (traced : Traced before) (its : context.Traced before.responses) :
    Traced { before with contexts := before.contexts ++ [context] } :=
  ⟨List.forall_mem_append.mpr ⟨traced.contexts, List.forall_mem_singleton.mpr its⟩, traced.parcels⟩

/-- A new request has the id of its response. -/
theorem Traced.request (traced : Traced before) (header : Header) {uuid : String}
    (drawn : uuid ≠ "") :
    Traced { before with
      responses := before.responses ++ [HttpCorrelationMiddleware.use header uuid]
      contexts := before.contexts ++ [.gateway before.responses.length
        (.of (HttpCorrelationMiddleware.use header uuid))] } := by
  have later : Traced { before with
      responses := before.responses ++ [HttpCorrelationMiddleware.use header uuid] } :=
    ⟨fun context found => (traced.contexts context found).mono,
      fun parcel found => (traced.parcels parcel found).mono⟩
  refine later.runs ⟨HttpCorrelationMiddleware.use header uuid, ⟨?_, use_ne_empty drawn⟩,
    getCorrelationId_of _⟩
  simp [Origin.correlationId]

theorem Traced.step (traced : Traced before) {hop : Hop} (draws : Draws before hop)
    (taken : before.step text accepts hop = some after) : Traced after := by
  cases hop with
  | request header uuid =>
      cases taken
      exact traced.request header draws
  | deliver index uuid =>
      obtain ⟨parcel, there, rfl⟩ := by
        simpa only [Traffic.step, Option.bind_eq_bind, Option.bind_eq_some_iff,
          Option.some.injEq] using taken
      have its : Context.Traced before.responses (.service (parcel.handler uuid)) :=
        (traced.parcels parcel (List.mem_of_getElem? there)).handler draws
      exact traced.runs its
  | call _ _ _ | send _ _ _ | arrive _ _ _ _ =>
      obtain ⟨parcel, sent, rfl⟩ := by
        simpa only [Traffic.step, Option.bind_eq_bind, Option.bind_eq_some_iff,
          Option.some.injEq] using taken
      exact traced.posts (traced.sends sent)

end Steps

/-- **Ids follow the requests, as far as the interceptor goes.** In every run, whatever goes with a
request over any number of calls, delivered in any order and any number of times, runs under the id
that was set in the response of this request as long as it runs in auth-service or task-service;
what goes back to no request runs there under the id of the call it goes back to, or one drawn for
it. A handler of notification-service or analytics-service runs under no id, and what it gets of a
message of `CorrelationIdClientRmq` is the envelope with the id of the sender. -/
theorem ids_traced (text : Json → String) (accepts : String → Bool) {traffic : Traffic}
    (ran : Path (Traffic.step text accepts) Draws {} traffic) {context : Context}
    (there : context ∈ traffic.contexts) : context.Traced traffic.responses := by
  have traced : Traced traffic := by
    refine ran.invariant ⟨List.forall_mem_nil _, List.forall_mem_nil _⟩ ?_
    exact fun before hop after draws holds taken => holds.step draws taken
  exact traced.contexts context there

namespace Sample

def payload : Json := .object [("userId", .string "u")]

/-- Two requests, the second with an id of its own, call task-service and send a message to
notification-service, whose handler sends another one. All are delivered, one of them twice. -/
def hops : List Hop :=
  [.request .absent "u1", .request (.value "mine") "u2", .call 1 .task (.object []),
    .call 0 .analytics (.object []), .deliver 0 "u3", .deliver 1 "u4",
    .send .publish 2 { pattern := "notify", data := payload }, .deliver 2 "u5", .deliver 2 "u6",
    .send .dispatchEvent 4 { pattern := "notify", data := payload }, .deliver 3 "u7"]

end Sample

/-- The theorem at a handler of task-service, and at the handlers of both messages. -/
theorem ids_traced_twice :
    ∃ traffic ∈ run (Traffic.step (fun _ => "") fun _ => true) {} Sample.hops,
      traffic.responses = ["u1", "mine"] ∧
      ∃ task first second, traffic.contexts[2]? = some (.service task) ∧
        traffic.contexts[5]? = some (.service first) ∧
        traffic.contexts[6]? = some (.service second) ∧
        task.origin = some (.request 1) ∧ first.parcel.origin = some (.request 1) ∧
        first.data = enveloped (.string "mine") Sample.payload ∧
        second.parcel.origin = none ∧ second.data = Sample.payload ∧
        task.Traced traffic.responses ∧ first.Traced traffic.responses ∧
          second.Traced traffic.responses := by
  have draws : Meets (Traffic.step (fun _ => "") fun _ => true) Draws {} Sample.hops := by
    refine Meets.of_forall ?_
    simp [Sample.hops, Draws]
  obtain ⟨traffic, ran⟩ : ∃ traffic,
      run (Traffic.step (fun _ => "") fun _ => true) {} Sample.hops = some traffic := ⟨_, rfl⟩
  have traced (context : Context) (there : context ∈ traffic.contexts) :
      context.Traced traffic.responses :=
    ids_traced (fun _ => "") (fun _ => true) (.of_run ran draws) there
  cases ran
  exact ⟨_, rfl, rfl, _, _, _, rfl, rfl, rfl, rfl, rfl, rfl, rfl, rfl,
    traced _ (List.mem_of_getElem? (i := 2) rfl), traced _ (List.mem_of_getElem? (i := 5) rfl),
    traced _ (List.mem_of_getElem? (i := 6) rfl)⟩

end Logging
end WorkflowHub
