import WorkflowHub.Throttling.ControlFlow

/-!
# The guards of a protected route

`JwtAuthGuard` authenticates a request and sets its user. It is attached to controllers, while
`RedisThrottlerGuard` is a guard of the application, and Nest asks the guards of the application
first. So the throttler is asked about a request whose user is not set yet, and it goes by the
address of the client (`throttled_key`).
-/

set_option autoImplicit false

namespace WorkflowHub.Guards

open Processes
open Throttling (Config Env Method Op ThrottleOptions World)

/-! ## Requests -/

/-- What a token vouches for. -/
structure Payload where
  id : String
  deriving DecidableEq, Repr

/-- What the guards read of a request as it arrives. -/
structure Arrival where
  authorization : Option String := none
  forwardedFor : Option String := none
  ip : Option String := none
  remoteAddress : Option String := none
  routePath : Option String := none
  url : String := ""
  deriving DecidableEq, Repr

/-- A request on its way through the guards. -/
structure Request extends Arrival where
  user : Option Payload := none
  deriving DecidableEq, Repr

/-- A request to a route, with what `@Throttle` attaches to the handler and the controller. -/
structure Call where
  config : Config := {}
  handler : Option ThrottleOptions := none
  controller : Option ThrottleOptions := none
  arrival : Arrival
  deriving DecidableEq, Repr

/-- What the throttler reads of a request. -/
def Request.metered (request : Request) : Throttling.Request where
  userId := request.user.map (·.id)
  forwardedFor := request.forwardedFor
  ip := request.ip
  remoteAddress := request.remoteAddress
  routePath := request.routePath
  url := request.url

/-- The request as the first guard gets it. -/
def Call.request (call : Call) : Request := { toArrival := call.arrival }

/-! ## Guards -/

/-- A guard says whether the request may go on, and may have set its user. -/
abbrev Guard : Type := Call → Request → Method (Bool × Request)

def redisThrottlerGuard : Guard := fun call request => do
  let admitted ← Throttling.canActivate call.config
    { type := .http, handler := call.handler, controller := call.controller
      request := request.metered }
  return (admitted, request)

/-- `text.split(' ')[1]`. -/
def secondPart (text : String) : Option String :=
  match text.toList.dropWhile (· ≠ ' ') with
  | [] => none
  | _ :: rest => some (.ofList (rest.takeWhile (· ≠ ' ')))

def unauthorized (message : String) : Thrown := .httpException 401 message

/-- What Nest throws when a guard says no. -/
def forbidden : Thrown := .httpException 403 "Forbidden resource"

section Authentication

variable (verify : String → Except Thrown Payload)

/-- `canActivate` of `JwtAuthGuard`, which returns `true` or throws. `verify` is what the service
for tokens makes of one. -/
def JwtAuthGuard.canActivate (request : Request) : Except Thrown Request := do
  if !truthy request.authorization then
    throw (unauthorized "Token missing")
  let token := secondPart (interpolated request.authorization)
  if !truthy token then
    throw (unauthorized "Invalid token")
  try
    let payload ← verify (interpolated token)
    return { request with user := some payload }
  catch _ =>
    throw (unauthorized "Invalid token")

def jwtAuthGuard : Guard := fun _ request => do
  let request ← ofExcept (JwtAuthGuard.canActivate verify request)
  return (true, request)

/-- Nest asks the guards one after the other. -/
def tryActivate : List Guard → Call → Request → Method Request
  | [], _, request => pure request
  | guard :: guards, call, request => do
      let (admitted, request) ← guard call request
      if admitted then tryActivate guards call request
      else throw forbidden

/-- The guards with the token `APP_GUARD`. -/
def appGuards : List Guard := [redisThrottlerGuard]

/-- The guards a protected controller has with `@UseGuards`. -/
def controllerGuards : List Guard := [jwtAuthGuard verify]

/-- The code of the requests, up to the handler of the route. -/
def programs : Flow (promises Op Op.Value Thrown) Unit Call
    (Suspended (promises Op Op.Value Thrown) Unit (Except Thrown Request))
    (Except Thrown Request) :=
  .ofPrograms fun call => (tryActivate (appGuards ++ controllerGuards verify) call call.request).run

/-- Whose valid token the request carries, if it carries one. -/
def Call.bearer (call : Call) : Option String :=
  match JwtAuthGuard.canActivate verify call.request with
  | .ok request => request.user.map (·.id)
  | .error _ => none

end Authentication

/-! ## The system -/

def site : Site (promises Op Op.Value Thrown) Unit World Call (Except Thrown Request) Outcome Env where
  load _ _ := ()
  store world _ _ := world
  start world _ _ := some world
  exec world pid _ := Throttling.exec world pid
  finish world _ _ _ := world
  crash world _ _ := world
  env := Throttling.site.env

abbrev State : Type :=
  Pool World Call (Suspended (promises Op Op.Value Thrown) Unit (Except Thrown Request))
    (Except Thrown Request)

/-- What a state shows: the world, and what each request awaits. -/
abbrev View : Type := Pool World Call Op (Except Thrown Request)

abbrev Happening : Type := Event Call Outcome Env

abbrev step (verify : String → Except Thrown Payload) : State → Happening → Option State :=
  Pool.step site (programs verify)

/-- The guards have let the request through to the handler of the route. -/
def Admitted {Pc : Type} : Slot Call Pc (Except Thrown Request) → Bool
  | .finished _ (.ok _) => true
  | _ => false

@[simp] theorem admitted_observe {S : Signature} {Pc : Type} (op : Call → Pc → S.Op)
    (slot : Slot Call Pc (Except Thrown Request)) :
    Admitted (slot.observe op) = Admitted slot := by
  cases slot with
  | finished call out =>
      cases out with
      | _ => rfl
  | _ => rfl

/-! ## Program points -/

/-- What the throttler is asked about. -/
def Call.throttled (call : Call) : Throttling.Call where
  config := call.config
  context :=
    { type := .http, handler := call.handler, controller := call.controller
      request := call.request.metered }

def Call.options (call : Call) : ThrottleOptions := call.throttled.options

/-- The key a request is counted under. -/
def Call.key (call : Call) : String := call.throttled.key

/-- **The throttler knows no users.** It counts every request under the address of its client. -/
theorem throttled_key (call : Call) :
    call.key = "throttle:" ++
      interpolated (jsOr call.arrival.routePath (some call.arrival.url)) ++ ":" ++
        ("ip:" ++ Throttling.firstAddress (interpolated (jsOr call.arrival.forwardedFor
          (jsOr call.arrival.ip (jsOr call.arrival.remoteAddress (some "unknown")))))) := rfl

/-- What the guards make of the answer of the throttler. -/
def afterThrottler (verify : String → Except Thrown Payload) (call : Call) :
    Except Thrown Bool → Except Thrown Request
  | .ok true => JwtAuthGuard.canActivate verify call.request
  | .ok false => .error forbidden
  | .error error => .error error

/-- The table of program points. -/
def flow (verify : String → Except Thrown Payload) : Flow (promises Op Op.Value Thrown) Unit Call
    Throttling.Pc (Except Thrown Request) :=
  Throttling.flow.andThen Call.throttled (afterThrottler verify)

/-- The guards of the controller await nothing. -/
theorem run_controllerGuards (verify : String → Except Thrown Payload) (call : Call)
    (request : Request) :
    (tryActivate (controllerGuards verify) call request).run () =
      .done (JwtAuthGuard.canActivate verify request) () := by
  simp only [controllerGuards, tryActivate, jwtAuthGuard]
  cases JwtAuthGuard.canActivate verify request with
  | error error => rfl
  | ok request => rfl

/-- The guards go on from the answer of the throttler. -/
theorem run_tryActivate (verify : String → Except Thrown Payload) (call : Call) :
    (tryActivate (appGuards ++ controllerGuards verify) call call.request).run () =
      ((Throttling.canActivate call.throttled.config call.throttled.context).run ()).bind
        fun out fields => .done (afterThrottler verify call out) fields := by
  refine (Resumption.bind_assoc _ _ _).trans (congrArg _ ?_)
  funext out _
  cases out with
  | error error => rfl
  | ok admitted =>
      cases admitted with
      | false => rfl
      | true => exact run_controllerGuards verify call call.request

/-- **The table of program points describes the guards.** -/
theorem implements (verify : String → Except Thrown Payload) : Implements (flow verify) fun call =>
    (tryActivate (appGuards ++ controllerGuards verify) call call.request).run := by
  intro call _
  show Tracks (flow verify) call _
    ((tryActivate (appGuards ++ controllerGuards verify) call call.request).run ())
  rw [run_tryActivate]
  exact (Throttling.implements call.throttled ()).andThen

end WorkflowHub.Guards
