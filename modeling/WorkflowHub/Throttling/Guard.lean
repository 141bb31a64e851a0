import WorkflowHub.Platform.Values
import WorkflowHub.Processes.Handler
import Mathlib.Data.Int.Notation
import Mathlib.Data.Nat.Notation

/-!
# `RedisThrottlerGuard`

The guard of the gateway that meters requests: it counts the requests of a client on a route
under a key in Redis, and rejects those beyond the limit. It reads the count with `INCR` and
gives a key without a time of expiry one; these are separate commands. When a command fails,
it lets the request through.
-/

set_option autoImplicit false

namespace WorkflowHub.Throttling

open Processes

/-! ## Requests -/

/-- What `@Throttle` attaches to a handler or a controller. -/
structure ThrottleOptions where
  limit : ℤ
  ttl : ℤ
  deriving DecidableEq, Repr

/-- The numbers the environment sets, if it does. -/
structure Config where
  API_GATEWAY_THROTTLE_LIMIT : Option ℤ := none
  API_GATEWAY_THROTTLE_TTL : Option ℤ := none
  deriving DecidableEq, Repr

/-- What the guard reads of a request. -/
structure Request where
  userId : Option String := none
  forwardedFor : Option String := none
  ip : Option String := none
  remoteAddress : Option String := none
  routePath : Option String := none
  url : String := ""
  deriving DecidableEq, Repr

inductive ContextType where
  | http
  | rpc
  | ws
  deriving DecidableEq, Repr

/-- The request a guard is asked about, with the metadata of its handler and its controller. -/
structure ExecutionContext where
  type : ContextType
  handler : Option ThrottleOptions := none
  controller : Option ThrottleOptions := none
  request : Request
  deriving DecidableEq, Repr

/-! ## Operations -/

/-- What the guard awaits. -/
inductive Op where
  | incr (key : String)
  | ttl (key : String)
  | expire (key : String) (seconds : ℤ)
  deriving DecidableEq

/-- What each operation resolves with. -/
def Op.Value : Op → Type
  | .incr _ => ℕ
  | .ttl _ => ℤ
  | .expire .. => ℕ

/-- The key of a command. -/
def Op.key : Op → String
  | .incr key => key
  | .ttl key => key
  | .expire key _ => key

abbrev Method := Handler Op Op.Value Thrown Unit

def redis.incr (key : String) : Method ℕ := await (Op.incr key)

def redis.ttl (key : String) : Method ℤ := await (Op.ttl key)

def redis.expire (key : String) (seconds : ℤ) : Method ℕ := await (Op.expire key seconds)

/-! ## The guard -/

/-- The characters `trim` removes: white space and the ends of lines. -/
def whiteSpace (char : Char) : Bool :=
  let code := char.toNat
  (9 ≤ code && code ≤ 13) || code = 0x20 || code = 0xA0 || code = 0x1680 ||
    (0x2000 ≤ code && code ≤ 0x200A) || code = 0x2028 || code = 0x2029 || code = 0x202F ||
    code = 0x205F || code = 0x3000 || code = 0xFEFF

/-- `text.trim()`. -/
def trim (text : List Char) : List Char :=
  ((text.dropWhile whiteSpace).reverse.dropWhile whiteSpace).reverse

/-- `ip.split(',')[0].trim()`. -/
def firstAddress (ip : String) : String :=
  .ofList (trim (ip.toList.takeWhile (· ≠ ',')))

/-- `getClientIdentifier`. -/
def getClientIdentifier (request : Request) : String :=
  if truthy request.userId then
    "user:" ++ interpolated request.userId
  else
    let ip := jsOr request.forwardedFor
      (jsOr request.ip (jsOr request.remoteAddress (some "unknown")))
    "ip:" ++ firstAddress (interpolated ip)

/-- The options the guard goes by: those of the handler, else of the controller, else of the
configuration. -/
def throttleOptions (config : Config) (context : ExecutionContext) : ThrottleOptions :=
  (context.handler <|> context.controller).getD
    { limit := config.API_GATEWAY_THROTTLE_LIMIT.getD 60
      ttl := config.API_GATEWAY_THROTTLE_TTL.getD 60 }

/-- The key the guard counts a request under. -/
def redisKey (request : Request) : String :=
  "throttle:" ++ interpolated (jsOr request.routePath (some request.url)) ++ ":" ++
    getClientIdentifier request

/-- The exception thrown beyond the limit; its body also has `error: 'Too Many Requests'`. -/
def tooManyRequests : Thrown :=
  .httpException 429 "Too many requests, please try again later."

def canActivate (config : Config) (context : ExecutionContext) : Method Bool := do
  if context.type ≠ .http then
    return true
  let options := throttleOptions config context
  let key := redisKey context.request
  try
    let currentRequests ← redis.incr key
    let ttl ← redis.ttl key
    if ttl = -1 then
      let _ ← redis.expire key options.ttl
    if (currentRequests : ℤ) > options.limit then
      throw tooManyRequests
  catch error =>
    -- The request is let through when Redis fails.
    if error.isHttpException then
      throw error
  return true

end WorkflowHub.Throttling
