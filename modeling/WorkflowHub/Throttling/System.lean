import WorkflowHub.Platform.Redis
import WorkflowHub.Platform.Remote
import WorkflowHub.Processes.Tracking
import WorkflowHub.Throttling.FixedWindow
import WorkflowHub.Throttling.Guard

/-!
# The guard with its Redis

Any number of requests side by side, on any number of gateways: the guard keeps nothing but
what is in Redis, and a gateway may have a configuration of its own. One field of the world is
history: the lifetimes of each key, the latest first. A lifetime begins with an `INCR` that
finds no key.
-/

set_option autoImplicit false

namespace WorkflowHub.Throttling

open Processes FixedWindow

structure World where
  now : ℕ := 0
  keys : Keyspace ℕ := .empty
  lifetimes : String → List (Lifetime ℕ ℕ) := fun _ => []

/-- A request that a gateway asks its guard about. -/
structure Call where
  config : Config := {}
  context : ExecutionContext
  deriving DecidableEq, Repr

namespace Call

def options (call : Call) : ThrottleOptions := throttleOptions call.config call.context

def key (call : Call) : String := redisKey call.context.request

end Call

/-- The lifetimes of a key after a request has incremented it. -/
def World.lifetimesAfter (world : World) (pid : ℕ) (key : String) : List (Lifetime ℕ ℕ) :=
  if (world.keys.find world.now key).isSome then goOn pid world.now (world.lifetimes key)
  else start pid world.now (world.lifetimes key)

def World.increment (world : World) (pid : ℕ) (key : String) : World :=
  { world with
    keys := world.keys.put key (world.keys.incremented world.now key)
    lifetimes := Function.update world.lifetimes key (world.lifetimesAfter pid key) }

section Increment

variable {world : World} {pid : ℕ} {key other : String}

theorem increment_lifetimes :
    (world.increment pid key).lifetimes key = world.lifetimesAfter pid key :=
  Function.update_self ..

theorem increment_lifetimes_other (different : other ≠ key) :
    (world.increment pid key).lifetimes other = world.lifetimes other :=
  Function.update_of_ne different ..

theorem increment_keys :
    (world.increment pid key).keys key = some (world.keys.incremented world.now key) :=
  Keyspace.put_self ..

theorem increment_keys_other (different : other ≠ key) :
    (world.increment pid key).keys other = world.keys other :=
  Keyspace.put_other _ different _

end Increment

def exec (world : World) (pid : ℕ) : (op : Op) → Outcome → Option (World × Except Thrown op.Value)
  | .incr key, outcome =>
      respond True outcome world (world.increment pid key)
        (world.keys.incremented world.now key).value
  | .ttl key, outcome => respond True outcome world world (world.keys.ttl world.now key)
  | .expire key seconds, outcome =>
      respond True outcome world
        { world with keys := world.keys.expire world.now key seconds }
        (if (world.keys.find world.now key).isSome then 1 else 0 : ℕ)

section Commands

variable {world world' after after' : World} {pid pid' : ℕ} {op : Op} {outcome : Outcome}
  {reply reply' : Except Thrown op.Value}

/-- A command leaves all keys alone but its own. -/
theorem exec_keys_other {key : String} (different : key ≠ op.key)
    (answered : exec world pid op outcome = some (after, reply)) :
    after.keys key = world.keys key := by
  cases op with
  | incr own =>
      rcases respond_cases answered with ⟨rfl, _⟩ | ⟨_, rfl, _⟩
      · rfl
      · exact increment_keys_other different
  | ttl own =>
      rcases respond_cases answered with ⟨rfl, _⟩ | ⟨_, rfl, _⟩
      · rfl
      · rfl
  | expire own seconds =>
      rcases respond_cases answered with ⟨rfl, _⟩ | ⟨_, rfl, _⟩
      · rfl
      · exact Keyspace.expire_other _ _ different _

/-- Where its key is the same, a command gives the same reply at the same time. -/
theorem exec_alike (now : world.now = world'.now)
    (same : world.keys op.key = world'.keys op.key)
    (answered : exec world pid op outcome = some (after, reply))
    (answered' : exec world' pid' op outcome = some (after', reply')) :
    reply = reply' ∧ after.keys op.key = after'.keys op.key := by
  let Alike (world world' : World) : Prop := world.keys op.key = world'.keys op.key
  cases op with
  | incr key =>
      have counts : world.keys.incremented world.now key =
          world'.keys.incremented world'.now key := by
        rw [← now]
        exact Keyspace.incremented_congr _ same
      have stored : Alike (world.increment pid key) (world'.increment pid' key) := by
        simp only [Alike, Op.key, increment_keys, counts]
      exact respond_alike (R := Alike) (congrArg Item.value counts) same stored answered answered'
  | ttl key =>
      have left : world.keys.ttl world.now key = world'.keys.ttl world'.now key := by
        rw [← now]
        exact Keyspace.ttl_congr _ same
      exact respond_alike (R := Alike) left same same answered answered'
  | expire key seconds =>
      have found : world.keys.find world.now key = world'.keys.find world'.now key := by
        rw [← now]
        exact Keyspace.find_congr _ same
      refine respond_alike (R := Alike) ?_ same ?_ answered answered'
      · exact congrArg (fun item : Option (Item ℕ) => (if item.isSome then 1 else 0 : ℕ)) found
      · simp only [Alike, Op.key, ← now]
        exact Keyspace.expire_congr _ same _

end Commands

/-- Time passes. -/
inductive Env where
  | elapse (milliseconds : ℕ)
  deriving DecidableEq, Repr

def site : Site (promises Op Op.Value Thrown) Unit World Call (Except Thrown Bool) Outcome Env where
  load _ _ := ()
  store world _ _ := world
  start world _ _ := some world
  exec world pid _ := exec world pid
  finish world _ _ _ := world
  crash world _ _ := world
  env world
    | .elapse milliseconds => some { world with now := world.now + milliseconds }

/-- The code of the requests. -/
def programs : Flow (promises Op Op.Value Thrown) Unit Call
    (Suspended (promises Op Op.Value Thrown) Unit (Except Thrown Bool)) (Except Thrown Bool) :=
  .ofPrograms fun call => (canActivate call.config call.context).run

abbrev State : Type :=
  Pool World Call (Suspended (promises Op Op.Value Thrown) Unit (Except Thrown Bool))
    (Except Thrown Bool)

/-- What a state shows: the world, and what each request awaits. -/
abbrev View : Type := Pool World Call Op (Except Thrown Bool)

abbrev Happening : Type := Event Call Outcome Env

abbrev step : State → Happening → Option State := Pool.step site programs

abbrev Runs (C : View → Happening → Prop) : State → State → Prop :=
  Path step fun state event => C (state.observe programs) event

/-- The guard has answered the request. -/
def Completed {Pc : Type} : Slot Call Pc (Except Thrown Bool) → Bool
  | .finished _ _ => true
  | _ => false

/-- The guard has admitted the request. -/
def Admitted {Pc : Type} : Slot Call Pc (Except Thrown Bool) → Bool
  | .finished _ (.ok admitted) => admitted
  | _ => false

section Observed

variable {S : Signature} {Pc : Type} (op : Call → Pc → S.Op) (slot : Slot Call Pc (Except Thrown Bool))

@[simp] theorem completed_observe : Completed (slot.observe op) = Completed slot := by
  cases slot with
  | _ => rfl

@[simp] theorem admitted_observe : Admitted (slot.observe op) = Admitted slot := by
  cases slot with
  | finished call out =>
      cases out with
      | _ => rfl
  | _ => rfl

end Observed

/-! ## Events of concrete runs -/

namespace Sample

/-- A request of a user to a route with `@Throttle(1, 60)`. -/
def call : Call where
  context :=
    { type := .http
      handler := some ⟨1, 60⟩
      request := { userId := some "65f0a1b2c3d4e5f6a7b8c9aa", routePath := some "/tasks" } }

def key : String := "throttle:/tasks:user:65f0a1b2c3d4e5f6a7b8c9aa"

def resolves (pid : ℕ) : Happening := .step pid .resolved

end Sample

end WorkflowHub.Throttling
