import WorkflowHub.AuthService.Service
import WorkflowHub.Platform.Remote
import WorkflowHub.Processes.Tracking

/-!
# The auth service with its database

Any number of calls of its methods side by side, on any number of replicas, which share
nothing but the users. One field of the world is history: which calls of `register` have
found no user with their e-mail and have not ended yet (`registering`).
-/

set_option autoImplicit false

namespace WorkflowHub.AuthService

open Processes

structure World where
  users : List Auth := []
  registering : List (ℕ × String) := []

/-- A call of a method. -/
inductive Call where
  | register (body : RegisterBody)
  | login (body : LoginBody)
  | deleteUser (userId : String)
  deriving DecidableEq, Repr

def program : Call → Method Reply
  | .register body => register body
  | .login body => login body
  | .deleteUser userId => deleteUser userId

/-- A choice of the outside: how the operation ends, the id of a new document, and what
bcrypt answers. -/
structure Answer where
  outcome : Outcome
  id : ObjectId
  digest : String
  isMatch : Bool
  deriving DecidableEq, Repr

namespace World

def find (world : World) (email : String) : Option Auth := world.users.find? (·.email = email)

/-- A call of `register` that has found no user goes on to make one. -/
def enroll (world : World) (pid : ℕ) (call : Call) (email : String) : World :=
  match call, world.find email with
  | .register _, none => { world with registering := world.registering ++ [(pid, email)] }
  | _, _ => world

/-- The call has ended. -/
def withdraw (world : World) (pid : ℕ) : World :=
  { world with registering := world.registering.filter (·.1 ≠ pid) }

end World

/-- The effect of an operation, and its reply. The three strings of a user are required, and
a required string is not empty. What cannot be cast to an id is rejected. -/
def exec (world : World) (pid : ℕ) (call : Call) :
    (op : Op) → Answer → Option (World × Except Thrown op.Value)
  | .findOne email, answer =>
      respond True answer.outcome world
        (if answer.outcome = .resolved then world.enroll pid call email else world)
        (world.find email)
  | .hash _ _, answer => respond True answer.outcome world world answer.digest
  | .create name email password, answer =>
      let user : Auth := ⟨answer.id, name, email, password⟩
      respond ((name ≠ "" ∧ email ≠ "" ∧ password ≠ "") ∧ answer.id ∉ world.users.map (·.id))
        answer.outcome world { world with users := world.users ++ [user] } user
  | .compare _ _, answer => respond True answer.outcome world world answer.isMatch
  | .findByIdAndDelete userId, answer =>
      respond (isObjectId userId) answer.outcome world
        { world with users := world.users.filter (·.id.toString ≠ userId) }
        (world.users.find? (·.id.toString = userId))

def site : Site (promises Op Op.Value Thrown) Unit World Call (Except Thrown Reply) Answer Empty where
  load _ _ := ()
  store world _ _ := world
  start world _ _ := some world
  exec := exec
  finish world pid _ _ := world.withdraw pid
  crash world pid _ := world.withdraw pid
  env _ event := nomatch event

/-- The code of the calls. -/
def programs : Flow (promises Op Op.Value Thrown) Unit Call
    (Suspended (promises Op Op.Value Thrown) Unit (Except Thrown Reply)) (Except Thrown Reply) :=
  .ofPrograms fun call => (program call).run

abbrev State : Type :=
  Pool World Call (Suspended (promises Op Op.Value Thrown) Unit (Except Thrown Reply))
    (Except Thrown Reply)

/-- What a state shows: the world, and what each call awaits. -/
abbrev View : Type := Pool World Call Op (Except Thrown Reply)

abbrev Happening : Type := Event Call Answer Empty

abbrev step : State → Happening → Option State := Pool.step site programs

abbrev Runs (C : View → Happening → Prop) : State → State → Prop :=
  Path step fun state event => C (state.observe programs) event

end WorkflowHub.AuthService
