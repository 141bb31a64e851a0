import Mathlib.Data.Nat.Notation
import WorkflowHub.Platform.Values
import WorkflowHub.Processes.Handler

/-!
# `AuthServiceService`

The users, what the auth service awaits (MongoDB and bcrypt), and its methods. `register`
looks for the e-mail, hashes the password and only then inserts the user; the schema of the
users makes their three strings required, and nothing unique.
-/

set_option autoImplicit false

namespace WorkflowHub.AuthService

open Processes

/-! ## Documents and bodies -/

/-- A user. `password` is the hash. -/
structure Auth where
  id : ObjectId
  name : String
  email : String
  password : String
  deriving DecidableEq, Repr

structure RegisterBody where
  name : String
  email : String
  password : String
  deriving DecidableEq, Repr

structure LoginBody where
  email : String
  password : String
  deriving DecidableEq, Repr

/-- A token, by the claims that are signed. -/
structure Token where
  id : ObjectId
  email : String
  deriving DecidableEq, Repr

/-! ## Operations -/

/-- What the auth service awaits. -/
inductive Op where
  | findOne (email : String)
  | hash (password : String) (rounds : ℕ)
  | create (name email password : String)
  | compare (password hashed : String)
  | findByIdAndDelete (userId : String)
  deriving DecidableEq

/-- What each operation resolves with. -/
def Op.Value : Op → Type
  | .findOne _ => Option Auth
  | .hash .. => String
  | .create .. => Auth
  | .compare .. => Bool
  | .findByIdAndDelete _ => Option Auth

/-- What the methods resolve with. -/
inductive Reply where
  | registered (message : String) (user : Auth) (token : Token)
  | loggedIn (message : String) (token : Token)
  | deleted (message : String) (user : Auth)
  deriving DecidableEq, Repr

abbrev Method := Handler Op Op.Value Thrown Unit

def authModel.findOne (email : String) : Method (Option Auth) := await (Op.findOne email)

def bcrypt.hash (password : String) (rounds : ℕ) : Method String := await (Op.hash password rounds)

def authModel.create (name email password : String) : Method Auth :=
  await (Op.create name email password)

def bcrypt.compare (password hashed : String) : Method Bool := await (Op.compare password hashed)

def authModel.findByIdAndDelete (userId : String) : Method (Option Auth) :=
  await (Op.findByIdAndDelete userId)

def jwtService.sign (user : Auth) : Token := { id := user.id, email := user.email }

/-! ## Methods -/

def register (body : RegisterBody) : Method Reply := do
  match ← authModel.findOne body.email with
  | some _ => throw (.rpcException 409 "User already exists")
  | none =>
      let hashedPassword ← bcrypt.hash body.password 10
      let user ← authModel.create body.name body.email hashedPassword
      pure (.registered "Registered Successfully" user (jwtService.sign user))

def login (body : LoginBody) : Method Reply := do
  match ← authModel.findOne body.email with
  | none => throw (.rpcException 404 "User does not exists")
  | some user =>
      let checkPassword ← bcrypt.compare body.password user.password
      if checkPassword then
        pure (.loggedIn "Login successful" (jwtService.sign user))
      else
        throw (.rpcException 401 "Invalid credentials")

def deleteUser (userId : String) : Method Reply := do
  match ← authModel.findByIdAndDelete userId with
  | none => throw (.rpcException 404 ("User with ID " ++ userId ++ " not found for deletion"))
  | some user => pure (.deleted "User deleted successfully" user)

end WorkflowHub.AuthService
