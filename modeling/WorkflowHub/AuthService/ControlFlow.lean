import WorkflowHub.AuthService.System

/-!
# Program points of the auth service

Where each method can be suspended and where it goes from there. `implements` says that the
table describes the methods.
-/

set_option autoImplicit false

namespace WorkflowHub.AuthService

open Processes

inductive Pc where
  | findExisting (body : RegisterBody)
  | hash (body : RegisterBody)
  | create (body : RegisterBody) (hashedPassword : String)
  | findUser (body : LoginBody)
  | compare (body : LoginBody) (user : Auth)
  | findByIdAndDelete (userId : String)

namespace Pc

def op : Pc → Op
  | findExisting body => .findOne body.email
  | hash body => .hash body.password 10
  | create body hashedPassword => .create body.name body.email hashedPassword
  | findUser body => .findOne body.email
  | compare body user => .compare body.password user.password
  | findByIdAndDelete userId => .findByIdAndDelete userId

/-- The e-mail of a call of `register` that has found no user with it. -/
def registers : Pc → Option String
  | hash body => some body.email
  | create body _ => some body.email
  | _ => none

end Pc

abbrev Led : Type := Unit × Target Pc (Except Thrown Reply)

namespace Led

def enter : Call → Led
  | .register body => ((), .running (.findExisting body))
  | .login body => ((), .running (.findUser body))
  | .deleteUser userId => ((), .running (.findByIdAndDelete userId))

def next : (pc : Pc) → Except Thrown pc.op.Value → Led
  | .findExisting _, .ok (some _) => ((), .finished (.error (.rpcException 409 "User already exists")))
  | .findExisting body, .ok none => ((), .running (.hash body))
  | .hash body, .ok hashedPassword => ((), .running (.create body hashedPassword))
  | .create _ _, .ok user =>
      ((), .finished (.ok (.registered "Registered Successfully" user (jwtService.sign user))))
  | .findUser _, .ok none => ((), .finished (.error (.rpcException 404 "User does not exists")))
  | .findUser body, .ok (some user) => ((), .running (.compare body user))
  | .compare _ user, .ok true =>
      ((), .finished (.ok (.loggedIn "Login successful" (jwtService.sign user))))
  | .compare _ _, .ok false => ((), .finished (.error (.rpcException 401 "Invalid credentials")))
  | .findByIdAndDelete userId, .ok none =>
      ((), .finished (.error
        (.rpcException 404 ("User with ID " ++ userId ++ " not found for deletion"))))
  | .findByIdAndDelete _, .ok (some user) =>
      ((), .finished (.ok (.deleted "User deleted successfully" user)))
  | .findExisting _, .error error => ((), .finished (.error error))
  | .hash _, .error error => ((), .finished (.error error))
  | .create _ _, .error error => ((), .finished (.error error))
  | .findUser _, .error error => ((), .finished (.error error))
  | .compare _ _, .error error => ((), .finished (.error error))
  | .findByIdAndDelete _, .error error => ((), .finished (.error error))

end Led

/-- The table of program points. -/
def flow : Flow (promises Op Op.Value Thrown) Unit Call Pc (Except Thrown Reply) where
  op _ pc := pc.op
  enter call _ := Led.enter call
  next _ pc reply _ := Led.next pc reply

theorem tracks_register (body : RegisterBody) :
    Tracks flow (.register body) (Led.enter (.register body)) ((register body).run ()) := by
  refine Tracks.await fun reply _ => ?_
  match reply with
  | .error error => exact .done
  | .ok (some user) => exact .done
  | .ok none =>
      refine Tracks.await fun reply _ => ?_
      cases reply with
      | error error => exact .done
      | ok hashedPassword =>
          refine Tracks.await fun reply _ => ?_
          cases reply with
          | error error => exact .done
          | ok user => exact .done

theorem tracks_login (body : LoginBody) :
    Tracks flow (.login body) (Led.enter (.login body)) ((login body).run ()) := by
  refine Tracks.await fun reply _ => ?_
  match reply with
  | .error error => exact .done
  | .ok none => exact .done
  | .ok (some user) =>
      refine Tracks.await fun reply _ => ?_
      match reply with
      | .error error => exact .done
      | .ok true => exact .done
      | .ok false => exact .done

theorem tracks_deleteUser (userId : String) :
    Tracks flow (.deleteUser userId) (Led.enter (.deleteUser userId)) ((deleteUser userId).run ()) := by
  refine Tracks.await fun reply _ => ?_
  match reply with
  | .error error => exact .done
  | .ok none => exact .done
  | .ok (some user) => exact .done

/-- **The table of program points describes the methods.** -/
theorem implements : Implements flow fun call => (program call).run := by
  intro call fields
  cases call with
  | register body => exact tracks_register body
  | login body => exact tracks_login body
  | deleteUser userId => exact tracks_deleteUser userId

end WorkflowHub.AuthService
