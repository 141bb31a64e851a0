import WorkflowHub.AuthService.ControlFlow
import WorkflowHub.Processes.Executions
import Mathlib.Data.List.Nodup

/-!
# One call after another

The calls of a session run alone, each from the users the one before it left. bcrypt is a
parameter that looks at the first 72 bytes of a password only. After any session the users
are those of the registrations that succeeded and were not deleted since, one for each
e-mail, each with the hash of the password that was registered (`Session.reflects`).
-/

set_option autoImplicit false

namespace WorkflowHub.AuthService

open Processes

/-! ## bcrypt -/

/-- The bytes of a password that bcrypt looks at. -/
def significant (password : String) : List UInt8 := password.toUTF8.data.toList.take 72

/-- bcrypt: a hash is made from a salt, and a comparison says whether the password agrees with
the hashed one on the bytes that matter. -/
structure Bcrypt where
  hashed : (salt : String) → (rounds : ℕ) → (password : String) → String
  compares : (password hashed : String) → Bool
  compares_hashed : ∀ password salt rounds registered,
    compares password (hashed salt rounds registered) = true ↔
      significant password = significant registered

/-- The answer is one that bcrypt gives. -/
def Bcrypt.Gives (bcrypt : Bcrypt) : Op → Answer → Prop
  | .hash password rounds, answer => ∃ salt, answer.digest = bcrypt.hashed salt rounds password
  | .compare password hashed, answer => answer.isMatch = bcrypt.compares password hashed
  | _, _ => True

/-! ## One call after another -/

/-- The outside during one call: the database, whose operations end as `mayEnd` says, and
bcrypt. -/
def answers (bcrypt : Bcrypt) (mayEnd : Outcome → Prop) (call : Call) (world : World) (op : Op)
    (answer : Answer) (reply : Except Thrown op.Value) (world' : World) : Prop :=
  exec world 0 call op answer = some (world', reply) ∧ mayEnd answer.outcome ∧
    bcrypt.Gives op answer

/-- A call runs alone, from the users `before` to the users `after`. -/
def Ends (bcrypt : Bcrypt) (mayEnd : Outcome → Prop) (call : Call) (before : List Auth)
    (out : Except Thrown Reply) (after : List Auth) : Prop :=
  ∃ exchanges world, Executes (answers bcrypt mayEnd call) programs call { users := before }
    (programs.enter call ()) exchanges out world ∧ world.users = after

/-- A call that has ended. -/
structure Ended where
  call : Call
  out : Except Thrown Reply

/-- Calls that ended one after the other, the users they left, and nothing lost: an operation
resolves, or it rejects without having been applied. -/
inductive Session (bcrypt : Bcrypt) : List Ended → List Auth → Prop where
  | start : Session bcrypt [] []
  | call {history : List Ended} {before after : List Auth} {call : Call}
      {out : Except Thrown Reply} (session : Session bcrypt history before)
      (ends : Ends bcrypt Outcome.Clean call before out after) :
      Session bcrypt (history ++ [⟨call, out⟩]) after

/-! ## The registrations of a history -/

/-- A registration that succeeded. -/
structure Account where
  body : RegisterBody
  user : Auth

/-- The registrations that succeeded and were not deleted since, after one more call. -/
def recorded (accounts : List Account) (ended : Ended) : List Account :=
  match ended.call, ended.out with
  | .register body, .ok (.registered _ user _) => accounts ++ [⟨body, user⟩]
  | .deleteUser userId, .ok (.deleted _ _) =>
      accounts.filter fun account => account.user.id.toString ≠ userId
  | _, _ => accounts

def accounts (history : List Ended) : List Account := history.foldl recorded []

/-- The last registration of an e-mail that succeeded and was not deleted since. -/
def holder (history : List Ended) (email : String) : Option Account :=
  ((accounts history).filter fun account => account.body.email = email).getLast?

theorem accounts_append (history : List Ended) (ended : Ended) :
    accounts (history ++ [ended]) = recorded (accounts history) ended := by
  simp [accounts]

/-! ## What each operation does -/

/-- The user that `findOne` gives for an e-mail. -/
def userOf (users : List Auth) (email : String) : Option Auth := users.find? (·.email = email)

section Operations

variable {bcrypt : Bcrypt} {mayEnd : Outcome → Prop} {call : Call} {world world' : World}
  {answer : Answer}

theorem enroll_users (world : World) (pid : ℕ) (call : Call) (email : String) :
    (world.enroll pid call email).users = world.users := by
  simp only [World.enroll]
  split
  · rfl
  · rfl

theorem answers_findOne {email : String} {reply : Except Thrown (Option Auth)}
    (answered : answers bcrypt mayEnd call world (.findOne email) answer reply world') :
    world'.users = world.users ∧
      (reply = .ok (userOf world.users email) ∨
        answer.outcome ≠ .resolved ∧ ∃ error, reply = .error error) := by
  rcases respond_cases answered.1 with
    ⟨rfl, error, failed, rfl⟩ | ⟨_, rfl, ⟨ok, rfl⟩ | ⟨error, failed, rfl⟩⟩
  · exact ⟨rfl, .inr ⟨by rw [failed]; exact nofun, error, rfl⟩⟩
  · rw [if_pos ok]
    exact ⟨enroll_users .., .inl rfl⟩
  · have unresolved : answer.outcome ≠ .resolved := by rw [failed]; exact nofun
    rw [if_neg unresolved]
    exact ⟨rfl, .inr ⟨unresolved, error, rfl⟩⟩

theorem answers_hash {password : String} {rounds : ℕ} {reply : Except Thrown String}
    (answered : answers bcrypt mayEnd call world (.hash password rounds) answer reply world') :
    world' = world ∧
      ((∃ salt, reply = .ok (bcrypt.hashed salt rounds password)) ∨
        ∃ error, reply = .error error) := by
  obtain ⟨salt, digest⟩ := answered.2.2
  rcases respond_cases answered.1 with
    ⟨rfl, error, _, rfl⟩ | ⟨_, rfl, ⟨_, rfl⟩ | ⟨error, _, rfl⟩⟩
  · exact ⟨rfl, .inr ⟨error, rfl⟩⟩
  · exact ⟨rfl, .inl ⟨salt, congrArg Except.ok digest⟩⟩
  · exact ⟨rfl, .inr ⟨error, rfl⟩⟩

theorem answers_compare {password hashed : String} {reply : Except Thrown Bool}
    (answered : answers bcrypt mayEnd call world (.compare password hashed) answer reply world') :
    world' = world ∧
      (reply = .ok (bcrypt.compares password hashed) ∨
        answer.outcome ≠ .resolved ∧ ∃ error, reply = .error error) := by
  have isMatch : answer.isMatch = bcrypt.compares password hashed := answered.2.2
  rcases respond_cases answered.1 with
    ⟨rfl, error, failed, rfl⟩ | ⟨_, rfl, ⟨_, rfl⟩ | ⟨error, failed, rfl⟩⟩
  · exact ⟨rfl, .inr ⟨by rw [failed]; exact nofun, error, rfl⟩⟩
  · exact ⟨rfl, .inl (congrArg Except.ok isMatch)⟩
  · exact ⟨rfl, .inr ⟨by rw [failed]; exact nofun, error, rfl⟩⟩

theorem answers_create {name email password : String} {reply : Except Thrown Auth}
    (answered : answers bcrypt Outcome.Clean call world (.create name email password) answer reply
      world') :
    (∃ id, reply = .ok ⟨id, name, email, password⟩ ∧
        world'.users = world.users ++ [⟨id, name, email, password⟩]) ∨
      world' = world ∧ ∃ error, reply = .error error := by
  rcases respond_cases answered.1 with
    ⟨rfl, error, _, rfl⟩ | ⟨_, rfl, ⟨_, rfl⟩ | ⟨error, lost, _⟩⟩
  · exact .inr ⟨rfl, error, rfl⟩
  · exact .inl ⟨answer.id, rfl, rfl⟩
  · have clean := answered.2.1
    rw [lost] at clean
    exact clean.elim

theorem answers_findByIdAndDelete {userId : String} {reply : Except Thrown (Option Auth)}
    (answered : answers bcrypt Outcome.Clean call world (.findByIdAndDelete userId) answer reply
      world') :
    (reply = .ok (world.users.find? (·.id.toString = userId)) ∧
        world'.users = world.users.filter (·.id.toString ≠ userId)) ∨
      world' = world ∧ ∃ error, reply = .error error := by
  rcases respond_cases answered.1 with
    ⟨rfl, error, _, rfl⟩ | ⟨_, rfl, ⟨_, rfl⟩ | ⟨error, lost, _⟩⟩
  · exact .inr ⟨rfl, error, rfl⟩
  · exact .inl ⟨rfl, rfl⟩
  · have clean := answered.2.1
    rw [lost] at clean
    exact clean.elim

end Operations

/-! ## What each method does alone -/

section Methods

variable {bcrypt : Bcrypt} {mayEnd : Outcome → Prop} {before after : List Auth}
  {out : Except Thrown Reply}

/-- A call that ends, told by the table of program points. -/
theorem Ends.executes {call : Call} (ends : Ends bcrypt mayEnd call before out after) :
    ∃ exchanges world, Executes (answers bcrypt mayEnd call) flow call { users := before }
      (Led.enter call) exchanges out world ∧ world.users = after := by
  obtain ⟨exchanges, world, executes, left⟩ := ends
  exact ⟨exchanges, world, implements.executes executes, left⟩

/-- A registration inserts a user where there was none, or it fails and changes nothing. -/
theorem Ends.register {body : RegisterBody}
    (ends : Ends bcrypt Outcome.Clean (.register body) before out after) :
    (∃ user salt, out = .ok (.registered "Registered Successfully" user (jwtService.sign user)) ∧
        userOf before body.email = none ∧ after = before ++ [user] ∧ user.email = body.email ∧
          user.password = bcrypt.hashed salt 10 body.password) ∨
      after = before ∧ ∃ error, out = .error error := by
  obtain ⟨exchanges, world, executes, rfl⟩ := ends.executes
  obtain ⟨answer, reply, found, fields, rest, -, answered, executes⟩ := executes.of_running
  obtain ⟨same, rfl | ⟨_, error, rfl⟩⟩ := answers_findOne answered
  · cases none : userOf before body.email with
    | some user =>
        rw [none] at executes
        obtain ⟨_, rfl, rfl⟩ := executes.of_finished
        exact .inr ⟨same, _, rfl⟩
    | none =>
        rw [none] at executes
        obtain ⟨answer, reply, hashed, fields, rest, -, answered, executes⟩ :=
          executes.of_running
        obtain ⟨rfl, ⟨salt, rfl⟩ | ⟨error, rfl⟩⟩ := answers_hash answered
        · obtain ⟨answer, reply, created, fields, rest, -, answered, executes⟩ :=
            executes.of_running
          rcases answers_create answered with ⟨id, rfl, inserted⟩ | ⟨rfl, error, rfl⟩
          · obtain ⟨_, rfl, rfl⟩ := executes.of_finished
            exact .inl ⟨_, salt, rfl, rfl, by rw [inserted, same], rfl, rfl⟩
          · obtain ⟨_, rfl, rfl⟩ := executes.of_finished
            exact .inr ⟨same, error, rfl⟩
        · obtain ⟨_, rfl, rfl⟩ := executes.of_finished
          exact .inr ⟨same, error, rfl⟩
  · obtain ⟨_, rfl, rfl⟩ := executes.of_finished
    exact .inr ⟨same, error, rfl⟩

/-- A deletion removes the user with the id, or it fails and changes nothing. -/
theorem Ends.deleteUser {userId : String}
    (ends : Ends bcrypt Outcome.Clean (.deleteUser userId) before out after) :
    (∃ message user, out = .ok (.deleted message user) ∧
        after = before.filter (·.id.toString ≠ userId)) ∨
      after = before ∧ ∃ error, out = .error error := by
  obtain ⟨exchanges, world, executes, rfl⟩ := ends.executes
  obtain ⟨answer, reply, deleted, fields, rest, -, answered, executes⟩ := executes.of_running
  rcases answers_findByIdAndDelete answered with ⟨rfl, removed⟩ | ⟨rfl, error, rfl⟩
  · cases found : before.find? (·.id.toString = userId) with
    | some user =>
        rw [found] at executes
        obtain ⟨_, rfl, rfl⟩ := executes.of_finished
        exact .inl ⟨_, user, rfl, removed⟩
    | none =>
        rw [found] at executes
        obtain ⟨_, rfl, rfl⟩ := executes.of_finished
        refine .inr ⟨?_, _, rfl⟩
        rw [removed, List.filter_eq_self]
        intro user inside
        have other := List.find?_eq_none.mp found user inside
        simpa using other
  · obtain ⟨_, rfl, rfl⟩ := executes.of_finished
    exact .inr ⟨rfl, error, rfl⟩

/-- What a login comes to when every operation resolves. -/
def loggedIn (bcrypt : Bcrypt) (users : List Auth) (body : LoginBody) : Except Thrown Reply :=
  match userOf users body.email with
  | none => .error (.rpcException 404 "User does not exists")
  | some user =>
      if bcrypt.compares body.password user.password then
        .ok (.loggedIn "Login successful" (jwtService.sign user))
      else .error (.rpcException 401 "Invalid credentials")

/-- A login changes no user, and comes to that when its operations resolve. -/
theorem Ends.login {body : LoginBody} (ends : Ends bcrypt mayEnd (.login body) before out after) :
    after = before ∧
      ((∀ outcome, mayEnd outcome → outcome = .resolved) → out = loggedIn bcrypt before body) := by
  obtain ⟨exchanges, world, executes, rfl⟩ := ends.executes
  obtain ⟨answer, reply, found, fields, rest, -, answered, executes⟩ := executes.of_running
  obtain ⟨same, rfl | ⟨unresolved, error, rfl⟩⟩ := answers_findOne answered
  · unfold loggedIn
    cases held : userOf before body.email with
    | none =>
        rw [held] at executes
        obtain ⟨_, rfl, rfl⟩ := executes.of_finished
        exact ⟨same, fun _ => rfl⟩
    | some user =>
        rw [held] at executes
        obtain ⟨answer, reply, compared, fields, rest, -, answered, executes⟩ :=
          executes.of_running
        obtain ⟨rfl, rfl | ⟨unresolved, error, rfl⟩⟩ := answers_compare answered
        · cases agrees : bcrypt.compares body.password user.password with
          | true =>
              rw [agrees] at executes
              obtain ⟨_, rfl, rfl⟩ := executes.of_finished
              exact ⟨same, fun _ => by simp [agrees]⟩
          | false =>
              rw [agrees] at executes
              obtain ⟨_, rfl, rfl⟩ := executes.of_finished
              exact ⟨same, fun _ => by simp [agrees]⟩
        · obtain ⟨_, rfl, rfl⟩ := executes.of_finished
          exact ⟨same, fun resolves => absurd (resolves _ answered.2.1) unresolved⟩
  · obtain ⟨_, rfl, rfl⟩ := executes.of_finished
    exact ⟨same, fun resolves => absurd (resolves _ answered.2.1) unresolved⟩

end Methods

/-! ## The users of a history -/

theorem head?_eq_getLast? {α : Type} {items : List α} (one : items.length ≤ 1) :
    items.head? = items.getLast? := by
  cases items with
  | nil => rfl
  | cons item rest =>
      cases rest with
      | nil => rfl
      | cons next rest => simp at one

/-- The users are those of the registrations, one for each e-mail, with the hash of the
password that was registered. -/
structure Reflects (bcrypt : Bcrypt) (accounts : List Account) (users : List Auth) : Prop where
  users : users = accounts.map (·.user)
  email : ∀ account ∈ accounts, account.user.email = account.body.email
  password : ∀ account ∈ accounts, ∃ salt,
    account.user.password = bcrypt.hashed salt 10 account.body.password
  unique : (accounts.map (·.body.email)).Nodup

namespace Reflects

variable {bcrypt : Bcrypt} {accounts : List Account} {users : List Auth} {email : String}

/-- The user with an e-mail is that of the registration with it. -/
theorem userOf_eq (reflects : Reflects bcrypt accounts users) (email : String) :
    userOf users email =
      (accounts.find? fun account => account.body.email = email).map (·.user) := by
  rw [userOf, reflects.users]
  have same := reflects.email
  clear reflects
  induction accounts with
  | nil => rfl
  | cons account rest ih =>
      have here := same account (List.mem_cons_self ..)
      have later := ih fun other inside => same other (List.mem_cons_of_mem _ inside)
      rw [List.map_cons]
      by_cases found : account.body.email = email
      · have mine : account.user.email = email := here.trans found
        rw [List.find?_cons_of_pos (by simpa using mine),
          List.find?_cons_of_pos (by simpa using found), Option.map_some]
      · have other : account.user.email ≠ email := by
          rw [here]
          exact found
        rw [List.find?_cons_of_neg (by simpa using other),
          List.find?_cons_of_neg (by simpa using found), later]

/-- The first registration of an e-mail is the last. -/
theorem find_eq_last (reflects : Reflects bcrypt accounts users) (email : String) :
    accounts.find? (fun account => account.body.email = email) =
      (accounts.filter fun account => account.body.email = email).getLast? := by
  rw [← List.head?_filter]
  apply head?_eq_getLast?
  have alike : ∀ other ∈ (accounts.filter fun account => account.body.email = email).map
      (·.body.email), other = email := by
    intro other inside
    obtain ⟨account, found, rfl⟩ := List.mem_map.mp inside
    exact of_decide_eq_true (List.mem_filter.mp found).2
  have nodup : ((accounts.filter fun account => account.body.email = email).map
      (·.body.email)).Nodup := reflects.unique.sublist (List.filter_sublist.map _)
  rw [List.eq_replicate_of_mem alike, List.nodup_replicate, List.length_map] at nodup
  exact nodup

/-- A registration of an e-mail that no user has. -/
theorem register (reflects : Reflects bcrypt accounts users) {body : RegisterBody} {user : Auth}
    {salt : String} (absent : userOf users body.email = none) (same : user.email = body.email)
    (hashed : user.password = bcrypt.hashed salt 10 body.password) :
    Reflects bcrypt (accounts ++ [⟨body, user⟩]) (users ++ [user]) where
  users := by simp [reflects.users]
  email := by
    intro account inside
    rcases List.mem_append.mp inside with before | here
    · exact reflects.email account before
    · rw [List.mem_singleton.mp here]
      exact same
  password := by
    intro account inside
    rcases List.mem_append.mp inside with before | here
    · exact reflects.password account before
    · rw [List.mem_singleton.mp here]
      exact ⟨salt, hashed⟩
  unique := by
    rw [List.map_append, List.map_singleton]
    apply reflects.unique.append (List.nodup_singleton _)
    intro email before here
    obtain ⟨account, inside, rfl⟩ := List.mem_map.mp before
    rw [reflects.userOf_eq, Option.map_eq_none_iff] at absent
    exact List.find?_eq_none.mp absent account inside
      (decide_eq_true (List.mem_singleton.mp here))

/-- A deletion of the user with some id. -/
theorem delete (reflects : Reflects bcrypt accounts users) (userId : String) :
    Reflects bcrypt (accounts.filter fun account => account.user.id.toString ≠ userId)
      (users.filter (·.id.toString ≠ userId)) where
  users := by
    rw [reflects.users, List.filter_map]
    rfl
  email account inside := reflects.email account (List.mem_of_mem_filter inside)
  password account inside := reflects.password account (List.mem_of_mem_filter inside)
  unique := reflects.unique.sublist (List.filter_sublist.map _)

end Reflects

/-- **The users reflect the history**: after any calls, one after the other, they are those of
the registrations that succeeded and were not deleted since. -/
theorem Session.reflects {bcrypt : Bcrypt} {history : List Ended} {users : List Auth}
    (session : Session bcrypt history users) : Reflects bcrypt (accounts history) users := by
  induction session with
  | start =>
      exact ⟨rfl, fun _ inside => absurd inside List.not_mem_nil,
        fun _ inside => absurd inside List.not_mem_nil, List.nodup_nil⟩
  | @call history before after call out session ends ih =>
      rw [accounts_append]
      cases call with
      | register body =>
          rcases ends.register with
            ⟨user, salt, rfl, absent, rfl, same, hashed⟩ | ⟨rfl, error, rfl⟩
          · exact ih.register absent same hashed
          · exact ih
      | login body =>
          obtain ⟨rfl, _⟩ := ends.login
          exact ih
      | deleteUser userId =>
          rcases ends.deleteUser with ⟨message, user, rfl, rfl⟩ | ⟨rfl, error, rfl⟩
          · exact ih.delete userId
          · exact ih

/-- A registration of an e-mail that no user has succeeds. -/
theorem Session.register {bcrypt : Bcrypt} {history : List Ended} {users : List Auth}
    (session : Session bcrypt history users) {body : RegisterBody} {user : Auth} (salt : String)
    (absent : userOf users body.email = none)
    (made : user = ⟨user.id, body.name, body.email, bcrypt.hashed salt 10 body.password⟩)
    (required : user.name ≠ "" ∧ user.email ≠ "" ∧ user.password ≠ "")
    (fresh : user.id ∉ users.map (·.id)) :
    Session bcrypt (history ++ [⟨.register body,
      .ok (.registered "Registered Successfully" user (jwtService.sign user))⟩])
      (users ++ [user]) := by
  apply session.call
  let enrolled : World := { users, registering := [(0, body.email)] }
  have found : answers bcrypt Outcome.Clean (.register body) { users } (.findOne body.email)
      ⟨.resolved, user.id, "", true⟩ (.ok none) enrolled := by
    refine ⟨?_, trivial, trivial⟩
    simp only [exec, respond, World.enroll, World.find, enrolled, if_true]
    rw [show users.find? _ = none from absent]
    rfl
  have hashed : answers bcrypt Outcome.Clean (.register body) enrolled (.hash body.password 10)
      ⟨.resolved, user.id, bcrypt.hashed salt 10 body.password, true⟩
      (.ok (bcrypt.hashed salt 10 body.password)) enrolled := ⟨rfl, trivial, salt, rfl⟩
  have created : answers bcrypt Outcome.Clean (.register body) enrolled
      (.create body.name body.email (bcrypt.hashed salt 10 body.password))
      ⟨.resolved, user.id, "", true⟩ (.ok user)
      { enrolled with users := users ++ [user] } := by
    refine ⟨?_, trivial, trivial⟩
    rw [made] at required
    simp only [exec, respond, ← made, required, fresh, enrolled, ne_eq, not_false_eq_true,
      and_self, if_true]
  have executes : Executes (answers bcrypt Outcome.Clean (.register body)) flow (.register body)
      { users } (Led.enter (.register body)) _ _ _ :=
    .running () found (.running () hashed (.running () created .finished))
  exact ⟨_, _, implements.executed executes, rfl⟩

end WorkflowHub.AuthService
