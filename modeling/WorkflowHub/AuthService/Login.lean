import WorkflowHub.AuthService.Sessions

/-!
# Logging in

A login finds the user of the last registration of its e-mail that is still there, and asks
bcrypt whether the password is that of the hash. No length is checked before, so a login
succeeds with every password that agrees with the registered one on the bytes bcrypt looks at
(`accepts_iff`).
-/

set_option autoImplicit false

namespace WorkflowHub.AuthService

open Processes

/-! ## Which logins succeed -/

/-- The login does what it is for: it succeeds exactly with the password of the last
registration of its e-mail that succeeded and was not deleted since, and its token is for the
user of that registration. -/
structure Accepts (bcrypt : Bcrypt) (history : List Ended) (users : List Auth)
    (body : LoginBody) : Prop where
  succeeds : ∀ out after, Ends bcrypt (· = .resolved) (.login body) users out after →
    ((∃ message token, out = .ok (.loggedIn message token)) ↔
      ∃ account ∈ holder history body.email, account.body.password = body.password)
  token : ∀ out after message token, Ends bcrypt (· = .resolved) (.login body) users out after →
    out = .ok (.loggedIn message token) →
      ∃ account ∈ holder history body.email,
        token = ⟨account.user.id, account.user.email⟩ ∧ token.email = body.email

/-- The password is another than the registered one, and agrees with it on the bytes that
bcrypt looks at. -/
def Confused (history : List Ended) (body : LoginBody) : Prop :=
  ∃ account ∈ holder history body.email,
    account.body.password ≠ body.password ∧
      significant account.body.password = significant body.password

section Login

variable {bcrypt : Bcrypt} {history : List Ended} {users : List Auth} {body : LoginBody}

/-- Nobody logs in with an e-mail that nobody holds. -/
theorem loggedIn_of_none (reflects : Reflects bcrypt (accounts history) users)
    (nobody : holder history body.email = none) :
    loggedIn bcrypt users body = .error (.rpcException 404 "User does not exists") := by
  have absent : userOf users body.email = none := by
    rw [reflects.userOf_eq, reflects.find_eq_last, show List.getLast? _ = none from nobody]
    rfl
  simp [loggedIn, absent]

/-- The holder of an e-mail logs in with a password that bcrypt does not tell from the
registered one. -/
theorem loggedIn_of_holder (reflects : Reflects bcrypt (accounts history) users)
    {account : Account} (held : holder history body.email = some account) :
    loggedIn bcrypt users body =
      if significant account.body.password = significant body.password then
        .ok (.loggedIn "Login successful" ⟨account.user.id, account.user.email⟩)
      else .error (.rpcException 401 "Invalid credentials") := by
  have found : userOf users body.email = some account.user := by
    rw [reflects.userOf_eq, reflects.find_eq_last, show List.getLast? _ = some account from held]
    rfl
  have inside : account ∈ accounts history :=
    List.mem_of_mem_filter (List.mem_of_getLast? held)
  obtain ⟨salt, hashed⟩ := reflects.password account inside
  have agrees : bcrypt.compares body.password account.user.password = true ↔
      significant account.body.password = significant body.password := by
    rw [hashed, bcrypt.compares_hashed]
    exact eq_comm
  simp only [loggedIn, found, agrees, jwtService.sign]

theorem email_of_holder (reflects : Reflects bcrypt (accounts history) users) {email : String}
    {account : Account} (held : holder history email = some account) :
    account.user.email = email := by
  have inside := List.mem_filter.mp (List.mem_of_getLast? held)
  rw [reflects.email account inside.1]
  exact of_decide_eq_true inside.2

/-- A login ends when its operations resolve. -/
theorem exists_login (bcrypt : Bcrypt) (users : List Auth) (body : LoginBody) (id : ObjectId) :
    ∃ out after, Ends bcrypt (· = .resolved) (.login body) users out after := by
  have found (isMatch : Bool) : answers bcrypt (· = .resolved) (.login body) { users }
      (.findOne body.email) ⟨.resolved, id, "", isMatch⟩ (.ok (userOf users body.email)) { users } :=
    ⟨rfl, rfl, trivial⟩
  cases held : userOf users body.email with
  | none =>
      have executes : Executes (answers bcrypt (· = .resolved) (.login body)) flow (.login body)
          { users } (Led.enter (.login body)) _ _ _ :=
        .running () (held ▸ found true) .finished
      exact ⟨_, _, _, _, implements.executed executes, rfl⟩
  | some user =>
      have compared : answers bcrypt (· = .resolved) (.login body) { users }
          (.compare body.password user.password)
          ⟨.resolved, id, "", bcrypt.compares body.password user.password⟩
          (.ok (bcrypt.compares body.password user.password)) { users } := ⟨rfl, rfl, rfl⟩
      cases agrees : bcrypt.compares body.password user.password with
      | true =>
          have executes : Executes (answers bcrypt (· = .resolved) (.login body)) flow
              (.login body) { users } (Led.enter (.login body)) _ _ _ :=
            .running () (held ▸ found true) (.running () (agrees ▸ compared) .finished)
          exact ⟨_, _, _, _, implements.executed executes, rfl⟩
      | false =>
          have executes : Executes (answers bcrypt (· = .resolved) (.login body)) flow
              (.login body) { users } (Led.enter (.login body)) _ _ _ :=
            .running () (held ▸ found true) (.running () (agrees ▸ compared) .finished)
          exact ⟨_, _, _, _, implements.executed executes, rfl⟩

end Login

/-- Passwords of less than 72 bytes are told from all others. -/
theorem eq_of_significant {password other : String} (short : password.utf8ByteSize < 72)
    (agree : significant password = significant other) : password = other := by
  have size : ∀ text : String, text.toUTF8.data.toList.length = text.utf8ByteSize := fun _ => rfl
  have lengths := congrArg List.length agree
  simp only [significant, List.length_take, size] at lengths
  rw [significant, significant, List.take_of_length_le (by rw [size]; omega),
    List.take_of_length_le (by rw [size]; omega), Array.toList_inj] at agree
  exact String.toByteArray_inj.mp (ByteArray.ext agree)

/-- A login with less than 72 bytes is never confused. -/
theorem not_confused_of_short (history : List Ended) {body : LoginBody}
    (short : body.password.utf8ByteSize < 72) : ¬Confused history body := by
  rintro ⟨account, _, different, agree⟩
  exact different (eq_of_significant short agree.symm).symm

/-- **Which logins are right**: after any calls, one after the other, a login succeeds exactly
with the registered password, and with a token for its user, if and only if its password is not
one that bcrypt takes for the registered one. -/
theorem accepts_iff {bcrypt : Bcrypt} {history : List Ended} {users : List Auth}
    (session : Session bcrypt history users) (body : LoginBody) :
    Accepts bcrypt history users body ↔ ¬Confused history body := by
  have reflects := session.reflects
  constructor
  · rintro ⟨succeeds, _⟩ ⟨account, held, different, agree⟩
    obtain ⟨out, after, ends⟩ :=
      exists_login bcrypt users body ⟨"65f0a1b2c3d4e5f6a7b8cd00", rfl⟩
    have came := ends.login.2 fun _ resolved => resolved
    rw [loggedIn_of_holder reflects held, if_pos agree] at came
    obtain ⟨other, holds, same⟩ := (succeeds out after ends).mp ⟨_, _, came⟩
    rw [held] at holds
    cases holds
    exact different same
  · intro told
    constructor
    · intro out after ends
      rw [ends.login.2 fun _ resolved => resolved]
      cases held : holder history body.email with
      | none =>
          rw [loggedIn_of_none reflects held]
          simp
      | some account =>
          have same : significant account.body.password = significant body.password ↔
              account.body.password = body.password := by
            constructor
            · intro agree
              by_contra different
              exact told ⟨account, held, different, agree⟩
            · intro same
              rw [same]
          rw [loggedIn_of_holder reflects held]
          by_cases registered : account.body.password = body.password
          · simp [registered]
          · simp [same, registered]
    · intro out after message token ends came
      rw [ends.login.2 fun _ resolved => resolved] at came
      cases held : holder history body.email with
      | none =>
          rw [loggedIn_of_none reflects held] at came
          cases came
      | some account =>
          rw [loggedIn_of_holder reflects held] at came
          split at came
          · cases came
            exact ⟨account, rfl, rfl, email_of_holder reflects held⟩
          · cases came

/-! ## Passwords of more than 72 bytes -/

/-- What `RegisterDto` admits. -/
def RegisterBody.Admitted (isEmail : String → Bool) (body : RegisterBody) : Prop :=
  body.name ≠ "" ∧ isEmail body.email = true ∧ 6 ≤ body.password.length

/-- What `LoginDto` admits. -/
def LoginBody.Admitted (isEmail : String → Bool) (body : LoginBody) : Prop :=
  isEmail body.email = true ∧ body.password ≠ ""

/-- What the gateway lets through to the auth service. -/
def Call.Admitted (isEmail : String → Bool) : Call → Prop
  | .register body => body.Admitted isEmail
  | .login body => body.Admitted isEmail
  | .deleteUser _ => True

namespace Sample

/-- A hash that is the significant bytes themselves, each as a character. -/
def asCharacters (password : String) : String :=
  String.ofList ((significant password).map Char.ofUInt8)

theorem asCharacters_inj {first second : String} :
    asCharacters first = asCharacters second ↔ significant first = significant second := by
  have injective : Function.Injective Char.ofUInt8 :=
    fun _ _ same => UInt8.toUInt32_inj.mp (congrArg Char.val same)
  rw [asCharacters, asCharacters, String.ofList_inj, injective.list_map.eq_iff]

def truncating : Bcrypt where
  hashed _ _ password := asCharacters password
  compares password hashed := asCharacters password = hashed
  compares_hashed password salt rounds registered := by
    rw [decide_eq_true_iff, asCharacters_inj]

def longBody : RegisterBody where
  name := "Ada"
  email := "ada@example.org"
  password := "correct horse battery staple correct horse battery staple correct horse 1"

def longUser : Auth where
  id := ⟨"65f0a1b2c3d4e5f6a7b8cd01", rfl⟩
  name := longBody.name
  email := longBody.email
  password := truncating.hashed "" 10 longBody.password

/-- A registration with a password of 73 bytes. -/
def registered : List Ended :=
  [⟨.register longBody,
    .ok (.registered "Registered Successfully" longUser (jwtService.sign longUser))⟩]

theorem registered_session : Session truncating registered [longUser] := by
  have absent : userOf [] longBody.email = none := rfl
  have required : longUser.name ≠ "" ∧ longUser.email ≠ "" ∧ longUser.password ≠ "" :=
    ⟨by decide, by decide, by decide +kernel⟩
  exact Session.start.register "" absent rfl required List.not_mem_nil

/-- A login with the registered password, but for its last byte. -/
def otherLogin : LoginBody where
  email := longBody.email
  password := "correct horse battery staple correct horse battery staple correct horse 2"

end Sample

/-- The theorem at a login that succeeds with a password that was not registered. -/
theorem accepts_iff_long :
    ¬Accepts Sample.truncating Sample.registered [Sample.longUser] Sample.otherLogin := by
  rw [accepts_iff Sample.registered_session, not_not]
  exact ⟨⟨Sample.longBody, Sample.longUser⟩, rfl, by decide, by decide +kernel⟩

/-- A password with a wrong 73rd byte logs in. -/
theorem not_always_accepts :
    ¬∀ (bcrypt : Bcrypt) (isEmail : String → Bool) (history : List Ended) (users : List Auth)
      (body : LoginBody), isEmail "ada@example.org" = true → Session bcrypt history users →
      (∀ ended ∈ history, ended.call.Admitted isEmail) → body.Admitted isEmail →
        Accepts bcrypt history users body := by
  intro right
  have accepted := right Sample.truncating (fun _ => true) Sample.registered [Sample.longUser]
    Sample.otherLogin rfl Sample.registered_session (by
      intro ended inside
      rw [List.mem_singleton.mp inside]
      exact ⟨by decide, rfl, by decide⟩) ⟨rfl, by decide⟩
  obtain ⟨out, after, ends⟩ := exists_login Sample.truncating [Sample.longUser] Sample.otherLogin
    Sample.longUser.id
  have came := ends.login.2 fun _ resolved => resolved
  have held : holder Sample.registered Sample.otherLogin.email =
      some ⟨Sample.longBody, Sample.longUser⟩ := rfl
  rw [loggedIn_of_holder Sample.registered_session.reflects held, if_pos (by decide +kernel)]
    at came
  obtain ⟨account, holds, same⟩ := (accepted.succeeds out after ends).mp ⟨_, _, came⟩
  cases holds
  revert same
  decide

end WorkflowHub.AuthService
