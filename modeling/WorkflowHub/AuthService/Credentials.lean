import WorkflowHub.AuthService.Login
import WorkflowHub.Processes.Assertions

/-!
# Who gets a token

Calls of the auth service interleave on any number of replicas, operations fail with or without
effect, and processes crash. Whatever happens, the database holds only users that a call of
`register` has made, with a hash that bcrypt gives for its password; and a login that succeeds was
given a password that bcrypt takes for the one of a registration of its e-mail, and gets a token for
the user of that registration (`tokens_credible`).
-/

set_option autoImplicit false

namespace WorkflowHub.AuthService

open Processes

/-! ## bcrypt, with nothing known of it -/

/-- Which digests a password may get, and what a comparison may answer. -/
structure Hashing where
  Hashes : (password : String) → (rounds : ℕ) → (digest : String) → Prop
  Compares : (password digest : String) → (isMatch : Bool) → Prop

/-- The answer is one of those. -/
def Hashing.Gives (hashing : Hashing) : Op → Answer → Prop
  | .hash password rounds, answer => hashing.Hashes password rounds answer.digest
  | .compare password digest, answer => hashing.Compares password digest answer.isMatch
  | _, _ => True

/-- Nothing is known of comparisons. -/
def Hashing.ofHashes
    (Hashes : (password : String) → (rounds : ℕ) → (digest : String) → Prop) : Hashing where
  Hashes
  Compares _ _ _ := True

/-- What the functions of bcrypt may give. -/
def Bcrypt.hashing (bcrypt : Bcrypt) : Hashing where
  Hashes password rounds digest := ∃ salt, digest = bcrypt.hashed salt rounds password
  Compares password digest isMatch := isMatch = bcrypt.compares password digest

/-- The answer to what a call awaits is one that bcrypt gives. -/
def Hashing.Answers (hashing : Hashing) (answer : Answer) :
    Slot Call Op (Except Thrown Reply) → Prop
  | .running _ op => hashing.Gives op answer
  | _ => True

/-- Hashes and comparisons are those of bcrypt. -/
def Authentic (hashing : Hashing) (view : View) : Happening → Prop
  | .step pid answer => hashing.Answers answer (view.slots pid)
  | .crash pid (some answer) => hashing.Answers answer (view.slots pid)
  | _ => True

section Decisions

variable (hashing : Hashing)
  [hashes : ∀ password rounds digest, Decidable (hashing.Hashes password rounds digest)]
  [compares : ∀ password digest isMatch, Decidable (hashing.Compares password digest isMatch)]

instance decidableGives (answer : Answer) : (op : Op) → Decidable (hashing.Gives op answer)
  | .hash password rounds => hashes password rounds answer.digest
  | .compare password digest => compares password digest answer.isMatch
  | .findOne _ | .create .. | .findByIdAndDelete _ => isTrue trivial

instance decidableAnswers (answer : Answer) :
    (slot : Slot Call Op (Except Thrown Reply)) → Decidable (hashing.Answers answer slot)
  | .running _ op => decidableGives hashing answer op
  | .free | .finished .. | .crashed _ => isTrue trivial

instance decidableAuthentic (view : View) :
    (event : Happening) → Decidable (Authentic hashing view event)
  | .step pid answer => decidableAnswers hashing answer (view.slots pid)
  | .crash pid (some answer) => decidableAnswers hashing answer (view.slots pid)
  | .call .. | .crash _ none => isTrue trivial

variable (Hashes : (password : String) → (rounds : ℕ) → (digest : String) → Prop)
  [decidable : ∀ password rounds digest, Decidable (Hashes password rounds digest)]

instance ofHashes_decidableHashes (password : String) (rounds : ℕ) (digest : String) :
    Decidable ((Hashing.ofHashes Hashes).Hashes password rounds digest) :=
  decidable password rounds digest

instance ofHashes_decidableCompares (password digest : String) (isMatch : Bool) :
    Decidable ((Hashing.ofHashes Hashes).Compares password digest isMatch) :=
  isTrue trivial

end Decisions

/-! ## Users and their registrations -/

section Vouched

variable (Hashes : (password : String) → (rounds : ℕ) → (digest : String) → Prop)
  (hashing : Hashing) (Happened : Happening → Prop)

/-- The user is of a registration that was called: it has the name and the e-mail of its body, a
hash of its password, and an id that this call was given. -/
structure Vouched (user : Auth) (pid : ℕ) (body : RegisterBody) : Prop where
  called : Happened (.call pid (.register body))
  answered : ∃ answer : Answer, answer.id = user.id ∧
    (Happened (.step pid answer) ∨ Happened (.crash pid (some answer)))
  name : user.name = body.name
  email : user.email = body.email
  password : Hashes body.password 10 user.password

/-- The user is of some registration. -/
def Known (user : Auth) : Prop := ∃ pid body, Vouched Hashes Happened user pid body

/-- What a call knows at a program point. -/
def Pc.Sound (call : Call) : Pc → Prop
  | .findExisting body => call = .register body
  | .hash body => call = .register body
  | .create body hashedPassword =>
      call = .register body ∧ Hashes body.password 10 hashedPassword
  | .findUser body => call = .login body
  | .compare body user =>
      call = .login body ∧ user.email = body.email ∧ Known Hashes Happened user
  | .findByIdAndDelete _ => True

/-- A token is for the user who has registered, or whose password was given. -/
def Issued (pid : ℕ) (call : Call) : Except Thrown Reply → Prop
  | .ok (.registered _ user token) =>
      ∃ body, call = .register body ∧ Vouched hashing.Hashes Happened user pid body ∧
        token = jwtService.sign user
  | .ok (.loggedIn _ token) =>
      ∃ body user, call = .login body ∧ Known hashing.Hashes Happened user ∧
        user.email = body.email ∧ hashing.Compares body.password user.password true ∧
          token = jwtService.sign user
  | _ => True

/-- All users are known, and calls know what they rely on. -/
def vouching : Assertions World Call Pc (Except Thrown Reply) where
  Global world := ∀ user ∈ world.users, Known hashing.Hashes Happened user
  Local _ pid slot :=
    match slot with
    | .running call pc => Happened (.call pid call) ∧ pc.Sound hashing.Hashes Happened call
    | .finished call out => Issued hashing Happened pid call out
    | _ => True

end Vouched

/-! ## Every operation -/

section Operations

variable {hashing : Hashing} {Happened : Happening → Prop} {world world' : World} {pid : ℕ}
  {call : Call} {pc : Pc} {answer : Answer} {reply : Except Thrown pc.op.Value}

theorem known_of_mem (known : ∀ user ∈ world.users, Known hashing.Hashes Happened user)
    {email : String} {user : Auth} (found : world.find email = some user) :
    Known hashing.Hashes Happened user ∧ user.email = email :=
  ⟨known user (List.mem_of_find?_eq_some found), by simpa using List.find?_some found⟩

/-- What `create` inserts is vouched for by its call. -/
theorem vouched_create {body : RegisterBody} {hashedPassword : String}
    (called : Happened (.call pid call))
    (sound : (Pc.create body hashedPassword).Sound hashing.Hashes Happened call)
    (answered : Happened (.step pid answer) ∨ Happened (.crash pid (some answer))) :
    Vouched hashing.Hashes Happened ⟨answer.id, body.name, body.email, hashedPassword⟩ pid
      body := by
  obtain ⟨rfl, hashed⟩ := sound
  exact ⟨called, ⟨answer, rfl, answered⟩, rfl, rfl, hashed⟩

/-- The users stay known. -/
theorem known_exec (known : ∀ user ∈ world.users, Known hashing.Hashes Happened user)
    (called : Happened (.call pid call)) (sound : pc.Sound hashing.Hashes Happened call)
    (answered : Happened (.step pid answer) ∨ Happened (.crash pid (some answer)))
    (performed : exec world pid call pc.op answer = some (world', reply)) :
    ∀ user ∈ world'.users, Known hashing.Hashes Happened user := by
  cases pc with
  | create body hashedPassword =>
      rcases respond_cases performed with ⟨rfl, _⟩ | ⟨_, rfl, _⟩
      · exact known
      · intro user stored
        rcases List.mem_append.mp stored with before | here
        · exact known user before
        · rw [List.mem_singleton.mp here]
          exact ⟨pid, body, vouched_create called sound answered⟩
  | findByIdAndDelete userId =>
      rcases respond_cases performed with ⟨rfl, _⟩ | ⟨_, rfl, _⟩
      · exact known
      · exact fun user stored => known user (List.mem_of_mem_filter stored)
  | findExisting body =>
      rcases respond_cases performed with ⟨rfl, _⟩ | ⟨_, rfl, _⟩
      · exact known
      · split
        · rw [enroll_users]
          exact known
        · exact known
  | findUser body =>
      rcases respond_cases performed with ⟨rfl, _⟩ | ⟨_, rfl, _⟩
      · exact known
      · split
        · rw [enroll_users]
          exact known
        · exact known
  | hash body =>
      rcases respond_cases performed with ⟨rfl, _⟩ | ⟨_, rfl, _⟩
      · exact known
      · exact known
  | compare body user =>
      rcases respond_cases performed with ⟨rfl, _⟩ | ⟨_, rfl, _⟩
      · exact known
      · exact known

/-- Where a call goes on or ends, it knows what it relies on. -/
theorem vouching_next (known : ∀ user ∈ world.users, Known hashing.Hashes Happened user)
    (called : Happened (.call pid call)) (sound : pc.Sound hashing.Hashes Happened call)
    (answered : Happened (.step pid answer)) (gives : hashing.Gives pc.op answer)
    (performed : exec world pid call pc.op answer = some (world', reply)) (world'' : World) :
    (vouching hashing Happened).Local world'' pid
      (Pool.land site world' pid call (Led.next pc reply)).2 := by
  cases pc with
  | findExisting body =>
      rcases reply with error | (_ | user)
      · exact trivial
      · exact ⟨called, sound⟩
      · exact trivial
  | hash body =>
      rcases respond_cases performed with ⟨_, error, _, rfl⟩ | ⟨_, _, ⟨_, rfl⟩ | ⟨error, _, rfl⟩⟩
      · exact trivial
      · exact ⟨called, sound, gives⟩
      · exact trivial
  | create body hashedPassword =>
      rcases respond_cases performed with ⟨_, error, _, rfl⟩ | ⟨_, _, ⟨_, rfl⟩ | ⟨error, _, rfl⟩⟩
      · exact trivial
      · exact ⟨body, sound.1, vouched_create called sound (.inl answered), rfl⟩
      · exact trivial
  | findUser body =>
      rcases respond_cases performed with ⟨_, error, _, rfl⟩ | ⟨_, _, ⟨_, rfl⟩ | ⟨error, _, rfl⟩⟩
      · exact trivial
      · cases found : world.find body.email with
        | none => exact trivial
        | some user =>
            obtain ⟨mine, email⟩ := known_of_mem known found
            exact ⟨called, sound, email, mine⟩
      · exact trivial
  | compare body user =>
      rcases respond_cases performed with ⟨_, error, _, rfl⟩ | ⟨_, _, ⟨_, rfl⟩ | ⟨error, _, rfl⟩⟩
      · exact trivial
      · have compared : hashing.Compares body.password user.password answer.isMatch := gives
        obtain ⟨rfl, email, mine⟩ := sound
        cases isMatch : answer.isMatch with
        | true => exact ⟨body, user, rfl, mine, email, isMatch ▸ compared, rfl⟩
        | false => exact trivial
      · exact trivial
  | findByIdAndDelete userId =>
      rcases reply with error | (_ | user)
      · exact trivial
      · exact trivial
      · exact trivial

end Operations

/-! ## Every step -/

section Steps

variable {hashing : Hashing} {Happened : Happening → Prop}

theorem vouching_enter {pid : ℕ} {call : Call} (called : Happened (.call pid call))
    (world : World) : (vouching hashing Happened).Local world pid
      (Pool.land site world pid call (Led.enter call)).2 := by
  cases call with
  | register body => exact ⟨called, rfl⟩
  | login body => exact ⟨called, rfl⟩
  | deleteUser userId => exact ⟨called, trivial⟩

/-- A segment of a call leaves the users alone. -/
theorem land_users (world : World) (pid : ℕ) (call : Call) (led : Led) :
    (Pool.land site world pid call led).1.users = world.users := by
  obtain ⟨_, target⟩ := led
  cases target with
  | running pc => rfl
  | finished out => rfl

theorem vouching_valid : (vouching hashing Happened).Valid site flow fun pool event =>
    Happened event ∧ Authentic hashing (pool.observe flow) event where
  call := by
    intro pool pid call world holds happened _ started
    cases started
    refine ⟨fun user stored => ?_, vouching_enter happened.1 _, fun _ _ before => before⟩
    rw [land_users] at stored
    exact holds.globally user stored
  step := by
    intro pool pid answer call pc world reply holds happened running performed
    obtain ⟨called, sound⟩ := by simpa only [vouching, running] using holds.locally pid
    have gives : hashing.Gives (flow.op call pc) answer := by
      simpa only [Authentic, Pool.observe_slots, running, Slot.observe, Hashing.Answers] using
        happened.2
    refine ⟨fun user stored => ?_, ?_, fun _ _ before => before⟩
    · rw [land_users] at stored
      exact known_exec holds.globally called sound (.inl happened.1) performed user stored
    · exact vouching_next holds.globally called sound happened.1 gives performed _
  crashPending := by
    intro pool pid call pc holds _ _
    exact ⟨holds.globally, trivial, fun _ _ before => before⟩
  crashPerformed := by
    intro pool pid answer call pc world reply holds happened running performed
    obtain ⟨called, sound⟩ := by simpa only [vouching, running] using holds.locally pid
    have known := known_exec holds.globally called sound (.inr happened.1) performed
    exact ⟨known, trivial, fun _ _ before => before⟩
  env := by
    intro pool event world _ _ _
    cases event

end Steps

/-! ## Every run -/

/-- Who is stored, and who has got a token, in a run of these events. -/
structure Credible (hashing : Hashing) (events : List Happening) (state : State) : Prop where
  /-- Each user is of a registration, and has a hash of its password. -/
  stored : ∀ user ∈ state.world.users, ∃ pid body, Vouched hashing.Hashes (· ∈ events) user pid body
  /-- A registration gets a token for the user it has made. -/
  registered : ∀ pid body message user token,
    state.slots pid = .finished (.register body) (.ok (.registered message user token)) →
      Vouched hashing.Hashes (· ∈ events) user pid body ∧ token = ⟨user.id, body.email⟩
  /-- A login gets a token for the user of a registration of its e-mail, and bcrypt takes its
  password for the one that was hashed. -/
  loggedIn : ∀ pid body message token,
    state.slots pid = .finished (.login body) (.ok (.loggedIn message token)) →
      ∃ user pid' body', Vouched hashing.Hashes (· ∈ events) user pid' body' ∧
        token = ⟨user.id, body.email⟩ ∧ body'.email = body.email ∧
          hashing.Compares body.password user.password true

/-- Users and tokens are vouched for along every path. -/
theorem vouched_of_path {hashing : Hashing} {Happened : Happening → Prop} {state : State}
    (ran : Path step (fun state event =>
      Happened event ∧ Authentic hashing (state.observe programs) event) (.initial {}) state) :
    (∀ user ∈ state.world.users, Known hashing.Hashes Happened user) ∧
      ∀ {pid call out}, state.slots pid = .finished call out →
        Issued hashing Happened pid call out := by
  obtain ⟨machine, ran, same⟩ := implements.path
    (C := fun view event => Happened event ∧ Authentic hashing view event) ran
  have holds : (vouching hashing Happened).Holds machine :=
    vouching_valid.path ran ⟨fun user stored => absurd stored List.not_mem_nil, fun _ => trivial⟩
  have world : machine.world = state.world := congrArg Pool.world same
  refine ⟨world ▸ holds.globally, fun {pid call out} finished => ?_⟩
  have ended : machine.slots pid = .finished call out := Pool.finished_of_observe same finished
  simpa only [vouching, ended] using holds.locally pid

/-- **Tokens are credible.** However registrations, logins and deletions interleave, and wherever
operations fail and processes crash: who is stored has registered, and who gets a token has
registered or has given a password that bcrypt takes for the one of a registration, and gets it for
the user of this registration. -/
theorem tokens_credible (hashing : Hashing) {events : List Happening} {state : State}
    (ran : run step (.initial {}) events = some state)
    (authentic : Meets step (fun state event => Authentic hashing (state.observe programs) event)
      (.initial {}) events) :
    Credible hashing events state := by
  have happened : Meets step (fun _ event => event ∈ events) (.initial {}) events :=
    .of_forall fun _ there _ => there
  obtain ⟨known, issued⟩ := vouched_of_path (.of_run ran (happened.and authentic))
  refine ⟨known, ?_, ?_⟩
  · intro pid body message user token finished
    obtain ⟨body', same, vouched, rfl⟩ := issued finished
    cases same
    exact ⟨vouched, congrArg (Token.mk user.id) vouched.email⟩
  · intro pid body message token finished
    obtain ⟨body', user, same, ⟨pid', registered, vouched⟩, email, agrees, rfl⟩ := issued finished
    cases same
    exact ⟨user, pid', registered, vouched, congrArg (Token.mk user.id) email,
      vouched.email.symm.trans email, agrees⟩

namespace Sample

instance decidableHashes (password : String) (rounds : ℕ) (digest : String) :
    Decidable (truncating.hashing.Hashes password rounds digest) :=
  decidable_of_iff (digest = asCharacters password)
    ⟨fun same => ⟨"", same⟩, fun ⟨_, same⟩ => same⟩

instance decidableCompares (password digest : String) (isMatch : Bool) :
    Decidable (truncating.hashing.Compares password digest isMatch) :=
  inferInstanceAs (Decidable (isMatch = truncating.compares password digest))

def givesId (pid : ℕ) (id : ObjectId) (digest : String) : Happening :=
  .step pid ⟨.resolved, id, digest, true⟩

/-- A user registers and logs in while another registration of the same e-mail is under way. The
login begins when the user is stored, and its password is another one that bcrypt takes for the
registered one. -/
def loggedInMeanwhile : List Happening :=
  [.call 0 (.register longBody), .call 1 (.register longBody),
    givesId 0 longUser.id "", givesId 1 longUser.id "",
    givesId 0 longUser.id (asCharacters longBody.password), givesId 0 longUser.id "",
    .call 2 (.login otherLogin), givesId 2 longUser.id "",
    givesId 1 longUser.id (asCharacters longBody.password), givesId 2 longUser.id "",
    .crash 1 none]

/-- The token of a call that has logged in. -/
def token? {Pc : Type} : Slot Call Pc (Except Thrown Reply) → Option Token
  | .finished _ (.ok (.loggedIn _ token)) => some token
  | _ => none

end Sample

/-- The theorem at a login next to two registrations. -/
theorem tokens_credible_meanwhile :
    ∃ state ∈ run step (.initial {}) Sample.loggedInMeanwhile,
      Sample.token? (state.slots 2) = some (jwtService.sign Sample.longUser) ∧
        Credible Sample.truncating.hashing Sample.loggedInMeanwhile state := by
  obtain ⟨state, ran, loggedIn, authentic⟩ :
      ∃ state ∈ run step (.initial {}) Sample.loggedInMeanwhile,
        Sample.token? (state.slots 2) = some (jwtService.sign Sample.longUser) ∧
        Meets step (fun state event =>
            Authentic Sample.truncating.hashing (state.observe programs) event)
          (.initial {}) Sample.loggedInMeanwhile := by
    decide +kernel
  exact ⟨state, ran, loggedIn, tokens_credible Sample.truncating.hashing ran authentic⟩

end WorkflowHub.AuthService
