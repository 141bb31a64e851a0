import WorkflowHub.AuthService.ControlFlow
import WorkflowHub.Processes.Assertions
import Mathlib.Data.List.Nodup

/-!
# One user for each e-mail

Between the `findOne` of `register` and its insert there are two awaits, and nothing else
keeps a second user with the same e-mail out: two calls that both find nobody both insert
(`registered_twice`). `SoleRegistration` is the condition that this does not happen, and
under it no two users have one e-mail in any state (`email_unique`).
-/

set_option autoImplicit false

namespace WorkflowHub.AuthService

open Processes

/-- When a call of `register` finds no user with its e-mail, no other call that has found
none with that e-mail is still on its way to insert one. -/
def SoleRegistration (state : View) : Happening → Prop
  | .step pid answer =>
      match state.slots pid with
      | .running (.register _) (.findOne email) =>
          answer.outcome = .resolved → state.world.find email = none →
            ∀ entry ∈ state.world.registering, entry.2 ≠ email
      | _ => True
  | _ => True

instance (state : View) (event : Happening) : Decidable (SoleRegistration state event) := by
  unfold SoleRegistration
  split
  · split <;> infer_instance
  · infer_instance

/-! ## Users and registrations -/

structure Exclusive (world : World) : Prop where
  unique : (world.users.map (·.email)).Nodup
  sole : (world.registering.map (·.2)).Nodup
  absent : ∀ entry ∈ world.registering, entry.2 ∉ world.users.map (·.email)

namespace Exclusive

variable {world : World} {pid : ℕ} {email : String}

theorem withdraw (exclusive : Exclusive world) (pid : ℕ) : Exclusive (world.withdraw pid) where
  unique := exclusive.unique
  sole := exclusive.sole.sublist (List.filter_sublist.map _)
  absent entry found := exclusive.absent entry (List.mem_of_mem_filter found)

/-- An e-mail that no user has and nobody registers is registered. -/
theorem enroll (exclusive : Exclusive world) (absent : world.find email = none)
    (sole : ∀ entry ∈ world.registering, entry.2 ≠ email) :
    Exclusive { world with registering := world.registering ++ [(pid, email)] } where
  unique := exclusive.unique
  sole := by
    rw [List.map_append, List.map_singleton]
    refine exclusive.sole.append (List.nodup_singleton _) ?_
    intro other before here
    obtain ⟨entry, found, rfl⟩ := List.mem_map.mp before
    exact sole entry found (List.mem_singleton.mp here)
  absent := by
    intro entry found
    rcases List.mem_append.mp found with found | found
    · exact exclusive.absent entry found
    · rw [List.mem_singleton.mp found]
      intro present
      obtain ⟨user, there, same⟩ := List.mem_map.mp present
      have different := List.find?_eq_none.mp absent user there
      exact different (decide_eq_true same)

/-- The call that registers an e-mail inserts the user with it, and ends. -/
theorem insert (exclusive : Exclusive world) {user : Auth}
    (registers : (pid, user.email) ∈ world.registering) :
    Exclusive ({ world with users := world.users ++ [user] }.withdraw pid) where
  unique := by
    rw [World.withdraw, List.map_append, List.map_singleton]
    refine exclusive.unique.append (List.nodup_singleton _) ?_
    intro other before here
    exact exclusive.absent _ registers (List.mem_singleton.mp here ▸ before)
  sole := exclusive.sole.sublist (List.filter_sublist.map _)
  absent := by
    intro entry found present
    obtain ⟨there, other⟩ := List.mem_filter.mp found
    rw [World.withdraw, List.map_append, List.map_singleton, List.mem_append,
      List.mem_singleton] at present
    rcases present with present | same
    · exact exclusive.absent entry there present
    · have one := List.inj_on_of_nodup_map exclusive.sole there registers same
      rw [one] at other
      exact of_decide_eq_true other rfl

theorem delete (exclusive : Exclusive world) (kept : Auth → Bool) :
    Exclusive { world with users := world.users.filter kept } where
  unique := exclusive.unique.sublist (List.filter_sublist.map _)
  sole := exclusive.sole
  absent entry found present :=
    exclusive.absent entry found (List.map_subset _ (List.filter_subset_self _) present)

end Exclusive

/-! ## The assertions -/

/-- Which method is at which `findOne`, and whose registration is recorded. -/
def Pc.Enrolled (world : World) (pid : ℕ) (call : Call) (pc : Pc) : Prop :=
  (∀ body, pc = .findExisting body → call = .register body) ∧
    (∀ body, pc = .findUser body → call = .login body) ∧
      ∀ email ∈ pc.registers, (pid, email) ∈ world.registering

section Enrolled

variable {world : World} {pid : ℕ}

/-- Nothing is recorded yet of a call that starts. -/
theorem enrolled_findExisting {body : RegisterBody} :
    (Pc.findExisting body).Enrolled world pid (.register body) := by
  refine ⟨fun body' same => ?_, nofun, nofun⟩
  cases same
  rfl

theorem enrolled_findUser {body : LoginBody} :
    (Pc.findUser body).Enrolled world pid (.login body) := by
  refine ⟨nofun, fun body' same => ?_, nofun⟩
  cases same
  rfl

theorem enrolled_findByIdAndDelete {userId : String} :
    (Pc.findByIdAndDelete userId).Enrolled world pid (.deleteUser userId) :=
  ⟨nofun, nofun, nofun⟩

end Enrolled

def registration : Assertions World Call Pc (Except Thrown Reply) where
  Global := Exclusive
  Local world pid slot :=
    match slot with
    | .running call pc => pc.Enrolled world pid call
    | _ => True

/-- The registrations of other calls stay recorded. -/
def Keeps (pid : ℕ) (world world' : World) : Prop :=
  ∀ other, other ≠ pid → ∀ email, (other, email) ∈ world.registering →
    (other, email) ∈ world'.registering

theorem Keeps.withdraw {pid : ℕ} {world world' : World} (keeps : Keeps pid world world') :
    Keeps pid world (world'.withdraw pid) := by
  intro other different email found
  exact List.mem_filter.mpr ⟨keeps other different email found, decide_eq_true different⟩

theorem Keeps.enroll (pid : ℕ) (world : World) (call : Call) (email : String) :
    Keeps pid world (world.enroll pid call email) := by
  intro other _ email' found
  simp only [World.enroll]
  split
  · exact List.mem_append_left _ found
  · exact found

theorem Keeps.others {pid other : ℕ} {world world' : World} (keeps : Keeps pid world world')
    (different : other ≠ pid) {slot : Slot Call Pc (Except Thrown Reply)}
    (holds : registration.Local world other slot) : registration.Local world' other slot := by
  cases slot with
  | running call pc =>
      exact ⟨holds.1, holds.2.1, fun email found => keeps other different email (holds.2.2 email found)⟩
  | _ => trivial

theorem enroll_register {world : World} {pid : ℕ} {body : RegisterBody} {email : String}
    (absent : world.find email = none) : world.enroll pid (.register body) email =
      { world with registering := world.registering ++ [(pid, email)] } := by
  simp only [World.enroll, absent]

theorem enroll_login {world : World} {pid : ℕ} {body : LoginBody} {email : String} :
    world.enroll pid (.login body) email = world := by
  simp [World.enroll]

/-- Enrolling matters only while the call runs. -/
theorem withdraw_enroll (world : World) (pid : ℕ) (call : Call) (email : String) :
    (world.enroll pid call email).withdraw pid = world.withdraw pid := by
  simp only [World.enroll]
  split
  · simp [World.withdraw, List.filter_append]
  · rfl

section Owed

variable {pool : Pool World Call Pc (Except Thrown Reply)} {pid : ℕ} {world : World} {call : Call}

/-- What a call owes that ends, in one way or the other. -/
theorem owed_ended {slot : Slot Call Pc (Except Thrown Reply)}
    (exclusive : Exclusive (world.withdraw pid)) (keeps : Keeps pid pool.world world)
    (stopped : slot.isRunning = false) :
    registration.Owed pool pid (world.withdraw pid, slot) where
  globally := exclusive
  locally := by
    cases slot with
    | running call pc => cases stopped
    | _ => trivial
  others _ different := keeps.withdraw.others different

/-- What a call owes that goes on. -/
theorem owed_running {pc : Pc} (exclusive : Exclusive world) (keeps : Keeps pid pool.world world)
    (enrolled : pc.Enrolled world pid call) :
    registration.Owed pool pid (world, .running call pc) where
  globally := exclusive
  locally := enrolled
  others _ different := keeps.others different

end Owed

/-! ## Every step -/

section Exec

variable {world world' : World} {pid : ℕ} {call : Call} {pc : Pc} {answer : Answer}
  {reply : Except Thrown pc.op.Value}

/-- Whatever an operation does, the call could end after it. -/
theorem exec_exclusive (exclusive : Exclusive world) (enrolled : pc.Enrolled world pid call)
    (answered : exec world pid call pc.op answer = some (world', reply)) :
    Keeps pid world world' ∧ Exclusive (world'.withdraw pid) := by
  have unchanged : Keeps pid world world ∧ Exclusive (world.withdraw pid) :=
    ⟨fun _ _ _ found => found, exclusive.withdraw pid⟩
  have enroll : ∀ email, Keeps pid world (world.enroll pid call email) ∧
      Exclusive ((world.enroll pid call email).withdraw pid) := by
    intro email
    rw [withdraw_enroll]
    exact ⟨.enroll pid world call email, exclusive.withdraw pid⟩
  cases pc with
  | findExisting body =>
      rcases respond_cases answered with ⟨rfl, _⟩ | ⟨_, rfl, _⟩
      · exact unchanged
      · split
        · exact enroll body.email
        · exact unchanged
  | findUser body =>
      rcases respond_cases answered with ⟨rfl, _⟩ | ⟨_, rfl, _⟩
      · exact unchanged
      · split
        · exact enroll body.email
        · exact unchanged
  | hash body =>
      rcases respond_cases answered with ⟨rfl, _⟩ | ⟨_, rfl, _⟩
      · exact unchanged
      · exact unchanged
  | create body hashedPassword =>
      rcases respond_cases answered with ⟨rfl, _⟩ | ⟨_, rfl, _⟩
      · exact unchanged
      · exact ⟨fun _ _ _ found => found, exclusive.insert (enrolled.2.2 body.email rfl)⟩
  | compare body user =>
      rcases respond_cases answered with ⟨rfl, _⟩ | ⟨_, rfl, _⟩
      · exact unchanged
      · exact unchanged
  | findByIdAndDelete userId =>
      rcases respond_cases answered with ⟨rfl, _⟩ | ⟨_, rfl, _⟩
      · exact unchanged
      · exact ⟨fun _ _ _ found => found, (exclusive.delete _).withdraw pid⟩

/-- A call goes on from `findOne` with its e-mail recorded, if nobody else registers it. -/
theorem next_running {pc' : Pc} (exclusive : Exclusive world) (enrolled : pc.Enrolled world pid call)
    (sole : ∀ body, pc = .findExisting body → answer.outcome = .resolved →
      world.find body.email = none → ∀ entry ∈ world.registering, entry.2 ≠ body.email)
    (answered : exec world pid call pc.op answer = some (world', reply))
    (goes : (Led.next pc reply).2 = .running pc') :
    Exclusive world' ∧ pc'.Enrolled world' pid call := by
  cases pc with
  | findExisting body =>
      match reply, goes with
      | .ok none, goes =>
          cases goes
          obtain ⟨_, rfl, absent, resolved⟩ := respond_ok answered
          have absent : world.find body.email = none := absent.symm
          rw [if_pos resolved, enrolled.1 body rfl, enroll_register absent]
          refine ⟨exclusive.enroll absent (sole body rfl resolved absent), nofun, nofun, ?_⟩
          rintro email ⟨⟩
          exact List.mem_append_right _ (List.mem_singleton_self _)
  | hash body =>
      match reply, goes with
      | .ok hashedPassword, goes =>
          cases goes
          obtain ⟨_, rfl, _, _⟩ := respond_ok answered
          exact ⟨exclusive, nofun, nofun, enrolled.2.2⟩
  | findUser body =>
      match reply, goes with
      | .ok (some user), goes =>
          cases goes
          obtain ⟨_, rfl, _, resolved⟩ := respond_ok answered
          rw [if_pos resolved, enrolled.2.1 body rfl, enroll_login]
          exact ⟨exclusive, nofun, nofun, nofun⟩
  | create body hashedPassword =>
      match reply, goes with
      | .ok user, goes => cases goes
      | .error error, goes => cases goes
  | compare body user =>
      match reply, goes with
      | .ok true, goes => cases goes
      | .ok false, goes => cases goes
      | .error error, goes => cases goes
  | findByIdAndDelete userId =>
      match reply, goes with
      | .ok none, goes => cases goes
      | .ok (some user), goes => cases goes
      | .error error, goes => cases goes

end Exec

theorem registration_valid :
    registration.Valid site flow fun pool event => SoleRegistration (pool.observe flow) event where
  call := by
    intro pool pid call world holds _ _ started
    cases started
    have enrolled : ∀ pc, (Led.enter call).2 = .running pc → pc.Enrolled pool.world pid call := by
      intro pc goes
      cases call with
      | register body =>
          cases goes
          exact enrolled_findExisting
      | login body =>
          cases goes
          exact enrolled_findUser
      | deleteUser userId =>
          cases goes
          exact enrolled_findByIdAndDelete
    cases call with
    | register body =>
        exact owed_running holds.globally (fun _ _ _ found => found) (enrolled _ rfl)
    | login body => exact owed_running holds.globally (fun _ _ _ found => found) (enrolled _ rfl)
    | deleteUser userId =>
        exact owed_running holds.globally (fun _ _ _ found => found) (enrolled _ rfl)
  step := by
    intro pool pid choice call pc world reply holds sole running answered
    have enrolled : pc.Enrolled pool.world pid call := by
      simpa only [registration, running] using holds.locally pid
    obtain ⟨keeps, exclusive⟩ := exec_exclusive holds.globally enrolled answered
    show registration.Owed pool pid (Pool.land site world pid call (Led.next pc reply))
    cases led : Led.next pc reply with
    | mk fields target =>
        cases target with
        | finished out => exact owed_ended exclusive keeps rfl
        | running pc' =>
            obtain ⟨exclusive', enrolled'⟩ := next_running holds.globally enrolled (by
              rintro body rfl resolved absent
              simp only [SoleRegistration, Pool.observe_slots, running, Slot.observe, flow, Pc.op,
                enrolled.1 body rfl] at sole
              exact sole resolved absent) answered (by rw [led])
            exact owed_running exclusive' keeps enrolled'
  crashPending := by
    intro pool pid call pc holds _ _
    exact owed_ended (holds.globally.withdraw pid) (fun _ _ _ found => found) rfl
  crashPerformed := by
    intro pool pid choice call pc world reply holds _ running answered
    have enrolled : pc.Enrolled pool.world pid call := by
      simpa only [registration, running] using holds.locally pid
    obtain ⟨keeps, exclusive⟩ := exec_exclusive holds.globally enrolled answered
    exact owed_ended exclusive keeps rfl
  env := by
    intro pool event
    cases event

/-- **No two users have one e-mail,** if a call of `register` finds no user only while no
other call is about to insert one with that e-mail. -/
theorem email_unique {state : State} (ran : Runs SoleRegistration (.initial {}) state) :
    (state.world.users.map (·.email)).Nodup := by
  obtain ⟨machine, ran, same⟩ := implements.path ran
  have holds : registration.Holds machine := by
    refine registration_valid.path ran ⟨⟨?_, ?_, ?_⟩, fun pid => trivial⟩
    · exact List.nodup_nil
    · exact List.nodup_nil
    · intro entry found
      cases found
  rw [← show machine.world = state.world from congrArg Pool.world same]
  exact holds.globally.unique

/-! ## Two calls with one e-mail -/

namespace Sample

def body : RegisterBody := ⟨"Ada", "ada@example.org", "secret"⟩

def first : ObjectId := ⟨"65f0a1b2c3d4e5f6a7b8c900", rfl⟩

def second : ObjectId := ⟨"65f0a1b2c3d4e5f6a7b8c901", rfl⟩

def resolves (pid : ℕ) (id : ObjectId) : Happening := .step pid ⟨.resolved, id, "$2b$10$", true⟩

/-- Two registrations, one after the other, and a login. -/
def consecutive : List Happening :=
  [.call 0 (.register body), resolves 0 first, resolves 0 first, resolves 0 first,
    .call 1 (.register body), resolves 1 second, .call 2 (.login ⟨body.email, body.password⟩),
    resolves 2 second, resolves 2 second]

/-- Two registrations, the second of which looks for the e-mail while the first one hashes
its password. -/
def overlapping : List Happening :=
  [.call 0 (.register body), resolves 0 first, .call 1 (.register body), resolves 1 second,
    resolves 0 first, resolves 0 first, resolves 1 second, resolves 1 second]

end Sample

/-- The theorem at two registrations that do not overlap. -/
theorem email_unique_consecutive :
    ∃ state ∈ run step (.initial {}) Sample.consecutive,
      state.world.users.map (·.email) = [Sample.body.email] ∧
        (state.world.users.map (·.email)).Nodup := by
  obtain ⟨state, ran, one, sole⟩ :
      ∃ state ∈ run step (.initial {}) Sample.consecutive,
        state.world.users.map (·.email) = [Sample.body.email] ∧
        Meets step (fun state event => SoleRegistration (state.observe programs) event)
          (.initial {}) Sample.consecutive := by decide +kernel
  exact ⟨state, ran, one, email_unique (.of_run ran sole)⟩

/-- **Two users with one e-mail,** when two registrations overlap. Nothing fails. -/
theorem registered_twice :
    ∃ state ∈ run step (.initial {}) Sample.overlapping,
      ¬ (state.world.users.map (·.email)).Nodup := by
  decide +kernel

end WorkflowHub.AuthService
