import WorkflowHub.Gateway.SagaInvariant

/-!
# Atomicity of the registration saga

The saga notes how to take a call back when it sees the reply of the call, so a call that
takes effect unseen is never taken back (`timeout_leaves_task`). That is all that can go
wrong: while compensations succeed, a saga that has ended has left everything or nothing
behind exactly if each of its calls that took effect was seen to (`registration_atomic`).
-/

set_option autoImplicit false

namespace WorkflowHub.Gateway

open Processes AuthService TaskService Consumers

/-- Every call of a rollback succeeds. -/
def CompensationsSucceed (state : View) : Happening → Prop
  | .step pid answer | .crash pid (some answer) =>
      match state.slots pid with
      | .running _ op => ¬ op.Forward → answer.ending = .ended .resolved
      | _ => True
  | _ => True

instance (state : View) (event : Happening) : Decidable (CompensationsSucceed state event) := by
  unfold CompensationsSucceed
  split
  · split <;> infer_instance
  · split <;> infer_instance
  · infer_instance

section Steps

variable {world after : World} {pid : ℕ} {op : Op} {answer : Answer}

/-! ## Calls that are rejected -/

/-- What a rejected call of the saga leaves behind: nothing, a document, or a call that goes
on. -/
inductive Unseen (world : World) (pid : ℕ) (op : Op) : World → Prop where
  | nothing : Unseen world pid op world
  | document {after : World} {document : Document}
      (creates : Creates world after ⟨pid, document, false⟩) : Unseen world pid op after
  | outlasts :
      Unseen world pid op { world with outstanding := world.outstanding ++ [⟨pid, op⟩] }

/-- A call of the saga resolves with the reply of its effect, or is rejected. -/
theorem exec_forward {reply : Except Thrown op.Value} (forward : op.Forward)
    (answered : exec world pid op answer = some (after, reply)) :
    (∃ value, effect world pid true answer.chosen op = some (after, value) ∧ reply = .ok value) ∨
      (∃ error, reply = .error error) ∧ Unseen world pid op after := by
  obtain ⟨ending, chosen⟩ := answer
  match ending with
  | .ended .resolved =>
      obtain ⟨⟨after', value⟩, performed, same⟩ := Option.map_eq_some_iff.mp answered
      cases same
      exact .inl ⟨value, performed, rfl⟩
  | .ended (.rejected error) =>
      cases answered
      exact .inr ⟨⟨error, rfl⟩, .nothing⟩
  | .ended (.rejectedApplied error) =>
      obtain ⟨⟨after', value⟩, performed, same⟩ := Option.map_eq_some_iff.mp answered
      cases same
      obtain ⟨document, creates⟩ := effect_forward forward performed
      exact .inr ⟨⟨error, rfl⟩, .document creates⟩
  | .outlasts error =>
      cases answered
      exact .inr ⟨⟨error, rfl⟩, .outlasts⟩

/-- A call that succeeds resolves. -/
theorem exec_resolved {reply : Except Thrown op.Value} (succeeds : answer.ending = .ended .resolved)
    (answered : exec world pid op answer = some (after, reply)) :
    ∃ value, effect world pid true answer.chosen op = some (after, value) ∧ reply = .ok value := by
  simp only [exec, succeeds] at answered
  obtain ⟨⟨after', value⟩, performed, same⟩ := Option.map_eq_some_iff.mp answered
  cases same
  exact ⟨value, performed, rfl⟩

theorem Unseen.consistent (unseen : Unseen world pid op after) (forward : op.Forward)
    (consistent : Consistent world) : Consistent after := by
  cases unseen with
  | nothing => exact consistent
  | document creates => exact creates.consistent consistent
  | outlasts =>
      refine ⟨consistent.unique, fun creation found unseen => ?_, fun call found => ?_⟩
      · exact stored_outstanding.mpr (consistent.unseen creation found unseen)
      · rcases List.mem_append.mp found with found | found
        · exact consistent.forward call found
        · rw [List.mem_singleton.mp found]
          exact forward

theorem Unseen.keeps (unseen : Unseen world pid op after) {other : ℕ} (different : other ≠ pid) :
    Keeps other world after := by
  cases unseen with
  | nothing => exact .outstanding id
  | document creates => exact creates.keeps (Ne.symm different)
  | outlasts =>
      refine .outstanding fun quiet call found => ?_
      rcases List.mem_append.mp found with found | found
      · exact quiet call found
      · rw [List.mem_singleton.mp found]
        exact Ne.symm different

/-! ## The rollback -/

/-- A document created unseen is none of the rollback's business. -/
theorem Rollback.late {ops : List Op} {document : Document} (rollback : Rollback world pid ops)
    (creates : Creates world after ⟨pid, document, false⟩) : Rollback after pid ops := by
  have mine := mine_created creates.created
  constructor
  case pending =>
    intro creation found reported
    rw [mine, List.mem_append, List.mem_singleton] at found
    rcases found with found | rfl
    · rw [creates.stored, ← rollback.pending creation found reported]
      refine or_iff_left fun same => creates.fresh ?_
      rw [← same]
      exact List.mem_map_of_mem (mem_mine.mp found).1
    · cases reported
  case noted =>
    intro op noted
    obtain ⟨creation, found, rest⟩ := rollback.noted op noted
    exact ⟨creation, by rw [mine]; exact List.mem_append_left _ found, rest⟩
  case nodup => exact rollback.nodup

theorem Rollback.outstanding {ops : List Op} (rollback : Rollback world pid ops)
    (calls : List Outstanding) : Rollback { world with outstanding := calls } pid ops := by
  refine ⟨fun creation found reported => ?_, rollback.noted, rollback.nodup⟩
  rw [stored_outstanding]
  exact rollback.pending creation found reported

theorem Unseen.rollback (unseen : Unseen world pid op after) {ops : List Op}
    (rollback : Rollback world pid ops) : Rollback after pid ops := by
  cases unseen with
  | nothing => exact rollback
  | document creates => exact rollback.late creates
  | outlasts => exact rollback.outstanding _

/-- The rollback starts with what was noted: the documents the saga has created, the last
one first. -/
theorem Rollback.start (documents : List Document) (consistent : Consistent world)
    (mine : world.mine pid = documents.map fun document => ⟨pid, document, true⟩)
    (stored : ∀ document ∈ documents, document.Stored world) :
    Rollback world pid (documents.reverse.map Document.undo) := by
  constructor
  case pending =>
    intro creation found _
    rw [mine] at found
    obtain ⟨document, there, rfl⟩ := List.mem_map.mp found
    refine iff_of_true (stored document there) (List.mem_map_of_mem ?_)
    exact List.mem_reverse.mpr there
  case noted =>
    intro op noted
    obtain ⟨document, there, rfl⟩ := List.mem_map.mp noted
    refine ⟨⟨pid, document, true⟩, ?_, rfl, rfl⟩
    rw [mine]
    exact List.mem_map_of_mem (List.mem_reverse.mp there)
  case nodup =>
    have nodup : ((world.mine pid).map (·.document)).Nodup :=
      consistent.unique.sublist (List.filter_sublist.map _)
    rw [mine, List.map_map] at nodup
    have nodup : documents.Nodup := nodup.of_map _
    exact (List.nodup_reverse.mpr nodup).map fun _ _ => Document.undo_injective

/-- One document less. -/
theorem Rollback.next {gone : Creation} {rest : List Op}
    (rollback : Rollback world pid (gone.document.undo :: rest))
    (deletes : Deletes world after gone.document) : Rollback after pid rest := by
  obtain ⟨absent, nodup⟩ := List.nodup_cons.mp rollback.nodup
  have mine : after.mine pid = world.mine pid := by simp only [World.mine, deletes.created]
  constructor
  case pending =>
    rw [mine]
    intro creation there reported
    rw [deletes.stored, rollback.pending creation there reported, List.mem_cons]
    constructor
    · rintro ⟨here | later, apart⟩
      · exact absurd (Document.undo_injective here) apart
      · exact later
    · refine fun later => ⟨.inr later, fun same => absent ?_⟩
      rw [← same]
      exact later
  case noted =>
    rw [mine]
    exact fun op later => rollback.noted op (List.mem_cons_of_mem _ later)
  case nodup => exact nodup

/-- The call of a rollback that succeeds. -/
theorem rolled_back {reply : Except Thrown op.Value} {rest : List Op} (consistent : Consistent world)
    (rollback : Rollback world pid (op :: rest)) (succeeds : answer.ending = .ended .resolved)
    (answered : exec world pid op answer = some (after, reply)) :
    Consistent after ∧ Rollback after pid rest ∧ ∀ other, other ≠ pid → Keeps other world after := by
  obtain ⟨gone, found, reported, rfl⟩ := rollback.noted op List.mem_cons_self
  obtain ⟨value, performed, _⟩ := exec_resolved succeeds answered
  have deletes := effect_undo performed
  obtain ⟨created, mine⟩ := mem_mine.mp found
  refine ⟨deletes.consistent consistent created reported, rollback.next deletes, ?_⟩
  intro other different
  exact deletes.keeps consistent created (mine ▸ Ne.symm different)

/-! ## The calls of the saga -/

/-- Where the rollback goes is where a saga that failed stands. -/
theorem local_rollback {error : Thrown} {ops : List Op} {registerDto : RegisterBody}
    (rollback : Rollback world pid ops) :
    saga.Local world pid (Pool.land site world pid registerDto (Led.rollback error ops)).2 := by
  cases ops with
  | nil => exact rollback
  | cons op rest => exact rollback

/-- What is left of the world after a segment: sagas have no fields. -/
theorem land_world {Pc : Type} (world : World) (pid : ℕ) (registerDto : RegisterBody)
    (led : Unit × Target Pc (Except Thrown Registration)) :
    (Pool.land site world pid registerDto led).1 = world :=
  Pool.land_world site (fun _ => rfl) (fun _ => rfl) led

/-- The saga goes on from a call of its own, or into the rollback. -/
theorem forward_local {pc : Pc} {registerDto : RegisterBody} {reply : Except Thrown pc.op.Value}
    (forward : pc.op.Forward) (consistent : Consistent world) (sound : pc.Sound world pid)
    (answered : exec world pid pc.op answer = some (after, reply)) :
    saga.Local after pid (Pool.land site after pid registerDto (Led.next pc reply)).2 := by
  rcases exec_forward forward answered with ⟨value, performed, rfl⟩ | ⟨⟨error, rfl⟩, unseen⟩
  · cases pc with
    | registering registerDto =>
        obtain ⟨quiet, mine⟩ := sound
        simp only [Pc.op, effect, Option.ite_none_right_eq_some, Option.some.injEq] at performed
        obtain ⟨_, rfl, rfl⟩ := performed
        refine ⟨quiet, _, List.mem_append_right _ (List.mem_singleton_self _), ?_, rfl, rfl, rfl⟩
        exact (mine_created rfl).trans (congrArg (· ++ [_]) mine)
    | creatingTask auth user userId =>
        obtain ⟨quiet, stored, found, mine, same, rest⟩ := sound
        simp only [Pc.op, effect, Option.ite_none_right_eq_some, Option.some.injEq] at performed
        obtain ⟨_, rfl, rfl⟩ := performed
        refine ⟨quiet, stored, found, _, List.mem_append_right _ (List.mem_singleton_self _), ?_,
          same, rfl, same, rest⟩
        exact (mine_created rfl).trans (congrArg (· ++ [_]) mine)
    | sending auth user userId taskId =>
        obtain ⟨quiet, stored, found, task, found', mine, same, same', owner, known, id⟩ := sound
        simp only [Pc.op, effect] at performed
        split at performed
        · rename_i notification made
          obtain ⟨aboutTask, aboutUser, _⟩ := Notification.of?_eq_some made
          simp only [Option.ite_none_right_eq_some, Option.some.injEq] at performed
          obtain ⟨_, rfl, rfl⟩ := performed
          refine ⟨quiet, stored, found, task, found', notification,
            List.mem_append_right _ (List.mem_singleton_self _), ?_, ?_, owner, ?_, ?_⟩
          · exact (mine_created rfl).trans (congrArg (· ++ [_]) mine)
          · simp [known, id, same]
          · rw [← same]
            exact Option.some.inj aboutUser
          · rw [← same']
            exact Option.some.inj aboutTask
        · cases performed
    | rollingBack op rest error =>
        obtain ⟨gone, _, _, rfl⟩ := Rollback.noted sound op List.mem_cons_self
        exact absurd forward gone.document.undo_not_forward
  · cases pc with
    | registering registerDto =>
        exact local_rollback (unseen.rollback (Rollback.start [] consistent sound.2
          fun _ there => by cases there))
    | creatingTask auth user userId =>
        obtain ⟨_, stored, found, mine, same, _⟩ := sound
        have rollback : Rollback world pid [.deleteUser userId] := by
          rw [same]
          refine Rollback.start [.user stored.id] consistent mine ?_
          simp only [List.mem_singleton, forall_eq]
          exact List.mem_map_of_mem found
        exact local_rollback (unseen.rollback rollback)
    | sending auth user userId taskId =>
        obtain ⟨_, stored, found, task, found', mine, same, same', _⟩ := sound
        have rollback : Rollback world pid [.deleteSaga taskId, .deleteUser userId] := by
          rw [same, same']
          refine Rollback.start [.user stored.id, .task task.id] consistent mine ?_
          simp only [List.mem_cons, List.not_mem_nil, or_false, forall_eq_or_imp, forall_eq]
          exact ⟨List.mem_map_of_mem found, List.mem_map_of_mem found'⟩
        exact local_rollback (unseen.rollback rollback)
    | rollingBack op rest error =>
        obtain ⟨gone, _, _, rfl⟩ := Rollback.noted sound op List.mem_cons_self
        exact absurd forward gone.document.undo_not_forward

/-- Whatever a call of the saga does, the other sagas do not notice. -/
theorem forward_keeps {reply : Except Thrown op.Value} (forward : op.Forward)
    (consistent : Consistent world) (answered : exec world pid op answer = some (after, reply)) :
    Consistent after ∧ ∀ other, other ≠ pid → Keeps other world after := by
  rcases exec_forward forward answered with ⟨value, performed, _⟩ | ⟨_, unseen⟩
  · obtain ⟨document, creates⟩ := effect_forward forward performed
    exact ⟨creates.consistent consistent, fun other different => creates.keeps (Ne.symm different)⟩
  · exact ⟨unseen.consistent forward consistent, fun other different => unseen.keeps different⟩

end Steps

/-! ## Every step -/

/-- An outstanding call settles while its saga is rolling back, has failed or has crashed. -/
theorem late_local {world after : World} {pid index : ℕ} {document : Document}
    {slot : Slot RegisterBody Pc (Except Thrown Registration)} (loud : ¬ world.Quiet pid)
    (creates : Creates world after ⟨pid, document, false⟩) (holds : saga.Local world pid slot) :
    saga.Local (after.drop index) pid slot := by
  match slot with
  | .free => exact absurd holds.1 loud
  | .running _ (.registering _) => exact absurd holds.1 loud
  | .running _ (.creatingTask ..) => exact absurd holds.1 loud
  | .running _ (.sending ..) => exact absurd holds.1 loud
  | .running _ (.rollingBack ..) => exact (Rollback.late holds creates).outstanding _
  | .finished _ (.ok _) => exact absurd (Completed.quiet holds) loud
  | .finished _ (.error _) => exact (Rollback.late holds creates).outstanding _
  | .crashed _ => trivial

theorem drop_keeps {world : World} {pid index : ℕ} : Keeps pid world (world.drop index) :=
  .outstanding fun quiet call found => quiet call (List.mem_of_mem_eraseIdx found)

theorem drop_consistent {world : World} {index : ℕ} (consistent : Consistent world) :
    Consistent (world.drop index) where
  unique := consistent.unique
  unseen creation found unseen := stored_outstanding.mpr (consistent.unseen creation found unseen)
  forward call found := consistent.forward call (List.mem_of_mem_eraseIdx found)

theorem saga_valid :
    saga.Valid site flow fun pool event => CompensationsSucceed (pool.observe flow) event where
  call := by
    intro pool pid registerDto world holds _ free started
    cases started
    have fresh : pool.world.Quiet pid ∧ pool.world.mine pid = [] := by
      simpa only [saga, free] using holds.locally pid
    exact ⟨holds.globally, fresh, fun _ _ before => before⟩
  step := by
    intro pool pid choice registerDto pc world reply holds succeed running answered
    have sound : pc.Sound pool.world pid := by simpa only [saga, running] using holds.locally pid
    simp only [CompensationsSucceed, Pool.observe_slots, running, Slot.observe, flow] at succeed
    by_cases forward : pc.op.Forward
    · obtain ⟨consistent, keeps⟩ := forward_keeps forward holds.globally answered
      refine .of_world (land_world _ _ _ _) consistent ?_ fun other different before => ?_
      · exact forward_local forward holds.globally sound answered
      · exact (keeps other different).others before
    · cases pc with
      | rollingBack op rest error =>
          obtain ⟨consistent, rollback, keeps⟩ :=
            rolled_back holds.globally sound (succeed forward) answered
          refine .of_world (land_world _ _ _ _) consistent ?_ fun other different before => ?_
          · exact local_rollback rollback
          · exact (keeps other different).others before
      | _ => exact absurd trivial forward
  crashPending := by
    intro pool pid registerDto pc holds _ _
    exact ⟨holds.globally, trivial, fun _ _ before => before⟩
  crashPerformed := by
    intro pool pid choice registerDto pc world reply holds succeed running answered
    have sound : pc.Sound pool.world pid := by simpa only [saga, running] using holds.locally pid
    simp only [CompensationsSucceed, Pool.observe_slots, running, Slot.observe, flow] at succeed
    by_cases forward : pc.op.Forward
    · obtain ⟨consistent, keeps⟩ := forward_keeps forward holds.globally answered
      exact ⟨consistent, trivial, fun other different before => (keeps other different).others before⟩
    · cases pc with
      | rollingBack op rest error =>
          obtain ⟨consistent, _, keeps⟩ :=
            rolled_back holds.globally sound (succeed forward) answered
          exact ⟨consistent, trivial, fun other different before =>
            (keeps other different).others before⟩
      | _ => exact absurd trivial forward
  env := by
    intro pool event world holds _ moved
    cases event with
    | settles index chosen =>
        simp only [site] at moved
        split at moved
        · rename_i call outstanding
          obtain ⟨⟨after, value⟩, performed, rfl⟩ := Option.map_eq_some_iff.mp moved
          have there := List.mem_of_getElem? outstanding
          obtain ⟨document, creates⟩ :=
            effect_forward (holds.globally.forward call there) performed
          refine ⟨drop_consistent (creates.consistent holds.globally), fun pid before => ?_⟩
          by_cases mine : call.saga = pid
          · subst mine
            exact late_local (fun quiet => quiet call there rfl) creates before
          · exact ((creates.keeps mine).trans drop_keeps).others before
        · cases moved
    | abandons index =>
        simp only [site, Option.ite_none_right_eq_some, Option.some.injEq] at moved
        obtain ⟨_, rfl⟩ := moved
        exact ⟨drop_consistent holds.globally, fun pid before => drop_keeps.others before⟩

/-! ## All or nothing -/

/-- What atomicity asks of a saga that has ended: it has left a user, a task for that user and
a notification about both, or nothing that it has created is stored. -/
def Atomic (world : World) (saga : ℕ) : Except Thrown Registration → Prop
  | .ok registration =>
      ∃ user ∈ world.users, ∃ task ∈ world.tasks, ∃ notification ∈ world.notifications,
        (∀ document ∈ [Document.user user.id, .task task.id, .notification notification.id],
          document ∈ (world.mine saga).map (·.document)) ∧
        (registration.user.bind (·.id)).map (·.val) = some user.id.toString ∧
        task.userId = user.id.toString ∧ notification.userId = user.id.toString ∧
        notification.taskId = task.id.toString
  | .error _ => ∀ creation ∈ world.mine saga, ¬ creation.document.Stored world

/-- **A saga is atomic exactly if its effects were seen.** Once a saga has ended, and while
compensations succeed, everything or nothing of it is in the stores if and only if the
gateway has seen the reply of each of its calls that took effect. -/
theorem registration_atomic {state : State} (ran : Runs CompensationsSucceed (.initial {}) state)
    {pid : ℕ} {registerDto : RegisterBody} {out : Except Thrown Registration}
    (ended : state.slots pid = .finished registerDto out) :
    Atomic state.world pid out ↔ ∀ creation ∈ state.world.mine pid, creation.reported = true := by
  obtain ⟨machine, ran, same⟩ := implements.path ran
  have holds : saga.Holds machine := by
    refine saga_valid.path ran ⟨⟨List.nodup_nil, ?_, ?_⟩, fun pid => ⟨?_, rfl⟩⟩
    · intro creation found
      cases found
    · intro call found
      cases found
    · intro call found
      cases found
  rw [← show machine.world = state.world from congrArg Pool.world same]
  have finished : machine.slots pid = .finished registerDto out := by
    have seen : (machine.observe flow).slots pid = (state.observe programs).slots pid :=
      congrFun (congrArg Pool.slots same) pid
    rw [Pool.observe_slots, Pool.observe_slots, ended] at seen
    exact Slot.of_observe_finished seen
  have stands : Ended machine.world pid out := by
    simpa only [saga, finished] using holds.locally pid
  cases out with
  | ok registration =>
      obtain ⟨_, user, found, task, found', notification, found'', mine, rest⟩ := stands
      refine iff_of_true ⟨user, found, task, found', notification, found'', ?_, rest⟩ ?_
      · rw [mine]
        exact fun document there => there
      · rw [mine]
        simp
  | error error =>
      have rollback : Rollback machine.world pid [] := stands
      constructor
      · intro atomic creation found
        cases seen : creation.reported with
        | true => rfl
        | false =>
            have stored := holds.globally.unseen creation (mem_mine.mp found).1 seen
            exact absurd stored (atomic creation found)
      · intro reported creation found stored
        exact nomatch (rollback.pending creation found (reported creation found)).mp stored

/-! ## Sagas that fail -/

namespace Sample

def dto : RegisterBody := ⟨"Ada", "ada@example.org", "secret"⟩

def chosen (id : ObjectId) : Chosen := ⟨id, "$2b$10$"⟩

def userId : ObjectId := ⟨"65f0a1b2c3d4e5f6a7b8ca00", rfl⟩

def taskId : ObjectId := ⟨"65f0a1b2c3d4e5f6a7b8ca01", rfl⟩

def resolves (id : ObjectId) : Happening := .step 0 ⟨.ended .resolved, chosen id⟩

/-- The notification is rejected, and the task and the user are removed. -/
def rolledBack : List Happening :=
  [.call 0 dto, resolves userId, resolves taskId,
    .step 0 ⟨.ended (.rejected (.remote 500 "Notification creation failed in Saga")), chosen taskId⟩,
    resolves taskId, resolves userId]

/-- The call for the task outlasts the timeout of the circuit breaker, the user is removed,
and then the call takes effect. -/
def timedOut : List Happening :=
  [.call 0 dto, resolves userId,
    .step 0 ⟨.outlasts (.coded "ETIMEDOUT" "Timed out after 5000ms"), chosen taskId⟩,
    resolves userId, .env (.settles 0 (chosen taskId))]

/-- The saga has thrown. -/
def threw (state : State) : Bool :=
  match state.slots 0 with
  | .finished _ (.error _) => true
  | _ => false

theorem finished_of_threw {state : State} (thrown : threw state = true) :
    ∃ registerDto error, state.slots 0 = .finished registerDto (.error error) := by
  simp only [threw] at thrown
  split at thrown
  · rename_i registerDto error finished
    exact ⟨registerDto, error, finished⟩
  · cases thrown

end Sample

/-- The theorem at a saga that is rolled back. -/
theorem registration_atomic_rolledBack :
    ∃ state ∈ run step (.initial {}) Sample.rolledBack,
      (state.world.mine 0).map (·.document) = [.user Sample.userId, .task Sample.taskId] ∧
        ∃ error, Atomic state.world 0 (.error error) := by
  obtain ⟨state, ran, created, thrown, reported, succeed⟩ :
      ∃ state ∈ run step (.initial {}) Sample.rolledBack,
        (state.world.mine 0).map (·.document) = [.user Sample.userId, .task Sample.taskId] ∧
        Sample.threw state = true ∧
        (∀ creation ∈ state.world.mine 0, creation.reported = true) ∧
        Meets step (fun state event => CompensationsSucceed (state.observe programs) event)
          (.initial {}) Sample.rolledBack := by decide +kernel
  obtain ⟨registerDto, error, finished⟩ := Sample.finished_of_threw thrown
  exact ⟨state, ran, created, error, (registration_atomic (.of_run ran succeed) finished).mpr reported⟩

/-- **A task of a saga that has thrown.** Every call has settled, every compensation has
succeeded, and the welcome task is still there. -/
theorem timeout_leaves_task :
    ∃ state ∈ run step (.initial {}) Sample.timedOut,
      Meets step (fun state event => CompensationsSucceed (state.observe programs) event)
        (.initial {}) Sample.timedOut ∧
      state.world.outstanding = [] ∧ ∃ registerDto error,
        state.slots 0 = .finished registerDto (.error error) ∧
          ¬ Atomic state.world 0 (.error error) := by
  obtain ⟨state, ran, succeed, settled, thrown, stored⟩ :
      ∃ state ∈ run step (.initial {}) Sample.timedOut,
        Meets step (fun state event => CompensationsSucceed (state.observe programs) event)
          (.initial {}) Sample.timedOut ∧
        state.world.outstanding = [] ∧ Sample.threw state = true ∧
        ∃ creation ∈ state.world.mine 0, creation.document.Stored state.world := by decide +kernel
  obtain ⟨registerDto, error, finished⟩ := Sample.finished_of_threw thrown
  obtain ⟨creation, mine, there⟩ := stored
  exact ⟨state, ran, succeed, settled, registerDto, error, finished,
    fun atomic => atomic creation mine there⟩

end WorkflowHub.Gateway
