import WorkflowHub.Gateway.Atomicity
import Mathlib.Data.List.Perm.Basic

/-!
# What sagas leave behind

`registration_atomic` speaks of sagas whose compensations succeed. Here nothing is assumed of
any call: a compensation may fail, take effect unseen or after its saga has ended, and the
gateway may crash at any point. What a saga can leave in the three stores is still limited:
at most a user, a task for that user and a notification about both, of which a user or a task
can be missing, and then only if the saga itself has given up (`residue_bounded`).
-/

set_option autoImplicit false

namespace WorkflowHub.Gateway

open Processes AuthService TaskService Consumers

/-! ## The documents of a saga -/

namespace World

/-- The documents a saga has created, in this order. -/
def documents (world : World) (saga : ℕ) : List Document := (world.mine saga).map (·.document)

/-- The calls of a saga that go on without it, except for those of its rollback. -/
def late (world : World) (saga : ℕ) : List Outstanding :=
  world.outstanding.filter fun call => call.saga = saga ∧ call.op.Forward

end World

/-- A saga creates a user, a task and a notification, in this order. -/
def Started (documents : List Document) : Prop :=
  ∃ user task notification,
    documents <+: [.user user, .task task, .notification notification]

/-- The call is the next one of a saga that has created these documents. -/
def Due (documents : List Document) : Op → Prop
  | .register _ => documents = []
  | .createSaga data => ∃ user, documents = [.user user] ∧ data.userId = user.toString
  | .sendSaga data => ∃ user task, documents = [.user user, .task task] ∧
      data.userId = some user.toString ∧ data.taskId = some task.toString
  | .deleteUser _ | .deleteSaga _ | .deleteNotification _ => False

/-- Sagas take users and tasks back, and never a notification. -/
def Document.Revocable : Document → Prop
  | .user _ | .task _ => True
  | .notification _ => False

/-- The call takes back a document that the saga has seen created. -/
def Noted (world : World) (saga : ℕ) (op : Op) : Prop :=
  ∃ creation ∈ world.mine saga,
    creation.reported = true ∧ creation.document.Revocable ∧ creation.document.undo = op

/-- A saga has created the user. -/
def UserOwned (world : World) (user : Auth) : Prop :=
  ∃ saga, .user user.id ∈ world.documents saga

/-- A saga has created the task, for a user of its own. -/
def TaskOwned (world : World) (task : Task) : Prop :=
  ∃ saga, .task task.id ∈ world.documents saga ∧
    ∃ user, .user user ∈ world.documents saga ∧ task.userId = user.toString

/-- A saga has created the notification, about a user and a task of its own. -/
def NotificationOwned (world : World) (notification : Notification) : Prop :=
  ∃ saga, .notification notification.id ∈ world.documents saga ∧
    ∃ user task, .user user ∈ world.documents saga ∧ .task task ∈ world.documents saga ∧
      notification.userId = user.toString ∧ notification.taskId = task.toString

structure Owned (world : World) : Prop where
  users : ∀ user ∈ world.users, UserOwned world user
  tasks : ∀ task ∈ world.tasks, TaskOwned world task
  notifications : ∀ notification ∈ world.notifications, NotificationOwned world notification

section Effect

variable {world after : World} {saga : ℕ} {reported : Bool} {chosen : Chosen}

theorem Due.started {documents : List Document} {op : Op} (due : Due documents op) :
    Started documents := by
  cases op with
  | register _ =>
      rw [show documents = [] from due]
      exact ⟨⟨"000000000000000000000000", rfl⟩, ⟨"000000000000000000000000", rfl⟩,
        ⟨"000000000000000000000000", rfl⟩, List.nil_prefix⟩
  | createSaga _ =>
      obtain ⟨user, rfl, _⟩ := due
      exact ⟨user, user, user, _, rfl⟩
  | sendSaga _ =>
      obtain ⟨user, task, rfl, _⟩ := due
      exact ⟨user, task, task, _, rfl⟩
  | _ => exact due.elim

theorem Due.forward {documents : List Document} {op : Op} (due : Due documents op) :
    op.Forward := by
  cases op with
  | register _ | createSaga _ | sendSaga _ => trivial
  | _ => exact due.elim

theorem documents_mono (created : world.created ⊆ after.created) :
    world.documents saga ⊆ after.documents saga :=
  List.map_subset _ fun _ found =>
    mem_mine.mpr ⟨created (mem_mine.mp found).1, (mem_mine.mp found).2⟩

theorem UserOwned.mono (created : world.created ⊆ after.created) {user : Auth}
    (owned : UserOwned world user) : UserOwned after user := by
  obtain ⟨saga, mine⟩ := owned
  exact ⟨saga, documents_mono created mine⟩

theorem TaskOwned.mono (created : world.created ⊆ after.created) {task : Task}
    (owned : TaskOwned world task) : TaskOwned after task := by
  obtain ⟨saga, mine, user, his, same⟩ := owned
  exact ⟨saga, documents_mono created mine, user, documents_mono created his, same⟩

theorem NotificationOwned.mono (created : world.created ⊆ after.created)
    {notification : Notification} (owned : NotificationOwned world notification) :
    NotificationOwned after notification := by
  obtain ⟨saga, mine, user, task, his, its, same⟩ := owned
  exact ⟨saga, documents_mono created mine, user, task, documents_mono created his,
    documents_mono created its, same⟩

/-- Documents that are removed, and creations that are recorded, leave the others as they are. -/
theorem Owned.of_subset (owned : Owned world) (created : world.created ⊆ after.created)
    (users : after.users ⊆ world.users) (tasks : after.tasks ⊆ world.tasks)
    (notifications : after.notifications ⊆ world.notifications) : Owned after where
  users user found := (owned.users user (users found)).mono created
  tasks task found := (owned.tasks task (tasks found)).mono created
  notifications notification found :=
    (owned.notifications notification (notifications found)).mono created

theorem documents_created {document : Document}
    (created : after.created = world.created ++ [⟨saga, document, reported⟩]) :
    after.documents saga = world.documents saga ++ [document] := by
  simp only [World.documents, mine_created created, List.map_append, List.map_singleton]

/-- The document a call creates under an id. -/
def Op.document? (id : ObjectId) : Op → Option Document
  | .register _ => some (.user id)
  | .createSaga _ => some (.task id)
  | .sendSaga _ => some (.notification id)
  | .deleteUser _ | .deleteSaga _ | .deleteNotification _ => none

/-- What the next call of a saga does when it takes effect. -/
structure Advances (world after : World) (saga : ℕ) (reported : Bool) (document : Document) :
    Prop where
  creates : Creates world after ⟨saga, document, reported⟩
  owned : Owned after
  started : Started (world.documents saga ++ [document])

theorem effect_due {op : Op} {value : op.Value} (owned : Owned world)
    (due : Due (world.documents saga) op)
    (performed : effect world saga reported chosen op = some (after, value)) :
    ∃ document, op.document? chosen.id = some document ∧
      Advances world after saga reported document := by
  obtain ⟨document, creates⟩ := effect_forward due.forward performed
  have grown := documents_created creates.created
  have created : world.created ⊆ after.created := by
    rw [creates.created]
    exact List.subset_append_left _ _
  have mine : document ∈ after.documents saga := by
    rw [grown]
    exact List.mem_append_right _ (List.mem_singleton_self _)
  have same {made : Document} (recorded : after.created = world.created ++ [⟨saga, made, reported⟩]) :
      document = made := by
    rw [creates.created] at recorded
    simpa using List.append_cancel_left recorded
  cases op with
  | register body =>
      simp only [effect, Option.ite_none_right_eq_some, Option.some.injEq] at performed
      obtain ⟨_, rfl, _⟩ := performed
      obtain rfl := same rfl
      refine ⟨_, rfl, creates, ⟨fun user found => ?_, fun task found => ?_,
        fun notification found => ?_⟩, ?_⟩
      · rcases List.mem_append.mp found with found | found
        · exact (owned.users user found).mono created
        · rw [List.mem_singleton.mp found]
          exact ⟨saga, mine⟩
      · exact (owned.tasks task found).mono created
      · exact (owned.notifications notification found).mono created
      · rw [show world.documents saga = [] from due]
        exact ⟨chosen.id, chosen.id, chosen.id, _, rfl⟩
  | createSaga data =>
      obtain ⟨user, before, owner⟩ := due
      simp only [effect, Option.ite_none_right_eq_some, Option.some.injEq] at performed
      obtain ⟨_, rfl, _⟩ := performed
      obtain rfl := same rfl
      refine ⟨_, rfl, creates, ⟨fun user found => ?_, fun task found => ?_,
        fun notification found => ?_⟩, ?_⟩
      · exact (owned.users user found).mono created
      · rcases List.mem_append.mp found with found | found
        · exact (owned.tasks task found).mono created
        · rw [List.mem_singleton.mp found]
          refine ⟨saga, mine, user, ?_, owner⟩
          rw [grown, before]
          exact List.mem_cons_self
      · exact (owned.notifications notification found).mono created
      · rw [before]
        exact ⟨user, chosen.id, chosen.id, _, rfl⟩
  | sendSaga data =>
      obtain ⟨user, task, before, aboutUser, aboutTask⟩ := due
      simp only [effect] at performed
      split at performed
      · rename_i notification made
        obtain ⟨sameTask, sameUser, sameId⟩ := Notification.of?_eq_some made
        simp only [Option.ite_none_right_eq_some, Option.some.injEq] at performed
        obtain ⟨_, rfl, _⟩ := performed
        obtain rfl := same rfl
        refine ⟨_, by rw [Op.document?, sameId], creates, ⟨fun user found => ?_,
          fun task found => ?_, fun other found => ?_⟩, ?_⟩
        · exact (owned.users user found).mono created
        · exact (owned.tasks task found).mono created
        · rcases List.mem_append.mp found with found | found
          · exact (owned.notifications other found).mono created
          · rw [List.mem_singleton.mp found]
            refine ⟨saga, mine, user, task, ?_, ?_, ?_, ?_⟩
            · rw [grown, before]
              exact List.mem_cons_self
            · rw [grown, before]
              exact List.mem_cons_of_mem _ List.mem_cons_self
            · exact Option.some.inj (sameUser.trans aboutUser)
            · exact Option.some.inj (sameTask.trans aboutTask)
        · rw [before]
          exact ⟨user, task, notification.id, List.prefix_rfl⟩
      · cases performed
  | _ => exact due.elim

end Effect

/-! ## Where a saga stands -/

/-- What holds of the stores, the history and the outstanding calls. -/
structure Accounted (world : World) : Prop where
  unique : (world.created.map (·.document)).Nodup
  owned : Owned world
  kept : ∀ creation ∈ world.created, ¬(creation.reported = true ∧ creation.document.Revocable) →
    creation.document.Stored world
  calls : ∀ call ∈ world.outstanding, ¬ call.op.Forward → Noted world call.saga call.op

/-- All a saga has created was reported to it and is stored, and no call of it goes on. -/
structure Steady (world : World) (saga : ℕ) : Prop where
  quiet : world.Quiet saga
  present : ∀ creation ∈ world.mine saga,
    creation.reported = true ∧ creation.document.Stored world

/-- The saga has given up, with these calls of the rollback left. One of its own calls may
still take effect. -/
structure Retreat (world : World) (saga : ℕ) (ops : List Op) : Prop where
  started : Started (world.documents saga)
  late : ∀ call ∈ world.late saga, Due (world.documents saga) call.op
  single : (world.late saga).length ≤ 1
  noted : ∀ op ∈ ops, Noted world saga op

/-- The saga has not given up, and the reply of the auth service names the user. -/
def Pc.Named : Pc → Prop
  | .registering _ => True
  | .creatingTask auth user userId | .sending auth user userId _ =>
      auth.user = some user ∧ user.id = some userId
  | .rollingBack .. => False

def Stage (world : World) (saga : ℕ) : Slot RegisterBody Pc (Except Thrown Registration) → Prop
  | .free => Steady world saga ∧ world.documents saga = []
  | .running _ (.rollingBack op rest _) => Retreat world saga (op :: rest)
  | .running _ pc => Steady world saga ∧ Due (world.documents saga) pc.op ∧ pc.Named
  | .finished _ (.ok registration) => Steady world saga ∧ ∃ user task notification,
      world.documents saga = [.user user, .task task, .notification notification] ∧
        (registration.user.bind (·.id)).map (·.val) = some user.toString
  | .finished _ (.error _) => Retreat world saga []
  | .crashed _ => Retreat world saga []

def standing : Assertions World RegisterBody Pc (Except Thrown Registration) where
  Global := Accounted
  Local := Stage

/-- As far as the saga can tell, nothing happens, and its own late calls take no effect. -/
structure Overlooks (saga : ℕ) (world after : World) : Prop where
  mine : after.mine saga = world.mine saga
  quiet : world.Quiet saga → after.Quiet saga
  stored : ∀ creation ∈ world.mine saga,
    creation.document.Stored after ↔ creation.document.Stored world
  late : (after.late saga).Sublist (world.late saga)

section Changes

variable {world after : World} {saga other : ℕ}

namespace Overlooks

theorem documents (overlooks : Overlooks saga world after) :
    after.documents saga = world.documents saga := by
  rw [World.documents, overlooks.mine, World.documents]

theorem noted (overlooks : Overlooks saga world after) {op : Op} (noted : Noted world saga op) :
    Noted after saga op := by
  rw [Noted, overlooks.mine]
  exact noted

theorem steady (overlooks : Overlooks saga world after) (steady : Steady world saga) :
    Steady after saga := by
  refine ⟨overlooks.quiet steady.quiet, fun creation found => ?_⟩
  rw [overlooks.mine] at found
  rw [overlooks.stored creation found]
  exact steady.present creation found

theorem retreat (overlooks : Overlooks saga world after) {ops : List Op}
    (retreat : Retreat world saga ops) : Retreat after saga ops where
  started := by
    rw [overlooks.documents]
    exact retreat.started
  late call found := by
    rw [overlooks.documents]
    exact retreat.late call (overlooks.late.subset found)
  single := Nat.le_trans overlooks.late.length_le retreat.single
  noted op found := overlooks.noted (retreat.noted op found)

theorem stage (overlooks : Overlooks saga world after)
    {slot : Slot RegisterBody Pc (Except Thrown Registration)} (stage : Stage world saga slot) :
    Stage after saga slot := by
  match slot with
  | .free => exact ⟨overlooks.steady stage.1, overlooks.documents.trans stage.2⟩
  | .running _ (.rollingBack op rest error) => exact overlooks.retreat stage
  | .running _ (.registering registerDto) =>
      exact ⟨overlooks.steady stage.1, overlooks.documents ▸ stage.2⟩
  | .running _ (.creatingTask auth user userId) =>
      exact ⟨overlooks.steady stage.1, overlooks.documents ▸ stage.2⟩
  | .running _ (.sending auth user userId taskId) =>
      exact ⟨overlooks.steady stage.1, overlooks.documents ▸ stage.2⟩
  | .finished _ (.ok registration) =>
      exact ⟨overlooks.steady stage.1, overlooks.documents ▸ stage.2⟩
  | .finished _ (.error error) => exact overlooks.retreat stage
  | .crashed _ => exact overlooks.retreat stage

theorem trans {first second third : World} (earlier : Overlooks saga first second)
    (later : Overlooks saga second third) : Overlooks saga first third where
  mine := later.mine.trans earlier.mine
  quiet quiet := later.quiet (earlier.quiet quiet)
  stored creation found := by
    rw [later.stored creation (earlier.mine ▸ found), earlier.stored creation found]
  late := later.late.trans earlier.late

theorem refl : Overlooks saga world world := ⟨rfl, id, fun _ _ => Iff.rfl, List.Sublist.refl _⟩

/-- Calls of other sagas begin to go on. -/
theorem outlasts {op : Op} (different : other ≠ saga) :
    Overlooks saga world { world with outstanding := world.outstanding ++ [⟨other, op⟩] } where
  mine := rfl
  quiet quiet call found := by
    rcases List.mem_append.mp found with found | found
    · exact quiet call found
    · rw [List.mem_singleton.mp found]
      exact different
  stored _ _ := stored_outstanding
  late := by simp [World.late, List.filter_append, different]

theorem drop {index : ℕ} : Overlooks saga world (world.drop index) where
  mine := rfl
  quiet quiet call found := quiet call (List.mem_of_mem_eraseIdx found)
  stored _ _ := stored_outstanding
  late := (List.eraseIdx_sublist _ _).filter _

end Overlooks

theorem Noted.mono {op : Op} (created : world.created ⊆ after.created) (noted : Noted world saga op) :
    Noted after saga op := by
  obtain ⟨creation, mine, rest⟩ := noted
  exact ⟨creation, mem_mine.mpr ⟨created (mem_mine.mp mine).1, (mem_mine.mp mine).2⟩, rest⟩

theorem Creates.overlooks {creation : Creation} (creates : Creates world after creation)
    (different : creation.saga ≠ other) : Overlooks other world after where
  mine := (creates.keeps different).mine
  quiet := (creates.keeps different).quiet
  stored := (creates.keeps different).stored
  late := by
    rw [World.late, creates.outstanding]
    exact List.Sublist.refl _

theorem Deletes.overlooks {gone : Creation} (deletes : Deletes world after gone.document)
    (unique : (world.created.map (·.document)).Nodup) (created : gone ∈ world.created)
    (different : gone.saga ≠ other) : Overlooks other world after where
  mine := by simp only [World.mine, deletes.created]
  quiet quiet call found := quiet call (deletes.outstanding ▸ found)
  stored creation found := by
    rw [deletes.stored]
    refine and_iff_left fun same => ?_
    obtain ⟨known, mine⟩ := mem_mine.mp found
    have one := List.inj_on_of_nodup_map unique known created same
    exact different (one ▸ mine)
  late := by
    rw [World.late, deletes.outstanding]
    exact List.Sublist.refl _

namespace Accounted

variable {reported : Bool} {document : Document}

theorem advances (accounted : Accounted world)
    (advances : Advances world after saga reported document) :
    Accounted after := by
  have grown := advances.creates.created
  have created : world.created ⊆ after.created := by
    rw [grown]
    exact List.subset_append_left _ _
  refine ⟨?_, advances.owned, fun creation found lasting => ?_, fun call found backward => ?_⟩
  · rw [grown, List.map_append, List.map_singleton]
    refine accounted.unique.append (List.nodup_singleton _) fun known before here => ?_
    exact advances.creates.fresh (List.mem_singleton.mp here ▸ before)
  · rw [advances.creates.stored]
    rw [grown, List.mem_append, List.mem_singleton] at found
    rcases found with found | rfl
    · exact .inl (accounted.kept creation found lasting)
    · exact .inr rfl
  · rw [advances.creates.outstanding] at found
    exact (accounted.calls call found backward).mono created

theorem deletes (accounted : Accounted world) {gone : Creation} (found : gone ∈ world.created)
    (reported : gone.reported = true) (revocable : gone.document.Revocable)
    (deletes : Deletes world after gone.document) (owned : Owned after) : Accounted after where
  unique := by
    rw [deletes.created]
    exact accounted.unique
  owned := owned
  kept creation there lasting := by
    rw [deletes.created] at there
    rw [deletes.stored]
    refine ⟨accounted.kept creation there lasting, fun same => lasting ?_⟩
    rw [List.inj_on_of_nodup_map accounted.unique there found same]
    exact ⟨reported, revocable⟩
  calls call there backward := by
    rw [deletes.outstanding] at there
    refine (accounted.calls call there backward).mono ?_
    rw [deletes.created]
    exact List.Subset.refl _

theorem outlasts (accounted : Accounted world) {op : Op}
    (noted : ¬ op.Forward → Noted world saga op) :
    Accounted { world with outstanding := world.outstanding ++ [⟨saga, op⟩] } where
  unique := accounted.unique
  owned := accounted.owned.of_subset (List.Subset.refl _) (List.Subset.refl _) (List.Subset.refl _)
    (List.Subset.refl _)
  kept creation found lasting := stored_outstanding.mpr (accounted.kept creation found lasting)
  calls call found backward := by
    rcases List.mem_append.mp found with found | found
    · exact accounted.calls call found backward
    · rw [List.mem_singleton.mp found] at backward ⊢
      exact noted backward

theorem drop {index : ℕ} (accounted : Accounted world) : Accounted (world.drop index) where
  unique := accounted.unique
  owned := accounted.owned.of_subset (List.Subset.refl _) (List.Subset.refl _) (List.Subset.refl _)
    (List.Subset.refl _)
  kept creation found lasting := stored_outstanding.mpr (accounted.kept creation found lasting)
  calls call found := accounted.calls call (List.mem_of_mem_eraseIdx found)

end Accounted

end Changes

/-! ## Calls of the saga -/

section Calls

variable {world after : World} {pid : ℕ} {op : Op} {answer : Answer}

theorem Steady.late_eq (steady : Steady world pid) : world.late pid = [] := by
  refine List.filter_eq_nil_iff.mpr fun call found mine => ?_
  exact steady.quiet call found (of_decide_eq_true mine).1

theorem late_outlasts (forward : op.Forward) :
    World.late { world with outstanding := world.outstanding ++ [⟨pid, op⟩] } pid =
      world.late pid ++ [⟨pid, op⟩] := by
  simp [World.late, List.filter_append, forward]

/-- A saga that has taken no call back may give up. -/
theorem Steady.retreat (steady : Steady world pid) (started : Started (world.documents pid)) :
    Retreat world pid [] where
  started := started
  late call found := by
    rw [steady.late_eq] at found
    cases found
  single := by
    rw [steady.late_eq]
    exact Nat.zero_le 1
  noted op found := by cases found

theorem Retreat.notes {ops ops' : List Op} (retreat : Retreat world pid ops)
    (noted : ∀ op ∈ ops', Noted world pid op) : Retreat world pid ops' :=
  ⟨retreat.started, retreat.late, retreat.single, noted⟩

/-- The document of a call that takes effect unseen, while no other call goes on. -/
theorem Retreat.advances {document : Document} {ops : List Op} (retreat : Retreat world pid ops)
    (advances : Advances world after pid false document) {last : World}
    (created : last.created = after.created) (none : last.late pid = []) :
    Retreat last pid ops where
  started := by
    rw [documents_created (created.trans advances.creates.created)]
    exact advances.started
  late call found := by
    rw [none] at found
    cases found
  single := by
    rw [none]
    exact Nat.zero_le 1
  noted op found := (retreat.noted op found).mono <| by
    rw [created, advances.creates.created]
    exact List.subset_append_left _ _

/-- What the others and the stores notice of a step. -/
structure Harmless (world after : World) (pid : ℕ) : Prop where
  accounted : Accounted after
  others : ∀ other, other ≠ pid → Overlooks other world after

theorem Advances.harmless {reported : Bool} {document : Document}
    (advances : Advances world after pid reported document) (accounted : Accounted world) :
    Harmless world after pid :=
  ⟨accounted.advances advances, fun _ different => advances.creates.overlooks (Ne.symm different)⟩

/-- The next call of a saga advances it, or is rejected. -/
theorem exec_due {reply : Except Thrown op.Value} (accounted : Accounted world)
    (steady : Steady world pid) (due : Due (world.documents pid) op)
    (answered : exec world pid op answer = some (after, reply)) :
    (∃ value document, effect world pid true answer.chosen op = some (after, value) ∧
        reply = .ok value ∧ op.document? answer.chosen.id = some document ∧
        Advances world after pid true document) ∨
      (∃ error, reply = .error error) ∧ Harmless world after pid ∧
        (∀ ops, (∀ op ∈ ops, Noted world pid op) → Retreat after pid ops) := by
  obtain ⟨ending, chosen⟩ := answer
  match ending with
  | .ended .resolved =>
      obtain ⟨⟨after', value⟩, performed, same⟩ := Option.map_eq_some_iff.mp answered
      cases same
      obtain ⟨document, made, advances⟩ := effect_due accounted.owned due performed
      exact .inl ⟨value, document, performed, rfl, made, advances⟩
  | .ended (.rejected error) =>
      cases answered
      exact .inr ⟨⟨error, rfl⟩, ⟨accounted, fun _ _ => .refl⟩, fun ops noted =>
        (steady.retreat due.started).notes noted⟩
  | .ended (.rejectedApplied error) =>
      obtain ⟨⟨after', value⟩, performed, same⟩ := Option.map_eq_some_iff.mp answered
      cases same
      obtain ⟨document, _, advances⟩ := effect_due accounted.owned due performed
      refine .inr ⟨⟨error, rfl⟩, advances.harmless accounted, fun ops noted => ?_⟩
      refine ((steady.retreat due.started).notes noted).advances advances rfl ?_
      rw [World.late, advances.creates.outstanding]
      exact steady.late_eq
  | .outlasts error =>
      cases answered
      have late : World.late { world with outstanding := world.outstanding ++ [⟨pid, op⟩] } pid = _ :=
        late_outlasts due.forward
      rw [steady.late_eq, List.nil_append] at late
      refine .inr ⟨⟨error, rfl⟩, ⟨accounted.outlasts fun backward => absurd due.forward backward,
        fun _ different => .outlasts (Ne.symm different)⟩, fun ops noted => ?_⟩
      refine ⟨due.started, fun call found => ?_, ?_, noted⟩
      · rw [late] at found
        rw [List.mem_singleton.mp found]
        exact due
      · rw [late]
        exact Nat.le_refl 1

theorem Steady.advances {document : Document} (steady : Steady world pid)
    (advances : Advances world after pid true document) : Steady after pid where
  quiet call found := steady.quiet call (advances.creates.outstanding ▸ found)
  present creation found := by
    rw [mine_created advances.creates.created, List.mem_append, List.mem_singleton] at found
    rw [advances.creates.stored]
    rcases found with found | rfl
    · exact ⟨(steady.present creation found).1, .inl (steady.present creation found).2⟩
    · exact ⟨rfl, .inr rfl⟩

/-- The saga goes on from a call that resolves. -/
theorem stage_ok {pc : Pc} {value : pc.op.Value} {chosen : Chosen} {document : Document}
    {registerDto : RegisterBody} (steady : Steady world pid)
    (due : Due (world.documents pid) pc.op) (named : pc.Named)
    (performed : effect world pid true chosen pc.op = some (after, value))
    (made : pc.op.document? chosen.id = some document)
    (advances : Advances world after pid true document) :
    Stage after pid (Pool.land site after pid registerDto (Led.next pc (.ok value))).2 := by
  have steady' := steady.advances advances
  have documents := documents_created advances.creates.created
  cases pc with
  | registering body =>
      cases made
      simp only [Pc.op, effect, Option.ite_none_right_eq_some, Option.some.injEq] at performed
      obtain ⟨_, rfl, rfl⟩ := performed
      rw [show world.documents pid = [] from due] at documents
      exact ⟨steady', ⟨chosen.id, documents, rfl⟩, rfl, rfl⟩
  | creatingTask auth user userId =>
      cases made
      obtain ⟨id, before, same⟩ := due
      simp only [Pc.op, effect, Option.ite_none_right_eq_some, Option.some.injEq] at performed
      obtain ⟨_, rfl, rfl⟩ := performed
      rw [before] at documents
      exact ⟨steady', ⟨id, chosen.id, documents, congrArg some same, rfl⟩, named⟩
  | sending auth user userId taskId =>
      cases made
      obtain ⟨id, task, before, same, _⟩ := due
      rw [before] at documents
      refine ⟨steady', id, task, chosen.id, documents, ?_⟩
      obtain ⟨known, known'⟩ := named
      simp only [known, known', Option.bind_some, Option.map_some]
      exact same
  | rollingBack op rest error => exact named.elim

/-- The rollback starts with what was noted. -/
theorem Steady.noted (steady : Steady world pid) (document : Document) {op : Op}
    (created : document ∈ world.documents pid) (revocable : document.Revocable)
    (undo : document.undo = op) : Noted world pid op := by
  obtain ⟨creation, mine, rfl⟩ := List.mem_map.mp created
  exact ⟨creation, mine, (steady.present creation mine).1, revocable, undo⟩

/-- A saga gives up when a call of its own is rejected. -/
theorem stage_error {pc : Pc} {error : Thrown} {registerDto : RegisterBody}
    (steady : Steady world pid) (due : Due (world.documents pid) pc.op) (named : pc.Named)
    (retreats : ∀ ops, (∀ op ∈ ops, Noted world pid op) → Retreat after pid ops) :
    Stage after pid (Pool.land site after pid registerDto (Led.next pc (.error error))).2 := by
  cases pc with
  | registering body => exact retreats [] (List.forall_mem_nil _)
  | creatingTask auth user userId =>
      obtain ⟨id, documents, same⟩ := due
      have noted : Noted world pid (.deleteUser userId) :=
        steady.noted (.user id) (documents ▸ List.mem_cons_self) trivial
          (congrArg Op.deleteUser same.symm)
      refine retreats [.deleteUser userId] fun op found => ?_
      rw [List.mem_singleton.mp found]
      exact noted
  | sending auth user userId taskId =>
      obtain ⟨id, task, documents, same, same'⟩ := due
      have noted : Noted world pid (.deleteUser userId) :=
        steady.noted (.user id) (documents ▸ List.mem_cons_self) trivial
          (congrArg Op.deleteUser (Option.some.inj same).symm)
      have noted' : Noted world pid (.deleteSaga taskId) :=
        steady.noted (.task task)
          (documents ▸ List.mem_cons_of_mem _ List.mem_cons_self) trivial
          (congrArg Op.deleteSaga (Option.some.inj same').symm)
      refine retreats [.deleteSaga taskId, .deleteUser userId] fun op found => ?_
      rcases List.mem_cons.mp found with rfl | found
      · exact noted'
      · rw [List.mem_singleton.mp found]
        exact noted
  | rollingBack op rest error => exact named.elim

/-! ## Calls of the rollback -/

theorem owned_undo {gone : Document} {reported : Bool} {chosen : Chosen} {value : gone.undo.Value}
    (owned : Owned world)
    (performed : effect world pid reported chosen gone.undo = some (after, value)) :
    Owned after := by
  cases gone with
  | user id =>
      simp only [Document.undo, effect, Option.ite_none_right_eq_some, Option.some.injEq]
        at performed
      obtain ⟨_, rfl, _⟩ := performed
      exact owned.of_subset (List.Subset.refl _) List.filter_sublist.subset (List.Subset.refl _)
        (List.Subset.refl _)
  | task id =>
      simp only [Document.undo, effect, Option.ite_none_right_eq_some, Option.some.injEq]
        at performed
      obtain ⟨_, rfl, _⟩ := performed
      exact owned.of_subset (List.Subset.refl _) (List.Subset.refl _) List.filter_sublist.subset
        (List.Subset.refl _)
  | notification id =>
      simp only [Document.undo, effect, Option.ite_none_right_eq_some, Option.some.injEq]
        at performed
      obtain ⟨_, rfl, _⟩ := performed
      exact owned.of_subset (List.Subset.refl _) (List.Subset.refl _) (List.Subset.refl _)
        List.filter_sublist.subset

/-- A document of the saga is removed. -/
structure Removes (world after : World) (pid : ℕ) : Prop where
  accounted : Accounted after
  created : after.created = world.created
  outstanding : after.outstanding = world.outstanding
  others : ∀ other, other ≠ pid → Overlooks other world after

theorem effect_noted {op : Op} {reported : Bool} {chosen : Chosen} {value : op.Value}
    (accounted : Accounted world) (noted : Noted world pid op)
    (performed : effect world pid reported chosen op = some (after, value)) :
    Removes world after pid := by
  obtain ⟨gone, mine, seen, revocable, rfl⟩ := noted
  obtain ⟨created, same⟩ := mem_mine.mp mine
  have deletes := effect_undo performed
  refine ⟨?_, deletes.created, deletes.outstanding, fun other different => ?_⟩
  · exact accounted.deletes created seen revocable deletes (owned_undo accounted.owned performed)
  · exact deletes.overlooks accounted.unique created (same ▸ Ne.symm different)

/-- What the saga has created, and which of its calls go on, is as it was. -/
theorem Retreat.congr {ops : List Op} (retreat : Retreat world pid ops)
    (created : after.created = world.created) (late : after.late pid = world.late pid) :
    Retreat after pid ops where
  started := by
    rw [World.documents, World.mine, created]
    exact retreat.started
  late call found := by
    rw [World.documents, World.mine, created]
    exact retreat.late call (late ▸ found)
  single := late ▸ retreat.single
  noted op found := (retreat.noted op found).mono (created ▸ List.Subset.refl _)

theorem Removes.retreat {ops : List Op} (removes : Removes world after pid)
    (retreat : Retreat world pid ops) : Retreat after pid ops :=
  retreat.congr removes.created (by rw [World.late, removes.outstanding, World.late])

/-- A call of the rollback, whatever becomes of it. -/
theorem exec_noted {reply : Except Thrown op.Value} {rest : List Op} (accounted : Accounted world)
    (retreat : Retreat world pid (op :: rest))
    (answered : exec world pid op answer = some (after, reply)) :
    Harmless world after pid ∧ Retreat after pid rest := by
  have noted := retreat.noted op List.mem_cons_self
  have left : Retreat world pid rest :=
    retreat.notes fun op found => retreat.noted op (List.mem_cons_of_mem _ found)
  have removed {reported : Bool} {value : op.Value}
      (performed : effect world pid reported answer.chosen op = some (after, value)) :
      Harmless world after pid ∧ Retreat after pid rest := by
    have removes := effect_noted accounted noted performed
    exact ⟨⟨removes.accounted, removes.others⟩, removes.retreat left⟩
  obtain ⟨ending, chosen⟩ := answer
  match ending with
  | .ended .resolved | .ended (.rejectedApplied error) =>
      obtain ⟨⟨after', value⟩, performed, same⟩ := Option.map_eq_some_iff.mp answered
      cases same
      exact removed performed
  | .ended (.rejected error) =>
      cases answered
      exact ⟨⟨accounted, fun _ _ => .refl⟩, left⟩
  | .outlasts error =>
      cases answered
      have backward : ¬ op.Forward := by
        obtain ⟨gone, _, _, _, rfl⟩ := noted
        exact gone.document.undo_not_forward
      refine ⟨⟨accounted.outlasts fun _ => noted, fun _ different => .outlasts (Ne.symm different)⟩,
        left.congr rfl ?_⟩
      simp [World.late, List.filter_append, backward]

end Calls

/-! ## Every step -/

section Steps

variable {world after : World} {pid : ℕ} {slot : Slot RegisterBody Pc (Except Thrown Registration)}

theorem stage_running {registerDto : RegisterBody} {pc : Pc}
    (stage : Stage world pid (.running registerDto pc)) :
    (Steady world pid ∧ Due (world.documents pid) pc.op ∧ pc.Named) ∨
      ∃ op rest error, pc = .rollingBack op rest error ∧ Retreat world pid (op :: rest) := by
  cases pc with
  | rollingBack op rest error => exact .inr ⟨op, rest, error, rfl, stage⟩
  | _ => exact .inl stage

theorem stage_rollback {registerDto : RegisterBody} {error : Thrown} {ops : List Op}
    (retreat : Retreat world pid ops) :
    Stage world pid (Pool.land site world pid registerDto (Led.rollback error ops)).2 := by
  cases ops with
  | nil => exact retreat
  | cons op rest => exact retreat

/-- A saga of which calls go on has given up, and whatever keeps its retreat keeps its stage. -/
theorem Stage.given_up (stage : Stage world pid slot) (loud : ¬ world.Quiet pid) :
    ∃ ops, Retreat world pid ops ∧ ∀ after, Retreat after pid ops → Stage after pid slot := by
  match slot with
  | .free => exact absurd stage.1.quiet loud
  | .running _ (.registering _) => exact absurd stage.1.quiet loud
  | .running _ (.creatingTask ..) => exact absurd stage.1.quiet loud
  | .running _ (.sending ..) => exact absurd stage.1.quiet loud
  | .running _ (.rollingBack op rest _) => exact ⟨op :: rest, stage, fun _ retreat => retreat⟩
  | .finished _ (.ok _) => exact absurd stage.1.quiet loud
  | .finished _ (.error _) => exact ⟨[], stage, fun _ retreat => retreat⟩
  | .crashed _ => exact ⟨[], stage, fun _ retreat => retreat⟩

theorem Stage.crashed {registerDto : RegisterBody} {pc : Pc}
    (stage : Stage world pid (.running registerDto pc)) : Retreat world pid [] := by
  rcases stage_running stage with ⟨steady, due, _⟩ | ⟨op, rest, error, _, retreat⟩
  · exact steady.retreat due.started
  · exact retreat.notes (List.forall_mem_nil _)

/-- The only late call of a saga is the last one. -/
theorem late_drop {index : ℕ} {call : Outstanding} (there : world.outstanding[index]? = some call)
    (forward : call.op.Forward) (single : (world.late call.saga).length ≤ 1) :
    (world.drop index).late call.saga = [] := by
  obtain ⟨bound, rfl⟩ := List.getElem?_eq_some_iff.mp there
  have perm := (List.getElem_cons_eraseIdx_perm bound).filter
    fun call => call.saga = world.outstanding[index].saga ∧ call.op.Forward
  rw [List.filter_cons_of_pos (by simp [forward])] at perm
  have lengths := perm.length_eq
  rw [List.length_cons] at lengths
  refine List.length_eq_zero_iff.mp ?_
  change (List.filter _ (world.outstanding.eraseIdx index)).length = 0
  simp only [World.late] at single
  omega

/-- A call that goes on takes effect at last. -/
theorem settles {index : ℕ} {call : Outstanding} {chosen : Chosen} {value : call.op.Value}
    (accounted : Accounted world) (there : world.outstanding[index]? = some call)
    (performed : effect world call.saga false chosen call.op = some (after, value))
    (stage : Stage world call.saga slot) :
    Harmless world (after.drop index) call.saga ∧ Stage (after.drop index) call.saga slot := by
  have found := List.mem_of_getElem? there
  obtain ⟨ops, retreat, keeps⟩ := stage.given_up fun quiet => quiet call found rfl
  by_cases forward : call.op.Forward
  · have due := retreat.late call (List.mem_filter.mpr ⟨found, decide_eq_true ⟨rfl, forward⟩⟩)
    obtain ⟨document, _, advances⟩ := effect_due accounted.owned due performed
    have harmless := advances.harmless accounted
    have last := late_drop there forward retreat.single
    rw [World.late, World.drop, ← advances.creates.outstanding] at last
    exact ⟨⟨harmless.accounted.drop, fun other different =>
      (harmless.others other different).trans .drop⟩, keeps _ (retreat.advances advances rfl last)⟩
  · have removes := effect_noted accounted (accounted.calls call found forward) performed
    exact ⟨⟨removes.accounted.drop, fun other different =>
      (removes.others other different).trans .drop⟩,
      keeps _ (Overlooks.drop.retreat (removes.retreat retreat))⟩

/-- The saga awaits a call: what becomes of it, and where the saga goes on or crashes. -/
theorem exec_running {registerDto : RegisterBody} {pc : Pc} {answer : Answer}
    {reply : Except Thrown pc.op.Value} (accounted : Accounted world)
    (stage : Stage world pid (.running registerDto pc))
    (answered : exec world pid pc.op answer = some (after, reply)) :
    Harmless world after pid ∧ Retreat after pid [] ∧
      Stage after pid (Pool.land site after pid registerDto (Led.next pc reply)).2 := by
  rcases stage_running stage with ⟨steady, due, named⟩ | ⟨op, rest, error, rfl, retreat⟩
  · rcases exec_due accounted steady due answered with
      ⟨value, document, performed, rfl, made, advances⟩ | ⟨⟨error, rfl⟩, harmless, retreats⟩
    · refine ⟨advances.harmless accounted, ?_, stage_ok steady due named performed made advances⟩
      refine (steady.advances advances).retreat ?_
      rw [documents_created advances.creates.created]
      exact advances.started
    · exact ⟨harmless, retreats [] (List.forall_mem_nil _),
        stage_error steady due named retreats⟩
  · obtain ⟨harmless, left⟩ := exec_noted accounted retreat answered
    exact ⟨harmless, left.notes (List.forall_mem_nil _), stage_rollback left⟩

theorem standing_valid : standing.Valid site flow fun _ _ => True where
  call := by
    intro pool pid registerDto world holds _ free started
    cases started
    have fresh : Stage pool.world pid .free := free ▸ holds.locally pid
    exact ⟨holds.globally, ⟨fresh.1, fresh.2, trivial⟩, fun _ _ before => before⟩
  step := by
    intro pool pid answer registerDto pc world reply holds _ running answered
    have stage : Stage pool.world pid (.running registerDto pc) := running ▸ holds.locally pid
    obtain ⟨harmless, _, next⟩ := exec_running holds.globally stage answered
    exact .of_world (land_world _ _ _ _) harmless.accounted next fun other different before =>
      (harmless.others other different).stage before
  crashPending := by
    intro pool pid registerDto pc holds _ running
    have stage : Stage pool.world pid (.running registerDto pc) := running ▸ holds.locally pid
    exact ⟨holds.globally, stage.crashed, fun _ _ before => before⟩
  crashPerformed := by
    intro pool pid answer registerDto pc world reply holds _ running answered
    have stage : Stage pool.world pid (.running registerDto pc) := running ▸ holds.locally pid
    obtain ⟨harmless, retreat, _⟩ := exec_running holds.globally stage answered
    exact ⟨harmless.accounted, retreat, fun other different before =>
      (harmless.others other different).stage before⟩
  env := by
    intro pool event world holds _ moved
    cases event with
    | settles index chosen =>
        simp only [site] at moved
        split at moved
        · rename_i call outstanding
          obtain ⟨⟨after, value⟩, performed, rfl⟩ := Option.map_eq_some_iff.mp moved
          obtain ⟨harmless, own⟩ :=
            settles holds.globally outstanding performed (holds.locally call.saga)
          refine ⟨harmless.accounted, fun pid before => ?_⟩
          by_cases mine : pid = call.saga
          · rw [mine]
            exact own
          · exact (harmless.others pid mine).stage before
        · cases moved
    | abandons index =>
        simp only [site, Option.ite_none_right_eq_some, Option.some.injEq] at moved
        obtain ⟨_, rfl⟩ := moved
        exact ⟨holds.globally.drop, fun pid before => Overlooks.drop.stage before⟩

theorem standing_initial : standing.Holds (.initial {}) where
  globally := ⟨List.nodup_nil, ⟨List.forall_mem_nil _, List.forall_mem_nil _, List.forall_mem_nil _⟩,
    List.forall_mem_nil _, List.forall_mem_nil _⟩
  locally _ := ⟨⟨List.forall_mem_nil _, List.forall_mem_nil _⟩, rfl⟩

end Steps

/-! ## What is left -/

/-- The saga is taking calls back, has thrown, or has crashed. -/
def GivenUp : Slot RegisterBody Op (Except Thrown Registration) → Prop
  | .running _ op => ¬ op.Forward
  | .finished _ (.error _) | .crashed _ => True
  | .free | .finished _ (.ok _) => False

/-- What a saga has created: a user, a task for that user and a notification about both, or the
first of these. Only a saga that has given up lacks one of them, and none that it has not seen
created. -/
structure Residue (world : World) (saga : ℕ)
    (slot : Slot RegisterBody Op (Except Thrown Registration)) : Prop where
  started : Started (world.documents saga)
  missing : ∀ creation ∈ world.mine saga, ¬ creation.document.Stored world →
    creation.reported = true ∧ creation.document.Revocable ∧ GivenUp slot
  tasks : ∀ task ∈ world.tasks, .task task.id ∈ world.documents saga →
    ∃ user, .user user ∈ world.documents saga ∧ task.userId = user.toString
  notifications : ∀ notification ∈ world.notifications,
    .notification notification.id ∈ world.documents saga →
      ∃ user task, .user user ∈ world.documents saga ∧ .task task ∈ world.documents saga ∧
        notification.userId = user.toString ∧ notification.taskId = task.toString
  returned : ∀ registerDto registration, slot = .finished registerDto (.ok registration) →
    ∃ user task notification,
      world.documents saga = [.user user, .task task, .notification notification] ∧
        (registration.user.bind (·.id)).map (·.val) = some user.toString

section Left

variable {world : World} {pid other : ℕ} {document : Document}

theorem Accounted.saga_eq (accounted : Accounted world) (mine : document ∈ world.documents pid)
    (its : document ∈ world.documents other) : other = pid := by
  obtain ⟨creation, found, rfl⟩ := List.mem_map.mp mine
  obtain ⟨creation', found', same⟩ := List.mem_map.mp its
  rw [mem_mine] at found found'
  rw [← found.2, ← found'.2, List.inj_on_of_nodup_map accounted.unique found'.1 found.1 same]

theorem Owned.created (owned : Owned world) (stored : document.Stored world) :
    ∃ saga, document ∈ world.documents saga := by
  cases document with
  | user id =>
      obtain ⟨user, found, rfl⟩ := List.mem_map.mp stored
      exact owned.users user found
  | task id =>
      obtain ⟨task, found, rfl⟩ := List.mem_map.mp stored
      obtain ⟨saga, mine, _⟩ := owned.tasks task found
      exact ⟨saga, mine⟩
  | notification id =>
      obtain ⟨notification, found, rfl⟩ := List.mem_map.mp stored
      obtain ⟨saga, mine, _⟩ := owned.notifications notification found
      exact ⟨saga, mine⟩

theorem Stage.started {slot : Slot RegisterBody Pc (Except Thrown Registration)}
    (stage : Stage world pid slot) : Started (world.documents pid) := by
  match slot with
  | .free =>
      have due : Due (world.documents pid) (.register ⟨"", "", ""⟩) := stage.2
      exact due.started
  | .running _ pc =>
      rcases stage_running stage with ⟨_, due, _⟩ | ⟨op, rest, error, _, retreat⟩
      · exact due.started
      · exact retreat.started
  | .finished _ (.ok _) =>
      obtain ⟨_, user, task, notification, documents, _⟩ := stage
      rw [documents]
      exact ⟨user, task, notification, List.prefix_rfl⟩
  | .finished _ (.error _) => exact Retreat.started stage
  | .crashed _ => exact Retreat.started stage

/-- A saga that has not given up lacks nothing. -/
theorem Stage.givenUp {slot : Slot RegisterBody Pc (Except Thrown Registration)}
    (stage : Stage world pid slot) {creation : Creation} (mine : creation ∈ world.mine pid)
    (missing : ¬ creation.document.Stored world) : GivenUp (slot.observe flow.op) := by
  match slot with
  | .free => exact missing (stage.1.present creation mine).2
  | .running _ pc =>
      rcases stage_running stage with ⟨steady, _⟩ | ⟨op, rest, error, rfl, retreat⟩
      · exact absurd (steady.present creation mine).2 missing
      · obtain ⟨gone, _, _, _, undo⟩ := retreat.noted op List.mem_cons_self
        show ¬ op.Forward
        rw [← undo]
        exact gone.document.undo_not_forward
  | .finished _ (.ok _) => exact missing (stage.1.present creation mine).2
  | .finished _ (.error _) => trivial
  | .crashed _ => trivial

theorem residue {machine : Pool World RegisterBody Pc (Except Thrown Registration)}
    (holds : standing.Holds machine) (pid : ℕ) :
    Residue machine.world pid ((machine.slots pid).observe flow.op) where
  started := Stage.started (holds.locally pid)
  missing creation mine missing := by
    have gone : creation.reported = true ∧ creation.document.Revocable := by
      by_contra lasting
      exact missing (holds.globally.kept creation (mem_mine.mp mine).1 lasting)
    exact ⟨gone.1, gone.2, Stage.givenUp (holds.locally pid) mine missing⟩
  tasks task found mine := by
    obtain ⟨saga, its, user, his, same⟩ := holds.globally.owned.tasks task found
    obtain rfl := holds.globally.saga_eq mine its
    exact ⟨user, his, same⟩
  notifications notification found mine := by
    obtain ⟨saga, its, rest⟩ := holds.globally.owned.notifications notification found
    obtain rfl := holds.globally.saga_eq mine its
    exact rest
  returned registerDto registration ended := by
    have stage : Stage machine.world pid (machine.slots pid) := holds.locally pid
    rw [Slot.of_observe_finished ended] at stage
    exact stage.2

end Left

/-- **What sagas leave behind.** In every state of every run, whatever becomes of the calls:
each stored document belongs to exactly one saga, and each saga has left no more than a user, a
task and a notification that refer to each other, of which something is missing only if the
saga itself has given up. -/
theorem residue_bounded {state : State} (ran : Runs Always (.initial {}) state) :
    (∀ document : Document, document.Stored state.world →
      ∃! saga, document ∈ state.world.documents saga) ∧
    ∀ saga, Residue state.world saga ((state.observe programs).slots saga) := by
  obtain ⟨machine, ran, same⟩ := implements.path ran
  have holds : standing.Holds machine :=
    standing_valid.path (ran.mono fun _ _ _ => trivial) standing_initial
  rw [← show machine.world = state.world from congrArg Pool.world same,
    ← show machine.observe flow = state.observe programs from same]
  refine ⟨fun document stored => ?_, residue holds⟩
  obtain ⟨saga, mine⟩ := holds.globally.owned.created stored
  exact ⟨saga, mine, fun other its => holds.globally.saga_eq mine its⟩

/-- The user could not be removed, and the call for the task takes effect after the saga has
thrown. -/
def Sample.leftover : List Happening :=
  [.call 0 dto, resolves userId,
    .step 0 ⟨.outlasts (.coded "ETIMEDOUT" "Timed out after 5000ms"), chosen taskId⟩,
    .step 0 ⟨.ended (.rejected (.coded "ECONNREFUSED" "connect ECONNREFUSED")), chosen userId⟩,
    .env (.settles 0 (chosen taskId))]

/-- The theorem at a saga that has thrown and has left a user and a task. -/
theorem residue_bounded_leftover :
    ∃ state ∈ run step (.initial {}) Sample.leftover,
      Sample.threw state = true ∧ Document.Stored state.world (.task Sample.taskId) ∧
        Residue state.world 0 ((state.observe programs).slots 0) := by
  obtain ⟨state, ran, thrown, stored⟩ :
      ∃ state ∈ run step (.initial {}) Sample.leftover,
        Sample.threw state = true ∧ Document.Stored state.world (.task Sample.taskId) := by
    decide +kernel
  exact ⟨state, ran, thrown, stored, (residue_bounded (.of_run ran .always)).2 0⟩

end WorkflowHub.Gateway
