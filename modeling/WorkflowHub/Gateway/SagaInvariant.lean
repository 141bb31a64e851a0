import WorkflowHub.Gateway.SagaControlFlow
import WorkflowHub.Processes.Assertions
import Mathlib.Data.List.Nodup

/-!
# Where a saga stands

What the calls of a saga do to the stores (`Creates`, `Deletes`), and the assertions about
the documents a saga has created at each of its program points (`saga`). What one saga does,
the others do not notice (`Keeps`).
-/

set_option autoImplicit false

namespace WorkflowHub.Gateway

open Processes AuthService TaskService Consumers

/-! ## What calls do to the stores -/

/-- A call of the saga itself, and not of its rollback. -/
def Op.Forward : Op → Prop
  | .register _ | .createSaga _ | .sendSaga _ => True
  | .deleteUser _ | .deleteSaga _ | .deleteNotification _ => False

instance : (op : Op) → Decidable op.Forward
  | .register _ | .createSaga _ | .sendSaga _ => isTrue trivial
  | .deleteUser _ | .deleteSaga _ | .deleteNotification _ => isFalse id

theorem Document.undo_injective {first second : Document} (same : first.undo = second.undo) :
    first = second := by
  cases first with
  | user id =>
      cases second with
      | user id' => rw [ObjectId.toString_injective (Op.deleteUser.inj same)]
      | task id' => cases same
      | notification id' => cases same
  | task id =>
      cases second with
      | user id' => cases same
      | task id' => rw [ObjectId.toString_injective (Op.deleteSaga.inj same)]
      | notification id' => cases same
  | notification id =>
      cases second with
      | user id' => cases same
      | task id' => cases same
      | notification id' =>
          rw [ObjectId.toString_injective (Option.some.inj (Op.deleteNotification.inj same))]

theorem Document.undo_not_forward (document : Document) : ¬ document.undo.Forward := by
  cases document <;> exact id

/-- No call of the saga is outstanding. -/
def World.Quiet (world : World) (saga : ℕ) : Prop :=
  ∀ call ∈ world.outstanding, call.saga ≠ saga

/-- A new document is stored, and nothing else happens. -/
structure Creates (world after : World) (creation : Creation) : Prop where
  fresh : world.Fresh creation.document
  created : after.created = world.created ++ [creation]
  outstanding : after.outstanding = world.outstanding
  stored : ∀ document : Document,
    document.Stored after ↔ document.Stored world ∨ document = creation.document
  users : world.users ⊆ after.users
  tasks : world.tasks ⊆ after.tasks
  notifications : world.notifications ⊆ after.notifications

/-- A document is removed from its store, and nothing else happens. -/
structure Deletes (world after : World) (gone : Document) : Prop where
  created : after.created = world.created
  outstanding : after.outstanding = world.outstanding
  stored : ∀ document : Document, document.Stored after ↔ document.Stored world ∧ document ≠ gone
  users : ∀ user ∈ world.users, Document.user user.id ≠ gone → user ∈ after.users
  tasks : ∀ task ∈ world.tasks, Document.task task.id ≠ gone → task ∈ after.tasks
  notifications : ∀ notification ∈ world.notifications,
    Document.notification notification.id ≠ gone → notification ∈ after.notifications

section Effect

variable {world after : World} {saga : ℕ} {reported : Bool} {chosen : Chosen}

/-- A call of the saga creates one document. -/
theorem effect_forward {op : Op} {value : op.Value} (forward : op.Forward)
    (performed : effect world saga reported chosen op = some (after, value)) :
    ∃ document, Creates world after ⟨saga, document, reported⟩ := by
  cases op with
  | register body =>
      simp only [effect, Option.ite_none_right_eq_some, Option.some.injEq] at performed
      obtain ⟨⟨_, _, fresh⟩, rfl, _⟩ := performed
      refine ⟨.user chosen.id, fresh, rfl, rfl, fun document => ?_,
        List.subset_append_left _ _, List.Subset.refl _, List.Subset.refl _⟩
      cases document <;> simp [Document.Stored, World.record]
  | createSaga body =>
      simp only [effect, Option.ite_none_right_eq_some, Option.some.injEq] at performed
      obtain ⟨⟨_, fresh⟩, rfl, _⟩ := performed
      refine ⟨.task chosen.id, fresh, rfl, rfl, fun document => ?_,
        List.Subset.refl _, List.subset_append_left _ _, List.Subset.refl _⟩
      cases document <;> simp [Document.Stored, World.record, TaskBody.toTask]
  | sendSaga data =>
      simp only [effect] at performed
      split at performed
      · rename_i notification made
        simp only [Option.ite_none_right_eq_some, Option.some.injEq] at performed
        obtain ⟨fresh, rfl, _⟩ := performed
        refine ⟨.notification notification.id, fresh, rfl, rfl, fun document => ?_,
          List.Subset.refl _, List.Subset.refl _, List.subset_append_left _ _⟩
        cases document <;> simp [Document.Stored, World.record]
      · cases performed
  | deleteUser userId => exact forward.elim
  | deleteSaga taskId => exact forward.elim
  | deleteNotification notificationId => exact forward.elim

/-- What is left of a collection when the documents with one id are removed. -/
theorem mem_ids_filter {α : Type} {idOf : α → ObjectId} {kept : α → Bool} {id : ObjectId}
    (keeps : ∀ item, kept item = true ↔ idOf item ≠ id) {items : List α} {other : ObjectId} :
    other ∈ (items.filter kept).map idOf ↔ other ∈ items.map idOf ∧ other ≠ id := by
  simp only [List.mem_map, List.mem_filter]
  constructor
  · rintro ⟨item, ⟨found, apart⟩, rfl⟩
    exact ⟨⟨item, found, rfl⟩, (keeps item).mp apart⟩
  · rintro ⟨⟨item, found, rfl⟩, apart⟩
    exact ⟨item, ⟨found, (keeps item).mpr apart⟩, rfl⟩

/-- A call of the rollback removes the document it was noted for. -/
theorem effect_undo {gone : Document} {value : gone.undo.Value}
    (performed : effect world saga reported chosen gone.undo = some (after, value)) :
    Deletes world after gone := by
  have same_iff : ∀ id id' : ObjectId, id.toString = id'.toString ↔ id = id' :=
    fun id id' => ⟨ObjectId.toString_injective, fun same => by rw [same]⟩
  cases gone with
  | user id =>
      have keeps : ∀ user : Auth, decide (user.id.toString ≠ id.toString) = true ↔ user.id ≠ id := by
        simp [same_iff]
      simp only [Document.undo, effect, Option.ite_none_right_eq_some, Option.some.injEq]
        at performed
      obtain ⟨_, rfl, _⟩ := performed
      refine ⟨rfl, rfl, fun document => ?_, fun user found different => ?_,
        fun _ found _ => found, fun _ found _ => found⟩
      · cases document with
        | user other =>
            simpa only [Document.Stored, ne_eq, Document.user.injEq] using mem_ids_filter keeps
        | task other => simp [Document.Stored]
        | notification other => simp [Document.Stored]
      · exact List.mem_filter.mpr ⟨found, (keeps user).mpr fun same => different (by rw [same])⟩
  | task id =>
      have keeps : ∀ task : Task, decide (task.id.toString ≠ id.toString) = true ↔ task.id ≠ id := by
        simp [same_iff]
      simp only [Document.undo, effect, Option.ite_none_right_eq_some, Option.some.injEq]
        at performed
      obtain ⟨_, rfl, _⟩ := performed
      refine ⟨rfl, rfl, fun document => ?_, fun _ found _ => found,
        fun task found different => ?_, fun _ found _ => found⟩
      · cases document with
        | task other =>
            simpa only [Document.Stored, ne_eq, Document.task.injEq] using mem_ids_filter keeps
        | user other => simp [Document.Stored]
        | notification other => simp [Document.Stored]
      · exact List.mem_filter.mpr ⟨found, (keeps task).mpr fun same => different (by rw [same])⟩
  | notification id =>
      have keeps : ∀ notification : Notification,
          decide (some notification.id.toString ≠ some id.toString) = true ↔
            notification.id ≠ id := by
        simp [same_iff]
      simp only [Document.undo, effect, Option.ite_none_right_eq_some, Option.some.injEq]
        at performed
      obtain ⟨_, rfl, _⟩ := performed
      refine ⟨rfl, rfl, fun document => ?_, fun _ found _ => found, fun _ found _ => found,
        fun notification found different => ?_⟩
      · cases document with
        | notification other =>
            simpa only [Document.Stored, ne_eq, Document.notification.injEq] using mem_ids_filter keeps
        | user other => simp [Document.Stored]
        | task other => simp [Document.Stored]
      · refine List.mem_filter.mpr ⟨found, (keeps notification).mpr fun same => different ?_⟩
        rw [same]

end Effect

/-! ## Where a saga stands -/

/-- The documents the rollback still has to remove are those the saga has seen created. -/
structure Rollback (world : World) (saga : ℕ) (ops : List Op) : Prop where
  pending : ∀ creation ∈ world.mine saga, creation.reported = true →
    (creation.document.Stored world ↔ creation.document.undo ∈ ops)
  noted : ∀ op ∈ ops, ∃ creation ∈ world.mine saga,
    creation.reported = true ∧ creation.document.undo = op
  nodup : ops.Nodup

/-- The saga has created a user, a task for the user and a notification about the task, and
nothing else. -/
structure Completed (world : World) (saga : ℕ) (registration : Registration) : Prop where
  quiet : world.Quiet saga
  documents : ∃ user ∈ world.users, ∃ task ∈ world.tasks, ∃ notification ∈ world.notifications,
    world.mine saga = [⟨saga, .user user.id, true⟩, ⟨saga, .task task.id, true⟩,
      ⟨saga, .notification notification.id, true⟩] ∧
    (registration.user.bind (·.id)).map (·.val) = some user.id.toString ∧
    task.userId = user.id.toString ∧ notification.userId = user.id.toString ∧
    notification.taskId = task.id.toString

/-- What holds while the saga awaits a call. -/
def Pc.Sound (world : World) (saga : ℕ) : Pc → Prop
  | .registering _ => world.Quiet saga ∧ world.mine saga = []
  | .creatingTask auth user userId => world.Quiet saga ∧ ∃ stored ∈ world.users,
      world.mine saga = [⟨saga, .user stored.id, true⟩] ∧ userId.val = stored.id.toString ∧
      auth.user = some user ∧ user.id = some userId
  | .sending auth user userId taskId => world.Quiet saga ∧
      ∃ stored ∈ world.users, ∃ task ∈ world.tasks,
        world.mine saga = [⟨saga, .user stored.id, true⟩, ⟨saga, .task task.id, true⟩] ∧
        userId.val = stored.id.toString ∧ taskId.val = task.id.toString ∧
        task.userId = stored.id.toString ∧ auth.user = some user ∧ user.id = some userId
  | .rollingBack op rest _ => Rollback world saga (op :: rest)

/-- What holds when the saga has ended. -/
def Ended (world : World) (saga : ℕ) : Except Thrown Registration → Prop
  | .ok registration => Completed world saga registration
  | .error _ => Rollback world saga []

/-- The history of what was created agrees with the stores. -/
structure Consistent (world : World) : Prop where
  unique : (world.created.map (·.document)).Nodup
  unseen : ∀ creation ∈ world.created, creation.reported = false → creation.document.Stored world
  forward : ∀ call ∈ world.outstanding, call.op.Forward

def saga : Assertions World RegisterBody Pc (Except Thrown Registration) where
  Global := Consistent
  Local world pid slot :=
    match slot with
    | .free => world.Quiet pid ∧ world.mine pid = []
    | .running _ pc => pc.Sound world pid
    | .finished _ out => Ended world pid out
    | .crashed _ => True

/-! ## What other sagas notice -/

/-- As far as the saga can tell, nothing happens. -/
structure Keeps (saga : ℕ) (world after : World) : Prop where
  mine : after.mine saga = world.mine saga
  quiet : world.Quiet saga → after.Quiet saga
  stored : ∀ creation ∈ world.mine saga,
    creation.document.Stored after ↔ creation.document.Stored world
  users : ∀ user ∈ world.users, (∃ creation ∈ world.mine saga, creation.document = .user user.id) →
    user ∈ after.users
  tasks : ∀ task ∈ world.tasks, (∃ creation ∈ world.mine saga, creation.document = .task task.id) →
    task ∈ after.tasks
  notifications : ∀ notification ∈ world.notifications,
    (∃ creation ∈ world.mine saga, creation.document = .notification notification.id) →
      notification ∈ after.notifications

theorem Rollback.keeps {saga : ℕ} {world after : World} {ops : List Op}
    (rollback : Rollback world saga ops) (keeps : Keeps saga world after) :
    Rollback after saga ops := by
  refine ⟨?_, ?_, rollback.nodup⟩
  · rw [keeps.mine]
    intro creation found reported
    rw [keeps.stored creation found]
    exact rollback.pending creation found reported
  · rw [keeps.mine]
    exact rollback.noted

theorem Pc.Sound.keeps {saga : ℕ} {world after : World} {pc : Pc} (sound : pc.Sound world saga)
    (keeps : Keeps saga world after) : pc.Sound after saga := by
  cases pc with
  | registering registerDto => exact ⟨keeps.quiet sound.1, keeps.mine.trans sound.2⟩
  | creatingTask auth user userId =>
      obtain ⟨quiet, stored, found, mine, rest⟩ := sound
      have here : stored ∈ after.users :=
        keeps.users stored found ⟨⟨saga, .user stored.id, true⟩, by rw [mine]; simp, rfl⟩
      exact ⟨keeps.quiet quiet, stored, here, keeps.mine.trans mine, rest⟩
  | sending auth user userId taskId =>
      obtain ⟨quiet, stored, found, task, found', mine, rest⟩ := sound
      have here : stored ∈ after.users :=
        keeps.users stored found ⟨⟨saga, .user stored.id, true⟩, by rw [mine]; simp, rfl⟩
      have here' : task ∈ after.tasks :=
        keeps.tasks task found' ⟨⟨saga, .task task.id, true⟩, by rw [mine]; simp, rfl⟩
      exact ⟨keeps.quiet quiet, stored, here, task, here', keeps.mine.trans mine, rest⟩
  | rollingBack op rest error => exact Rollback.keeps sound keeps

theorem Completed.keeps {saga : ℕ} {world after : World} {registration : Registration}
    (completed : Completed world saga registration) (keeps : Keeps saga world after) :
    Completed after saga registration := by
  obtain ⟨quiet, user, found, task, found', notification, found'', mine, rest⟩ := completed
  have here : user ∈ after.users :=
    keeps.users user found ⟨⟨saga, .user user.id, true⟩, by rw [mine]; simp, rfl⟩
  have here' : task ∈ after.tasks :=
    keeps.tasks task found' ⟨⟨saga, .task task.id, true⟩, by rw [mine]; simp, rfl⟩
  have here'' : notification ∈ after.notifications :=
    keeps.notifications notification found''
      ⟨⟨saga, .notification notification.id, true⟩, by rw [mine]; simp, rfl⟩
  exact ⟨keeps.quiet quiet, user, here, task, here', notification, here'', keeps.mine.trans mine, rest⟩

theorem Keeps.others {pid : ℕ} {world after : World} (keeps : Keeps pid world after)
    {slot : Slot RegisterBody Pc (Except Thrown Registration)} (holds : saga.Local world pid slot) :
    saga.Local after pid slot := by
  match slot with
  | .free => exact ⟨keeps.quiet holds.1, keeps.mine.trans holds.2⟩
  | .running _ pc => exact Pc.Sound.keeps holds keeps
  | .finished _ (.ok registration) => exact Completed.keeps holds keeps
  | .finished _ (.error error) => exact Rollback.keeps holds keeps
  | .crashed _ => trivial

section Changes

variable {world after : World} {saga other : ℕ}

theorem mine_created {document : Document} {reported : Bool}
    (created : after.created = world.created ++ [⟨saga, document, reported⟩]) :
    after.mine saga = world.mine saga ++ [⟨saga, document, reported⟩] := by
  simp [World.mine, created, List.filter_append]

theorem mem_mine {creation : Creation} :
    creation ∈ world.mine saga ↔ creation ∈ world.created ∧ creation.saga = saga := by
  simp [World.mine]

/-- What is in no created document's place is in none of the saga's. -/
theorem Creates.keeps {creation : Creation} (creates : Creates world after creation)
    (different : creation.saga ≠ other) : Keeps other world after where
  mine := by simp [World.mine, creates.created, List.filter_append, different]
  quiet quiet := by
    intro call found
    exact quiet call (creates.outstanding ▸ found)
  stored entry found := by
    rw [creates.stored]
    refine or_iff_left fun same => creates.fresh ?_
    rw [← same]
    exact List.mem_map_of_mem (mem_mine.mp found).1
  users user found _ := creates.users found
  tasks task found _ := creates.tasks found
  notifications notification found _ := creates.notifications found

/-- The document of one saga is not the document of another. -/
theorem Deletes.keeps {gone : Creation} (consistent : Consistent world)
    (deletes : Deletes world after gone.document) (created : gone ∈ world.created)
    (different : gone.saga ≠ other) : Keeps other world after := by
  have apart : ∀ creation ∈ world.mine other, creation.document ≠ gone.document := by
    intro creation found same
    obtain ⟨known, mine⟩ := mem_mine.mp found
    have one := List.inj_on_of_nodup_map consistent.unique known created same
    exact different (one ▸ mine)
  constructor
  case mine => simp only [World.mine, deletes.created]
  case quiet =>
    intro quiet call found
    exact quiet call (deletes.outstanding ▸ found)
  case stored =>
    intro creation found
    rw [deletes.stored]
    exact and_iff_left (apart creation found)
  case users =>
    rintro user found ⟨creation, mine, same⟩
    exact deletes.users user found (same ▸ apart creation mine)
  case tasks =>
    rintro task found ⟨creation, mine, same⟩
    exact deletes.tasks task found (same ▸ apart creation mine)
  case notifications =>
    rintro notification found ⟨creation, mine, same⟩
    exact deletes.notifications notification found (same ▸ apart creation mine)

/-- What is stored has nothing to do with outstanding calls. -/
theorem stored_outstanding {document : Document} {calls : List Outstanding} :
    document.Stored { world with outstanding := calls } ↔ document.Stored world := by
  cases document <;> exact Iff.rfl

/-- Outstanding calls come and go without anybody noticing but their saga. -/
theorem Keeps.outstanding {calls : List Outstanding}
    (quiet : world.Quiet other → ∀ call ∈ calls, call.saga ≠ other) :
    Keeps other world { world with outstanding := calls } :=
  ⟨rfl, quiet, fun _ _ => stored_outstanding, fun _ found _ => found, fun _ found _ => found,
    fun _ found _ => found⟩

theorem Keeps.trans {first second third : World} (earlier : Keeps other first second)
    (later : Keeps other second third) : Keeps other first third where
  mine := later.mine.trans earlier.mine
  quiet quiet := later.quiet (earlier.quiet quiet)
  stored creation found := by
    rw [later.stored creation (earlier.mine ▸ found), earlier.stored creation found]
  users user found mine :=
    later.users user (earlier.users user found mine) (by rwa [earlier.mine])
  tasks task found mine :=
    later.tasks task (earlier.tasks task found mine) (by rwa [earlier.mine])
  notifications notification found mine :=
    later.notifications notification (earlier.notifications notification found mine)
      (by rwa [earlier.mine])

theorem Creates.consistent {creation : Creation} (creates : Creates world after creation)
    (consistent : Consistent world) : Consistent after where
  unique := by
    rw [creates.created, List.map_append, List.map_singleton]
    refine consistent.unique.append (List.nodup_singleton _) ?_
    intro document before here
    exact creates.fresh (List.mem_singleton.mp here ▸ before)
  unseen entry found unseen := by
    rw [creates.stored]
    rw [creates.created, List.mem_append, List.mem_singleton] at found
    rcases found with found | rfl
    · exact .inl (consistent.unseen entry found unseen)
    · exact .inr rfl
  forward := by
    rw [creates.outstanding]
    exact consistent.forward

theorem Deletes.consistent {gone : Creation} (consistent : Consistent world)
    (deletes : Deletes world after gone.document) (created : gone ∈ world.created)
    (reported : gone.reported = true) : Consistent after where
  unique := by
    rw [deletes.created]
    exact consistent.unique
  unseen creation found unseen := by
    rw [deletes.created] at found
    rw [deletes.stored]
    refine ⟨consistent.unseen creation found unseen, fun same => ?_⟩
    rw [List.inj_on_of_nodup_map consistent.unique found created same, reported] at unseen
    cases unseen
  forward := by
    rw [deletes.outstanding]
    exact consistent.forward

end Changes

end WorkflowHub.Gateway
