import WorkflowHub.Pipeline.Counting

/-!
# What the consumers make of an event

Three definitions decide whether an event of `create` can be handled: the schema of the
tasks, the fields the analytics service asks for, and the schema of the notifications. What
the first lets through passes the other two (`Accepted.of_commit`), so no committed task
leaves a message behind that is dropped or fails on every redelivery.
-/

set_option autoImplicit false

namespace WorkflowHub.Pipeline

open Processes TaskService Consumers

/-- The handler goes on to take this key: its first operation is to set it. -/
def Takes (method : Consumers.Method Unit) (key : String) : Prop :=
  ∃ resume, method.run () = .await (Consumers.Op.set key "processed" keySeconds) () resume

/-! ## Keys -/

theorem notificationKey_injective {first second : String}
    (same : "event:" ++ first = "event:" ++ second) : first = second :=
  String.append_right_inj _ |>.mp same

/-- No event has the key of the notification service that another has in the analytics
service. -/
theorem notificationKey_ne_lockKey (data : EventPayload) (taskId : String) :
    NotificationService.key data ≠ AnalyticsService.lockKey taskId :=
  eventKey_ne _ _

/-! ## One event -/

/-- A required string that is not empty is there. -/
theorem filter_of_ne {text : String} (present : text ≠ "") :
    (some text).filter (· ≠ "") = some text :=
  Option.filter_eq_some_iff.mpr ⟨rfl, decide_eq_true present⟩

/-- The consumers can handle the event of a task: the notification service stores it as a
notification that satisfies the schema, the analytics service finds the fields it asks for,
and both take a key of the task. -/
structure Accepted (data : EventPayload) (task : Task) : Prop where
  notification : ∀ id, Notification.of? id data = some
    { id, userId := task.userId, taskId := task.id.toString, title := task.title,
      message := "Task Created Successfully", type := .email, isRead := false }
  notified : Takes (NotificationService.handleTaskCreated data) ("event:" ++ task.id.toString)
  counted : Takes (AnalyticsService.handleTaskCreated data)
    (AnalyticsService.lockKey task.id.toString)

namespace Accepted

variable {data : EventPayload} {task : Task}

/-- The payload of a task whose body the schema of the tasks lets through. -/
theorem of_valid {body : TaskBody} (valid : body.Valid) (id : ObjectId) :
    Accepted (createPayload body (body.toTask id)) (body.toTask id) := by
  obtain ⟨title, _, userId⟩ := valid
  have taskId : jsOr (some id.toString) none = some id.toString :=
    jsOr_of_truthy (truthy_some.mpr id.toString_ne_empty) none
  constructor
  case notification =>
    intro notificationId
    simp only [Notification.of?, createPayload, TaskBody.toTask, filter_of_ne userId,
      filter_of_ne title, filter_of_ne id.toString_ne_empty]
    rfl
  case notified =>
    have key : NotificationService.key (createPayload body (body.toTask id)) =
        "event:" ++ id.toString := by
      simp only [NotificationService.key, createPayload, TaskBody.toTask, taskId]
      rfl
    show Takes _ ("event:" ++ id.toString)
    rw [← key]
    exact ⟨_, rfl⟩
  case counted =>
    have present : ¬(body.userId = "" ∨ id.toString = "") := by
      rintro (absent | absent)
      · exact userId absent
      · exact id.toString_ne_empty absent
    simp only [AnalyticsService.handleTaskCreated, createPayload, TaskBody.toTask, taskId,
      if_neg present]
    exact ⟨_, rfl⟩

/-- **Every committed task has an event that the consumers can handle.** -/
theorem of_commit {ledger : Ledger} (provenance : Provenance ledger) {commit : Commit}
    (found : commit ∈ ledger.commits) : Accepted commit.record.payload commit.task := by
  obtain ⟨body, valid, same, payload⟩ := (provenance.owned.announced commit found).payload
  rw [payload, same]
  exact of_valid valid commit.task.id

end Accepted

/-! ## Every event -/

/-- What the task service has emitted, the consumers can handle, and the keys they take tell
the tasks apart. -/
structure NoPoison (state : TaskService.View) : Prop where
  /-- The event of a committed task can be handled. -/
  accepted : ∀ commit ∈ state.world.commits, Accepted commit.record.payload commit.task
  /-- What is emitted is the event of a committed task. -/
  emitted : ∀ emit ∈ state.world.emits, ∃ commit ∈ state.world.commits,
    emit.payload = commit.record.payload ∧ Accepted emit.payload commit.task
  /-- Two commits of which the consumers take one key are one. -/
  keys : ∀ commit ∈ state.world.commits, ∀ other ∈ state.world.commits,
    NotificationService.key commit.record.payload = NotificationService.key other.record.payload ∨
      AnalyticsService.lockKey commit.task.id.toString =
        AnalyticsService.lockKey other.task.id.toString → commit = other
  /-- The two services never take one key. -/
  apart : ∀ commit ∈ state.world.commits, ∀ taskId,
    NotificationService.key commit.record.payload ≠ AnalyticsService.lockKey taskId

/-- **The producer emits nothing the consumers cannot handle.** In every state that calls,
polls, failures and crashes lead to, the event of a task that `create` committed passes the
checks of both consumers, and no two tasks have a key in common. -/
theorem no_poison {state : TaskService.State} (ran : TaskService.Runs Always (.initial {}) state) :
    NoPoison (state.observe TaskService.programs) := by
  have provenance : Provenance state.world.toLedger := provenance_of_run ran
  have key : ∀ commit ∈ state.world.commits,
      NotificationService.key commit.record.payload = "event:" ++ commit.task.id.toString := by
    intro commit found
    rw [NotificationService.key, (About.of_commit provenance found).id]
    rfl
  constructor
  case accepted => exact fun commit found => .of_commit provenance found
  case emitted =>
    intro emit sent
    obtain ⟨commit, found, _, _, payload⟩ := provenance.emitted emit sent
    exact ⟨commit, found, payload, payload ▸ .of_commit provenance found⟩
  case keys =>
    intro commit found other found' same
    apply provenance.owned.eq_of_task found found'
    rcases same with same | same
    · rw [key commit found, key other found'] at same
      exact ObjectId.toString_injective (notificationKey_injective same)
    · exact ObjectId.toString_injective (lockKey_injective same)
  case apart => exact fun commit _ taskId => notificationKey_ne_lockKey _ taskId

/-- The theorem at a run in which a task is created and its event is published. -/
theorem no_poison_delivered :
    ∃ state ∈ run TaskService.step (.initial {})
        (TaskService.Sample.created ++ TaskService.Sample.deliveredBy 0 1),
      state.world.emits.map (·.event) = [TaskService.Sample.recordId] ∧
        NoPoison (state.observe TaskService.programs) := by
  obtain ⟨state, ran, emitted⟩ :
      ∃ state ∈ run TaskService.step (.initial {})
          (TaskService.Sample.created ++ TaskService.Sample.deliveredBy 0 1),
        state.world.emits.map (·.event) = [TaskService.Sample.recordId] := by decide +kernel
  exact ⟨state, ran, emitted, no_poison (.of_run ran .always)⟩

end WorkflowHub.Pipeline
