import WorkflowHub.Consumers.Idempotency
import WorkflowHub.Pipeline.System

/-!
# Counting tasks end to end

A committed task is counted at most once and notified at most once, whatever is emitted
twice, delivered again or cut short by a crash of a worker. In a run without crashes that
has come to rest (`Drained`) it is counted and notified exactly once.

Both halves compare lists of keys: the keys of applied effects have no repetition, they are
keys of committed tasks, and at rest every committed task has its key among them.
-/

set_option autoImplicit false

namespace WorkflowHub.Pipeline

open Processes TaskService Consumers

/-! ## What is counted -/

/-- The tasks that `create` has committed for a user. -/
def State.committed (state : State) (userId : String) : List Task :=
  (state.taskService.world.commits.map (·.task)).filter (·.userId = userId)

/-- The notifications with the id of a task. -/
def State.notificationsOf (state : State) (task : Task) : List Notification :=
  state.consumers.world.notifications.filter (·.taskId = task.id.toString)

def State.taskCount (state : State) (userId : String) : ℕ :=
  Consumers.taskCount state.consumers.world.counters userId

structure AtMostOnce (state : State) : Prop where
  counted : ∀ userId, state.taskCount userId ≤ (state.committed userId).length
  notified : ∀ userId, ∀ task ∈ state.committed userId, (state.notificationsOf task).length ≤ 1

structure ExactlyOnce (state : State) : Prop where
  counted : ∀ userId, state.taskCount userId = (state.committed userId).length
  notified : ∀ userId, ∀ task ∈ state.committed userId, (state.notificationsOf task).length = 1

/-- No outbox record is pending or failed, and every message was last handled by a handler
that returned normally. -/
structure Drained (state : State) : Prop where
  completed : ∀ record ∈ state.taskService.world.outbox, record.status = .completed
  settled : ∀ offset < state.consumers.world.topic.length, ∀ consumer,
    Settled state.view consumer offset

def CrashFree : Consumers.Happening → Prop
  | .crash _ _ => False
  | _ => True

/-- A `set` that is rejected has not been applied, and a `del` is applied: the client of
Redis repeats a command until it is answered. -/
def RedisAnswers (view : Consumers.View) : Consumers.Happening → Prop
  | .step pid answer =>
      match view.slots pid with
      | .running _ (.set ..) => answer.outcome.Clean
      | .running _ (.del _) => answer.outcome.Applied
      | _ => True
  | _ => True

instance (event : Consumers.Happening) : Decidable (CrashFree event) := by
  unfold CrashFree
  split <;> infer_instance

instance (view : Consumers.View) :
    (event : Consumers.Happening) → Decidable (RedisAnswers view event)
  | .step pid answer =>
      show Decidable (match view.slots pid with
        | .running _ (.set ..) => answer.outcome.Clean
        | .running _ (.del _) => answer.outcome.Applied
        | _ => True) from
      match view.slots pid with
      | .running _ (.set ..) => inferInstanceAs (Decidable answer.outcome.Clean)
      | .running _ (.del _) => inferInstanceAs (Decidable answer.outcome.Applied)
      | .running _ (.createNotification _) | .running _ (.updateOne _)
      | .free | .finished .. | .crashed _ => isTrue trivial
  | .call .. | .crash .. | .env _ => isTrue trivial

/-- Database steps fail without effect, and keys do not expire under a message that comes
again. Anything may crash. -/
abbrev Assumed : State → Happening → Prop := Both (fun _ _ => True) FreshKeys

/-- No worker crashes in addition, and no record is pruned but those that were delivered. -/
abbrev Undisturbed : State → Happening → Prop :=
  Both PrunesDelivered fun view event =>
    FreshKeys view event ∧ CrashFree event ∧ RedisAnswers view event

theorem Undisturbed.keeping {view : Consumers.View} {event : Consumers.Happening}
    (calm : CrashFree event)
    (answers : RedisAnswers view event) : Keeping view event := by
  cases event with
  | call pid delivery => exact ⟨trivial, trivial⟩
  | step pid answer =>
      simp only [RedisAnswers, Keeping, SetsClean, KeysKept] at answers ⊢
      cases slot : view.slots pid with
      | running delivery op =>
          cases op with
          | set key value seconds => simpa [slot] using answers
          | del key => simpa [slot] using answers
          | createNotification data => exact ⟨trivial, trivial⟩
          | updateOne userId => exact ⟨trivial, trivial⟩
      | _ => exact ⟨trivial, trivial⟩
  | crash pid performed => exact calm.elim
  | env event => exact ⟨trivial, trivial⟩

/-! ## Messages and their tasks -/

section Messages

variable {T : TaskService.View → TaskService.Happening → Prop}
  {C : Consumers.View → Consumers.Happening → Prop} {state : State}

/-- The payload is the one `create` has written for the task. -/
structure About (data : EventPayload) (task : Task) : Prop where
  taskId : data.taskId = some task.id.toString
  userId : data.userId = some task.userId
  known : task.userId ≠ ""

theorem About.of_commit {ledger : Ledger} (provenance : Provenance ledger) {commit : Commit}
    (found : commit ∈ ledger.commits) : About commit.record.payload commit.task := by
  have announces := provenance.owned.announced commit found
  obtain ⟨taskId, userId, _⟩ := announces.describes
  obtain ⟨body, valid, same, _⟩ := announces.payload
  refine ⟨taskId, userId, ?_⟩
  rw [same]
  exact valid.2.2

theorem About.id {data : EventPayload} {task : Task} (about : About data task) :
    jsOr data.taskId data.eventId = some task.id.toString := by
  rw [about.taskId]
  exact jsOr_of_truthy (truthy_some.mpr task.id.toString_ne_empty) _

/-- What the consumers do with a message about a task. -/
theorem About.plan {data : EventPayload} {task : Task} (about : About data task) :
    (Consumers.plan .notification data).map (·.key) = some ("event:" ++ task.id.toString) ∧
      (Consumers.plan .analytics data).map (·.key) =
        some (AnalyticsService.lockKey task.id.toString) := by
  constructor
  · simp [Consumers.plan, NotificationService.key, about.id, interpolated]
  · simp [Consumers.plan, about.id, about.userId, about.known, task.id.toString_ne_empty]

/-- Every message is about a committed task. -/
theorem message_about (ran : Runs T C .initial state) {data : EventPayload}
    (message : data ∈ state.consumers.world.topic) :
    ∃ commit ∈ state.taskService.world.commits, data = commit.record.payload ∧
      About data commit.task := by
  have provenance := provenance_of_run (taskService_ran ran)
  rw [topic_eq ran] at message
  obtain ⟨emit, sent, rfl⟩ := List.mem_map.mp message
  obtain ⟨commit, found, _, _, payload⟩ := provenance.emitted emit (List.mem_of_mem_filter sent)
  exact ⟨commit, found, payload, payload ▸ About.of_commit provenance found⟩

/-- Two messages about tasks with one id are one payload. -/
theorem message_unique (ran : Runs T C .initial state) {data : EventPayload} {commit : Commit}
    (message : data ∈ state.consumers.world.topic)
    (found : commit ∈ state.taskService.world.commits)
    (same : data.taskId = some commit.task.id.toString) : data = commit.record.payload := by
  have provenance := provenance_of_run (taskService_ran ran)
  obtain ⟨origin, known, payload, about⟩ := message_about ran message
  rw [about.taskId, Option.some.injEq] at same
  rw [payload, provenance.owned.eq_of_task known found (ObjectId.toString_injective same)]

/-- No two committed tasks have one id. -/
theorem committed_nodup (ran : Runs T C .initial state) (userId : String) :
    ((state.committed userId).map (·.id)).Nodup := by
  have owned := (provenance_of_run (taskService_ran ran)).owned
  have nodup : (state.taskService.world.commits.map (·.task.id)).Nodup := by
    refine List.Nodup.map_on ?_ owned.callers.of_map
    exact fun first here second there same => owned.eq_of_task here there same
  have sublist : ((state.committed userId).map (·.id)).Sublist
      (state.taskService.world.commits.map (·.task.id)) := by
    have := (List.filter_sublist (p := fun task : Task => task.userId = userId)
      (l := state.taskService.world.commits.map (·.task))).map (·.id)
    rwa [List.map_map] at this
  exact nodup.sublist sublist

end Messages

/-! ## At most once -/

/-- The keys under which the tasks of a user are counted. -/
def countedKeys (world : Consumers.World) (userId : String) : List String :=
  (world.counted.filter (·.1 = userId)).map fun entry =>
    AnalyticsService.lockKey (interpolated entry.2)

theorem lockKey_injective {first second : String}
    (same : AnalyticsService.lockKey first = AnalyticsService.lockKey second) : first = second :=
  String.append_right_inj _ |>.mp same

/-- The keys of the tasks that `create` has committed for a user. -/
def State.committedKeys (state : State) (userId : String) : List String :=
  (state.committed userId).map fun task => AnalyticsService.lockKey task.id.toString

theorem committedKeys_nodup {T : TaskService.View → TaskService.Happening → Prop}
    {C : Consumers.View → Consumers.Happening → Prop} {state : State}
    (ran : Runs T C .initial state) (userId : String) : (state.committedKeys userId).Nodup := by
  have nodup := (committed_nodup ran userId).map_on (f := fun id : ObjectId =>
    AnalyticsService.lockKey id.toString) fun first _ second _ same =>
      ObjectId.toString_injective (lockKey_injective same)
  rwa [List.map_map] at nodup

theorem countedKeys_nodup {world : Consumers.World} (nodup : (applied world).Nodup)
    (userId : String) : (countedKeys world userId).Nodup :=
  (nodup.sublist (List.sublist_append_right _ _)).sublist (List.filter_sublist.map _)

/-- What was counted for a user was counted for a committed task of the user. -/
theorem countedKeys_subset {T : TaskService.View → TaskService.Happening → Prop}
    {C : Consumers.View → Consumers.Happening → Prop} {state : State}
    (ran : Runs T C .initial state) (accounted : Accounted state.consumers.world)
    (userId : String) :
    countedKeys state.consumers.world userId ⊆ state.committedKeys userId := by
  intro key counted
  obtain ⟨entry, found, rfl⟩ := List.mem_map.mp counted
  obtain ⟨included, mine⟩ := List.mem_filter.mp found
  obtain ⟨data, message, user, task⟩ := accounted.sourced entry included
  obtain ⟨commit, known, _, about⟩ := message_about ran message
  refine List.mem_map.mpr ⟨commit.task, ?_, ?_⟩
  · refine List.mem_filter.mpr ⟨List.mem_map.mpr ⟨commit, known, rfl⟩, ?_⟩
    rw [about.userId, Option.some.injEq] at user
    rw [user]
    exact mine
  · rw [← task, about.id]
    rfl

/-- A list without repetition that holds nothing but one key has at most one element. -/
theorem length_le_one_of_nodup {keys : List String} (nodup : keys.Nodup) (key : String)
    (same : ∀ other ∈ keys, other = key) : keys.length ≤ 1 := by
  rw [List.eq_replicate_of_mem same] at nodup
  exact List.nodup_replicate.mp nodup

theorem at_most_once {state : State} (ran : Path step Assumed .initial state) :
    AtMostOnce state := by
  have ran' : Consumers.Runs FreshKeys (.initial {}) state.consumers :=
    consumers_ran ran fun _ _ => ⟨trivial, trivial⟩
  have nodup := applied_nodup ran'
  have accounted := accounted ran'
  constructor
  case counted =>
    intro userId
    calc
      state.taskCount userId = (countedKeys state.consumers.world userId).length := by
        rw [countedKeys, List.length_map]
        exact accounted.tallied userId
      _ ≤ (state.committedKeys userId).length :=
        (List.subperm_of_subset (countedKeys_nodup nodup userId)
          (countedKeys_subset ran accounted userId)).length_le
      _ = (state.committed userId).length := List.length_map _
  case notified =>
    intro userId task _
    have keys : ((state.notificationsOf task).map fun notification =>
        "event:" ++ notification.taskId).Nodup :=
      (nodup.sublist (List.sublist_append_left _ _)).sublist (List.filter_sublist.map _)
    rw [← List.length_map (f := fun notification : Notification => "event:" ++ notification.taskId)]
    refine length_le_one_of_nodup keys ("event:" ++ task.id.toString) ?_
    intro key found
    obtain ⟨notification, there, rfl⟩ := List.mem_map.mp found
    rw [of_decide_eq_true (List.mem_filter.mp there).2]

/-! ## Exactly once -/

section Drained

variable {state : State}

theorem assumed_of_undisturbed (ran : Path step Undisturbed .initial state) :
    Path step Assumed .initial state := by
  refine ran.mono fun state event allowed => ?_
  cases event with
  | taskService event => trivial
  | consumers event => exact allowed.1

theorem keeping_of_undisturbed (ran : Path step Undisturbed .initial state) :
    Consumers.Runs Keeping (.initial {}) state.consumers := by
  refine consumers_ran (T := PrunesDelivered) (ran.mono fun state event allowed => ?_)
    fun _ _ => ⟨trivial, trivial⟩
  cases event with
  | taskService event => exact allowed
  | consumers event => exact Undisturbed.keeping allowed.2.1 allowed.2.2

/-- At rest, each consumer has applied the effect of every committed task. -/
theorem drained_effect (ran : Path step Undisturbed .initial state) (drained : Drained state)
    {commit : Commit} (found : commit ∈ state.taskService.world.commits) (consumer : Consumer) :
    Effect state.consumers.world consumer commit.record.payload := by
  have about := About.of_commit (provenance_of_run (taskService_ran ran)) found
  have published := published_of_completed (taskService_ran ran) drained.completed found
  rw [← topic_eq ran] at published
  obtain ⟨offset, message⟩ := List.mem_iff_getElem?.mp published
  have settled : ∀ (key : String) (offset' : ℕ) (data' : EventPayload),
      MessageOf state.consumers.world consumer key offset' data' → Settled state.view consumer offset' :=
    fun key offset' data' there =>
      drained.settled offset' (List.getElem?_eq_some_iff.mp there.1).1 consumer
  -- Another message with the key of this one is about the same task.
  obtain ⟨key, taken, identified⟩ : ∃ key,
      (Consumers.plan consumer commit.record.payload).map (·.key) = some key ∧
        ∀ {data task}, About data task → (Consumers.plan consumer data).map (·.key) = some key →
          data.taskId = some commit.task.id.toString := by
    cases consumer with
    | notification =>
        refine ⟨_, about.plan.1, fun {data task} about' same => ?_⟩
        rw [about'.plan.1, Option.some.injEq] at same
        rw [about'.taskId, (String.append_right_inj _).mp same]
    | analytics =>
        refine ⟨_, about.plan.2, fun {data task} about' same => ?_⟩
        rw [about'.plan.2, Option.some.injEq] at same
        rw [about'.taskId, lockKey_injective same]
  obtain ⟨offset', data', ⟨there, taken'⟩, effect⟩ :=
    effect_applied (keeping_of_undisturbed ran) ⟨message, taken⟩ (settled key)
  have message' := List.mem_of_getElem? there
  obtain ⟨_, _, _, about'⟩ := message_about ran message'
  rwa [message_unique ran message' found (identified about' taken')] at effect

theorem exactly_once (ran : Path step Undisturbed .initial state) (drained : Drained state) :
    ExactlyOnce state := by
  have once := at_most_once (assumed_of_undisturbed ran)
  have accounted := accounted (keeping_of_undisturbed ran)
  constructor
  case counted =>
    intro userId
    refine le_antisymm (once.counted userId) ?_
    have subset : state.committedKeys userId ⊆ countedKeys state.consumers.world userId := by
      intro key committed
      obtain ⟨task, found, rfl⟩ := List.mem_map.mp committed
      obtain ⟨known, mine⟩ := List.mem_filter.mp found
      obtain ⟨commit, there, rfl⟩ := List.mem_map.mp known
      have about := About.of_commit (provenance_of_run (taskService_ran ran)) there
      obtain ⟨user, named, counted⟩ := drained_effect ran drained there .analytics
      refine List.mem_map.mpr ⟨_, List.mem_filter.mpr ⟨counted, ?_⟩, ?_⟩
      · rw [about.userId, Option.some.injEq] at named
        rw [← named]
        exact mine
      · rw [about.id]
        rfl
    calc
      (state.committed userId).length = (state.committedKeys userId).length :=
        (List.length_map _).symm
      _ ≤ (countedKeys state.consumers.world userId).length :=
        (List.subperm_of_subset (committedKeys_nodup ran userId) subset).length_le
      _ = state.taskCount userId := by
        rw [countedKeys, List.length_map]
        exact (accounted.tallied userId).symm
  case notified =>
    intro userId task found
    refine le_antisymm (once.notified userId task found) ?_
    obtain ⟨commit, there, rfl⟩ := List.mem_map.mp (List.mem_of_mem_filter found)
    have about := About.of_commit (provenance_of_run (taskService_ran ran)) there
    obtain ⟨notification, stored, same, _⟩ := drained_effect ran drained there .notification
    rw [about.taskId, Option.some.injEq] at same
    refine List.length_pos_of_mem (List.mem_filter.mpr ⟨stored, decide_eq_true same⟩)

end Drained

/-- **Tasks are counted end to end.** Whatever is emitted twice, delivered again or cut short
by a crash, a committed task is counted and notified at most once; and exactly once when a
run without crashes has come to rest. -/
theorem end_to_end_counting {state : State} (ran : Path step Assumed .initial state) :
    AtMostOnce state ∧
      (Path step Undisturbed .initial state → Drained state → ExactlyOnce state) :=
  ⟨at_most_once ran, exactly_once⟩

namespace Sample

/-- The message of the sample task, handed to a worker. -/
def delivers (consumer : Consumer) (pid : ℕ) : Happening :=
  .consumers (.call pid ⟨consumer, 0, createPayload TaskService.Sample.body
    (TaskService.Sample.body.toTask TaskService.Sample.taskId)⟩)

def resolves (pid : ℕ) : Happening := .consumers (Consumers.Sample.resolves pid)

/-- A task is created and its message delivered to both groups. The notification service
fails on it once, and the analytics service gets it again while it handles it. -/
def counted : List Happening :=
  (TaskService.Sample.created ++ TaskService.Sample.deliveredBy 0 1).map .taskService ++
    [delivers .notification 0, resolves 0, .consumers (Consumers.Sample.rejects 0), resolves 0,
      delivers .notification 1, resolves 1, resolves 1,
      delivers .analytics 2, resolves 2, delivers .analytics 3, resolves 3, resolves 2]

end Sample

/-- The theorem at such a run. -/
theorem end_to_end_counting_counted :
    ∃ state ∈ run step .initial Sample.counted,
      state.taskCount TaskService.Sample.body.userId = 1 ∧ AtMostOnce state ∧ ExactlyOnce state := by
  obtain ⟨state, ran, count, undisturbed, completed, topic, returned, idle⟩ :
      ∃ state ∈ run step .initial Sample.counted,
        state.taskCount TaskService.Sample.body.userId = 1 ∧
        Meets step Undisturbed .initial Sample.counted ∧
        (∀ record ∈ state.taskService.world.outbox, record.status = .completed) ∧
        state.consumers.world.topic.length = 1 ∧
        (lastEnded state.consumers.world .notification 0 = some true ∧
          lastEnded state.consumers.world .analytics 0 = some true) ∧
        (∀ event ∈ Sample.counted, ∀ pid ∈ event.pid?,
          (state.consumers.slots pid).isRunning = false) := by decide +kernel
  have undisturbed : Path step Undisturbed .initial state := .of_run ran undisturbed
  have both := end_to_end_counting (assumed_of_undisturbed undisturbed)
  refine ⟨state, ran, count, both.1, both.2 undisturbed ⟨completed, fun offset stored consumer => ?_⟩⟩
  rw [topic, Nat.lt_one_iff] at stored
  subst stored
  cases consumer with
  | notification => exact .of_idle (idle_of_run ran idle) returned.1
  | analytics => exact .of_idle (idle_of_run ran idle) returned.2

end WorkflowHub.Pipeline
