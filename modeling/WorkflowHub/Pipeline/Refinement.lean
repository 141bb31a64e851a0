import WorkflowHub.AnalyticsService.Counter
import WorkflowHub.Pipeline.Counting
import WorkflowHub.Processes.Feed

/-!
# The pipeline is a feed

Seen from outside, the task service with its outbox, the topic and the two consumers behave like a
feed (`Feed`): a task is posted when `create` commits it, published when a poller has emitted it,
and handled by a group when its notification is stored or its user's counter is incremented. All
the rest, transactions, polls, keys in Redis, redeliveries, failures and crashes, is not to be
seen (`pipeline_is_feed`).
-/

set_option autoImplicit false

namespace WorkflowHub.TaskService

open Processes

/-! ## Commits are only added -/

theorem exec_commits {world world' : World} {pid : ℕ} {op : Op} {answer : Answer}
    {reply : Except Thrown op.Value} (answered : exec world pid op answer = some (world', reply)) :
    world.commits <+: world'.commits := by
  cases op with
  | commitTransaction =>
      rcases respond_cases answered with ⟨rfl, _⟩ | ⟨_, rfl, _⟩
      · split
        · exact List.prefix_rfl
        · exact List.prefix_rfl
      · exact List.prefix_append _ _
  | findPending limit =>
      rcases respond_cases answered with ⟨rfl, _⟩ | ⟨_, rfl, _⟩
      · exact List.prefix_rfl
      · split
        · exact List.prefix_rfl
        · exact List.prefix_rfl
  | save document =>
      rcases respond_cases answered with ⟨rfl, _⟩ | ⟨_, rfl, _⟩
      · exact List.prefix_rfl
      · split
        · exact List.prefix_rfl
        · exact List.prefix_rfl
  | _ =>
      rcases respond_cases answered with ⟨rfl, _⟩ | ⟨_, rfl, _⟩
      · exact List.prefix_rfl
      · exact List.prefix_rfl

theorem step_commits {before after : State} {event : Happening}
    (taken : step before event = some after) : before.world.commits <+: after.world.commits := by
  cases Pool.stepped taken with
  | call free started =>
      cases started
      rw [Pool.settle_world, land_toLedger]
  | step running answered =>
      rw [Pool.settle_world, land_toLedger]
      exact exec_commits answered
  | crashPending running => exact List.prefix_rfl
  | @crashPerformed pid answer call pc world reply running answered =>
      have added : before.world.commits <+: world.commits := exec_commits answered
      exact added
  | env moved =>
      rcases env_cases moved with ⟨milliseconds, rfl, rfl⟩ | ⟨record, found, rfl, rfl⟩
      · exact List.prefix_rfl
      · exact List.prefix_rfl

end WorkflowHub.TaskService

namespace WorkflowHub.Consumers

open Processes

/-! ## Effects are only added -/

/-- What the consumers have done so far is still there, with the messages. -/
structure Extends (world world' : World) : Prop where
  topic : world.topic <+: world'.topic
  notifications : world.notifications <+: world'.notifications
  counted : world.counted <+: world'.counted

theorem Extends.refl (world : World) : Extends world world :=
  ⟨List.prefix_rfl, List.prefix_rfl, List.prefix_rfl⟩

theorem exec_extends {world world' : World} {delivery : Delivery} {op : Op} {answer : Answer}
    {reply : Except Thrown op.Value}
    (answered : exec world delivery op answer = some (world', reply)) : Extends world world' := by
  have topic : world.topic <+: world'.topic := exec_topic answered ▸ List.prefix_rfl
  cases op with
  | createNotification data =>
      simp only [exec] at answered
      split at answered
      · rcases respond_cases answered with ⟨rfl, _⟩ | ⟨_, rfl, _⟩
        · exact .refl _
        · exact ⟨topic, List.prefix_append _ _, List.prefix_rfl⟩
      · rcases respond_cases answered with ⟨rfl, _⟩ | ⟨_, rfl, _⟩
        · exact .refl _
        · exact .refl _
  | updateOne userId =>
      rcases respond_cases answered with ⟨rfl, _⟩ | ⟨_, rfl, _⟩
      · exact .refl _
      · exact ⟨topic, List.prefix_rfl, List.prefix_append _ _⟩
  | _ =>
      rcases respond_cases answered with ⟨rfl, _⟩ | ⟨_, rfl, _⟩
      · exact .refl _
      · exact ⟨topic, List.prefix_rfl, List.prefix_rfl⟩

theorem extends_land {Pc : Type} {world world' : World} (holds : Extends world world') (pid : ℕ)
    (delivery : Delivery) (led : Unit × Target Pc (Except Thrown Unit)) :
    Extends world (Pool.land site world' pid delivery led).1 := by
  obtain ⟨_, target⟩ := led
  cases target with
  | running pc => exact holds
  | finished out => exact ⟨holds.topic, holds.notifications, holds.counted⟩

theorem step_extends {Pc : Type} {flow : Flow (promises Op Op.Value Thrown) Unit Delivery Pc
      (Except Thrown Unit)} {before after : Pool World Delivery Pc (Except Thrown Unit)}
    {event : Happening} (taken : Pool.step site flow before event = some after) :
    Extends before.world after.world := by
  cases Pool.stepped taken with
  | call free started =>
      simp only [site, Option.ite_none_right_eq_some, Option.some.injEq] at started
      obtain ⟨_, rfl⟩ := started
      exact extends_land (.refl _) _ _ _
  | step running answered => exact extends_land (exec_extends answered) _ _ _
  | crashPending running => exact ⟨List.prefix_rfl, List.prefix_rfl, List.prefix_rfl⟩
  | crashPerformed running answered =>
      have holds := exec_extends answered
      exact ⟨holds.topic, holds.notifications, holds.counted⟩
  | @env event world moved =>
      cases event with
      | elapse milliseconds =>
          cases moved
          exact ⟨List.prefix_rfl, List.prefix_rfl, List.prefix_rfl⟩
      | publish data =>
          cases moved
          exact ⟨List.prefix_append _ _, List.prefix_rfl, List.prefix_rfl⟩

/-! ## Every notification is of a message -/

/-- Each notification has the task and the user of a message. -/
def Notified (world : World) : Prop :=
  ∀ notification ∈ world.notifications, ∃ data ∈ world.topic,
    some notification.taskId = data.taskId ∧ some notification.userId = data.userId

theorem Notified.congr {world world' : World} (notified : Notified world)
    (notifications : world'.notifications = world.notifications)
    (topic : world.topic ⊆ world'.topic) : Notified world' := by
  intro notification stored
  rw [notifications] at stored
  obtain ⟨data, message, same⟩ := notified notification stored
  exact ⟨data, topic message, same⟩

theorem exec_notified {world world' : World} {delivery : Delivery} {answer : Answer} {pc : Pc}
    {reply : Except Thrown pc.op.Value} (notified : Notified world)
    (planned : Planned world delivery pc.plan)
    (answered : exec world delivery pc.op answer = some (world', reply)) : Notified world' := by
  have topic : world.topic ⊆ world'.topic := (exec_extends answered).topic.subset
  cases pc with
  | acquiring chosen =>
      rcases respond_cases answered with ⟨rfl, _⟩ | ⟨_, rfl, _⟩
      · exact notified
      · exact notified.congr rfl topic
  | processing chosen =>
      obtain ⟨consumer, offset, data⟩ := delivery
      obtain ⟨does, message⟩ := planned
      cases consumer with
      | notification =>
          obtain rfl : _ = chosen := Option.some.inj does
          simp only [Pc.op, exec] at answered
          split at answered
          · rename_i made
            rcases respond_cases answered with ⟨rfl, _⟩ | ⟨_, rfl, _⟩
            · exact notified
            · intro notification stored
              rcases List.mem_append.mp stored with earlier | new
              · exact notified notification earlier
              · rw [List.mem_singleton.mp new]
                obtain ⟨task, user, _⟩ := Notification.of?_eq_some made
                exact ⟨data, List.mem_of_getElem? message, task, user⟩
          · rcases respond_cases answered with ⟨rfl, _⟩ | ⟨_, rfl, _⟩
            · exact notified
            · exact notified
      | analytics =>
          obtain ⟨userId, taskId, user, task, _, rfl⟩ := plan_analytics does
          rcases respond_cases answered with ⟨rfl, _⟩ | ⟨_, rfl, _⟩
          · exact notified
          · exact notified.congr rfl topic
  | clearing chosen error =>
      rcases respond_cases answered with ⟨rfl, _⟩ | ⟨_, rfl, _⟩
      · exact notified
      · exact notified.congr rfl topic

theorem notified_land {Pc : Type} {world : World} (notified : Notified world) (pid : ℕ)
    (delivery : Delivery) (led : Unit × Target Pc (Except Thrown Unit)) :
    Notified (Pool.land site world pid delivery led).1 := by
  obtain ⟨_, target⟩ := led
  cases target with
  | running pc => exact notified
  | finished out => exact notified.congr rfl (List.Subset.refl _)

theorem notified_of_run {C : View → Happening → Prop} {state : State}
    (ran : Runs C (.initial {}) state) : Notified state.world := by
  obtain ⟨machine, ran, same⟩ := implements.path ran
  have ran : FlowRuns C (.initial {}) machine := ran
  rw [← show machine.world = state.world from congrArg Pool.world same]
  refine (accounting_path ran).invariant (P := fun machine => Notified machine.world)
    (fun _ stored => absurd stored List.not_mem_nil) ?_
  intro before event after ⟨_, holds⟩ notified taken
  have topic := (step_extends taken).topic.subset
  cases Pool.stepped taken with
  | @call pid delivery world free started =>
      simp only [site, Option.ite_none_right_eq_some, Option.some.injEq] at started
      obtain ⟨_, rfl⟩ := started
      exact notified_land notified _ _ _
  | step running answered =>
      exact notified_land (exec_notified notified (planned_of_running holds running) answered) _ _ _
  | crashPending running => exact notified.congr rfl topic
  | crashPerformed running answered =>
      exact (exec_notified notified (planned_of_running holds running) answered).congr rfl
        (List.Subset.refl _)
  | @env event world moved =>
      cases event with
      | elapse milliseconds =>
          cases moved
          exact notified.congr rfl topic
      | publish data =>
          cases moved
          exact notified.congr rfl topic

end WorkflowHub.Consumers

namespace WorkflowHub.Pipeline

open Processes TaskService Consumers

/-! ## What is to be seen -/

/-- A task of a user. -/
structure Item where
  taskId : String
  userId : String
  deriving DecidableEq, Repr

def ofPayload (data : EventPayload) : Item := ⟨data.taskId.getD "", data.userId.getD ""⟩

/-- The pipeline as a feed. -/
def State.feed (state : State) : Feed Item Consumer where
  posted := state.taskService.world.commits.map fun commit =>
    ⟨commit.task.id.toString, commit.task.userId⟩
  published := state.consumers.world.topic.map ofPayload
  handled
    | .notification => state.consumers.world.notifications.map fun notification =>
        ⟨notification.taskId, notification.userId⟩
    | .analytics => state.consumers.world.counted.map fun entry =>
        ⟨interpolated entry.2, entry.1⟩

instance : Fintype Consumer where
  elems := {.notification, .analytics}
  complete consumer := by
    cases consumer with
    | notification => decide
    | analytics => decide

/-! ## It is orderly -/

section Orderly

variable {T : TaskService.View → TaskService.Happening → Prop}
  {C : Consumers.View → Consumers.Happening → Prop} {state : State}

theorem About.item {data : EventPayload} {task : Task} (about : About data task) :
    ofPayload data = ⟨task.id.toString, task.userId⟩ := by
  simp [ofPayload, about.taskId, about.userId]

/-- What is published was committed before. -/
theorem published_subset (ran : Runs T C .initial state) :
    state.feed.published ⊆ state.feed.posted := by
  intro item published
  obtain ⟨data, message, rfl⟩ := List.mem_map.mp published
  obtain ⟨commit, found, _, about⟩ := message_about ran message
  exact List.mem_map.mpr ⟨commit, found, about.item.symm⟩

theorem posted_nodup (ran : Runs T C .initial state) : state.feed.posted.Nodup := by
  have owned := (provenance_of_run (taskService_ran ran)).owned
  refine List.Nodup.map_on ?_ owned.callers.of_map
  intro first here second there same
  exact owned.eq_of_task here there (ObjectId.toString_injective (congrArg Item.taskId same))

/-- What a group has handled is of a message. -/
theorem handled_subset (ran : Runs T C .initial state)
    (consumers : Consumers.Runs C (.initial {}) state.consumers) (group : Consumer) :
    state.feed.handled group ⊆ state.feed.published := by
  intro item handled
  cases group with
  | notification =>
      obtain ⟨notification, stored, rfl⟩ := List.mem_map.mp handled
      obtain ⟨data, message, task, user⟩ := notified_of_run consumers notification stored
      refine List.mem_map.mpr ⟨data, message, ?_⟩
      rw [ofPayload, ← task, ← user]
      rfl
  | analytics =>
      obtain ⟨entry, counted, rfl⟩ := List.mem_map.mp handled
      obtain ⟨data, message, user, task⟩ := (accounted consumers).sourced entry counted
      obtain ⟨commit, _, _, about⟩ := message_about ran message
      refine List.mem_map.mpr ⟨data, message, ?_⟩
      rw [← task, about.id, ofPayload, about.taskId, user]
      rfl

theorem handled_nodup (fresh : Consumers.Runs FreshKeys (.initial {}) state.consumers)
    (group : Consumer) : (state.feed.handled group).Nodup := by
  have nodup := applied_nodup fresh
  cases group with
  | notification =>
      refine .of_map (fun item => "event:" ++ item.taskId) ?_
      rw [State.feed, List.map_map]
      exact nodup.sublist (List.sublist_append_left _ _)
  | analytics =>
      refine .of_map (fun item => AnalyticsService.lockKey item.taskId) ?_
      rw [State.feed, List.map_map]
      exact nodup.sublist (List.sublist_append_right _ _)

end Orderly

variable {state later : State}

theorem consumers_fresh (ran : Path step Assumed .initial state) :
    Consumers.Runs FreshKeys (.initial {}) state.consumers :=
  consumers_ran ran fun _ _ => ⟨trivial, trivial⟩

theorem orderly_feed (ran : Path step Assumed .initial state) : state.feed.Orderly where
  posted := posted_nodup ran
  published := published_subset ran
  once := handled_nodup (consumers_fresh ran)
  handled := handled_subset ran (consumers_fresh ran)

/-- A step takes nothing back. -/
theorem step_continues {event : Happening} (ran : Path step Assumed .initial state)
    (taken : step state event = some later) : state.feed.Continues later.feed := by
  rcases step_cases taken with ⟨event', rfl, stepped, consumers⟩ | ⟨event', rfl, _, stepped, same⟩
  · have topic : state.consumers.world.topic <+: later.consumers.world.topic := by
      rw [consumers, topic_eq ran]
      rcases step_topic stepped with same | ⟨payload, added⟩
      · exact same ▸ List.prefix_rfl
      · exact added ▸ List.prefix_append _ _
    refine ⟨(step_commits stepped).map _, topic.map _, fun group => ?_⟩
    rw [State.feed, State.feed, consumers]
    exact List.prefix_rfl
  · have extends_ := step_extends stepped
    refine ⟨?_, extends_.topic.map _, fun group => ?_⟩
    · rw [State.feed, State.feed, same]
    · cases group with
      | notification => exact extends_.notifications.map _
      | analytics => exact extends_.counted.map _

theorem continues_feed (ran : Path step Assumed .initial state)
    (ran' : Path step Assumed state later) : state.feed.Continues later.feed := by
  refine ran'.reached (P := fun later => state.feed.Continues later.feed) (.refl _) ?_
  intro before event after earlier _ continues taken
  exact continues.trans (step_continues (ran.trans earlier) taken)

/-! ## What a user reads -/

/-- The handler of `getUserCounter` replies this, between two steps of the pipeline. -/
def Replies (state : State) (userId : String) (reply : AnalyticsService.CounterReply) : Prop :=
  ∃ exchanges counters, Executes
    (fun counters op outcome answer counters' =>
      AnalyticsService.exec counters op outcome = some (counters', answer))
    AnalyticsService.programs userId state.consumers.world.counters
    (AnalyticsService.programs.enter userId ()) exchanges (.ok reply) counters

theorem taskCount_eq_find (counters : List UserCounter) (userId : String) :
    Consumers.taskCount counters userId =
      ((counters.find? (·.userId = userId)).map (·.taskCount)).getD 0 := by
  unfold Consumers.taskCount
  cases counters.find? (·.userId = userId) with
  | none => rfl
  | some counter => rfl

/-- It replies the counter of the user. -/
theorem replies_iff {userId : String} {reply : AnalyticsService.CounterReply} :
    Replies state userId reply ↔ reply = ⟨userId, state.taskCount userId⟩ := by
  have found := congrArg (AnalyticsService.CounterReply.mk userId)
    (taskCount_eq_find state.consumers.world.counters userId)
  constructor
  · rintro ⟨exchanges, counters, executes⟩
    obtain ⟨outcome, answer, counters', fields, rest, rfl, answered, executes⟩ :=
      executes.of_running
    rcases respond_cases answered with ⟨_, error, _, rfl⟩ | ⟨_, _, ⟨_, rfl⟩ | ⟨error, _, rfl⟩⟩
    · cases executes.of_finished.2.1
    · cases executes.of_finished.2.1
      exact found.symm
    · cases executes.of_finished.2.1
  · rintro rfl
    rw [State.taskCount, found]
    have answered : AnalyticsService.exec state.consumers.world.counters (.findOne userId)
        .resolved = some (state.consumers.world.counters,
          .ok (state.consumers.world.counters.find? (·.userId = userId))) := rfl
    exact ⟨_, _, .running () answered .finished⟩

/-- How many tasks of the user the analytics service has handled. -/
def State.handledFor (state : State) (userId : String) : ℕ :=
  ((state.feed.handled .analytics).filter (·.userId = userId)).length

theorem taskCount_eq (ran : Path step Assumed .initial state) (userId : String) :
    state.taskCount userId = state.handledFor userId := by
  rw [State.taskCount, (accounted (consumers_fresh ran)).tallied userId, State.handledFor,
    State.feed, List.filter_map, List.length_map]
  rfl

/-! ## The pipeline is a feed -/

/-- **The pipeline is a feed.** What the task service, the topic and the consumers do between two
states of a run, seen from outside, is a run of a feed: a task is posted once, published after
that, and handled at most once by each group, after it was published. What a user reads is how
many of their tasks the analytics service has handled. -/
theorem pipeline_is_feed (ran : Path step Assumed .initial state)
    (ran' : Path step Assumed state later) :
    Path Feed.step Always state.feed later.feed ∧
      ∀ userId reply, Replies later userId reply →
        reply = ⟨userId, later.handledFor userId⟩ := by
  refine ⟨Feed.path_of_continues (orderly_feed (ran.trans ran')) (continues_feed ran ran'), ?_⟩
  intro userId reply replies
  rw [replies_iff.mp replies, taskCount_eq (ran.trans ran')]

/-- **What a user reads only grows.** Between two reads the counter of a user grows by the tasks of
this user that were handled in between, each of them once; so it does not depend on what is done
for others, and it never shows more tasks than the user has created. -/
theorem counter_reads (ran : Path step Assumed .initial state)
    (ran' : Path step Assumed state later) {userId : String}
    {reply reply' : AnalyticsService.CounterReply} (before : Replies state userId reply)
    (after : Replies later userId reply') :
    ∃ newer : List Item, (later.feed.handled .analytics = state.feed.handled .analytics ++ newer ∧
        (later.feed.handled .analytics).Nodup) ∧
      reply'.taskCount = reply.taskCount + (newer.filter (·.userId = userId)).length ∧
      reply'.taskCount ≤ (later.committed userId).length := by
  have orderly := orderly_feed (ran.trans ran')
  obtain ⟨newer, whole⟩ := (continues_feed ran ran').handled .analytics
  rw [replies_iff.mp before, replies_iff.mp after, taskCount_eq ran, taskCount_eq (ran.trans ran')]
  refine ⟨newer, ⟨whole.symm, orderly.once _⟩, ?_, ?_⟩
  · simp only [State.handledFor, ← whole, List.filter_append, List.length_append]
  · have posted : (later.feed.posted.filter (·.userId = userId)).length =
        (later.committed userId).length := by
      rw [State.feed, State.committed, List.filter_map, List.filter_map, List.length_map,
        List.length_map]
      rfl
    exact posted ▸ orderly.count_le _ .analytics

/-- The theorem after one task was handled by both groups. -/
theorem pipeline_is_feed_counted :
    ∃ state ∈ run step .initial Sample.counted,
      state.handledFor TaskService.Sample.body.userId = 1 ∧
        Path Feed.step Always State.initial.feed state.feed := by
  obtain ⟨state, ran, handled, assumed⟩ :
      ∃ state ∈ run step .initial Sample.counted,
        state.handledFor TaskService.Sample.body.userId = 1 ∧
        Meets step Assumed .initial Sample.counted := by decide +kernel
  exact ⟨state, ran, handled, (pipeline_is_feed .refl (.of_run ran assumed)).1⟩

/-- The theorem at the first and the last state of that run. -/
theorem counter_reads_counted :
    ∃ state ∈ run step .initial Sample.counted, ∃ newer : List Item,
      state.feed.handled .analytics = newer ∧
        1 = 0 + (newer.filter (·.userId = TaskService.Sample.body.userId)).length := by
  obtain ⟨state, ran, counted, assumed⟩ :
      ∃ state ∈ run step .initial Sample.counted,
        state.taskCount TaskService.Sample.body.userId = 1 ∧
        Meets step Assumed .initial Sample.counted := by decide +kernel
  obtain ⟨newer, ⟨whole, _⟩, grown, _⟩ :=
    counter_reads .refl (.of_run ran assumed) (replies_iff.mpr rfl) (replies_iff.mpr rfl)
  exact ⟨state, ran, newer, whole, counted.symm.trans grown⟩

end WorkflowHub.Pipeline
