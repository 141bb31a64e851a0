import WorkflowHub.Consumers.ControlFlow
import WorkflowHub.Processes.Assertions

/-!
# What the operations of the consumers do

One lemma for each operation, and the assertions that hold in every run, whatever fails,
crashes or expires: a running delivery follows the plan of a message of the topic, a counter
shows how often it was incremented, and every increment was for a message of the topic
(`accounting_holds`).
-/

set_option autoImplicit false

namespace WorkflowHub.Consumers

open Processes

/-- What a step may do to the world without touching the key it is about: the topic is the
same, and effects are not undone. -/
structure Retains (world world' : World) : Prop where
  topic : world'.topic = world.topic
  effect : ∀ {consumer data}, Effect world consumer data → Effect world' consumer data

theorem Retains.refl (world : World) : Retains world world := ⟨rfl, id⟩

theorem Retains.ended (world : World) (ended : List Ended) : Retains world { world with ended } :=
  ⟨rfl, id⟩

/-! ## The operations -/

section Exec

variable {world world' : World} (delivery : Delivery) {answer : Answer}

theorem exec_set {key value : String} {seconds : ℕ} {reply : Except Thrown Bool}
    (answered : exec world delivery (.set key value seconds) answer = some (world', reply)) :
    (world' = world ∧ ¬ answer.outcome.Applied ∧ ∃ error, reply = .error error) ∨
      (answer.outcome.Applied ∧
        ((∃ item, world.keys.find world.now key = some item) ∧ world' = world ∧
          (reply = .ok false ∨ (∃ error, reply = .error error) ∧ ¬ answer.outcome.Clean) ∨
        world.keys.find world.now key = none ∧
          world' = { world with
            keys := world.keys.put key ⟨value, some (world.now + seconds * 1000)⟩ } ∧
          (reply = .ok true ∨ (∃ error, reply = .error error) ∧ ¬ answer.outcome.Clean))) := by
  rcases respond_cases answered with ⟨rfl, error, rejected, rfl⟩ | ⟨_, rfl, applied⟩
  · exact .inl ⟨rfl, by simp [rejected, Outcome.Applied], error, rfl⟩
  · right
    have resolved : answer.outcome.Applied ∧
        (reply = .ok (world.keys.find world.now key).isNone ∨
          (∃ error, reply = .error error) ∧ ¬ answer.outcome.Clean) := by
      rcases applied with ⟨resolved, ok⟩ | ⟨error, lost, failed⟩
      · exact ⟨by simp [resolved, Outcome.Applied], .inl ok⟩
      · exact ⟨by simp [lost, Outcome.Applied],
          .inr ⟨⟨error, failed⟩, by simp [lost, Outcome.Clean]⟩⟩
    refine ⟨resolved.1, ?_⟩
    cases found : world.keys.find world.now key with
    | none => right; simpa [found] using resolved.2
    | some item => left; simpa [found] using resolved.2

theorem exec_del {key : String} {reply : Except Thrown Unit}
    (answered : exec world delivery (.del key) answer = some (world', reply)) :
    (world' = world ∧ ¬ answer.outcome.Applied) ∨
      world' = { world with keys := world.keys.remove key } := by
  rcases respond_cases answered with ⟨rfl, error, rejected, _⟩ | ⟨_, rfl, _⟩
  · exact .inl ⟨rfl, by simp [rejected, Outcome.Applied]⟩
  · exact .inr rfl

theorem increment_retains {userId : String} {task : Option String} :
    Retains world { world with
      counters := increment userId world.counters
      counted := world.counted ++ [(userId, task)] } := by
  refine ⟨rfl, fun {consumer data} effect => ?_⟩
  cases consumer with
  | notification => exact effect
  | analytics =>
      obtain ⟨user, named, counted⟩ := effect
      exact ⟨user, named, List.mem_append_left _ counted⟩

theorem insert_retains {notification : Notification} :
    Retains world { world with notifications := world.notifications ++ [notification] } := by
  refine ⟨rfl, fun {consumer data} effect => ?_⟩
  cases consumer with
  | notification =>
      obtain ⟨stored, found, same⟩ := effect
      exact ⟨stored, List.mem_append_left _ found, same⟩
  | analytics => exact effect

/-- The effect of a message: it is applied and the keys stay as they are, or nothing happens
and the operation was rejected. -/
theorem exec_effect {chosen : Plan} {reply : Except Thrown chosen.effect.Value}
    (planned : plan delivery.consumer delivery.data = some chosen)
    (answered : exec world delivery chosen.effect answer = some (world', reply)) :
    (world' = world ∧ ¬ answer.outcome.Applied ∧ ∃ error, reply = .error error) ∨
      (Retains world world' ∧ Effect world' delivery.consumer delivery.data ∧
        world'.keys = world.keys ∧ world'.now = world.now ∧ world'.ended = world.ended) := by
  obtain ⟨consumer, offset, data⟩ := delivery
  cases consumer with
  | notification =>
      obtain rfl := Option.some.inj planned
      simp only [exec] at answered
      split at answered
      · rename_i notification made
        obtain ⟨task, user, _⟩ := Notification.of?_eq_some made
        rcases respond_cases answered with ⟨rfl, error, rejected, rfl⟩ | ⟨_, rfl, _⟩
        · exact .inl ⟨rfl, by simp [rejected, Outcome.Applied], error, rfl⟩
        · refine .inr ⟨insert_retains, ⟨notification, ?_, task, user⟩, rfl, rfl, rfl⟩
          exact List.mem_append_right _ (List.mem_singleton_self _)
      · rcases respond_cases answered with ⟨rfl, error, rejected, rfl⟩ | ⟨impossible, _⟩
        · exact .inl ⟨rfl, by simp [rejected, Outcome.Applied], error, rfl⟩
        · exact impossible.elim
  | analytics =>
      obtain ⟨userId, taskId, user, task, _, rfl⟩ := plan_analytics planned
      rcases respond_cases answered with ⟨rfl, error, rejected, rfl⟩ | ⟨_, rfl, _⟩
      · exact .inl ⟨rfl, by simp [rejected, Outcome.Applied], error, rfl⟩
      · refine .inr ⟨increment_retains, ⟨userId, user, ?_⟩, rfl, rfl, rfl⟩
        exact List.mem_append_right _ (List.mem_singleton_self _)

end Exec

/-- The effect of a message is on a database. -/
theorem effect_cases {consumer : Consumer} {data : EventPayload} {chosen : Plan}
    (planned : plan consumer data = some chosen) :
    (∃ data, chosen.effect = .createNotification data) ∨
      ∃ userId, chosen.effect = .updateOne userId := by
  cases consumer with
  | notification =>
      obtain rfl := Option.some.inj planned
      exact .inl ⟨data, rfl⟩
  | analytics =>
      obtain ⟨userId, _, _, _, _, rfl⟩ := plan_analytics planned
      exact .inr ⟨userId, rfl⟩

/-- No operation publishes. -/
theorem exec_topic {world world' : World} {delivery : Delivery} {op : Op} {answer : Answer}
    {reply : Except Thrown op.Value}
    (answered : exec world delivery op answer = some (world', reply)) :
    world'.topic = world.topic := by
  cases op with
  | createNotification data =>
      simp only [exec] at answered
      split at answered
      · rcases respond_cases answered with ⟨rfl, _⟩ | ⟨_, rfl, _⟩
        · rfl
        · rfl
      · rcases respond_cases answered with ⟨rfl, _⟩ | ⟨_, rfl, _⟩
        · rfl
        · rfl
  | _ =>
      rcases respond_cases answered with ⟨rfl, _⟩ | ⟨_, rfl, _⟩
      · rfl
      · rfl

theorem land_topic {Pc : Type} (world : World) (pid : ℕ) (delivery : Delivery)
    (led : Unit × Target Pc (Except Thrown Unit)) :
    (Pool.land site world pid delivery led).1.topic = world.topic := by
  obtain ⟨_, target⟩ := led
  cases target with
  | running pc => rfl
  | finished out => rfl

/-! ## Counters and messages -/

theorem taskCount_increment (counters : List UserCounter) (userId other : String) :
    taskCount (increment userId counters) other =
      taskCount counters other + if other = userId then 1 else 0 := by
  induction counters with
  | nil =>
      by_cases same : other = userId
      · simp [increment, taskCount, same]
      · simp [increment, taskCount, same, Ne.symm same]
  | cons counter counters ih =>
      simp only [taskCount] at ih ⊢
      by_cases mine : counter.userId = userId
      · by_cases same : other = userId
        · simp [increment, mine, same]
        · simp [increment, mine, same, Ne.symm same]
      · by_cases same : counter.userId = other
        · have different : other ≠ userId := same ▸ mine
          simp [increment, same, different]
        · simpa [increment, mine, same] using ih

structure Accounted (world : World) : Prop where
  tallied : ∀ userId, taskCount world.counters userId =
    (world.counted.filter (·.1 = userId)).length
  sourced : ∀ entry ∈ world.counted, ∃ data ∈ world.topic, data.userId = some entry.1 ∧
    jsOr data.taskId data.eventId = entry.2

/-- The delivery is of a message of the topic, and does what its group does with it. -/
def Planned (world : World) (delivery : Delivery) (chosen : Plan) : Prop :=
  plan delivery.consumer delivery.data = some chosen ∧
    world.topic[delivery.offset]? = some delivery.data

theorem Accounted.congr {world world' : World} (accounted : Accounted world)
    (counters : world'.counters = world.counters) (counted : world'.counted = world.counted)
    (topic : world'.topic = world.topic) : Accounted world' := by
  refine ⟨fun userId => ?_, fun entry found => ?_⟩
  · rw [counters, counted]
    exact accounted.tallied userId
  · rw [topic]
    exact accounted.sourced entry (counted ▸ found)

/-- A counter is incremented for the task of a message of the topic. -/
theorem Accounted.increment {world : World} (accounted : Accounted world) {data : EventPayload}
    {userId : String} (message : data ∈ world.topic) (user : data.userId = some userId) :
    Accounted { world with
      counters := Consumers.increment userId world.counters
      counted := world.counted ++ [(userId, jsOr data.taskId data.eventId)] } := by
  refine ⟨fun other => ?_, fun entry found => ?_⟩
  · rw [taskCount_increment, accounted.tallied other, List.filter_append, List.length_append]
    by_cases same : other = userId
    · simp [same]
    · simp [same, Ne.symm same]
  · rcases List.mem_append.mp found with found | found
    · exact accounted.sourced entry found
    · rw [List.mem_singleton.mp found]
      exact ⟨data, message, user, rfl⟩

section Exec

variable {world world' : World} {delivery : Delivery} {answer : Answer}

/-- The effect of a message that is planned keeps the accounts. -/
theorem exec_effect_accounted {chosen : Plan} {reply : Except Thrown chosen.effect.Value}
    (accounted : Accounted world) (planned : Planned world delivery chosen)
    (answered : exec world delivery chosen.effect answer = some (world', reply)) :
    Accounted world' ∧ world'.topic = world.topic := by
  obtain ⟨consumer, offset, data⟩ := delivery
  obtain ⟨does, message⟩ := planned
  cases consumer with
  | notification =>
      obtain rfl := Option.some.inj does
      simp only [exec] at answered
      split at answered
      · rcases respond_cases answered with ⟨rfl, _⟩ | ⟨_, rfl, _⟩
        · exact ⟨accounted, rfl⟩
        · exact ⟨accounted.congr rfl rfl rfl, rfl⟩
      · rcases respond_cases answered with ⟨rfl, _⟩ | ⟨impossible, _⟩
        · exact ⟨accounted, rfl⟩
        · exact impossible.elim
  | analytics =>
      obtain ⟨userId, taskId, user, task, _, rfl⟩ := plan_analytics does
      rcases respond_cases answered with ⟨rfl, _⟩ | ⟨_, rfl, _⟩
      · exact ⟨accounted, rfl⟩
      · exact ⟨accounted.increment (List.mem_of_getElem? message) user, rfl⟩

theorem exec_accounted {pc : Pc} {reply : Except Thrown pc.op.Value} (accounted : Accounted world)
    (planned : Planned world delivery pc.plan)
    (answered : exec world delivery pc.op answer = some (world', reply)) :
    Accounted world' ∧ world'.topic = world.topic := by
  cases pc with
  | acquiring chosen =>
      rcases exec_set delivery answered with ⟨rfl, _⟩ | ⟨_, ⟨_, rfl, _⟩ | ⟨_, rfl, _⟩⟩
      · exact ⟨accounted, rfl⟩
      · exact ⟨accounted, rfl⟩
      · exact ⟨accounted.congr rfl rfl rfl, rfl⟩
  | processing chosen => exact exec_effect_accounted accounted planned answered
  | clearing chosen error =>
      rcases exec_del delivery answered with ⟨rfl, _⟩ | rfl
      · exact ⟨accounted, rfl⟩
      · exact ⟨accounted.congr rfl rfl rfl, rfl⟩

end Exec

/-- A handler stays with the plan of its message. -/
theorem Led.next_running {pc pc' : Pc} {reply : Except Thrown pc.op.Value}
    (goes : (Led.next pc reply).2 = .running pc') : pc'.plan = pc.plan := by
  cases pc with
  | acquiring chosen =>
      match reply, goes with
      | .ok true, goes => cases goes; rfl
  | processing chosen =>
      match reply, goes with
      | .error error, goes => cases goes; rfl
  | clearing chosen error =>
      match reply, goes with
      | .ok value, goes => cases goes
      | .error error, goes => cases goes

theorem Led.enter_running {delivery : Delivery} {pc : Pc}
    (goes : (Led.enter delivery).2 = .running pc) :
    pc = .acquiring pc.plan ∧ plan delivery.consumer delivery.data = some pc.plan := by
  simp only [Led.enter] at goes
  split at goes
  · rename_i chosen does
    cases goes
    exact ⟨rfl, does⟩
  · cases goes

/-! ## The assertions -/

/-- The accounts are right, and running deliveries are planned. -/
def accounting : Assertions World Delivery Pc (Except Thrown Unit) where
  Global := Accounted
  Local world _ slot :=
    match slot with
    | .running delivery pc => Planned world delivery pc.plan
    | _ => True

theorem planned_of_running {pool : Pool World Delivery Pc (Except Thrown Unit)} {pid : ℕ}
    {delivery : Delivery} {pc : Pc} (holds : accounting.Holds pool)
    (running : pool.slots pid = .running delivery pc) : Planned pool.world delivery pc.plan := by
  simpa only [accounting, running] using holds.locally pid

theorem accounting_local {world : World} {pid : ℕ} {delivery : Delivery} {led : Led}
    (planned : ∀ {pc}, led.2 = .running pc → Planned world delivery pc.plan) :
    accounting.Local (Pool.land site world pid delivery led).1 pid
      (Pool.land site world pid delivery led).2 := by
  obtain ⟨_, target⟩ := led
  cases target with
  | running pc => exact planned rfl
  | finished out => trivial

theorem accounting_global {world : World} (accounted : Accounted world) (pid : ℕ)
    (delivery : Delivery) (led : Led) :
    Accounted (Pool.land site world pid delivery led).1 ∧
      (Pool.land site world pid delivery led).1.topic = world.topic := by
  obtain ⟨_, target⟩ := led
  cases target with
  | running pc => exact ⟨accounted, rfl⟩
  | finished out => exact ⟨accounted.congr rfl rfl rfl, rfl⟩

/-- Running deliveries stay planned while messages are only added. -/
theorem accounting_others {world world' : World} {pid : ℕ}
    {slot : Slot Delivery Pc (Except Thrown Unit)}
    (grown : ∃ added, world'.topic = world.topic ++ added)
    (holds : accounting.Local world pid slot) : accounting.Local world' pid slot := by
  cases slot with
  | running delivery pc =>
      obtain ⟨does, message⟩ := holds
      obtain ⟨added, grown⟩ := grown
      refine ⟨does, ?_⟩
      rw [grown, List.getElem?_append_left (List.getElem?_eq_some_iff.mp message).1]
      exact message
  | _ => trivial

theorem accounting_valid : accounting.Valid site flow fun _ _ => True where
  call := by
    intro pool pid delivery world holds _ free started
    simp only [site, Option.ite_none_right_eq_some, Option.some.injEq] at started
    obtain ⟨message, rfl⟩ := started
    obtain ⟨accounted, topic⟩ := accounting_global holds.globally pid delivery
      (Led.enter delivery)
    refine ⟨accounted, accounting_local fun goes => ⟨(Led.enter_running goes).2, message⟩, ?_⟩
    exact fun other _ before => accounting_others ⟨[], by rw [List.append_nil]; exact topic⟩ before
  step := by
    intro pool pid choice delivery pc world reply holds _ running answered
    have planned := planned_of_running holds running
    obtain ⟨accounted, same⟩ := exec_accounted holds.globally planned answered
    obtain ⟨accounted', topic⟩ := accounting_global accounted pid delivery
      (Led.next pc reply)
    refine ⟨accounted', accounting_local fun goes => ?_, fun other _ before => ?_⟩
    · rw [Led.next_running goes, Planned, same]
      exact planned
    · exact accounting_others ⟨[], by rw [List.append_nil]; exact topic.trans same⟩ before
  crashPending := by
    intro pool pid delivery pc holds _ running
    exact ⟨holds.globally.congr rfl rfl rfl, trivial, fun other _ before =>
      accounting_others ⟨[], (List.append_nil _).symm⟩ before⟩
  crashPerformed := by
    intro pool pid choice delivery pc world reply holds _ running answered
    obtain ⟨accounted, same⟩ :=
      exec_accounted holds.globally (planned_of_running holds running) answered
    refine ⟨accounted.congr rfl rfl rfl, trivial, fun other _ before => ?_⟩
    exact accounting_others ⟨[], by rw [List.append_nil]; exact same⟩ before
  env := by
    intro pool event world holds _ moved
    cases event with
    | elapse milliseconds =>
        cases moved
        exact ⟨holds.globally.congr rfl rfl rfl, fun pid before => before⟩
    | publish data =>
        cases moved
        refine ⟨⟨holds.globally.tallied, fun entry found => ?_⟩, fun pid before => ?_⟩
        · obtain ⟨message, there, same⟩ := holds.globally.sourced entry found
          exact ⟨message, List.mem_append_left _ there, same⟩
        · exact accounting_others ⟨[data], rfl⟩ before

/-- The runs of the table of program points, under a condition on what the states show. -/
abbrev FlowRuns (C : View → Happening → Prop) :
    Pool World Delivery Pc (Except Thrown Unit) → Pool World Delivery Pc (Except Thrown Unit) →
      Prop :=
  Path (Pool.step site flow) fun pool event => C (pool.observe flow) event

theorem accounting_initial : accounting.Holds (.initial {}) := by
  refine ⟨⟨fun userId => rfl, fun entry found => ?_⟩, fun pid => trivial⟩
  cases found

/-- The assertions hold in every state of the table of program points. -/
theorem accounting_holds {C : View → Happening → Prop}
    {machine : Pool World Delivery Pc (Except Thrown Unit)} (ran : FlowRuns C (.initial {}) machine) :
    accounting.Holds machine :=
  accounting_valid.path (ran.mono fun _ _ _ => trivial) accounting_initial

/-- They may be assumed at every step of a run. -/
theorem accounting_path {C : View → Happening → Prop}
    {machine : Pool World Delivery Pc (Except Thrown Unit)} (ran : FlowRuns C (.initial {}) machine) :
    Path (Pool.step site flow) (fun pool event => C (pool.observe flow) event ∧
      accounting.Holds pool) (.initial {}) machine :=
  ran.strengthen accounting_initial fun before event after _ =>
    accounting_valid.preserved before event after trivial

end WorkflowHub.Consumers
