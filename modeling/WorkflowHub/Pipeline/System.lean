import WorkflowHub.Consumers.Redelivery
import WorkflowHub.TaskService.Publication

/-!
# From the task service to the consumers

The task service and the two consumers side by side, with the topic between them: what a
poller has published can be delivered. A run of the whole is a run of the task service and
a run of the consumers (`taskService_ran`, `consumers_ran`), and the topic is the same for
both (`topic_eq`).
-/

set_option autoImplicit false

namespace WorkflowHub.Pipeline

open Processes

structure State where
  taskService : TaskService.State
  consumers : Consumers.State

/-- Nothing has happened yet. -/
def State.initial : State := ⟨.initial {}, .initial {}⟩

inductive Happening where
  | taskService (event : TaskService.Happening)
  | consumers (event : Consumers.Happening)
  deriving DecidableEq

/-- The delivery an event is about. -/
def Happening.pid? : Happening → Option ℕ
  | .taskService _ => none
  | .consumers event => event.pid?

/-- The consumers with this topic. -/
def withTopic (consumers : Consumers.State) (topic : List EventPayload) : Consumers.State :=
  { consumers with world := { consumers.world with topic } }

/-- Nobody but the pollers publishes to the topic. -/
def step (state : State) : Happening → Option State
  | .taskService event =>
      (TaskService.step state.taskService event).map fun taskService =>
        ⟨taskService, withTopic state.consumers taskService.world.topic⟩
  | .consumers (.env (.publish _)) => none
  | .consumers event =>
      (Consumers.step state.consumers event).map fun consumers => { state with consumers }

/-- What the consumers show. -/
def State.view (state : State) : Consumers.View := state.consumers.observe Consumers.programs

/-- A condition on the steps of the task service and one on those of the consumers. -/
def Both (T : TaskService.View → TaskService.Happening → Prop)
    (C : Consumers.View → Consumers.Happening → Prop) (state : State) : Happening → Prop
  | .taskService event => T (state.taskService.observe TaskService.programs) event
  | .consumers event => C state.view event

instance (T : TaskService.View → TaskService.Happening → Prop)
    (C : Consumers.View → Consumers.Happening → Prop) [∀ view event, Decidable (T view event)]
    [∀ view event, Decidable (C view event)] (state : State) (event : Happening) :
    Decidable (Both T C state event) := by
  unfold Both
  split <;> infer_instance

/-- The runs of the whole under two such conditions. -/
abbrev Runs (T : TaskService.View → TaskService.Happening → Prop)
    (C : Consumers.View → Consumers.Happening → Prop) : State → State → Prop :=
  Path step (Both T C)

/-- A step of the whole is one of the task service or one of the consumers. -/
theorem step_cases {before after : State} {event : Happening}
    (taken : step before event = some after) :
    (∃ event', event = .taskService event' ∧
        TaskService.step before.taskService event' = some after.taskService ∧
        after.consumers = withTopic before.consumers after.taskService.world.topic) ∨
      ∃ event', event = .consumers event' ∧ (∀ data, event' ≠ .env (.publish data)) ∧
        Consumers.step before.consumers event' = some after.consumers ∧
        after.taskService = before.taskService := by
  cases event with
  | taskService event =>
      obtain ⟨taskService, stepped, rfl⟩ := Option.map_eq_some_iff.mp taken
      exact .inl ⟨event, rfl, stepped, rfl⟩
  | consumers event =>
      obtain ⟨silent, stepped⟩ : (∀ data, event ≠ .env (.publish data)) ∧
          (Consumers.step before.consumers event).map
            (fun consumers => { before with consumers }) = some after := by
        match event, taken with
        | .env (.elapse milliseconds), taken => exact ⟨nofun, taken⟩
        | .call pid delivery, taken => exact ⟨nofun, taken⟩
        | .step pid answer, taken => exact ⟨nofun, taken⟩
        | .crash pid performed, taken => exact ⟨nofun, taken⟩
      obtain ⟨consumers, stepped', rfl⟩ := Option.map_eq_some_iff.mp stepped
      exact .inr ⟨event, rfl, silent, stepped', rfl⟩

/-- No delivery is running after a run over a list of events, if none of those is that the
events are about. -/
theorem idle_of_run {events : List Happening} {state : State}
    (ran : run step .initial events = some state)
    (idle : ∀ event ∈ events, ∀ pid ∈ event.pid?, (state.consumers.slots pid).isRunning = false)
    (pid : ℕ) : (state.consumers.slots pid).isRunning = false := by
  by_cases about : ∃ event ∈ events, pid ∈ event.pid?
  · obtain ⟨event, happened, mine⟩ := about
    exact idle event happened pid mine
  · have keeps : ∀ before event after, pid ∉ Happening.pid? event → step before event = some after →
        after.consumers.slots pid = before.consumers.slots pid := by
      intro before event after other taken
      rcases step_cases taken with ⟨event', rfl, _, consumers⟩ | ⟨event', rfl, _, stepped, _⟩
      · rw [consumers]
        rfl
      · exact Pool.step_other stepped other
    rw [run_unchanged (fun state : State => state.consumers.slots pid) keeps ran
      fun event happened mine => about ⟨event, happened, mine⟩]
    rfl

section Projections

variable {T : TaskService.View → TaskService.Happening → Prop}
  {C : Consumers.View → Consumers.Happening → Prop} {state : State}

/-- What the task service does in a run. -/
theorem taskService_ran (ran : Runs T C .initial state) :
    TaskService.Runs T (.initial {}) state.taskService := by
  refine ran.simulated State.taskService fun before event after _ allowed taken => ?_
  rcases step_cases taken with ⟨event', rfl, stepped, _⟩ | ⟨event', rfl, _, _, same⟩
  · exact .single allowed stepped
  · rw [same]

/-- The consumers do not change the topic by themselves. -/
theorem consumers_topic {before after : Consumers.State} {event : Consumers.Happening}
    (silent : ∀ data, event ≠ .env (.publish data))
    (taken : Consumers.step before event = some after) :
    after.world.topic = before.world.topic := by
  cases Pool.stepped taken with
  | call free started =>
      simp only [Consumers.site, Option.ite_none_right_eq_some, Option.some.injEq] at started
      obtain ⟨_, rfl⟩ := started
      exact Consumers.land_topic _ _ _ _
  | step running answered =>
      exact (Consumers.land_topic _ _ _ _).trans (Consumers.exec_topic answered)
  | crashPending running => rfl
  | @crashPerformed pid answer delivery pc world reply running answered =>
      have same : world.topic = before.world.topic := Consumers.exec_topic answered
      exact same
  | @env event world moved =>
      cases event with
      | elapse milliseconds => cases moved; rfl
      | publish data => exact absurd rfl (silent data)

/-- The consumers read what the task service has published. -/
theorem topic_eq (ran : Runs T C .initial state) :
    state.consumers.world.topic = state.taskService.world.topic := by
  refine ran.invariant (P := fun state =>
    state.consumers.world.topic = state.taskService.world.topic) rfl ?_
  intro before event after _ same taken
  rcases step_cases taken with ⟨event', rfl, _, consumers⟩ | ⟨event', rfl, silent, stepped, stays⟩
  · rw [consumers]
    rfl
  · rw [stays, consumers_topic silent stepped, same]

/-- What the consumers do in a run: a message of the task service is published to them. -/
theorem consumers_ran (ran : Runs T C .initial state)
    (publishes : ∀ view data, C view (.env (.publish data))) :
    Consumers.Runs C (.initial {}) state.consumers := by
  refine ran.simulated State.consumers fun before event after earlier allowed taken => ?_
  rcases step_cases taken with ⟨event', rfl, stepped, consumers⟩ | ⟨event', rfl, _, stepped, _⟩
  · rw [consumers]
    rcases TaskService.step_topic stepped with same | ⟨payload, added⟩
    · rw [same, ← topic_eq earlier]
      exact .refl
    · rw [added, ← topic_eq earlier]
      exact .single (publishes _ payload) rfl
  · exact .single allowed stepped

end Projections

end WorkflowHub.Pipeline
