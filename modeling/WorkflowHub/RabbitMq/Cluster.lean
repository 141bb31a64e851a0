import WorkflowHub.RabbitMq.Messages
import WorkflowHub.RabbitMq.Topology

/-!
# Services around one broker

Runs of the setup, the clients and servers of Nest, and the messages between them. A client or a
server asserts the queue it is for with `queueOptions` of its own, which the modules repeat from
the setup. So nobody is ever turned down by the broker, in whatever order they come
(`declarations_agree`).
-/

set_option autoImplicit false

namespace WorkflowHub.RabbitMq

open Processes Amqp

/-! ## The system -/

/-- The `queueOptions` of the clients and of the server of a queue. -/
def queueOptions (service : Triplet) : QueueOptions where
  durable := true
  deadLetterExchange := some "retry.exchange"
  deadLetterRoutingKey := some service.RETRY

variable {α : Type}

/-- The runs of the setup, with the broker, and its messages. -/
structure Cluster (α : Type) where
  setups : State
  server : Server α := {}

namespace Cluster

def broker (cluster : Cluster α) : Broker := cluster.setups.world

/-- Nothing has happened yet. -/
def initial : Cluster α := { setups := .initial {} }

/-- The broker has taken a declaration. -/
def declared (cluster : Cluster α) (broker : Broker) : Cluster α :=
  { cluster with setups := { cluster.setups with world := broker } }

end Cluster

/-- What can happen: a run of the setup goes on, a client or a server connects, or something
happens to a message. -/
inductive Occurrence (α : Type) where
  | setup (event : Happening)
  | connect (service : Triplet)
  | message (event : Handling α)
  deriving DecidableEq

/-- What a client or a server asserts when it connects. -/
def Triplet.assertQueue (service : Triplet) : Declaration :=
  .queue service.MAIN (queueOptions service)

namespace Cluster

variable [DecidableEq α] (table : List Triplet)

def step (cluster : Cluster α) : Occurrence α → Option (Cluster α)
  | .setup event =>
      (RabbitMq.step table cluster.setups event).map fun setups => { cluster with setups }
  | .connect service =>
      (cluster.broker.declare service.assertQueue).map cluster.declared
  | .message event =>
      (cluster.server.step cluster.broker event).map fun server => { cluster with server }

end Cluster

/-- The broker has all that the table of queues stands for. -/
def SetUp (table : List Triplet) (broker : Broker) : Prop :=
  ∀ declaration ∈ declarations table, broker.Holds declaration

instance decidableHolds (broker : Broker) : DecidablePred broker.Holds
  | .exchange name exchange => inferInstanceAs (Decidable (broker.exchanges name = some exchange))
  | .queue name options => inferInstanceAs (Decidable (broker.queues name = some options))
  | .binding binding => inferInstanceAs (Decidable (binding ∈ broker.bindings))

instance (table : List Triplet) (broker : Broker) : Decidable (SetUp table broker) := by
  unfold SetUp
  infer_instance

/-- Clients and servers are for queues of the table. -/
def Connects (table : List Triplet) (_ : Cluster α) : Occurrence α → Prop
  | .connect service => service ∈ table
  | _ => True

instance (table : List Triplet) (cluster : Cluster α) (event : Occurrence α) :
    Decidable (Connects table cluster event) := by
  unfold Connects
  split <;> infer_instance

/-! ## How far a run of the setup has come -/

/-- A run of the setup has declared what it has behind it, in the order of the table. -/
def progress (table : List Triplet) : Assertions Broker Unit Pc (Except Thrown Logged) where
  Global _ := True
  Local broker _ slot := ∀ call pc, slot = .running call pc →
    ∃ seen, declarations table = seen ++ pc.left table ∧
      ∀ declaration ∈ seen, broker.Holds declaration

section Progress

variable {table : List Triplet} {broker broker' : Broker} {pid : ℕ} {call : Unit} {pc : Pc}
  {slot : Slot Unit Pc (Except Thrown Logged)}

theorem progress_mono (keeps : ∀ declaration, broker.Holds declaration → broker'.Holds declaration)
    (holds : (progress table).Local broker pid slot) :
    (progress table).Local broker' pid slot := by
  intro call pc running
  obtain ⟨seen, split, held⟩ := holds call pc running
  exact ⟨seen, split, fun declaration before => keeps _ (held declaration before)⟩

theorem progress_ended (ended : slot.isRunning = false) :
    (progress table).Local broker pid slot :=
  fun _ _ running => absurd running (Slot.ne_running ended)

/-- A run that has nothing behind it. -/
theorem progress_start (fresh : ∀ call pc, slot = .running call pc →
    pc.left table = declarations table) : (progress table).Local broker pid slot := by
  intro call pc running
  refine ⟨[], ?_, fun _ before => absurd before List.not_mem_nil⟩
  rw [fresh call pc running, List.nil_append]

/-- A run that goes on with `rest`. -/
theorem progress_declare {seen rest : List Declaration}
    (split : declarations table = seen ++ rest)
    (held : ∀ declaration ∈ seen, broker.Holds declaration) :
    (progress table).Local broker pid (Pool.land site broker pid call (Led.declare rest)).2 := by
  intro call' pc running
  cases rest with
  | nil =>
      cases running
      exact ⟨seen, split, held⟩
  | cons declaration rest =>
      cases running
      exact ⟨seen, split, held⟩

theorem progress_next {outcome : Outcome} {reply : Except Thrown pc.op.Value}
    (holds : (progress table).Local broker pid (.running call pc))
    (answered : exec broker pc.op outcome = some (broker', reply)) :
    (progress table).Local broker' pid
      (Pool.land site broker' pid call (Led.next table pc reply)).2 := by
  obtain ⟨seen, split, held⟩ := holds call pc rfl
  have kept : ∀ declaration ∈ seen, broker'.Holds declaration :=
    fun declaration before => (holds_exec answered declaration).1 (held declaration before)
  cases pc with
  | connecting retries =>
      refine progress_start fun call pc running => ?_
      cases reply with
      | ok _ =>
          cases running
          rfl
      | error error =>
          rcases retries with _ | _ | retries
          · cases running
            rfl
          · cases running
          · cases running
            rfl
  | waiting retries =>
      refine progress_start fun call pc running => ?_
      cases reply with
      | ok _ =>
          cases running
          rfl
      | error error => cases running
  | creatingChannel =>
      cases reply with
      | ok _ => exact progress_declare (List.nil_append _).symm fun _ before => by cases before
      | error error => exact progress_ended rfl
  | declaring declaration rest =>
      cases reply with
      | error error => exact progress_ended rfl
      | ok value =>
          rcases exec_cases answered with ⟨_, unresolved⟩ | ⟨own, same, succeeds⟩
          · exact absurd rfl (unresolved declaration value rfl)
          · cases same
            have split' : declarations table = (seen ++ [declaration]) ++ rest := by
              rw [split, List.append_assoc]
              rfl
            refine progress_declare split' fun other before => ?_
            rcases List.mem_append.mp before with before | last
            · exact kept other before
            · rw [List.mem_singleton.mp last]
              exact (Broker.holds_declare succeeds _).mpr (.inr rfl)
  | closingChannel =>
      cases reply with
      | ok _ =>
          intro call pc running
          cases running
          exact ⟨seen, split, kept⟩
      | error error => exact progress_ended rfl
  | closingConnection =>
      cases reply with
      | ok _ => exact progress_ended rfl
      | error error => exact progress_ended rfl

end Progress

theorem progress_valid (table : List Triplet) :
    (progress table).Valid site (flow table) Always where
  call := by
    intro machine pid call broker holds _ _ started
    cases started
    refine ⟨trivial, progress_start fun _ _ running => ?_, fun _ _ before => before⟩
    cases running
    rfl
  step := by
    intro machine pid outcome call pc broker reply holds _ running answered
    have before : (progress table).Local machine.world pid (.running call pc) :=
      running ▸ holds.locally pid
    refine .of_world (Pool.land_world _ (fun _ => rfl) (fun _ => rfl) _) trivial
      (progress_next before answered) ?_
    exact fun other _ holds => progress_mono (fun own => (holds_exec answered own).1) holds
  crashPending := by
    intro machine pid call pc holds _ _
    exact ⟨trivial, progress_ended rfl, fun _ _ before => before⟩
  crashPerformed := by
    intro machine pid outcome call pc broker reply holds _ running answered
    refine ⟨trivial, progress_ended rfl, ?_⟩
    exact fun other _ holds => progress_mono (fun own => (holds_exec answered own).1) holds
  env := by
    intro machine event broker _ _ _
    cases event

/-! ## The topology of a cluster -/

/-- The assertions about the runs of the setup, for the table of program points that tracks
them. -/
def Following (table : List Triplet) (cluster : Cluster α) : Prop :=
  ∃ machine, Pool.Tracking (flow table) machine cluster.setups ∧
    (declared table).Holds machine ∧ (progress table).Holds machine

section Following

variable {table : List Triplet} {cluster : Cluster α}

theorem following_initial : Following table (Cluster.initial : Cluster α) := by
  refine ⟨.initial {}, .initial _, ⟨?_, fun _ => trivial⟩, trivial, fun _ _ _ running => ?_⟩
  · exact fun declaration held => absurd held Broker.not_holds_empty
  · cases running

/-- A client or a server declares nothing but what the setup declares. -/
theorem assertQueue_mem {service : Triplet} (there : service ∈ table) :
    service.assertQueue ∈ declarations table :=
  mem_of_service there (by simp [Triplet.declarations, Triplet.assertQueue, queueOptions,
    mainOptions, EXCHANGES.RETRY])

theorem Following.setup (following : Following table cluster) {event : Happening} {setups : State}
    (taken : RabbitMq.step table cluster.setups event = some setups) :
    Following table { cluster with setups } := by
  obtain ⟨machine, tracking, holds, advances⟩ := following
  obtain ⟨machine', taken', tracking'⟩ := tracking.step (implements table) taken
  exact ⟨machine', tracking', (declared_valid table).preserved _ _ _ trivial holds taken',
    (progress_valid table).preserved _ _ _ trivial advances taken'⟩

theorem Following.declared (following : Following table cluster) {declaration : Declaration}
    (there : declaration ∈ declarations table) {broker : Broker}
    (succeeds : cluster.broker.declare declaration = some broker) :
    Following table (cluster.declared broker) := by
  obtain ⟨machine, ⟨world, slots⟩, holds, advances⟩ := following
  have after : ∀ other, broker.Holds other ↔ machine.world.Holds other ∨ other = declaration := by
    rw [world]
    exact Broker.holds_declare succeeds
  have keeps : ∀ other, machine.world.Holds other → broker.Holds other :=
    fun other held => (after other).mpr (.inl held)
  refine ⟨⟨broker, machine.slots⟩, ⟨rfl, slots⟩, ⟨fun other held => ?_, fun pid => ?_⟩, trivial,
    fun pid => progress_mono keeps (advances.locally pid)⟩
  · rcases (after other).mp held with already | rfl
    · exact holds.globally other already
    · exact there
  · exact local_mono keeps (holds.locally pid)

/-- What anybody does keeps the assertions. -/
theorem Following.step [DecidableEq α] (following : Following table cluster) {event : Occurrence α}
    (connects : Connects table cluster event) {cluster' : Cluster α}
    (taken : cluster.step table event = some cluster') : Following table cluster' := by
  cases event with
  | setup event =>
      obtain ⟨setups, stepped, rfl⟩ := Option.map_eq_some_iff.mp taken
      exact following.setup stepped
  | connect service =>
      obtain ⟨broker, succeeds, rfl⟩ := Option.map_eq_some_iff.mp taken
      exact following.declared (assertQueue_mem connects) succeeds
  | message event =>
      obtain ⟨server, stepped, rfl⟩ := Option.map_eq_some_iff.mp taken
      exact following

theorem following_of_run [DecidableEq α]
    (ran : Path (Cluster.step table) (Connects table) .initial cluster) :
    Following table cluster :=
  ran.invariant following_initial fun _ _ _ connects following taken => following.step connects taken

/-- The broker holds nothing but what the setup declares. -/
theorem Following.within (following : Following table cluster) {declaration : Declaration}
    (held : cluster.broker.Holds declaration) : declaration ∈ declarations table := by
  obtain ⟨machine, tracking, holds, _⟩ := following
  refine holds.globally declaration ?_
  rw [tracking.world]
  exact held

/-- The broker holds what a run has declared that has come to its end. -/
theorem Following.setUp (following : Following table cluster) {pid : ℕ}
    (done : Completed (cluster.setups.slots pid) = true) : SetUp table cluster.broker := by
  obtain ⟨machine, tracking, holds, _⟩ := following
  have done : Completed (machine.slots pid) = true := by
    rw [completed_eq tracking.observe_eq]
    exact done
  have after := holds.locally pid
  have world : machine.world = cluster.broker := tracking.world
  cases slot : machine.slots pid with
  | finished call out =>
      rw [slot] at done after
      cases out with
      | ok logged =>
          rw [world] at after
          exact after (of_decide_eq_true done)
      | error error => cases done
  | _ =>
      rw [slot] at done
      cases done

end Following

/-! ## No conflicts -/

/-- Nobody is turned down by the broker. -/
structure Agreed (table : List Triplet) (cluster : Cluster α) : Prop where
  /-- What a run of the setup awaits can be declared. -/
  setups : ∀ pid call declaration,
    (cluster.setups.observe (programs table)).slots pid = .running call (.declare declaration) →
      (cluster.broker.declare declaration).isSome
  /-- So can what a client or a server asserts. -/
  connections : ∀ service ∈ table, (cluster.broker.declare service.assertQueue).isSome
  /-- A run that has completed has set up everything. -/
  completed : ∀ pid, Completed (cluster.setups.slots pid) = true → SetUp table cluster.broker

/-- What is left of a run begins with what was declared before it is bound. -/
theorem rooted_of_grounded {seen rest : List Declaration} {declaration : Declaration} :
    ∀ {earlier : List Declaration}, Grounded earlier (seen ++ declaration :: rest) →
      Rooted (seen.reverse ++ earlier) declaration := by
  induction seen with
  | nil => exact fun grounded => grounded.1
  | cons first seen ih =>
      intro earlier grounded
      rw [List.reverse_cons, List.append_assoc]
      exact ih grounded.2

/-- **All declarations agree.** However runs of the setup, clients, servers and messages
interleave, and wherever runs are cut short: the broker turns nobody down, and what one completed
run has set up stays. -/
theorem declarations_agree [DecidableEq α] {table : List Triplet} (distinct : Distinct table)
    {cluster : Cluster α} (ran : Path (Cluster.step table) (Connects table) .initial cluster) :
    Agreed table cluster := by
  have following := following_of_run ran
  have within : ∀ other, cluster.broker.Holds other → other ∈ declarations table :=
    fun other held => following.within held
  refine ⟨fun pid call declaration awaits => ?_, fun service there => ?_,
    fun pid done => following.setUp done⟩
  · obtain ⟨machine, tracking, holds, advances⟩ := following
    have world : machine.world = cluster.broker := tracking.world
    have same : machine.observe (flow table) = cluster.setups.observe (programs table) :=
      tracking.observe_eq
    rw [← same] at awaits
    obtain ⟨pc, running, op⟩ := Slot.of_observe_running awaits
    obtain ⟨seen, split, held⟩ := advances.locally pid call pc running
    cases pc with
    | declaring _ rest =>
        cases op
        have rooted : Rooted seen.reverse declaration := by
          have grounded := grounded table
          rw [split] at grounded
          simpa only [List.append_nil] using rooted_of_grounded grounded
        have there : declaration ∈ declarations table := by
          rw [split]
          exact List.mem_append_right _ List.mem_cons_self
        rw [world] at held
        obtain ⟨broker, succeeds⟩ := Broker.exists_declare
          (ready distinct within (fun other before => held other (List.mem_reverse.mp before))
            there rooted)
        exact Option.isSome_of_eq_some succeeds
    | _ => cases op
  · have unseen : ∀ other ∈ ([] : List Declaration), cluster.broker.Holds other :=
      fun _ before => absurd before List.not_mem_nil
    obtain ⟨broker, succeeds⟩ := Broker.exists_declare
      (ready distinct within unseen (assertQueue_mem there) trivial)
    exact Option.isSome_of_eq_some succeeds

namespace Sample

/-- A consumer connects before any setup has run, and two setups overlap, one of which is cut
short. -/
def connected : List (Occurrence String) :=
  .connect ⟨"notification_queue", "notification_queue_retry", "notification_queue_dlq"⟩ ::
    interrupted.map .setup

end Sample

/-- The theorem at two runs of the setup after a client has connected. -/
theorem declarations_agree_connected :
    ∃ cluster ∈ run (Cluster.step Sample.twoServices) .initial Sample.connected,
      Completed (cluster.setups.slots 1) = true ∧ Agreed Sample.twoServices cluster := by
  obtain ⟨cluster, ran, done, connects⟩ :
      ∃ cluster ∈ run (Cluster.step Sample.twoServices) .initial Sample.connected,
        Completed (cluster.setups.slots 1) = true ∧
        Meets (Cluster.step Sample.twoServices) (Connects Sample.twoServices) .initial
          Sample.connected := by
    decide +kernel
  exact ⟨cluster, ran, done, declarations_agree (by decide) (.of_run ran connects)⟩

end WorkflowHub.RabbitMq
