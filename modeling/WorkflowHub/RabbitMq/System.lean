import WorkflowHub.Platform.Remote
import WorkflowHub.Processes.Tracking
import WorkflowHub.RabbitMq.Setup

/-!
# Setups side by side

Any number of services run `setupTopology` against one broker. A run has three stretches: it
connects, declares one thing after the other, and closes what it has opened. `implements` says
that this table describes it.
-/

set_option autoImplicit false

namespace WorkflowHub.RabbitMq

open Processes Amqp

/-! ## The system -/

def exec (broker : Broker) : (op : Op) → Outcome → Option (Broker × Except Thrown op.Value)
  | .setTimeout _, .resolved => some (broker, .ok ())
  | .setTimeout _, _ => none
  | .declare declaration, outcome =>
      respond ((broker.declare declaration).isSome) outcome broker
        ((broker.declare declaration).getD broker) ()
  | .connect, outcome => respond True outcome broker broker ()
  | .createChannel, outcome => respond True outcome broker broker ()
  | .closeChannel, outcome => respond True outcome broker broker ()
  | .closeConnection, outcome => respond True outcome broker broker ()

def site : Site (promises Op Op.Value Thrown) Unit Broker Unit (Except Thrown Logged) Outcome Empty where
  load _ _ := ()
  store broker _ _ := broker
  start broker _ _ := some broker
  exec broker _ _ := exec broker
  finish broker _ _ _ := broker
  crash broker _ _ := broker
  env _ event := nomatch event

/-- The code of the runs, by the table of queues. -/
def programs (table : List Triplet) : Flow (promises Op Op.Value Thrown) Unit Unit
    (Suspended (promises Op Op.Value Thrown) Unit (Except Thrown Logged)) (Except Thrown Logged) :=
  .ofPrograms fun _ => (setupTopology table).run

abbrev State : Type :=
  Pool Broker Unit (Suspended (promises Op Op.Value Thrown) Unit (Except Thrown Logged))
    (Except Thrown Logged)

/-- What a state shows: the broker, and what each run awaits. -/
abbrev View : Type := Pool Broker Unit Op (Except Thrown Logged)

abbrev Happening : Type := Event Unit Outcome Empty

abbrev step (table : List Triplet) : State → Happening → Option State :=
  Pool.step site (programs table)

abbrev Runs (table : List Triplet) (C : View → Happening → Prop) : State → State → Prop :=
  Path (step table) fun state event => C (state.observe (programs table)) event

/-- The run has completed the setup. -/
def Completed {Pc : Type} : Slot Unit Pc (Except Thrown Logged) → Bool
  | .finished _ (.ok logged) => logged = completed
  | _ => false

@[simp] theorem completed_observe {S : Signature} {Pc : Type} (op : Unit → Pc → S.Op)
    (slot : Slot Unit Pc (Except Thrown Logged)) :
    Completed (slot.observe op) = Completed slot := by
  cases slot with
  | finished call out =>
      cases out with
      | _ => rfl
  | _ => rfl

/-! ## Program points -/

inductive Pc where
  | connecting (retries : ℕ)
  | waiting (retries : ℕ)
  | creatingChannel
  | declaring (declaration : Declaration) (rest : List Declaration)
  | closingChannel
  | closingConnection

def Pc.op : Pc → Op
  | connecting _ => .connect
  | waiting _ => .setTimeout 5000
  | creatingChannel => .createChannel
  | declaring declaration _ => .declare declaration
  | closingChannel => .closeChannel
  | closingConnection => .closeConnection

/-- What is declared for a service. -/
def Triplet.declarations (service : Triplet) : List Declaration :=
  [.queue service.DLQ { durable := true },
    .binding ⟨service.DLQ, EXCHANGES.DLQ, service.DLQ⟩,
    .queue service.RETRY (retryOptions service.MAIN),
    .binding ⟨service.RETRY, EXCHANGES.RETRY, service.RETRY⟩,
    .queue service.MAIN (mainOptions service.RETRY),
    .binding ⟨service.MAIN, EXCHANGES.NOTIFY, service.MAIN⟩]

/-- All that is declared, in this order. -/
def declarations (table : List Triplet) : List Declaration :=
  EXCHANGES.values.map (fun name => .exchange name { type := "direct", durable := true }) ++
    table.flatMap Triplet.declarations

abbrev Led : Type := Unit × Target Pc (Except Thrown Logged)

namespace Led

/-- The setup fails, which is logged. -/
def failed (error : Thrown) : Led :=
  ((), .finished (.ok (.error ("RabbitMQ topology setup failed: " ++ error.message))))

def declare : List Declaration → Led
  | [] => ((), .running .closingChannel)
  | declaration :: rest => ((), .running (.declaring declaration rest))

def next (table : List Triplet) : (pc : Pc) → Except Thrown pc.op.Value → Led
  | .connecting _, .ok _ => ((), .running .creatingChannel)
  | .connecting 1, .error error => failed error
  | .connecting retries, .error _ => ((), .running (.waiting (retries - 1)))
  | .waiting retries, .ok _ => ((), .running (.connecting retries))
  | .creatingChannel, .ok _ => declare (declarations table)
  | .declaring _ rest, .ok _ => declare rest
  | .closingChannel, .ok _ => ((), .running .closingConnection)
  | .closingConnection, .ok _ => ((), .finished (.ok completed))
  | .waiting _, .error error => failed error
  | .creatingChannel, .error error => failed error
  | .declaring _ _, .error error => failed error
  | .closingChannel, .error error => failed error
  | .closingConnection, .error error => failed error

end Led

/-- The table of program points. -/
def flow (table : List Triplet) :
    Flow (promises Op Op.Value Thrown) Unit Unit Pc (Except Thrown Logged) where
  op _ pc := pc.op
  enter _ _ := ((), .running (.connecting 5))
  next _ pc reply _ := Led.next table pc reply

/-- What is left of the setup once the exchanges are declared. -/
def setupRest (table : List Triplet) : Method Logged := do
  try
    table.forM declareTriplet
    channel.close
    connection.close
    return completed
  catch error =>
    return .error ("RabbitMQ topology setup failed: " ++ error.message)

/-- One declaration after the other. -/
theorem tracks_declare {table : List Triplet} {declaration : Declaration} {rest : List Declaration}
    {resume : Except Thrown Unit → Unit → Resumption (promises Op Op.Value Thrown) Unit
      (Except Thrown Logged)}
    (goesOn : Tracks (flow table) () (Led.declare rest) (resume (.ok ()) ()))
    (fails : ∀ error, Tracks (flow table) () (Led.failed error) (resume (.error error) ())) :
    Tracks (flow table) () (Led.declare (declaration :: rest))
      (.await (Op.declare declaration) () resume) := by
  refine Tracks.await fun (reply : Except Thrown Unit) _ => ?_
  cases reply with
  | ok _ => exact goesOn
  | error error => exact fails error

theorem tracks_setupRest (all : List Triplet) : ∀ table : List Triplet,
    Tracks (flow all) () (Led.declare (table.flatMap Triplet.declarations))
      ((setupRest table).run ())
  | [] => by
      refine Tracks.await fun reply _ => ?_
      cases reply with
      | error error => exact .done
      | ok _ =>
          refine Tracks.await fun reply _ => ?_
          cases reply with
          | error error => exact .done
          | ok _ => exact .done
  | service :: rest => by
      refine tracks_declare ?_ fun _ => .done
      refine tracks_declare ?_ fun _ => .done
      refine tracks_declare ?_ fun _ => .done
      refine tracks_declare ?_ fun _ => .done
      refine tracks_declare ?_ fun _ => .done
      refine tracks_declare ?_ fun _ => .done
      exact tracks_setupRest all rest

/-- What is left of the setup once it is connected. -/
def setupConnected (table : List Triplet) : Method Logged := do
  try
    connection.createChannel
    EXCHANGES.values.forM fun name => channel.assertExchange name "direct"
    table.forM declareTriplet
    channel.close
    connection.close
    return completed
  catch error =>
    return .error ("RabbitMQ topology setup failed: " ++ error.message)

theorem tracks_setupConnected (table : List Triplet) :
    Tracks (flow table) () ((), .running .creatingChannel) ((setupConnected table).run ()) := by
  refine Tracks.await fun reply _ => ?_
  cases reply with
  | error error => exact .done
  | ok _ =>
      refine tracks_declare ?_ fun _ => .done
      refine tracks_declare ?_ fun _ => .done
      refine tracks_declare ?_ fun _ => .done
      exact tracks_setupRest table table

/-- The setup with this many attempts to connect. -/
def setupFrom (table : List Triplet) (retries : ℕ) : Method Logged := do
  try
    if !(← connect retries) then
      throw (.error "Error" "Connection could not be established")
    connection.createChannel
    EXCHANGES.values.forM fun name => channel.assertExchange name "direct"
    table.forM declareTriplet
    channel.close
    connection.close
    return completed
  catch error =>
    return .error ("RabbitMQ topology setup failed: " ++ error.message)

theorem tracks_setupFrom (table : List Triplet) : ∀ retries : ℕ,
    Tracks (flow table) () ((), .running (.connecting (retries + 1)))
      ((setupFrom table (retries + 1)).run ())
  | 0 => by
      refine Tracks.await fun reply _ => ?_
      cases reply with
      | error error => exact .done
      | ok _ => exact tracks_setupConnected table
  | retries + 1 => by
      refine Tracks.await fun reply _ => ?_
      cases reply with
      | ok _ => exact tracks_setupConnected table
      | error error =>
          refine Tracks.await fun reply _ => ?_
          cases reply with
          | ok _ => exact tracks_setupFrom table retries
          | error error => exact .done

/-- **The table of program points describes the setup.** -/
theorem implements (table : List Triplet) :
    Implements (flow table) fun _ => (setupTopology table).run :=
  fun _ _ => tracks_setupFrom table 4

end WorkflowHub.RabbitMq
