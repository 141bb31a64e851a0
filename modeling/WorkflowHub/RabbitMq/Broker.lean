import Mathlib.Data.Finset.Image
import Mathlib.Data.Nat.Notation

/-!
# Message brokers

What a broker of AMQP routes messages by: exchanges, queues and bindings. Each is declared, and
declaring one that is there already changes nothing, or fails if it is there with other
options. So a broker amounts to the set of declarations it holds (`Broker.holds_declare`,
`Broker.ext_holds`).
-/

set_option autoImplicit false

namespace WorkflowHub.Amqp

structure Exchange where
  type : String
  durable : Bool
  deriving DecidableEq, Repr

/-- The options of a queue, with the arguments that say where a message goes that is rejected or
expires, and when one does. -/
structure QueueOptions where
  durable : Bool
  deadLetterExchange : Option String := none
  deadLetterRoutingKey : Option String := none
  messageTtl : Option ℕ := none
  deriving DecidableEq, Repr

structure Binding where
  queue : String
  exchange : String
  routingKey : String
  deriving DecidableEq, Repr

structure Broker where
  exchanges : String → Option Exchange := fun _ => none
  queues : String → Option QueueOptions := fun _ => none
  bindings : Finset Binding := ∅

/-! ## Declarations -/

inductive Declaration where
  | exchange (name : String) (exchange : Exchange)
  | queue (name : String) (options : QueueOptions)
  | binding (binding : Binding)
  deriving DecidableEq, Repr

namespace Broker

/-- What a declaration makes of a broker, `none` if it fails: what is declared is there with other
options, or what is bound is not there. -/
def declare (broker : Broker) : Declaration → Option Broker
  | .exchange name exchange =>
      match broker.exchanges name with
      | none =>
          some { broker with
            exchanges := fun other =>
              if other = name then some exchange else broker.exchanges other }
      | some declared => if declared = exchange then some broker else none
  | .queue name options =>
      match broker.queues name with
      | none =>
          some { broker with
            queues := fun other => if other = name then some options else broker.queues other }
      | some declared => if declared = options then some broker else none
  | .binding binding =>
      if (broker.exchanges binding.exchange).isSome ∧ (broker.queues binding.queue).isSome then
        some { broker with bindings := insert binding broker.bindings }
      else none

/-- The broker has what is declared. -/
def Holds (broker : Broker) : Declaration → Prop
  | .exchange name exchange => broker.exchanges name = some exchange
  | .queue name options => broker.queues name = some options
  | .binding binding => binding ∈ broker.bindings

variable {broker broker' : Broker} {declaration : Declaration}

theorem not_holds_empty : ¬ ({} : Broker).Holds declaration := by
  intro held
  cases declaration with
  | exchange name exchange => cases held
  | queue name options => cases held
  | binding binding => exact absurd held (Finset.notMem_empty binding)

/-- Adding what the broker has makes no difference. -/
theorem holds_or_of_holds (here : broker.Holds declaration) {other : Declaration} :
    broker.Holds other ↔ broker.Holds other ∨ other = declaration := by
  constructor
  · exact .inl
  · rintro (holds | rfl)
    · exact holds
    · exact here

/-- **A declaration adds itself,** and nothing else. -/
theorem holds_declare (declared : broker.declare declaration = some broker')
    (other : Declaration) : broker'.Holds other ↔ broker.Holds other ∨ other = declaration := by
  cases declaration with
  | exchange name exchange =>
      simp only [declare] at declared
      split at declared
      next absent =>
        obtain rfl := Option.some.inj declared
        cases other with
        | exchange name' exchange' =>
            by_cases same : name' = name
            · subst same
              simp [Holds, absent, eq_comm]
            · simp [Holds, same]
        | queue name' options => simp [Holds]
        | binding binding => simp [Holds]
      next here =>
        split at declared
        next same =>
          obtain rfl := Option.some.inj declared
          subst same
          have there : broker.Holds (.exchange name _) := here
          exact holds_or_of_holds there
        next => cases declared
  | queue name options =>
      simp only [declare] at declared
      split at declared
      next absent =>
        obtain rfl := Option.some.inj declared
        cases other with
        | queue name' options' =>
            by_cases same : name' = name
            · subst same
              simp [Holds, absent, eq_comm]
            · simp [Holds, same]
        | exchange name' exchange => simp [Holds]
        | binding binding => simp [Holds]
      next here =>
        split at declared
        next same =>
          obtain rfl := Option.some.inj declared
          subst same
          have there : broker.Holds (.queue name _) := here
          exact holds_or_of_holds there
        next => cases declared
  | binding binding =>
      simp only [declare] at declared
      split at declared
      next there =>
        obtain rfl := Option.some.inj declared
        cases other with
        | binding binding' => simp [Holds, or_comm]
        | exchange name exchange => simp [Holds]
        | queue name options => simp [Holds]
      next => cases declared

/-- Brokers that hold the same are the same. -/
theorem ext_holds (same : ∀ declaration, broker.Holds declaration ↔ broker'.Holds declaration) :
    broker = broker' := by
  obtain ⟨exchanges, queues, bindings⟩ := broker
  obtain ⟨exchanges', queues', bindings'⟩ := broker'
  have exchanges : exchanges = exchanges' := by
    funext name
    exact Option.ext fun exchange => same (.exchange name exchange)
  have queues : queues = queues' := by
    funext name
    exact Option.ext fun options => same (.queue name options)
  have bindings : bindings = bindings' := Finset.ext fun binding => same (.binding binding)
  rw [exchanges, queues, bindings]

/-- A declaration succeeds where no other options are declared, and what is bound is there. -/
def Ready (broker : Broker) : Declaration → Prop
  | .exchange name exchange => ∀ other, broker.Holds (.exchange name other) → other = exchange
  | .queue name options => ∀ other, broker.Holds (.queue name other) → other = options
  | .binding binding => (∃ exchange, broker.Holds (.exchange binding.exchange exchange)) ∧
      ∃ options, broker.Holds (.queue binding.queue options)

theorem exists_declare (ready : broker.Ready declaration) :
    ∃ broker', broker.declare declaration = some broker' := by
  cases declaration with
  | exchange name exchange =>
      simp only [declare]
      split
      next => exact ⟨_, rfl⟩
      next declared here => exact ⟨broker, if_pos (ready declared here)⟩
  | queue name options =>
      simp only [declare]
      split
      next => exact ⟨_, rfl⟩
      next declared here => exact ⟨broker, if_pos (ready declared here)⟩
  | binding binding =>
      obtain ⟨⟨exchange, here⟩, options, there⟩ := ready
      refine ⟨_, if_pos ⟨?_, ?_⟩⟩
      · exact Option.isSome_of_eq_some here
      · exact Option.isSome_of_eq_some there

/-! ## Routing -/

/-- The queues a message reaches that is published to an exchange. Direct exchanges route by
equality of the routing key and the key of the binding; others are not considered. -/
def route (broker : Broker) (exchange routingKey : String) : Finset String :=
  match broker.exchanges exchange with
  | some ⟨"direct", _⟩ =>
      (broker.bindings.filter fun binding =>
        binding.exchange = exchange ∧ binding.routingKey = routingKey).image (·.queue)
  | _ => ∅

/-- The queues a message reaches that is rejected in a queue or expires there. It keeps its routing
key unless the queue has one for it. -/
def deadLetter (broker : Broker) (queue routingKey : String) : Finset String :=
  match broker.queues queue with
  | some ⟨_, some exchange, deadLetterRoutingKey, _⟩ =>
      broker.route exchange (deadLetterRoutingKey.getD routingKey)
  | _ => ∅

theorem mem_route {exchange routingKey queue : String} {durable : Bool}
    (direct : broker.exchanges exchange = some ⟨"direct", durable⟩) :
    queue ∈ broker.route exchange routingKey ↔ ⟨queue, exchange, routingKey⟩ ∈ broker.bindings := by
  simp only [route, direct, Finset.mem_image, Finset.mem_filter]
  constructor
  · rintro ⟨⟨_, _, _⟩, ⟨bound, rfl, rfl⟩, rfl⟩
    exact bound
  · exact fun bound => ⟨_, ⟨bound, rfl, rfl⟩, rfl⟩

end Broker

end WorkflowHub.Amqp
