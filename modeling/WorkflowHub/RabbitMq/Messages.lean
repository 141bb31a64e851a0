import Mathlib.Data.Multiset.Filter
import Mathlib.Data.Multiset.Range
import WorkflowHub.Processes.Paths
import WorkflowHub.RabbitMq.Broker

/-!
# Messages in a broker

Where the messages of a broker are: ready in a queue, handed to a consumer that has not answered
yet, or acknowledged. A message that a consumer rejects, or that outlives its time in a queue,
*dies* there, and the broker routes it on by the dead-letter exchange of the queue. It records
this in the header `x-death`, and it drops a message that comes round to the same queue without
having been rejected on the way.

Each message has the number it was published under. A step is `Faithful` if it brings every
message it moves to exactly one place; as long as all steps are, each number is there exactly
once (`Server.Orderly.step`).
-/

set_option autoImplicit false

namespace WorkflowHub.Amqp

open Processes

/-! ## Deaths -/

/-- Why a message dies. -/
inductive Reason where
  | rejected
  | expired
  deriving DecidableEq, Repr

/-- An entry of `x-death`: how often the message has died in a queue for a reason. -/
structure Death where
  queue : String
  reason : Reason
  count : ℕ
  deriving DecidableEq, Repr

def deathCount (deaths : List Death) (queue : String) (reason : Reason) : ℕ :=
  ((deaths.find? fun death => death.queue = queue ∧ death.reason = reason).map (·.count)).getD 0

/-- One more death. The entry for its queue and its reason counts on, and comes first. -/
def recordDeath (deaths : List Death) (queue : String) (reason : Reason) : List Death :=
  ⟨queue, reason, deathCount deaths queue reason + 1⟩ ::
    deaths.filter fun death => ¬ (death.queue = queue ∧ death.reason = reason)

/-- The message was in the queue before, and has not been rejected since. -/
def cycles (deaths : List Death) (queue : String) : Bool :=
  match deaths.dropWhile (·.queue ≠ queue) with
  | [] => false
  | last :: _ => (deaths.takeWhile (·.queue ≠ queue) ++ [last]).all (·.reason ≠ .rejected)

/-- A message that was rejected in the queue when it was there last does not cycle. -/
theorem not_cycles {before after : List Death} {last : Death}
    (since : ∀ death ∈ before, death.queue ≠ last.queue) (rejected : last.reason = .rejected) :
    cycles (before ++ last :: after) last.queue = false := by
  have since' : ∀ death ∈ before, decide (death.queue ≠ last.queue) = true :=
    fun death found => decide_eq_true (since death found)
  have drops : (before ++ last :: after).dropWhile (·.queue ≠ last.queue) = last :: after := by
    rw [List.dropWhile_append_of_pos since']
    exact List.dropWhile_cons_of_neg (by simp)
  simp only [cycles, drops, List.all_append, List.all_cons, rejected, ne_eq, not_true_eq_false,
    decide_false, Bool.false_and, Bool.and_false]

/-! ## Messages -/

/-- A message, with the how manieth it was that was published. -/
structure Message (α : Type) where
  number : ℕ
  body : α
  routingKey : String
  deaths : List Death := []
  deriving DecidableEq, Repr

/-- A message that is ready in a queue, with the time it came there. -/
structure Waiting (α : Type) where
  queue : String
  since : ℕ
  message : Message α
  deriving DecidableEq, Repr

/-- A message that was handed to a consumer. -/
structure Delivery (α : Type) where
  consumer : ℕ
  taken : Waiting α
  deriving DecidableEq, Repr

namespace Broker

variable (broker : Broker)

/-- The queues a message reaches. The default exchange, whose name is empty, knows each queue by
its name. -/
def targets (exchange routingKey : String) : Finset String :=
  if exchange = "" then if (broker.queues routingKey).isSome then {routingKey} else ∅
  else broker.route exchange routingKey

/-- How long a message may wait in the queue. -/
def messageTtl (queue : String) : Option ℕ := (broker.queues queue).bind (·.messageTtl)

variable {α : Type}

/-- The message after it has died in the queue. -/
def bury (queue : String) (reason : Reason) (message : Message α) : Message α :=
  { message with
    routingKey :=
      ((broker.queues queue).bind (·.deadLetterRoutingKey)).getD message.routingKey
    deaths := recordDeath message.deaths queue reason }

/-- The queues it reaches then. -/
def afterlife (queue : String) (reason : Reason) (message : Message α) : Finset String :=
  (broker.deadLetter queue message.routingKey).filter fun target =>
    ¬ (reason = .expired ∧ cycles (broker.bury queue reason message).deaths target = true)

end Broker

/-! ## The messages of a broker -/

/-- The messages of a broker. The last four fields are history: how many were published, which
were acknowledged, the number and the time of each rejection, and the number of each message that
expired. -/
structure Server (α : Type) where
  now : ℕ := 0
  ready : Multiset (Waiting α) := 0
  unacked : Multiset (Delivery α) := 0
  published : ℕ := 0
  acknowledged : Multiset (Message α) := 0
  rejections : List (ℕ × ℕ) := []
  expirations : List ℕ := []

/-- What can happen to messages. A consumer answers a message or loses its connection. -/
inductive Handling (α : Type) where
  | elapse (milliseconds : ℕ)
  | publish (exchange routingKey : String) (body : α)
  | deliver (consumer : ℕ) (waiting : Waiting α)
  | acknowledge (delivery : Delivery α)
  | reject (delivery : Delivery α)
  | disconnect (consumer : ℕ)
  | expire (waiting : Waiting α)
  deriving DecidableEq, Repr

namespace Server

variable {α : Type}

/-- The message comes to each of the queues. -/
def arrive (server : Server α) (queues : Finset String) (message : Message α) : Server α :=
  { server with ready := server.ready + queues.val.map fun queue => ⟨queue, server.now, message⟩ }

def elapse (server : Server α) (milliseconds : ℕ) : Server α :=
  { server with now := server.now + milliseconds }

def publish (broker : Broker) (server : Server α) (exchange routingKey : String) (body : α) :
    Server α :=
  { server.arrive (broker.targets exchange routingKey)
      ⟨server.published, body, routingKey, []⟩ with
    published := server.published + 1 }

def disconnect (server : Server α) (consumer : ℕ) : Server α :=
  { server with
    ready := server.ready + (server.unacked.filter (·.consumer = consumer)).map (·.taken)
    unacked := server.unacked.filter (¬ ·.consumer = consumer) }

/-- The messages that are ready or in the hands of a consumer. -/
def pending (server : Server α) : Multiset (Waiting α) :=
  server.ready + server.unacked.map (·.taken)

theorem pending_arrive (server : Server α) {queue : String} (message : Message α) :
    (server.arrive {queue} message).pending = ⟨queue, server.now, message⟩ ::ₘ server.pending := by
  simp only [pending, arrive, Finset.singleton_val, Multiset.map_singleton]
  rw [Multiset.add_assoc, Multiset.singleton_add, Multiset.add_cons]

/-- What arrives is ready. -/
theorem mem_ready_arrive (server : Server α) (queue : String) (message : Message α) :
    ⟨queue, server.now, message⟩ ∈ (server.arrive {queue} message).ready :=
  Multiset.mem_add.mpr (.inr (by simp))

theorem pending_disconnect (server : Server α) (consumer : ℕ) :
    (server.disconnect consumer).pending = server.pending := by
  simp only [pending, disconnect]
  rw [Multiset.add_assoc, ← Multiset.map_add, Multiset.filter_add_not]

theorem pending_publish {broker : Broker} (server : Server α) {exchange routingKey queue : String}
    (body : α) (reaches : broker.targets exchange routingKey = {queue}) :
    (server.publish broker exchange routingKey body).pending =
      ⟨queue, server.now, server.published, body, routingKey, []⟩ ::ₘ server.pending := by
  rw [publish, reaches]
  exact pending_arrive server _

/-! ## Every message once -/

/-- The numbers of all messages, once for each copy. -/
def numbers (server : Server α) : Multiset ℕ :=
  server.pending.map (·.message.number) + server.acknowledged.map (·.number)

/-- How often the message has been rejected. -/
def rejected (server : Server α) (number : ℕ) : ℕ := (server.rejections.map (·.1)).count number

/-- How often it has expired. -/
def expired (server : Server α) (number : ℕ) : ℕ := server.expirations.count number

/-- Each number is there once, and what died was published before. -/
structure Orderly (server : Server α) : Prop where
  numbers : server.numbers = Multiset.range server.published
  rejections : ∀ entry ∈ server.rejections, entry.1 < server.published ∧ entry.2 ≤ server.now
  expirations : ∀ number ∈ server.expirations, number < server.published

namespace Orderly

variable {server : Server α} {waiting : Waiting α} {others : Multiset (Waiting α)}

theorem initial : Orderly ({} : Server α) where
  numbers := rfl
  rejections _ there := absurd there List.not_mem_nil
  expirations _ there := absurd there List.not_mem_nil

theorem number_lt (orderly : Orderly server) (there : waiting ∈ server.pending) :
    waiting.message.number < server.published := by
  rw [← Multiset.mem_range, ← orderly.numbers]
  exact Multiset.mem_add.mpr (.inl (Multiset.mem_map_of_mem _ there))

/-- No other message has the number of one that is not answered. -/
theorem number_ne (orderly : Orderly server) (split : server.pending = waiting ::ₘ others)
    {other : Waiting α} (there : other ∈ others) :
    other.message.number ≠ waiting.message.number := by
  have nodup : (server.pending.map (·.message.number)).Nodup :=
    Multiset.nodup_of_le (Multiset.le_add_right _ _)
      (show server.numbers.Nodup from orderly.numbers ▸ Multiset.nodup_range _)
  rw [split, Multiset.map_cons, Multiset.nodup_cons] at nodup
  intro same
  exact nodup.1 (Multiset.mem_map.mpr ⟨other, there, same⟩)

end Orderly

/-! ## Steps -/

variable [DecidableEq α]

def deliver (server : Server α) (consumer : ℕ) (waiting : Waiting α) : Server α :=
  { server with
    ready := server.ready.erase waiting
    unacked := ⟨consumer, waiting⟩ ::ₘ server.unacked }

def acknowledge (server : Server α) (delivery : Delivery α) : Server α :=
  { server with
    unacked := server.unacked.erase delivery
    acknowledged := delivery.taken.message ::ₘ server.acknowledged }

/-- The message dies in its queue. -/
def die (broker : Broker) (server : Server α) (reason : Reason) (waiting : Waiting α) : Server α :=
  server.arrive (broker.afterlife waiting.queue reason waiting.message)
    (broker.bury waiting.queue reason waiting.message)

def reject (broker : Broker) (server : Server α) (delivery : Delivery α) : Server α :=
  { server with
    unacked := server.unacked.erase delivery
    rejections := server.rejections ++ [(delivery.taken.message.number, server.now)] }.die broker
      .rejected delivery.taken

def expire (broker : Broker) (server : Server α) (waiting : Waiting α) : Server α :=
  { server with
    ready := server.ready.erase waiting
    expirations := server.expirations ++ [waiting.message.number] }.die broker .expired waiting

/-- The time of the message in its queue is over. -/
def Overdue (broker : Broker) (server : Server α) (waiting : Waiting α) : Prop :=
  ∃ ttl ∈ broker.messageTtl waiting.queue, waiting.since + ttl ≤ server.now

instance (broker : Broker) (server : Server α) (waiting : Waiting α) :
    Decidable (server.Overdue broker waiting) := by
  unfold Overdue
  infer_instance

def step (broker : Broker) (server : Server α) : Handling α → Option (Server α)
  | .elapse milliseconds => some (server.elapse milliseconds)
  | .publish exchange routingKey body => some (server.publish broker exchange routingKey body)
  | .deliver consumer waiting =>
      if waiting ∈ server.ready then some (server.deliver consumer waiting) else none
  | .acknowledge delivery =>
      if delivery ∈ server.unacked then some (server.acknowledge delivery) else none
  | .reject delivery =>
      if delivery ∈ server.unacked then some (server.reject broker delivery) else none
  | .disconnect consumer => some (server.disconnect consumer)
  | .expire waiting =>
      if waiting ∈ server.ready ∧ server.Overdue broker waiting then
        some (server.expire broker waiting)
      else none

/-- All a step can be, with what had to hold for it. -/
inductive Stepped (broker : Broker) (server : Server α) : Handling α → Server α → Prop where
  | elapse (milliseconds : ℕ) :
      Stepped broker server (.elapse milliseconds) (server.elapse milliseconds)
  | publish (exchange routingKey : String) (body : α) :
      Stepped broker server (.publish exchange routingKey body)
        (server.publish broker exchange routingKey body)
  | deliver (consumer : ℕ) {waiting : Waiting α} (there : waiting ∈ server.ready) :
      Stepped broker server (.deliver consumer waiting) (server.deliver consumer waiting)
  | acknowledge {delivery : Delivery α} (there : delivery ∈ server.unacked) :
      Stepped broker server (.acknowledge delivery) (server.acknowledge delivery)
  | reject {delivery : Delivery α} (there : delivery ∈ server.unacked) :
      Stepped broker server (.reject delivery) (server.reject broker delivery)
  | disconnect (consumer : ℕ) :
      Stepped broker server (.disconnect consumer) (server.disconnect consumer)
  | expire {waiting : Waiting α} (there : waiting ∈ server.ready)
      (overdue : server.Overdue broker waiting) :
      Stepped broker server (.expire waiting) (server.expire broker waiting)

theorem stepped {broker : Broker} {server server' : Server α} {event : Handling α}
    (taken : server.step broker event = some server') : Stepped broker server event server' := by
  cases event with
  | elapse milliseconds =>
      cases taken
      exact .elapse milliseconds
  | publish exchange routingKey body =>
      cases taken
      exact .publish exchange routingKey body
  | deliver consumer waiting =>
      simp only [step, Option.ite_none_right_eq_some, Option.some.injEq] at taken
      obtain ⟨there, rfl⟩ := taken
      exact .deliver consumer there
  | acknowledge delivery =>
      simp only [step, Option.ite_none_right_eq_some, Option.some.injEq] at taken
      obtain ⟨there, rfl⟩ := taken
      exact .acknowledge there
  | reject delivery =>
      simp only [step, Option.ite_none_right_eq_some, Option.some.injEq] at taken
      obtain ⟨there, rfl⟩ := taken
      exact .reject there
  | disconnect consumer =>
      cases taken
      exact .disconnect consumer
  | expire waiting =>
      simp only [step, Option.ite_none_right_eq_some, Option.some.injEq] at taken
      obtain ⟨⟨there, overdue⟩, rfl⟩ := taken
      exact .expire there overdue

section Pending

variable {broker : Broker} {server : Server α} {waiting : Waiting α} {delivery : Delivery α}

theorem pending_deliver (consumer : ℕ) (there : waiting ∈ server.ready) :
    (server.deliver consumer waiting).pending = server.pending := by
  simp only [pending, deliver, Multiset.map_cons, Multiset.add_cons, ← Multiset.cons_add,
    Multiset.cons_erase there]

/-- The other messages than one that is in the hands of a consumer. -/
theorem pending_unacked (there : delivery ∈ server.unacked) :
    delivery.taken ::ₘ (server.ready + (server.unacked.erase delivery).map (·.taken)) =
      server.pending := by
  rw [← Multiset.add_cons, ← Multiset.map_cons, Multiset.cons_erase there]
  rfl

/-- The other messages than one that is ready. -/
theorem pending_ready (there : waiting ∈ server.ready) :
    waiting ::ₘ (server.ready.erase waiting + server.unacked.map (·.taken)) = server.pending := by
  rw [← Multiset.cons_add, Multiset.cons_erase there]
  rfl

/-- A message that dies goes on as another one. -/
theorem pending_reject (there : delivery ∈ server.unacked) {queue : String}
    (reaches : broker.afterlife delivery.taken.queue .rejected delivery.taken.message = {queue}) :
    ∃ others, server.pending = delivery.taken ::ₘ others ∧
      (server.reject broker delivery).pending =
        ⟨queue, server.now, broker.bury delivery.taken.queue .rejected delivery.taken.message⟩ ::ₘ
          others := by
  refine ⟨_, (pending_unacked there).symm, ?_⟩
  rw [reject, die, reaches, pending_arrive]
  rfl

theorem pending_expire (there : waiting ∈ server.ready) {queue : String}
    (reaches : broker.afterlife waiting.queue .expired waiting.message = {queue}) :
    ∃ others, server.pending = waiting ::ₘ others ∧
      (server.expire broker waiting).pending =
        ⟨queue, server.now, broker.bury waiting.queue .expired waiting.message⟩ ::ₘ others := by
  refine ⟨_, (pending_ready there).symm, ?_⟩
  rw [expire, die, reaches, pending_arrive]
  rfl

end Pending

/-! ## Neither lost nor copied -/

/-- The queues a message is brought to, if what happens brings one anywhere. -/
def destination (broker : Broker) : Handling α → Option (Finset String)
  | .publish exchange routingKey _ => some (broker.targets exchange routingKey)
  | .reject delivery =>
      some (broker.afterlife delivery.taken.queue .rejected delivery.taken.message)
  | .expire waiting => some (broker.afterlife waiting.queue .expired waiting.message)
  | _ => none

/-- A message that is moved reaches one queue. -/
def Faithful (broker : Broker) (event : Handling α) : Prop :=
  ∀ queues ∈ destination broker event, ∃ queue, queues = {queue}

namespace Orderly

variable {broker : Broker} {server server' : Server α}

/-- **Messages are neither lost nor copied,** as long as what happens is faithful. -/
theorem step {event : Handling α} (orderly : Orderly server) (faithful : Faithful broker event)
    (taken : server.step broker event = some server') : Orderly server' := by
  have known := orderly.rejections
  cases stepped taken with
  | elapse milliseconds =>
      refine ⟨orderly.numbers, fun entry there => ?_, orderly.expirations⟩
      have before := known entry there
      exact ⟨before.1, before.2.trans (Nat.le_add_right _ _)⟩
  | publish exchange routingKey body =>
      obtain ⟨queue, reaches⟩ := faithful _ rfl
      have later : server.published < (server.publish broker exchange routingKey body).published :=
        Nat.lt_succ_self _
      refine ⟨?_, fun entry there => ⟨(known entry there).1.trans later, (known entry there).2⟩,
        fun number there => (orderly.expirations number there).trans later⟩
      have numbered : (server.publish broker exchange routingKey body).numbers =
          server.published ::ₘ server.numbers := by
        simp only [Server.numbers, pending_publish server body reaches, Multiset.map_cons,
          Multiset.cons_add]
        rfl
      rw [numbered, orderly.numbers]
      exact (Multiset.range_succ _).symm
  | deliver consumer there =>
      refine ⟨?_, known, orderly.expirations⟩
      rw [Server.numbers, pending_deliver consumer there]
      exact orderly.numbers
  | @acknowledge delivery there =>
      refine ⟨?_, known, orderly.expirations⟩
      have before := orderly.numbers
      rw [Server.numbers, ← pending_unacked there, Multiset.map_cons, Multiset.cons_add,
        ← Multiset.add_cons] at before
      have acknowledged : (server.acknowledge delivery).acknowledged =
          delivery.taken.message ::ₘ server.acknowledged := rfl
      rw [Server.numbers, acknowledged, Multiset.map_cons]
      exact before
  | @reject delivery there =>
      obtain ⟨queue, reaches⟩ := faithful _ rfl
      obtain ⟨others, pending, pending'⟩ := pending_reject there reaches
      refine ⟨?_, fun entry recorded => ?_, orderly.expirations⟩
      · have before := orderly.numbers
        rw [Server.numbers, pending, Multiset.map_cons] at before
        rw [Server.numbers, pending', Multiset.map_cons]
        exact before
      · rcases List.mem_append.mp recorded with earlier | now
        · exact known entry earlier
        · rw [List.mem_singleton.mp now]
          exact ⟨orderly.number_lt (pending ▸ Multiset.mem_cons_self _ _), Nat.le_refl _⟩
  | disconnect consumer =>
      refine ⟨?_, known, orderly.expirations⟩
      rw [Server.numbers, pending_disconnect]
      exact orderly.numbers
  | @expire waiting there overdue =>
      obtain ⟨queue, reaches⟩ := faithful _ rfl
      obtain ⟨others, pending, pending'⟩ := pending_expire there reaches
      refine ⟨?_, known, fun number recorded => ?_⟩
      · have before := orderly.numbers
        rw [Server.numbers, pending, Multiset.map_cons] at before
        rw [Server.numbers, pending', Multiset.map_cons]
        exact before
      · rcases List.mem_append.mp recorded with earlier | now
        · exact orderly.expirations number earlier
        · rw [List.mem_singleton.mp now]
          exact orderly.number_lt (pending ▸ Multiset.mem_cons_self _ _)

end Orderly

end Server

end WorkflowHub.Amqp
