import WorkflowHub.Platform.Values
import WorkflowHub.Processes.Handler
import WorkflowHub.RabbitMq.Broker

/-!
# `RabbitmqSetupService`

At its start each service declares the exchanges and queues of all services. A queue has two
more beside it: rejected messages wait in the second for some time, and what has failed for
good is put into the third.
-/

set_option autoImplicit false

namespace WorkflowHub.RabbitMq

open Processes Amqp

/-! ## Constants -/

/-- The queues of a service, a value of `QUEUES`. -/
structure Triplet where
  MAIN : String
  RETRY : String
  DLQ : String
  deriving DecidableEq, Repr

def QUEUES : List Triplet :=
  [⟨"notification_queue", "notification_queue_retry", "notification_queue_dlq"⟩]

namespace EXCHANGES

def NOTIFY : String := "notification.exchange"

def RETRY : String := "retry.exchange"

def DLQ : String := "dlq.exchange"

/-- `Object.values(EXCHANGES)`, which are all of type `direct`. -/
def values : List String := [NOTIFY, RETRY, DLQ]

end EXCHANGES

/-! ## Operations -/

/-- What the setup awaits. -/
inductive Op where
  | connect
  | setTimeout (milliseconds : ℕ)
  | createChannel
  | declare (declaration : Declaration)
  | closeChannel
  | closeConnection
  deriving DecidableEq

/-- Nothing is made of what they resolve with. -/
def Op.Value : Op → Type := fun _ => Unit

abbrev Method := Handler Op Op.Value Thrown Unit

def amqplib.connect : Method Unit := await Op.connect

def setTimeout (milliseconds : ℕ) : Method Unit := await (Op.setTimeout milliseconds)

def connection.createChannel : Method Unit := await Op.createChannel

def channel.assertExchange (name type : String) : Method Unit :=
  await (Op.declare (.exchange name { type := type, durable := true }))

def channel.assertQueue (name : String) (options : QueueOptions) : Method Unit :=
  await (Op.declare (.queue name options))

def channel.bindQueue (queue exchange routingKey : String) : Method Unit :=
  await (Op.declare (.binding ⟨queue, exchange, routingKey⟩))

def channel.close : Method Unit := await Op.closeChannel

def connection.close : Method Unit := await Op.closeConnection

/-! ## `setupTopology` -/

/-- The last line a run logs. -/
inductive Logged where
  | log (message : String)
  | error (message : String)
  deriving DecidableEq, Repr

/-- The loop that connects, with this many attempts left. Without any there is no connection. -/
def connect : ℕ → Method Bool
  | 0 => pure false
  | retries + 1 => do
      try
        amqplib.connect
        pure true
      catch err =>
        if retries = 0 then
          throw err
        setTimeout 5000
        connect retries

def retryOptions (MAIN : String) : QueueOptions where
  durable := true
  deadLetterExchange := some EXCHANGES.NOTIFY
  deadLetterRoutingKey := some MAIN
  messageTtl := some 15000

def mainOptions (RETRY : String) : QueueOptions where
  durable := true
  deadLetterExchange := some EXCHANGES.RETRY
  deadLetterRoutingKey := some RETRY

/-- The body of the loop over `QUEUES`. -/
def declareTriplet (service : Triplet) : Method Unit := do
  channel.assertQueue service.DLQ { durable := true }
  channel.bindQueue service.DLQ EXCHANGES.DLQ service.DLQ
  channel.assertQueue service.RETRY (retryOptions service.MAIN)
  channel.bindQueue service.RETRY EXCHANGES.RETRY service.RETRY
  channel.assertQueue service.MAIN (mainOptions service.RETRY)
  channel.bindQueue service.MAIN EXCHANGES.NOTIFY service.MAIN

def completed : Logged := .log "RabbitMQ topology setup completed successfully."

def setupTopology (table : List Triplet) : Method Logged := do
  try
    if !(← connect 5) then
      throw (.error "Error" "Connection could not be established")
    connection.createChannel
    EXCHANGES.values.forM fun name => channel.assertExchange name "direct"
    table.forM declareTriplet
    channel.close
    connection.close
    return completed
  catch error =>
    return .error ("RabbitMQ topology setup failed: " ++ error.message)

end WorkflowHub.RabbitMq
