import WorkflowHub.Consumers.Service
import WorkflowHub.Platform.Remote
import WorkflowHub.Processes.Executions

/-!
# `AnalyticsServiceController` over gRPC

The handler that reads the counter of a user.
-/

set_option autoImplicit false

namespace WorkflowHub.AnalyticsService

open Processes Consumers

/-- What the handler awaits. -/
inductive Op where
  | findOne (userId : String)
  deriving DecidableEq

/-- What the operation resolves with. -/
def Op.Value : Op → Type
  | .findOne _ => Option UserCounter

/-- What `grpcGetUserCounter` replies. -/
structure CounterReply where
  userId : String
  taskCount : ℕ
  deriving DecidableEq, Repr

abbrev Method := Handler Op Op.Value Thrown Unit

/-- `userCounterModel.findOne({ userId })`. -/
def userCounterModel.findOne (userId : String) : Method (Option UserCounter) :=
  await (Op.findOne userId)

def getUserCounter (userId : String) : Method (Option UserCounter) := userCounterModel.findOne userId

def grpcGetUserCounter (userId : String) : Method CounterReply := do
  let counter ← getUserCounter userId
  pure { userId, taskCount := (counter.map (·.taskCount)).getD 0 }

/-- The effect of an operation on the counters, and its reply. -/
def exec (counters : List UserCounter) : (op : Op) → Outcome →
    Option (List UserCounter × Except Thrown op.Value)
  | .findOne userId, outcome =>
      respond True outcome counters counters (counters.find? (·.userId = userId))

/-- The code of the handler. -/
def programs : Flow (promises Op Op.Value Thrown) Unit String
    (Suspended (promises Op Op.Value Thrown) Unit (Except Thrown CounterReply))
    (Except Thrown CounterReply) :=
  .ofPrograms fun userId => (grpcGetUserCounter userId).run

end WorkflowHub.AnalyticsService
