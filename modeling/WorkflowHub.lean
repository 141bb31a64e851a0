import WorkflowHub.Processes.Resumption
import WorkflowHub.Processes.Paths
import WorkflowHub.Processes.Pool
import WorkflowHub.Processes.Tracking
import WorkflowHub.Processes.Assertions
import WorkflowHub.Processes.Feed
import WorkflowHub.Processes.Atomic
import WorkflowHub.Processes.Handler
import WorkflowHub.Processes.Executions
import WorkflowHub.Processes.Scripts
import WorkflowHub.Processes.Sequential
import WorkflowHub.Processes.Noninterference
import WorkflowHub.Platform.Values
import WorkflowHub.Platform.TaskCreated
import WorkflowHub.Platform.Remote
import WorkflowHub.Platform.Redis
import WorkflowHub.Platform.Grpc
import WorkflowHub.TaskService.Documents
import WorkflowHub.TaskService.Service
import WorkflowHub.TaskService.OutboxPoller
import WorkflowHub.TaskService.System
import WorkflowHub.TaskService.ControlFlow
import WorkflowHub.TaskService.Ownership
import WorkflowHub.TaskService.Provenance
import WorkflowHub.TaskService.Transactions
import WorkflowHub.TaskService.DualWrite
import WorkflowHub.TaskService.AtomicStore
import WorkflowHub.TaskService.Listing
import WorkflowHub.TaskService.Delivery
import WorkflowHub.TaskService.Polling
import WorkflowHub.TaskService.SingleFlight
import WorkflowHub.TaskService.Replicas
import WorkflowHub.TaskService.Quarantine
import WorkflowHub.TaskService.Publication
import WorkflowHub.TaskService.ErrorPath
import WorkflowHub.TaskService.HeadOfLine
import WorkflowHub.TaskService.Drain
import WorkflowHub.TaskService.Recovery
import WorkflowHub.Consumers.Service
import WorkflowHub.Consumers.System
import WorkflowHub.Consumers.ControlFlow
import WorkflowHub.Consumers.Idempotency
import WorkflowHub.Consumers.Redelivery
import WorkflowHub.Consumers.Leftovers
import WorkflowHub.Pipeline.System
import WorkflowHub.Pipeline.Counting
import WorkflowHub.Pipeline.Refinement
import WorkflowHub.Pipeline.Acceptance
import WorkflowHub.AuthService.ControlFlow
import WorkflowHub.AuthService.Registration
import WorkflowHub.AuthService.Login
import WorkflowHub.AuthService.Credentials
import WorkflowHub.NotificationQueue.Creation
import WorkflowHub.Throttling.RateCap
import WorkflowHub.Throttling.Rejections
import WorkflowHub.Throttling.Repair
import WorkflowHub.Throttling.Evasion
import WorkflowHub.Gateway.RegistrationSaga
import WorkflowHub.Gateway.SagaControlFlow
import WorkflowHub.Gateway.SagaInvariant
import WorkflowHub.Gateway.Atomicity
import WorkflowHub.Gateway.Compensation
import WorkflowHub.Gateway.Residue
import WorkflowHub.Gateway.Services
import WorkflowHub.Gateway.Controllers
import WorkflowHub.Gateway.ErrorStatus
import WorkflowHub.Gateway.ErrorValues
import WorkflowHub.Gateway.FailureFilter
import WorkflowHub.Gateway.TaskListing
import WorkflowHub.Gateway.Guards
import WorkflowHub.Gateway.UserThrottling
import WorkflowHub.Gateway.TaskRequests
import WorkflowHub.Gateway.Identity
import WorkflowHub.Logging.RoundTrip
import WorkflowHub.Logging.Tracing
import WorkflowHub.CircuitBreaker.Transparency
import WorkflowHub.RabbitMq.Topology
import WorkflowHub.RabbitMq.SetupRuns
import WorkflowHub.RabbitMq.Messages
import WorkflowHub.RabbitMq.Cluster
import WorkflowHub.RabbitMq.RetryCycle
