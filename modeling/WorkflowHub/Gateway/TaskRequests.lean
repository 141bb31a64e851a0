import WorkflowHub.AuthService.Credentials
import WorkflowHub.Gateway.Controllers
import WorkflowHub.Gateway.Guards
import WorkflowHub.Pipeline.Refinement
import WorkflowHub.Platform.Json

/-!
# From a request to its task

`POST task/create` from end to end: the auth service hands out tokens, the guards of the gateway ask
each request for one, the handler sends the body to the task service as a task of the user the token
is for, and what the task service commits goes on to the two consumers. The calls of `create` are
those for what handlers have sent (`Called`), which is what requests ask for that have passed the
guards (`Sent`), and a client is told the result of its call (`Replied`).
-/

set_option autoImplicit false

namespace WorkflowHub.Identity

open Processes

/-! ## The handler -/

/-- A request that the guards and the validation pipe have let through, for this user. -/
structure Admission where
  body : Controllers.TaskDto
  userId : String
  deriving DecidableEq, Repr

/-- The code of the handlers, `TaskController.create`. -/
def handlers : Flow (promises Controllers.Op Controllers.Op.Value Grpc.CallError) Unit Admission
    (Suspended (promises Controllers.Op Controllers.Op.Value Grpc.CallError) Unit
      (Except Thrown Gateway.TaskReply)) (Except Thrown Gateway.TaskReply) :=
  .ofPrograms fun admission => Controllers.TaskController.create admission.body admission.userId

/-- The circuit breaker and the transport reject a call with any error, or hand on a reply. -/
def handlerSite : Site (promises Controllers.Op Controllers.Op.Value Grpc.CallError) Unit Unit
    Admission (Except Thrown Gateway.TaskReply) (Except Grpc.CallError Gateway.TaskReply) Empty where
  load _ _ := ()
  store world _ _ := world
  start world _ _ := some world
  exec world _ _
    | .createTask _, reply => some (world, reply)
    | _, _ => none
  finish world _ _ _ := world
  crash world _ _ := world
  env _ event := nomatch event

abbrev HandlerSlot : Type :=
  Slot Admission (Suspended (promises Controllers.Op Controllers.Op.Value Grpc.CallError) Unit
    (Except Thrown Gateway.TaskReply)) (Except Thrown Gateway.TaskReply)

abbrev Handlers : Type :=
  Pool Unit Admission (Suspended (promises Controllers.Op Controllers.Op.Value Grpc.CallError) Unit
    (Except Thrown Gateway.TaskReply)) (Except Thrown Gateway.TaskReply)

abbrev handlerStep : Handlers → Event Admission (Except Grpc.CallError Gateway.TaskReply) Empty →
    Option Handlers :=
  Pool.step handlerSite handlers

/-- The task it asks for. -/
def Admission.taskBody (admission : Admission) : TaskService.TaskBody :=
  ⟨admission.userId, admission.body.title, admission.body.description⟩

/-- What a handler has sent when it awaits a reply. -/
def sentBy : HandlerSlot → Option TaskService.TaskBody
  | .running _ ⟨.createTask body, _⟩ => some body
  | _ => none

/-- `_id.toString()`, which is never empty. -/
def replyId (id : ObjectId) : Gateway.ReplyId := ⟨id.toString, id.toString_ne_empty⟩

/-- What `TaskServiceController.grpcCreateTask` makes of the result of `create`. -/
def createTaskReply (message : String) (task : TaskService.Task) : Gateway.TaskReply where
  id := some (replyId task.id)
  title := task.title
  description := task.description
  userId := task.userId
  message := message

/-! ## The system -/

/-- The parts of the whole, with what connects them: the body of each request, what its handler has
sent, and the call of `create` that this has led to. Two fields are history: the tokens that were
handed out, and the bodies. -/
structure State where
  auth : AuthService.State
  tokens : List AuthService.Token
  guards : Guards.State
  bodies : ℕ → Json
  handlers : Handlers
  sent : ℕ → Option TaskService.TaskBody
  calls : ℕ → Option ℕ
  pipeline : Pipeline.State

def State.initial : State where
  auth := .initial {}
  tokens := []
  guards := .initial {}
  bodies _ := .null
  handlers := .initial ()
  sent _ := none
  calls _ := none
  pipeline := .initial

inductive Happening where
  /-- Something happens in the auth service. -/
  | auth (event : AuthService.Happening)
  /-- A request comes. -/
  | arrives (pid : ℕ) (request : Guards.Call) (body : Json)
  /-- Something happens to a request among the guards. -/
  | guards (event : Guards.Happening)
  /-- The handler of the route gets a request. -/
  | handles (pid : ℕ)
  /-- The task service gets what a handler has sent, in time or not. -/
  | serves (pid caller : ℕ)
  /-- The reply of the task service comes in time. -/
  | replies (pid : ℕ)
  /-- The call of a handler is rejected. -/
  | fails (pid : ℕ) (err : Grpc.CallError)
  | crashes (pid : ℕ)
  /-- Something else happens in the task service or the consumers. -/
  | pipeline (event : Pipeline.Happening)

/-- The token a call of the auth service has ended with. -/
def handedOut {Pc : Type} :
    Slot AuthService.Call Pc (Except Thrown AuthService.Reply) → Option AuthService.Token
  | .finished _ (.ok (.registered _ _ token)) | .finished _ (.ok (.loggedIn _ token)) => some token
  | _ => none

/-- The request as its handler gets it: with a user, and a body the pipe has let through. -/
def admission (pipe : Json → Except Thrown Controllers.TaskDto) (body : Json) {Pc : Type} :
    Slot Guards.Call Pc (Except Thrown Guards.Request) → Option Admission
  | .finished _ (.ok request) =>
      match request.user, pipe body with
      | some payload, .ok dto => some ⟨dto, payload.id⟩
      | _, _ => none
  | _ => none

/-- The reply of a call of `create` that has returned a task. -/
def served {Pc : Type} :
    Slot TaskService.Call Pc (Except Thrown TaskService.Reply) → Option Gateway.TaskReply
  | .finished _ (.ok (.created message task)) => some (createTaskReply message task)
  | _ => none

/-- A call of `create` starts. -/
def Creates : Pipeline.Happening → Bool
  | .taskService (.call _ (.create _)) => true
  | _ => false

def arrival : Guards.Happening → Bool
  | .call _ _ => true
  | _ => false

section Step

variable (verify : String → Except Thrown Guards.Payload)
  (pipe : Json → Except Thrown Controllers.TaskDto)

/-- `create` is called for what a handler has sent, once, and by nobody else. -/
def step (state : State) : Happening → Option State
  | .auth event => do
      let auth ← AuthService.step state.auth event
      let token := do handedOut (auth.slots (← event.pid?))
      some { state with auth, tokens := state.tokens ++ token.toList }
  | .arrives pid request body => do
      let guards ← Guards.step verify state.guards (.call pid request)
      some { state with guards, bodies := Function.update state.bodies pid body }
  | .guards event =>
      if arrival event then none
      else do
        let guards ← Guards.step verify state.guards event
        some { state with guards }
  | .handles pid => do
      let admission ← admission pipe (state.bodies pid) (state.guards.slots pid)
      let handlers ← handlerStep state.handlers (.call pid admission)
      some { state with
        handlers, sent := Function.update state.sent pid (sentBy (handlers.slots pid)) }
  | .serves pid caller =>
      match state.sent pid, state.calls pid with
      | some body, none => do
          let pipeline ← Pipeline.step state.pipeline (.taskService (.call caller (.create body)))
          some { state with pipeline, calls := Function.update state.calls pid (some caller) }
      | _, _ => none
  | .replies pid => do
      let caller ← state.calls pid
      let reply ← served (state.pipeline.taskService.slots caller)
      let handlers ← handlerStep state.handlers (.step pid (.ok reply))
      some { state with handlers }
  | .fails pid err => do
      let handlers ← handlerStep state.handlers (.step pid (.error err))
      some { state with handlers }
  | .crashes pid => do
      let handlers ← handlerStep state.handlers (.crash pid none)
      some { state with handlers }
  | .pipeline event =>
      if Creates event then none
      else do
        let pipeline ← Pipeline.step state.pipeline event
        some { state with pipeline }

/-- Hashes are those of bcrypt, and nobody forges a token: what a request carries, if it is valid,
was handed out to the user it is for. -/
def Trusted (Hashes : (password : String) → (rounds : ℕ) → (digest : String) → Prop)
    (state : State) : Happening → Prop
  | .auth event =>
      AuthService.Authentic (.ofHashes Hashes) (state.auth.observe AuthService.programs) event
  | .arrives _ request _ =>
      ∀ id ∈ request.bearer verify, ∃ token ∈ state.tokens, token.id.toString = id
  | _ => True

end Step

/-! ## What a step can be -/

section Steps

variable {verify : String → Except Thrown Guards.Payload}
  {pipe : Json → Except Thrown Controllers.TaskDto} {before after : State}

theorem step_auth {event : AuthService.Happening}
    (taken : step verify pipe before (.auth event) = some after) :
    ∃ auth tokens, AuthService.step before.auth event = some auth ∧
      after = { before with auth, tokens := before.tokens ++ tokens } ∧
      ∀ token ∈ tokens, ∃ pid ∈ event.pid?, handedOut (auth.slots pid) = some token := by
  obtain ⟨auth, stepped, taken⟩ := Option.bind_eq_some_iff.mp taken
  obtain rfl := Option.some.inj taken
  refine ⟨auth, _, stepped, rfl, fun token fresh => ?_⟩
  obtain ⟨pid, mine, found⟩ := Option.bind_eq_some_iff.mp (Option.mem_toList.mp fresh)
  exact ⟨pid, mine, found⟩

theorem step_arrives {pid : ℕ} {request : Guards.Call} {body : Json}
    (taken : step verify pipe before (.arrives pid request body) = some after) :
    ∃ guards, Guards.step verify before.guards (.call pid request) = some guards ∧
      after = { before with guards, bodies := Function.update before.bodies pid body } := by
  obtain ⟨guards, stepped, taken⟩ := Option.bind_eq_some_iff.mp taken
  exact ⟨guards, stepped, (Option.some.inj taken).symm⟩

theorem step_guards {event : Guards.Happening}
    (taken : step verify pipe before (.guards event) = some after) :
    arrival event = false ∧ ∃ guards, Guards.step verify before.guards event = some guards ∧
      after = { before with guards } := by
  simp only [step, Option.ite_none_left_eq_some, Bool.not_eq_true] at taken
  obtain ⟨inside, taken⟩ := taken
  obtain ⟨guards, stepped, taken⟩ := Option.bind_eq_some_iff.mp taken
  exact ⟨inside, guards, stepped, (Option.some.inj taken).symm⟩

theorem step_handles {pid : ℕ} (taken : step verify pipe before (.handles pid) = some after) :
    ∃ admitted handlers,
      admission pipe (before.bodies pid) (before.guards.slots pid) = some admitted ∧
      handlerStep before.handlers (.call pid admitted) = some handlers ∧
      after = { before with
        handlers, sent := Function.update before.sent pid (sentBy (handlers.slots pid)) } := by
  obtain ⟨admitted, found, taken⟩ := Option.bind_eq_some_iff.mp taken
  obtain ⟨handlers, stepped, taken⟩ := Option.bind_eq_some_iff.mp taken
  exact ⟨admitted, handlers, found, stepped, (Option.some.inj taken).symm⟩

theorem step_serves {pid caller : ℕ}
    (taken : step verify pipe before (.serves pid caller) = some after) :
    ∃ body pipeline, before.sent pid = some body ∧ before.calls pid = none ∧
      Pipeline.step before.pipeline (.taskService (.call caller (.create body))) = some pipeline ∧
      after = { before with
        pipeline, calls := Function.update before.calls pid (some caller) } := by
  simp only [step] at taken
  split at taken
  · rename_i sent called
    obtain ⟨pipeline, stepped, taken⟩ := Option.bind_eq_some_iff.mp taken
    exact ⟨_, pipeline, sent, called, stepped, (Option.some.inj taken).symm⟩
  · cases taken

theorem step_replies {pid : ℕ} (taken : step verify pipe before (.replies pid) = some after) :
    ∃ caller reply handlers, before.calls pid = some caller ∧
      served (before.pipeline.taskService.slots caller) = some reply ∧
      handlerStep before.handlers (.step pid (.ok reply)) = some handlers ∧
      after = { before with handlers } := by
  obtain ⟨caller, called, taken⟩ := Option.bind_eq_some_iff.mp taken
  obtain ⟨reply, found, taken⟩ := Option.bind_eq_some_iff.mp taken
  obtain ⟨handlers, stepped, taken⟩ := Option.bind_eq_some_iff.mp taken
  exact ⟨caller, reply, handlers, called, found, stepped, (Option.some.inj taken).symm⟩

theorem step_fails {pid : ℕ} {err : Grpc.CallError}
    (taken : step verify pipe before (.fails pid err) = some after) :
    ∃ handlers, handlerStep before.handlers (.step pid (.error err)) = some handlers ∧
      after = { before with handlers } := by
  obtain ⟨handlers, stepped, taken⟩ := Option.bind_eq_some_iff.mp taken
  exact ⟨handlers, stepped, (Option.some.inj taken).symm⟩

theorem step_crashes {pid : ℕ} (taken : step verify pipe before (.crashes pid) = some after) :
    ∃ handlers, handlerStep before.handlers (.crash pid none) = some handlers ∧
      after = { before with handlers } := by
  obtain ⟨handlers, stepped, taken⟩ := Option.bind_eq_some_iff.mp taken
  exact ⟨handlers, stepped, (Option.some.inj taken).symm⟩

theorem step_pipeline {event : Pipeline.Happening}
    (taken : step verify pipe before (.pipeline event) = some after) :
    Creates event = false ∧ ∃ pipeline, Pipeline.step before.pipeline event = some pipeline ∧
      after = { before with pipeline } := by
  simp only [step, Option.ite_none_left_eq_some, Bool.not_eq_true] at taken
  obtain ⟨other, taken⟩ := taken
  obtain ⟨pipeline, stepped, taken⟩ := Option.bind_eq_some_iff.mp taken
  exact ⟨other, pipeline, stepped, (Option.some.inj taken).symm⟩

/-- What a step leaves alone, if it is not a step of that part. -/
structure Frame (before : State) (event : Happening) (after : State) : Prop where
  auth : (∃ event', event = .auth event') ∨
    after.auth = before.auth ∧ after.tokens = before.tokens
  guards : (∃ pid request body, event = .arrives pid request body) ∨
    (∃ event', event = .guards event') ∨
      after.guards = before.guards ∧ after.bodies = before.bodies
  pipeline : (∃ event', Pipeline.step before.pipeline event' = some after.pipeline) ∨
    after.pipeline = before.pipeline

theorem step_frame {event : Happening} (taken : step verify pipe before event = some after) :
    Frame before event after := by
  cases event with
  | auth event =>
      obtain ⟨_, _, _, rfl, _⟩ := step_auth taken
      exact ⟨.inl ⟨event, rfl⟩, .inr (.inr ⟨rfl, rfl⟩), .inr rfl⟩
  | arrives pid request body =>
      obtain ⟨_, _, rfl⟩ := step_arrives taken
      exact ⟨.inr ⟨rfl, rfl⟩, .inl ⟨pid, request, body, rfl⟩, .inr rfl⟩
  | guards event =>
      obtain ⟨_, _, _, rfl⟩ := step_guards taken
      exact ⟨.inr ⟨rfl, rfl⟩, .inr (.inl ⟨event, rfl⟩), .inr rfl⟩
  | handles pid =>
      obtain ⟨_, _, _, _, rfl⟩ := step_handles taken
      exact ⟨.inr ⟨rfl, rfl⟩, .inr (.inr ⟨rfl, rfl⟩), .inr rfl⟩
  | serves pid caller =>
      obtain ⟨_, _, _, _, stepped, rfl⟩ := step_serves taken
      exact ⟨.inr ⟨rfl, rfl⟩, .inr (.inr ⟨rfl, rfl⟩), .inl ⟨_, stepped⟩⟩
  | replies pid =>
      obtain ⟨_, _, _, _, _, _, rfl⟩ := step_replies taken
      exact ⟨.inr ⟨rfl, rfl⟩, .inr (.inr ⟨rfl, rfl⟩), .inr rfl⟩
  | fails pid err =>
      obtain ⟨_, _, rfl⟩ := step_fails taken
      exact ⟨.inr ⟨rfl, rfl⟩, .inr (.inr ⟨rfl, rfl⟩), .inr rfl⟩
  | crashes pid =>
      obtain ⟨_, _, rfl⟩ := step_crashes taken
      exact ⟨.inr ⟨rfl, rfl⟩, .inr (.inr ⟨rfl, rfl⟩), .inr rfl⟩
  | pipeline event =>
      obtain ⟨_, _, stepped, rfl⟩ := step_pipeline taken
      exact ⟨.inr ⟨rfl, rfl⟩, .inr (.inr ⟨rfl, rfl⟩), .inl ⟨_, stepped⟩⟩

end Steps

/-! ## The steps of a handler -/

/-- Where a handler awaits the reply. -/
def awaiting (admission : Admission) :
    Suspended (promises Controllers.Op Controllers.Op.Value Grpc.CallError) Unit
      (Except Thrown Gateway.TaskReply) :=
  ⟨.createTask admission.taskBody, fun reply fields =>
    .done (reply.mapError (Controllers.httpException "Task Creation failed")) fields⟩

theorem handlers_enter (admission : Admission) :
    handlers.enter admission () = ((), .running (awaiting admission)) := by
  show ((), Target.running (Suspended.mk _ _)) = ((), Target.running (Suspended.mk _ _))
  congr 3
  funext reply fields
  cases reply with
  | _ => rfl

section Handlers

variable {before after : Handlers} {pid : ℕ} {admitted : Admission}

theorem handler_starts (taken : handlerStep before (.call pid admitted) = some after) :
    before.slots pid = .free ∧
      after.slots = Function.update before.slots pid (.running admitted (awaiting admitted)) := by
  cases Pool.stepped taken with
  | call free started =>
      refine ⟨free, ?_⟩
      show Function.update before.slots pid
        (Pool.land handlerSite _ pid admitted (handlers.enter admitted ())).2 = _
      rw [handlers_enter]
      rfl

theorem handler_ends {reply : Except Grpc.CallError Gateway.TaskReply}
    (awaits : ∀ admitted suspended, before.slots pid = .running admitted suspended →
      suspended = awaiting admitted)
    (taken : handlerStep before (.step pid reply) = some after) :
    ∃ admitted, after.slots = Function.update before.slots pid (.finished admitted
      (reply.mapError (Controllers.httpException "Task Creation failed"))) := by
  cases Pool.stepped taken with
  | @step _ _ admitted suspended world _ running answered =>
      obtain rfl := awaits _ _ running
      cases answered
      exact ⟨admitted, rfl⟩

theorem handler_crashes (taken : handlerStep before (.crash pid none) = some after) :
    ∃ admitted, after.slots = Function.update before.slots pid (.crashed admitted) := by
  cases Pool.stepped taken with
  | crashPending running => exact ⟨_, rfl⟩

end Handlers

/-! ## What goes on as it is -/

/-- A request with a user and a body has passed the guards. -/
theorem admission_cases {pipe : Json → Except Thrown Controllers.TaskDto} {body : Json} {Pc : Type}
    {slot : Slot Guards.Call Pc (Except Thrown Guards.Request)} {admitted : Admission}
    (found : admission pipe body slot = some admitted) :
    ∃ call request payload, slot = .finished call (.ok request) ∧ request.user = some payload ∧
      pipe body = .ok admitted.body ∧ payload.id = admitted.userId := by
  simp only [admission] at found
  split at found
  · rename_i call request
    split at found
    · rename_i payload dto user passed
      cases found
      exact ⟨call, request, payload, rfl, user, passed, rfl⟩
    · cases found
  · cases found

theorem handedOut_cases {Pc : Type}
    {slot : Slot AuthService.Call Pc (Except Thrown AuthService.Reply)} {token : AuthService.Token} (found : handedOut slot = some token) :
    ∃ call out, slot = .finished call out ∧
      ((∃ message user, out = .ok (.registered message user token)) ∨
        ∃ message, out = .ok (.loggedIn message token)) := by
  simp only [handedOut] at found
  split at found
  · cases found
    exact ⟨_, _, rfl, .inl ⟨_, _, rfl⟩⟩
  · cases found
    exact ⟨_, _, rfl, .inr ⟨_, rfl⟩⟩
  · cases found

theorem served_cases {Pc : Type} {slot : Slot TaskService.Call Pc (Except Thrown TaskService.Reply)}
    {reply : Gateway.TaskReply} (found : served slot = some reply) :
    ∃ call message task, slot = .finished call (.ok (.created message task)) ∧
      reply = createTaskReply message task := by
  simp only [served] at found
  split at found
  · cases found
    exact ⟨_, _, _, rfl, rfl⟩
  · cases found

section Stays

variable {before after : Pipeline.State} {event : Pipeline.Happening} {caller : ℕ}

/-- What the task service does in a step of the pipeline, if anything. -/
theorem pipeline_taskService (taken : Pipeline.step before event = some after) :
    after.taskService = before.taskService ∨ ∃ event', event = .taskService event' ∧
      TaskService.step before.taskService event' = some after.taskService := by
  rcases Pipeline.step_cases taken with ⟨event', rfl, stepped, _⟩ | ⟨_, _, _, _, same⟩
  · exact .inr ⟨event', rfl, stepped⟩
  · exact .inl same

theorem call?_stays {call : TaskService.Call} (taken : Pipeline.step before event = some after)
    (called : (before.taskService.slots caller).call? = some call) :
    (after.taskService.slots caller).call? = some call := by
  rcases pipeline_taskService taken with same | ⟨event', rfl, stepped⟩
  · rw [same, called]
  · exact Pool.step_call? stepped called

theorem call?_origin {call : TaskService.Call} (taken : Pipeline.step before event = some after)
    (called : (after.taskService.slots caller).call? = some call) :
    (before.taskService.slots caller).call? = some call ∨
      event = .taskService (.call caller call) := by
  rcases pipeline_taskService taken with same | ⟨event', rfl, stepped⟩
  · exact .inl (same ▸ called)
  · exact (Pool.called_of_step stepped called).imp_right (congrArg _)

theorem served_stays {reply : Gateway.TaskReply} (taken : Pipeline.step before event = some after)
    (found : served (before.taskService.slots caller) = some reply) :
    served (after.taskService.slots caller) = some reply := by
  rcases pipeline_taskService taken with same | ⟨event', rfl, stepped⟩
  · rw [same, found]
  · obtain ⟨call, message, task, finished, rfl⟩ := served_cases found
    rw [Pool.step_finished stepped finished]
    rfl

end Stays

/-! ## From requests to calls -/

section Invariants

variable (pipe : Json → Except Thrown Controllers.TaskDto) (state : State)

/-- What a handler has sent is what its request asks for. -/
structure Sent : Prop where
  waiting : ∀ pid, state.handlers.slots pid = .free → state.sent pid = none
  awaits : ∀ pid admitted suspended, state.handlers.slots pid = .running admitted suspended →
    suspended = awaiting admitted
  asked : ∀ pid, ∀ body ∈ state.sent pid, ∃ admitted,
    admission pipe (state.bodies pid) (state.guards.slots pid) = some admitted ∧
      body = admitted.taskBody

/-- The calls of `create` are those for what handlers have sent, one for each. -/
structure Called : Prop where
  sent : ∀ pid, ∀ caller ∈ state.calls pid, ∃ body ∈ state.sent pid,
    (state.pipeline.taskService.slots caller).call? = some (.create body)
  single : ∀ {first second caller}, caller ∈ state.calls first → caller ∈ state.calls second →
    first = second
  origin : ∀ {caller body},
    (state.pipeline.taskService.slots caller).call? = some (.create body) →
      ∃ pid, caller ∈ state.calls pid

/-- What a handler has replied is the result of its call. -/
def Replied : Prop :=
  ∀ pid admitted reply, state.handlers.slots pid = .finished admitted (.ok reply) →
    ∃ caller ∈ state.calls pid, served (state.pipeline.taskService.slots caller) = some reply

end Invariants

section Steps

variable {verify : String → Except Thrown Guards.Payload}
  {pipe : Json → Except Thrown Controllers.TaskDto} {before after : State} {event : Happening}

/-- A step leaves what has passed the guards, and its body, alone. -/
theorem admission_stays (taken : step verify pipe before event = some after) {pid : ℕ}
    {admitted : Admission}
    (found : admission pipe (before.bodies pid) (before.guards.slots pid) = some admitted) :
    admission pipe (after.bodies pid) (after.guards.slots pid) = some admitted := by
  obtain ⟨call, request, payload, finished, _⟩ := admission_cases found
  rcases (step_frame taken).guards with ⟨other, _, _, rfl⟩ | ⟨_, rfl⟩ | ⟨guards, bodies⟩
  · obtain ⟨guards, stepped, rfl⟩ := step_arrives taken
    have different : pid ≠ other := by
      rintro rfl
      rw [(Pool.step_call stepped).1] at finished
      cases finished
    have stays : guards.slots pid = before.guards.slots pid :=
      (Pool.step_finished stepped finished).trans finished.symm
    simpa only [Function.update_of_ne different, stays] using found
  · obtain ⟨_, guards, stepped, rfl⟩ := step_guards taken
    have stays : guards.slots pid = before.guards.slots pid :=
      (Pool.step_finished stepped finished).trans finished.symm
    simpa only [stays] using found
  · rw [guards, bodies]
    exact found

namespace Sent

/-- A step that leaves the handlers alone keeps it. -/
theorem congr (holds : Sent pipe before) (taken : step verify pipe before event = some after)
    (handlers : after.handlers = before.handlers) (sent : after.sent = before.sent) :
    Sent pipe after := by
  refine ⟨?_, ?_, fun pid body found => ?_⟩
  · rw [handlers, sent]
    exact holds.waiting
  · rw [handlers]
    exact holds.awaits
  · rw [sent] at found
    obtain ⟨admitted, passed, same⟩ := holds.asked pid body found
    exact ⟨admitted, admission_stays taken passed, same⟩

/-- So does one that ends a handler. -/
theorem ended (holds : Sent pipe before) (taken : step verify pipe before event = some after)
    {pid : ℕ} {slot : HandlerSlot} (stopped : slot.isRunning = false)
    (used : slot.call?.isSome = true)
    (handlers : after.handlers.slots = Function.update before.handlers.slots pid slot)
    (sent : after.sent = before.sent) : Sent pipe after := by
  refine ⟨fun other free => ?_, fun other admitted suspended running => ?_,
    fun other body found => ?_⟩
  · rw [handlers] at free
    by_cases same : other = pid
    · subst same
      rw [Function.update_self] at free
      rw [free] at used
      cases used
    · rw [Function.update_of_ne same] at free
      rw [sent, holds.waiting other free]
  · rw [handlers] at running
    by_cases same : other = pid
    · subst same
      rw [Function.update_self] at running
      exact absurd running (Slot.ne_running stopped)
    · rw [Function.update_of_ne same] at running
      exact holds.awaits other admitted suspended running
  · rw [sent] at found
    obtain ⟨admitted, passed, same⟩ := holds.asked other body found
    exact ⟨admitted, admission_stays taken passed, same⟩

/-- A handler that starts sends what its request asks for. -/
theorem handles (holds : Sent pipe before) {pid : ℕ}
    (taken : step verify pipe before (.handles pid) = some after) : Sent pipe after := by
  obtain ⟨admitted, handlers, passed, started, rfl⟩ := step_handles taken
  obtain ⟨_, slots⟩ := handler_starts started
  refine ⟨fun other free => ?_, fun other admitted' suspended running => ?_,
    fun other body found => ?_⟩
  · simp only [slots] at free
    by_cases same : other = pid
    · subst same
      rw [Function.update_self] at free
      cases free
    · rw [Function.update_of_ne same] at free
      exact (Function.update_of_ne same ..).trans (holds.waiting other free)
  · simp only [slots] at running
    by_cases same : other = pid
    · subst same
      rw [Function.update_self] at running
      cases running
      rfl
    · rw [Function.update_of_ne same] at running
      exact holds.awaits other admitted' suspended running
  · by_cases same : other = pid
    · subst same
      simp only [slots, Function.update_self] at found
      cases found
      exact ⟨admitted, passed, rfl⟩
    · simp only [Function.update_of_ne same] at found
      exact holds.asked other body found

theorem step (holds : Sent pipe before) (taken : step verify pipe before event = some after) :
    Sent pipe after := by
  cases event with
  | auth event =>
      obtain ⟨_, _, _, rfl, _⟩ := step_auth taken
      exact holds.congr taken rfl rfl
  | arrives other request body =>
      obtain ⟨_, _, rfl⟩ := step_arrives taken
      exact holds.congr taken rfl rfl
  | guards event =>
      obtain ⟨_, _, _, rfl⟩ := step_guards taken
      exact holds.congr taken rfl rfl
  | handles pid => exact holds.handles taken
  | serves pid caller =>
      obtain ⟨_, _, _, _, _, rfl⟩ := step_serves taken
      exact holds.congr taken rfl rfl
  | replies pid =>
      obtain ⟨_, _, _, _, _, stepped, rfl⟩ := step_replies taken
      obtain ⟨_, slots⟩ := handler_ends (holds.awaits pid) stepped
      exact holds.ended taken rfl rfl slots rfl
  | fails pid err =>
      obtain ⟨_, stepped, rfl⟩ := step_fails taken
      obtain ⟨_, slots⟩ := handler_ends (holds.awaits pid) stepped
      exact holds.ended taken rfl rfl slots rfl
  | crashes pid =>
      obtain ⟨_, stepped, rfl⟩ := step_crashes taken
      obtain ⟨_, slots⟩ := handler_crashes stepped
      exact holds.ended taken rfl rfl slots rfl
  | pipeline event =>
      obtain ⟨_, _, _, rfl⟩ := step_pipeline taken
      exact holds.congr taken rfl rfl

end Sent

namespace Called

/-- A step that concerns neither what is sent nor the pipeline keeps it. -/
theorem congr (holds : Called before) (sent : after.sent = before.sent)
    (calls : after.calls = before.calls) (pipeline : after.pipeline = before.pipeline) :
    Called after := by
  refine ⟨?_, ?_, ?_⟩
  · rw [sent, calls, pipeline]
    exact holds.sent
  · rw [calls]
    exact holds.single
  · rw [calls, pipeline]
    exact holds.origin

/-- A handler that starts has no call yet. -/
theorem handles (holds : Called before) (earlier : Sent pipe before) {pid : ℕ}
    (taken : step verify pipe before (.handles pid) = some after) : Called after := by
  obtain ⟨admitted, handlers, passed, started, rfl⟩ := step_handles taken
  refine ⟨fun other caller called => ?_, holds.single, holds.origin⟩
  obtain ⟨body, sent, calls⟩ := holds.sent other caller called
  have different : other ≠ pid := by
    rintro rfl
    rw [earlier.waiting other (handler_starts started).1] at sent
    cases sent
  exact ⟨body, (Function.update_of_ne different ..).trans sent, calls⟩

/-- The task service gets what a handler has sent. -/
theorem serves (holds : Called before) {pid caller : ℕ}
    (taken : step verify pipe before (.serves pid caller) = some after) : Called after := by
  obtain ⟨body, pipeline, sent, silent, stepped, rfl⟩ := step_serves taken
  obtain ⟨free, starts⟩ : before.pipeline.taskService.slots caller = .free ∧
      (pipeline.taskService.slots caller).call? = some (.create body) := by
    obtain ⟨taskService, called, rfl⟩ := Option.map_eq_some_iff.mp stepped
    exact Pool.step_call called
  have unused : ∀ other, caller ∉ before.calls other := by
    intro other called
    obtain ⟨_, _, calls⟩ := holds.sent other caller called
    rw [free] at calls
    cases calls
  have kept : ∀ {other caller'}, caller' ∈ before.calls other →
      Function.update before.calls pid (some caller) other = some caller' := by
    intro other caller' called
    have different : other ≠ pid := by
      rintro rfl
      rw [silent] at called
      cases called
    exact (Function.update_of_ne different ..).trans called
  have cases_call : ∀ {other caller'},
      caller' ∈ Function.update before.calls pid (some caller) other →
        other = pid ∧ caller' = caller ∨ caller' ∈ before.calls other := by
    intro other caller' called
    by_cases same : other = pid
    · subst same
      rw [Function.update_self] at called
      exact .inl ⟨rfl, (Option.mem_some.mp called).symm⟩
    · rw [Function.update_of_ne same] at called
      exact .inr called
  refine ⟨fun other caller' called => ?_, fun {first second caller'} here there => ?_,
    fun {caller' body'} calls => ?_⟩
  · rcases cases_call called with ⟨rfl, rfl⟩ | called
    · exact ⟨body, sent, starts⟩
    · obtain ⟨body', sent', calls⟩ := holds.sent other caller' called
      exact ⟨body', sent', call?_stays stepped calls⟩
  · rcases cases_call here with ⟨rfl, rfl⟩ | earlier
    · rcases cases_call there with ⟨rfl, _⟩ | earlier'
      · rfl
      · exact absurd earlier' (unused second)
    · rcases cases_call there with ⟨rfl, rfl⟩ | earlier'
      · exact absurd earlier (unused first)
      · exact holds.single earlier earlier'
  · rcases call?_origin stepped calls with calls | same
    · obtain ⟨other, called⟩ := holds.origin calls
      exact ⟨other, kept called⟩
    · cases same
      exact ⟨pid, Function.update_self ..⟩

/-- Nothing else of the pipeline calls `create`. -/
theorem pipeline (holds : Called before) {event : Pipeline.Happening}
    (taken : step verify pipe before (.pipeline event) = some after) : Called after := by
  obtain ⟨other, pipeline, stepped, rfl⟩ := step_pipeline taken
  refine ⟨fun pid caller called => ?_, holds.single, fun {caller body} calls => ?_⟩
  · obtain ⟨body, sent, calls⟩ := holds.sent pid caller called
    exact ⟨body, sent, call?_stays stepped calls⟩
  · rcases call?_origin stepped calls with calls | rfl
    · exact holds.origin calls
    · cases other

theorem step (holds : Called before) (earlier : Sent pipe before)
    (taken : step verify pipe before event = some after) : Called after := by
  cases event with
  | auth event =>
      obtain ⟨_, _, _, rfl, _⟩ := step_auth taken
      exact holds.congr rfl rfl rfl
  | arrives other request body =>
      obtain ⟨_, _, rfl⟩ := step_arrives taken
      exact holds.congr rfl rfl rfl
  | guards event =>
      obtain ⟨_, _, _, rfl⟩ := step_guards taken
      exact holds.congr rfl rfl rfl
  | handles pid => exact holds.handles earlier taken
  | serves pid caller => exact holds.serves taken
  | replies pid =>
      obtain ⟨_, _, _, _, _, _, rfl⟩ := step_replies taken
      exact holds.congr rfl rfl rfl
  | fails pid err =>
      obtain ⟨_, _, rfl⟩ := step_fails taken
      exact holds.congr rfl rfl rfl
  | crashes pid =>
      obtain ⟨_, _, rfl⟩ := step_crashes taken
      exact holds.congr rfl rfl rfl
  | pipeline event => exact holds.pipeline taken

end Called

namespace Replied

/-- A step after which a handler that has replied had done so before keeps it. -/
theorem congr (holds : Replied before)
    (handlers : ∀ pid admitted reply,
      after.handlers.slots pid = .finished admitted (.ok reply) →
        before.handlers.slots pid = .finished admitted (.ok reply))
    (calls : after.calls = before.calls) (pipeline : after.pipeline = before.pipeline) :
    Replied after := by
  intro pid admitted reply finished
  rw [calls, pipeline]
  exact holds pid admitted reply (handlers pid admitted reply finished)

/-- So does one that leaves a handler without a reply. -/
theorem other (holds : Replied before) {pid : ℕ} {slot : HandlerSlot}
    (silent : ∀ admitted reply, slot ≠ .finished admitted (.ok reply))
    (handlers : after.handlers.slots = Function.update before.handlers.slots pid slot)
    (calls : after.calls = before.calls) (pipeline : after.pipeline = before.pipeline) :
    Replied after := by
  refine holds.congr (fun pid' admitted reply finished => ?_) calls pipeline
  rw [handlers] at finished
  by_cases same : pid' = pid
  · subst same
    rw [Function.update_self] at finished
    exact absurd finished (silent admitted reply)
  · rwa [Function.update_of_ne same] at finished

/-- A handler gets the reply of its call. -/
theorem replies (holds : Replied before) (earlier : Sent pipe before) {pid : ℕ}
    (taken : step verify pipe before (.replies pid) = some after) : Replied after := by
  obtain ⟨caller, reply, handlers, called, found, stepped, rfl⟩ := step_replies taken
  obtain ⟨admitted, slots⟩ := handler_ends (earlier.awaits pid) stepped
  intro other admitted' reply' finished
  simp only [slots] at finished
  by_cases same : other = pid
  · subst same
    rw [Function.update_self] at finished
    cases finished
    exact ⟨caller, called, found⟩
  · rw [Function.update_of_ne same] at finished
    exact holds other admitted' reply' finished

theorem step (holds : Replied before) (earlier : Sent pipe before)
    (taken : step verify pipe before event = some after) : Replied after := by
  cases event with
  | auth event =>
      obtain ⟨_, _, _, rfl, _⟩ := step_auth taken
      exact holds
  | arrives other request body =>
      obtain ⟨_, _, rfl⟩ := step_arrives taken
      exact holds
  | guards event =>
      obtain ⟨_, _, _, rfl⟩ := step_guards taken
      exact holds
  | handles pid =>
      obtain ⟨_, _, _, started, rfl⟩ := step_handles taken
      exact holds.other (by simp) (handler_starts started).2 rfl rfl
  | serves pid caller =>
      obtain ⟨_, pipeline, _, silent, stepped, rfl⟩ := step_serves taken
      intro other admitted reply finished
      obtain ⟨caller', called, found⟩ := holds other admitted reply finished
      have different : other ≠ pid := by
        rintro rfl
        rw [silent] at called
        cases called
      exact ⟨caller', (Function.update_of_ne different ..).trans called, served_stays stepped found⟩
  | replies pid => exact holds.replies earlier taken
  | fails pid err =>
      obtain ⟨_, stepped, rfl⟩ := step_fails taken
      obtain ⟨_, slots⟩ := handler_ends (earlier.awaits pid) stepped
      exact holds.other (by simp [Except.mapError]) slots rfl rfl
  | crashes pid =>
      obtain ⟨_, stepped, rfl⟩ := step_crashes taken
      obtain ⟨_, slots⟩ := handler_crashes stepped
      exact holds.other (by simp) slots rfl rfl
  | pipeline event =>
      obtain ⟨_, _, stepped, rfl⟩ := step_pipeline taken
      intro pid admitted reply finished
      obtain ⟨caller, called, found⟩ := holds pid admitted reply finished
      exact ⟨caller, called, served_stays stepped found⟩

end Replied

end Steps

end WorkflowHub.Identity
