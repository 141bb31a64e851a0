import WorkflowHub.Gateway.TaskRequests

/-!
# Whose tasks are stored

No service asks another one whether a user exists. That there is one, for every task, notification
and counter, and that it is the one who has asked for the task, is a matter of the whole
(`tasks_identified`).
-/

set_option autoImplicit false

namespace WorkflowHub.Identity

open Processes

/-! ## Every run of the parts -/

section Runs

variable {verify : String → Except Thrown Guards.Payload}
  {pipe : Json → Except Thrown Controllers.TaskDto}
  {Hashes : (password : String) → (rounds : ℕ) → (digest : String) → Prop}
  {C : State → Happening → Prop} {events : List Happening} {state : State}

theorem linked (ran : Path (step verify pipe) C .initial state) :
    Sent pipe state ∧ Called state ∧ Replied state := by
  refine ran.invariant (P := fun state => Sent pipe state ∧ Called state ∧ Replied state)
    ⟨⟨fun _ _ => rfl, ?_, ?_⟩, ⟨?_, ?_, ?_⟩, ?_⟩ ?_
  · intro pid admitted suspended running
    cases running
  · intro pid body sent
    cases sent
  · intro pid caller called
    cases called
  · intro first second caller called
    cases called
  · intro caller body called
    cases called
  · intro pid admitted reply finished
    cases finished
  · rintro before event after _ ⟨sent, called, replied⟩ taken
    exact ⟨sent.step taken, called.step sent taken, replied.step sent taken⟩

/-- What the guards do in a run. -/
theorem guards_ran (ran : Path (step verify pipe) C .initial state) :
    Path (Guards.step verify) Always (.initial {}) state.guards := by
  refine ran.simulated State.guards fun before event after _ _ taken => ?_
  rcases (step_frame taken).guards with ⟨_, _, _, rfl⟩ | ⟨_, rfl⟩ | ⟨guards, _⟩
  · obtain ⟨_, stepped, rfl⟩ := step_arrives taken
    exact .single trivial stepped
  · obtain ⟨_, _, stepped, rfl⟩ := step_guards taken
    exact .single trivial stepped
  · rw [guards]

/-- What the task service and the consumers do. -/
theorem pipeline_ran (ran : Path (step verify pipe) C .initial state) :
    Pipeline.Runs Always Always .initial state.pipeline := by
  refine ran.simulated State.pipeline fun before event after _ _ taken => ?_
  rcases (step_frame taken).pipeline with ⟨event', stepped⟩ | pipeline
  · refine .single ?_ stepped
    cases event' with
    | _ => exact trivial
  · rw [pipeline]

/-- What the auth service does. -/
theorem auth_ran (ran : Path (step verify pipe)
      (fun state event => event ∈ events ∧ Trusted verify Hashes state event) .initial state) :
    Path AuthService.step (fun state event => Happening.auth event ∈ events ∧
      AuthService.Authentic (.ofHashes Hashes) (state.observe AuthService.programs) event)
      (.initial {}) state.auth := by
  refine ran.simulated State.auth fun before event after _ allowed taken => ?_
  rcases (step_frame taken).auth with ⟨event', rfl⟩ | ⟨auth, _⟩
  · obtain ⟨_, _, stepped, rfl, _⟩ := step_auth taken
    exact .single allowed stepped
  · rw [auth]

/-! ## Users -/

/-- The id is that of a user who has registered. -/
def Registered (Hashes : (password : String) → (rounds : ℕ) → (digest : String) → Prop)
    (events : List Happening) (userId : String) : Prop :=
  ∃ user pid body,
    AuthService.Vouched Hashes (fun event => .auth event ∈ events) user pid body ∧
      user.id.toString = userId

/-- Whoever is handed out a token has registered. -/
theorem registered_of_handedOut {auth : AuthService.State} {pid : ℕ} {token : AuthService.Token}
    (ran : Path AuthService.step (fun state event => Happening.auth event ∈ events ∧
      AuthService.Authentic (.ofHashes Hashes) (state.observe AuthService.programs) event)
        (.initial {}) auth)
    (found : handedOut (auth.slots pid) = some token) :
    Registered Hashes events token.id.toString := by
  obtain ⟨call, out, finished, token⟩ := handedOut_cases found
  have issued := (AuthService.vouched_of_path ran).2 finished
  rcases token with ⟨message, user, rfl⟩ | ⟨message, rfl⟩
  · obtain ⟨body, _, vouched, rfl⟩ := issued
    exact ⟨user, pid, body, vouched, rfl⟩
  · obtain ⟨_, user, _, ⟨pid', body', vouched⟩, _, _, rfl⟩ := issued
    exact ⟨user, pid', body', vouched, rfl⟩

/-- The tokens are those of registered users, and so are the requests that carry one. -/
structure Bearers (verify : String → Except Thrown Guards.Payload)
    (Hashes : (password : String) → (rounds : ℕ) → (digest : String) → Prop)
    (events : List Happening) (state : State) : Prop where
  tokens : ∀ token ∈ state.tokens, Registered Hashes events token.id.toString
  requests : ∀ pid call, (state.guards.slots pid).call? = some call →
    .arrives pid call (state.bodies pid) ∈ events ∧
      ∀ id ∈ call.bearer verify, Registered Hashes events id

namespace Bearers

variable {before after : State}

/-- A request that comes carries a token of a registered user, or none that is valid. -/
theorem arrives (holds : Bearers verify Hashes events before) {pid : ℕ} {request : Guards.Call}
    {body : Json} (there : .arrives pid request body ∈ events)
    (trusted : Trusted verify Hashes before (.arrives pid request body))
    (taken : step verify pipe before (.arrives pid request body) = some after) :
    Bearers verify Hashes events after := by
  obtain ⟨guards, stepped, rfl⟩ := step_arrives taken
  refine ⟨holds.tokens, fun other call called => ?_⟩
  rcases Pool.called_of_step stepped called with earlier | same
  · have different : other ≠ pid := by
      rintro rfl
      rw [(Pool.step_call stepped).1] at earlier
      cases earlier
    simpa only [Function.update_of_ne different] using holds.requests other call earlier
  · cases same
    refine ⟨by simpa only [Function.update_self] using there, fun id mine => ?_⟩
    obtain ⟨token, handed, rfl⟩ := trusted id mine
    exact holds.tokens token handed

theorem guards (holds : Bearers verify Hashes events before) {event : Guards.Happening}
    (taken : step verify pipe before (.guards event) = some after) :
    Bearers verify Hashes events after := by
  obtain ⟨inside, guards, stepped, rfl⟩ := step_guards taken
  refine ⟨holds.tokens, fun pid call called => ?_⟩
  rcases Pool.called_of_step stepped called with earlier | rfl
  · exact holds.requests pid call earlier
  · cases inside

end Bearers

theorem bearers (ran : Path (step verify pipe)
    (fun state event => event ∈ events ∧ Trusted verify Hashes state event) .initial state) :
    Bearers verify Hashes events state := by
  refine ran.reached (P := Bearers verify Hashes events) ⟨?_, ?_⟩ ?_
  · intro token handed
    cases handed
  · intro pid call called
    cases called
  rintro before event after earlier allowed holds taken
  have reached := earlier.tail ⟨event, allowed, taken⟩
  rcases (step_frame taken).guards with ⟨pid, request, body, rfl⟩ | ⟨_, rfl⟩ | ⟨guards, bodies⟩
  · exact holds.arrives allowed.1 allowed.2 taken
  · exact holds.guards taken
  · refine ⟨?_, by rw [guards, bodies]; exact holds.requests⟩
    rcases (step_frame taken).auth with ⟨event', rfl⟩ | ⟨_, tokens⟩
    · obtain ⟨auth, tokens, _, rfl, fresh⟩ := step_auth taken
      intro token handed
      rcases List.mem_append.mp handed with old | new
      · exact holds.tokens token old
      · obtain ⟨pid, _, found⟩ := fresh token new
        exact registered_of_handedOut (auth_ran reached) found
    · rw [tokens]
      exact holds.tokens

/-! ## Admission -/

/-- The guards let a request through as that of the user whose valid token it carries. -/
def Vetted (verify : String → Except Thrown Guards.Payload) (call : Guards.Call) :
    Target Throttling.Pc (Except Thrown Guards.Request) → Prop
  | .finished (.ok request) =>
      Guards.JwtAuthGuard.canActivate verify call.request = .ok request
  | _ => True

theorem vetted_keeps (verify : String → Except Thrown Guards.Payload) :
    (Guards.flow verify).Keeps (Vetted verify) := by
  have vetted : ∀ (call : Guards.Call) (target : Target Throttling.Pc (Except Thrown Bool)),
      Vetted verify call (target.map (Guards.afterThrottler verify call)) := by
    intro call target
    cases target with
    | running pc => trivial
    | finished out =>
        cases authentic : Guards.afterThrottler verify call out with
        | error error => simp only [Target.map, authentic, Vetted]
        | ok request =>
            simp only [Target.map, authentic, Vetted]
            rcases out with error | (_ | _)
            · cases authentic
            · cases authentic
            · exact authentic
  exact ⟨fun call fields => vetted call (Throttling.flow.enter call.throttled fields).2,
    fun call pc reply fields _ =>
      vetted call (Throttling.flow.next call.throttled pc reply fields).2⟩

/-- A request that has passed the guards carries a valid token of its user. -/
theorem bearer_of_admission (ran : Path (step verify pipe) C .initial state) {pid : ℕ}
    {admitted : Admission}
    (found : admission pipe (state.bodies pid) (state.guards.slots pid) = some admitted) :
    ∃ call, (state.guards.slots pid).call? = some call ∧
      call.bearer verify = some admitted.userId ∧ pipe (state.bodies pid) = .ok admitted.body := by
  obtain ⟨call, request, payload, finished, user, passed, id⟩ := admission_cases found
  obtain ⟨machine, path, same⟩ := (Guards.implements verify).path (C := Always) (guards_ran ran)
  have holds := ((vetted_keeps verify).valid Guards.site).path (path.mono fun _ _ _ => trivial)
    ⟨trivial, fun _ => trivial⟩
  have authentic : Guards.JwtAuthGuard.canActivate verify call.request = .ok request := by
    have placed := holds.locally pid
    rw [Pool.finished_of_observe same finished] at placed
    exact placed
  refine ⟨call, by rw [finished]; rfl, ?_, passed⟩
  rw [Guards.Call.bearer, authentic, ← id]
  exact congrArg (Option.map _) user

/-! ## Commits -/

/-- What is committed was asked for in the call, and what a call returns was committed by it. -/
structure Truthful (taskService : TaskService.State) : Prop where
  authored : ∀ commit ∈ taskService.world.commits, ∃ body,
    (taskService.slots commit.caller).call? = some (.create body) ∧
      commit.task = body.toTask commit.task.id
  returned : ∀ {pid body message task},
    taskService.slots pid = .finished (.create body) (.ok (.created message task)) →
      ∃ commit ∈ taskService.world.commits, commit.caller = pid ∧ commit.task = task

theorem truthful_of_run {T : TaskService.View → TaskService.Happening → Prop}
    {taskService : TaskService.State} (ran : TaskService.Runs T (.initial {}) taskService) :
    Truthful taskService := by
  obtain ⟨machine, path, same⟩ := TaskService.implements.path ran
  have path : TaskService.FlowRuns T (.initial {}) machine := path
  have holds := TaskService.transactional_holds path
  have owned := holds.globally.owned
  have world : machine.world = taskService.world := congrArg Pool.world same
  rw [world] at owned
  constructor
  · intro commit found
    obtain ⟨_, written, _⟩ := owned.commits commit found
    rw [← world] at written
    obtain ⟨body, called, task⟩ :=
      TaskService.local_authored (holds.locally commit.caller) commit.task written
    exact ⟨body, (Pool.call?_of_observe same).symm.trans called, task⟩
  · intro pid body message task finished
    have ended := Pool.finished_of_observe same finished
    obtain ⟨_, honest⟩ := by
      simpa only [TaskService.transactional, ended] using holds.locally pid
    obtain ⟨committed, written⟩ := honest body rfl message task rfl
    rw [world] at committed written
    obtain ⟨commit, found, rfl⟩ := owned.committed pid committed
    have stored := (owned.commits commit found).2.1.symm.trans written
    exact ⟨commit, found, rfl, Option.some.inj stored⟩

end Runs

/-! ## Every run -/

section Identified

variable (verify : String → Except Thrown Guards.Payload)
  (pipe : Json → Except Thrown Controllers.TaskDto)
  (Hashes : (password : String) → (rounds : ℕ) → (digest : String) → Prop) (events : List Happening)

/-- This request has asked for the task: it came with a token that is valid for the user of the
task, who has registered, and the body has its title and its description. -/
structure Asked (pid : ℕ) (task : TaskService.Task) : Prop where
  arrived : ∃ request body, .arrives pid request body ∈ events ∧
    request.bearer verify = some task.userId ∧ pipe body = .ok ⟨task.title, task.description⟩
  registered : Registered Hashes events task.userId

/-- Who has asked for what is stored and handled, after a run of these events. -/
structure Identified (state : State) : Prop where
  /-- Each task that is committed is that of one request, which has asked for it. -/
  asked : ∀ commit ∈ state.pipeline.taskService.world.commits,
    (∃! pid, commit.caller ∈ state.calls pid) ∧
      ∀ pid, commit.caller ∈ state.calls pid → Asked verify pipe Hashes events pid commit.task
  /-- A request gets at most one task. -/
  once : ∀ pid, {commit | commit ∈ state.pipeline.taskService.world.commits ∧
    commit.caller ∈ state.calls pid}.Subsingleton
  /-- What a client is told to be its task is the one it has got. -/
  told : ∀ pid admitted reply, state.handlers.slots pid = .finished admitted (.ok reply) →
    ∃ commit ∈ state.pipeline.taskService.world.commits, commit.caller ∈ state.calls pid ∧
      ∃ message, reply = createTaskReply message commit.task
  /-- No other tasks are stored than these and those of registrations. -/
  stored : ∀ task ∈ state.pipeline.taskService.world.tasks,
    (∃ commit ∈ state.pipeline.taskService.world.commits, commit.task = task) ∨
      task.id ∈ state.pipeline.taskService.world.sagaTasks
  /-- Users are notified of these tasks, and have these counted. -/
  handled : ∀ group, ∀ item ∈ state.pipeline.feed.handled group,
    ∃ commit ∈ state.pipeline.taskService.world.commits,
      item = ⟨commit.task.id.toString, commit.task.userId⟩

end Identified

/-- **Every task is that of a user who has asked for it.** However the requests of any users, the
calls they lead to and the deliveries to the consumers interleave, and wherever operations fail,
replies are late and processes crash: as long as nobody forges a token, the user of each task that
is stored for a request, or that somebody is notified of or has counted, has registered, and has
asked for just this task with a token of their own. -/
theorem tasks_identified {verify : String → Except Thrown Guards.Payload}
    {pipe : Json → Except Thrown Controllers.TaskDto}
    {Hashes : (password : String) → (rounds : ℕ) → (digest : String) → Prop}
    {events : List Happening} {state : State}
    (ran : run (step verify pipe) .initial events = some state)
    (trusted : Meets (step verify pipe) (Trusted verify Hashes) .initial events) :
    Identified verify pipe Hashes events state := by
  have happened : Meets (step verify pipe) (fun _ event => event ∈ events) .initial events :=
    .of_forall fun _ there _ => there
  have path := Path.of_run ran (happened.and trusted)
  obtain ⟨sent, called, replied⟩ := linked path
  have bearers := bearers path
  have pipeline := pipeline_ran path
  have truthful := truthful_of_run (Pipeline.taskService_ran pipeline)
  have provenance := TaskService.provenance_of_run (Pipeline.taskService_ran pipeline)
  refine ⟨fun commit found => ⟨?_, fun pid mine => ?_⟩, ?_, ?_, provenance.tasks, ?_⟩
  · obtain ⟨body, calls, _⟩ := truthful.authored commit found
    obtain ⟨pid, mine⟩ := called.origin calls
    exact ⟨pid, mine, fun other also => called.single also mine⟩
  · obtain ⟨body, calls, task⟩ := truthful.authored commit found
    obtain ⟨body', asked, calls'⟩ := called.sent pid commit.caller mine
    rw [calls] at calls'
    cases calls'
    obtain ⟨admitted, passed, rfl⟩ := sent.asked pid body asked
    obtain ⟨request, arrived, bearer, dto⟩ := bearer_of_admission path passed
    obtain ⟨there, registered⟩ := bearers.requests pid request arrived
    rw [task]
    exact ⟨⟨request, _, there, bearer, dto⟩, registered _ bearer⟩
  · rintro pid first ⟨here, mine⟩ second ⟨there, also⟩
    exact provenance.owned.eq_of_caller here there (Option.some.inj (mine.symm.trans also))
  · intro pid admitted reply finished
    obtain ⟨caller, mine, found⟩ := replied pid admitted reply finished
    obtain ⟨call, message, task, ended, rfl⟩ := served_cases found
    obtain ⟨body, _, calls⟩ := called.sent pid caller mine
    rw [ended, Slot.call?, Option.some.injEq] at calls
    subst calls
    obtain ⟨commit, committed, rfl, rfl⟩ := truthful.returned ended
    exact ⟨commit, committed, mine, message, rfl⟩
  · intro group item handled
    have consumers := Pipeline.consumers_ran pipeline fun _ _ => trivial
    have posted := Pipeline.published_subset pipeline
      (Pipeline.handled_subset pipeline consumers group handled)
    obtain ⟨commit, found, rfl⟩ := List.mem_map.mp posted
    exact ⟨commit, found, rfl⟩

namespace Sample

open AuthService.Sample (longBody longUser asCharacters givesId truncating)

def verify (token : String) : Except Thrown Guards.Payload :=
  if token = "token-of-ada" then .ok ⟨longUser.id.toString⟩
  else .error (.error "JsonWebTokenError" "jwt malformed")

def pipe : Json → Except Thrown Controllers.TaskDto
  | .object [("title", .string title), ("description", .string description)] =>
      .ok ⟨title, description⟩
  | _ => .error (.httpException 400 "Bad Request Exception")

instance decidableTrusted (state : State) :
    (event : Happening) → Decidable (Trusted verify truncating.hashing.Hashes state event)
  | .auth event =>
      AuthService.decidableAuthentic (.ofHashes truncating.hashing.Hashes)
        (state.auth.observe AuthService.programs) event
  | .arrives _ request _ => inferInstanceAs (Decidable (∀ id ∈ request.bearer verify, _))
  | .guards _ | .handles _ | .serves .. | .replies _ | .fails .. | .crashes _ | .pipeline _ =>
      isTrue trivial

/-- A request of Ada. -/
def request : Guards.Call where
  arrival :=
    { authorization := some "Bearer token-of-ada", ip := some "203.0.113.7"
      routePath := some "/api/v1/task/create" }

def body : Json :=
  .object [("title", .string "Welcome"), ("description", .string "Your first task")]

def resolves (pid : ℕ) (id : ObjectId) : Happening :=
  .pipeline (.taskService (.step pid ⟨.resolved, id⟩))

def task (id : ObjectId) : TaskService.Task :=
  ⟨id, "Welcome", "Your first task", longUser.id.toString⟩

def taskId : ObjectId := ⟨"65f0a1b2c3d4e5f6a7b8ce01", rfl⟩

def recordId : ObjectId := ⟨"65f0a1b2c3d4e5f6a7b8ce02", rfl⟩

def lateTaskId : ObjectId := ⟨"65f0a1b2c3d4e5f6a7b8ce03", rfl⟩

def lateRecordId : ObjectId := ⟨"65f0a1b2c3d4e5f6a7b8ce04", rfl⟩

/-- Ada registers. -/
def registers : List Happening :=
  [.call 0 (.register longBody), givesId 0 longUser.id "",
    givesId 0 longUser.id (asCharacters longBody.password), givesId 0 longUser.id ""].map .auth

/-- A request of Ada comes to its handler, after so many operations of the throttler. -/
def asks (pid operations : ℕ) : List Happening :=
  [.arrives pid request body] ++ List.replicate operations (.guards (.step pid .resolved)) ++
    [.handles pid]

/-- The task service commits the task of a request. -/
def commits (pid : ℕ) (task record : ObjectId) : List Happening :=
  [.serves pid pid, resolves pid task, resolves pid task, resolves pid record, resolves pid task,
    resolves pid task]

/-- Ada creates a task, and is notified of it. She asks for another one, and the task service gets
to it when its handler has given up. -/
def created : List Happening :=
  registers ++ asks 0 3 ++ commits 0 taskId recordId ++ [.replies 0] ++
    (TaskService.Sample.deliveredBy 0 2).map (.pipeline ∘ .taskService) ++
    [.call 0 ⟨.notification, 0, TaskService.createPayload
        ⟨longUser.id.toString, "Welcome", "Your first task"⟩ (task taskId)⟩,
      Consumers.Sample.resolves 0, Consumers.Sample.resolves 0].map (.pipeline ∘ .consumers) ++
    asks 1 2 ++ [.fails 1 .timedOut] ++ commits 1 lateTaskId lateRecordId

end Sample

/-- The theorem at a run with a task in time and one that is late. -/
theorem tasks_identified_created :
    ∃ state ∈ run (step Sample.verify Sample.pipe) .initial Sample.created,
      state.pipeline.taskService.world.tasks =
        [Sample.task Sample.taskId, Sample.task Sample.lateTaskId] ∧
      (state.pipeline.feed.handled .notification).length = 1 ∧
      Identified Sample.verify Sample.pipe AuthService.Sample.truncating.hashing.Hashes
        Sample.created state := by
  obtain ⟨state, ran, tasks, notified, trusted⟩ :
      ∃ state ∈ run (step Sample.verify Sample.pipe) .initial Sample.created,
        state.pipeline.taskService.world.tasks =
          [Sample.task Sample.taskId, Sample.task Sample.lateTaskId] ∧
        (state.pipeline.feed.handled .notification).length = 1 ∧
        Meets (step Sample.verify Sample.pipe)
          (Trusted Sample.verify AuthService.Sample.truncating.hashing.Hashes)
          .initial Sample.created := by decide +kernel
  exact ⟨state, ran, tasks, notified, tasks_identified ran trusted⟩

end WorkflowHub.Identity
