import WorkflowHub.Processes.Pool

/-!
# A table of program points that tracks the programs

The state of a program is a function of the replies still to come, so a proof about a
pool of programs needs names for the points they can stop at. A `Flow` over an ordinary
type of program points supplies them, and `Tracks` says that it describes the programs:
at each point it awaits the same operation, and after each reply it leads where the
program leads. A resumption is a well-founded tree, so `Tracks` is an inductive
predicate, and it is shown for a program once, by following the program.

`Implements.path` then turns every run of the programs into a run of the flow through
states that look the same from outside: `observe` forgets everything of a pool but its
world and, for each call, the operation it is suspended at. What is proved about the
flow is thereby proved about the programs.
-/

set_option autoImplicit false

namespace WorkflowHub.Processes

variable {S : Signature} {σ World Call Pc Out Choice Env : Type}

/-- The flow leads where the program leads, after every sequence of replies. -/
inductive Tracks (flow : Flow S σ Call Pc Out) (call : Call) :
    σ × Target Pc Out → Resumption S σ Out → Prop where
  | done {fields : σ} {out : Out} : Tracks flow call (fields, .finished out) (.done out fields)
  | await {fields : σ} {pc : Pc} {resume : S.Res (flow.op call pc) → σ → Resumption S σ Out}
      (rest : ∀ reply fields', Tracks flow call (flow.next call pc reply fields')
        (resume reply fields')) :
      Tracks flow call (fields, .running pc) (.await (flow.op call pc) fields resume)

/-- The flow tracks the program of every call, whatever the fields are at its start. -/
def Implements (flow : Flow S σ Call Pc Out) (body : Call → Async S σ Out) : Prop :=
  ∀ call fields, Tracks flow call (flow.enter call fields) (body call fields)

/-- A program stopped at the operation of a program point, and tracked from there on. -/
inductive Stopped (flow : Flow S σ Call Pc Out) (call : Call) (pc : Pc) :
    Suspended S σ Out → Prop where
  | intro {resume : S.Res (flow.op call pc) → σ → Resumption S σ Out}
      (rest : ∀ reply fields, Tracks flow call (flow.next call pc reply fields)
        (resume reply fields)) :
      Stopped flow call pc ⟨flow.op call pc, resume⟩

/-- Corresponding entries of the two process tables. -/
inductive SlotTracks (flow : Flow S σ Call Pc Out) :
    Slot Call Pc Out → Slot Call (Suspended S σ Out) Out → Prop where
  | free : SlotTracks flow .free .free
  | running {call : Call} {pc : Pc} {suspended : Suspended S σ Out}
      (stopped : Stopped flow call pc suspended) :
      SlotTracks flow (.running call pc) (.running call suspended)
  | finished {call : Call} {out : Out} :
      SlotTracks flow (.finished call out) (.finished call out)
  | crashed {call : Call} : SlotTracks flow (.crashed call) (.crashed call)

namespace Slot

/-- The operation a slot is suspended at, in place of the suspension itself. -/
def observe (op : Call → Pc → S.Op) : Slot Call Pc Out → Slot Call S.Op Out
  | .free => .free
  | .running call pc => .running call (op call pc)
  | .finished call out => .finished call out
  | .crashed call => .crashed call

variable {op : Call → Pc → S.Op} {slot : Slot Call Pc Out}

@[simp] theorem call?_observe : (slot.observe op).call? = slot.call? := by
  cases slot <;> rfl

@[simp] theorem isRunning_observe : (slot.observe op).isRunning = slot.isRunning := by
  cases slot <;> rfl

theorem of_observe_finished {call : Call} {out : Out} (seen : slot.observe op = .finished call out) :
    slot = .finished call out := by
  cases slot with
  | finished call out => simpa only [observe, finished.injEq] using seen
  | _ => cases seen

theorem of_observe_running {call : Call} {awaited : S.Op}
    (seen : slot.observe op = .running call awaited) :
    ∃ pc, slot = .running call pc ∧ op call pc = awaited := by
  cases slot with
  | running call pc =>
      simp only [observe, running.injEq] at seen
      obtain ⟨rfl, rfl⟩ := seen
      exact ⟨pc, rfl, rfl⟩
  | _ => cases seen

end Slot

namespace SlotTracks

variable {flow : Flow S σ Call Pc Out} {slot : Slot Call Pc Out}

theorem observe_eq {suspended : Slot Call (Suspended S σ Out) Out}
    (tracks : SlotTracks flow slot suspended) :
    slot.observe flow.op = suspended.observe fun _ suspended => suspended.op := by
  cases tracks with
  | free => rfl
  | running stopped => cases stopped; rfl
  | finished => rfl
  | crashed => rfl

end SlotTracks

namespace Pool

/-- What a pool shows to the outside: its world, and for each call the operation it is
suspended at, or how it ended. -/
def observe (flow : Flow S σ Call Pc Out) (pool : Pool World Call Pc Out) :
    Pool World Call S.Op Out :=
  ⟨pool.world, fun pid => (pool.slots pid).observe flow.op⟩

@[simp] theorem observe_world (flow : Flow S σ Call Pc Out) (pool : Pool World Call Pc Out) :
    (observe flow pool).world = pool.world := rfl

@[simp] theorem observe_slots (flow : Flow S σ Call Pc Out) (pool : Pool World Call Pc Out)
    (pid : ℕ) : (observe flow pool).slots pid = (pool.slots pid).observe flow.op := rfl

section Alike

variable {Pc' : Type} {flow : Flow S σ Call Pc Out} {flow' : Flow S σ Call Pc' Out}
  {pool : Pool World Call Pc Out} {pool' : Pool World Call Pc' Out} {pid : ℕ}

/-- Pools that show the same have the same calls. -/
theorem call?_of_observe (same : pool.observe flow = pool'.observe flow') :
    (pool.slots pid).call? = (pool'.slots pid).call? := by
  have seen := congrArg (fun view : Pool World Call S.Op Out => (view.slots pid).call?) same
  simpa only [observe_slots, Slot.call?_observe] using seen

/-- The same ones of them have ended. -/
theorem finished_of_observe {call : Call} {out : Out}
    (same : pool.observe flow = pool'.observe flow')
    (finished : pool'.slots pid = .finished call out) : pool.slots pid = .finished call out := by
  have seen : (pool.observe flow).slots pid = .finished call out := by
    rw [same, observe_slots, finished]
    rfl
  exact Slot.of_observe_finished seen

end Alike

/-- Two pools over the same world with corresponding process tables. -/
structure Tracking (flow : Flow S σ Call Pc Out) (machine : Pool World Call Pc Out)
    (code : Pool World Call (Suspended S σ Out) Out) : Prop where
  world : machine.world = code.world
  slots : ∀ pid, SlotTracks flow (machine.slots pid) (code.slots pid)

namespace Tracking

variable {flow : Flow S σ Call Pc Out} {machine : Pool World Call Pc Out}
  {code : Pool World Call (Suspended S σ Out) Out}

theorem initial (world : World) :
    Tracking flow (Pool.initial world) (Pool.initial world) :=
  ⟨rfl, fun _ => .free⟩

/-- Tracking pools look the same from outside. -/
theorem observe_eq {body : Call → Async S σ Out} (tracking : Tracking flow machine code) :
    observe flow machine = observe (Flow.ofPrograms body) code := by
  simp only [observe, Pool.mk.injEq]
  exact ⟨tracking.world, funext fun pid => (tracking.slots pid).observe_eq⟩

/-- Two tables that correspond still do after corresponding entries are written. -/
theorem update {slots : ℕ → Slot Call Pc Out} {slots' : ℕ → Slot Call (Suspended S σ Out) Out}
    (tracked : ∀ pid, SlotTracks flow (slots pid) (slots' pid)) (pid : ℕ)
    {slot : Slot Call Pc Out} {slot' : Slot Call (Suspended S σ Out) Out}
    (here : SlotTracks flow slot slot') :
    ∀ other, SlotTracks flow (Function.update slots pid slot other)
      (Function.update slots' pid slot' other) := by
  intro other
  by_cases same : other = pid
  · subst same
    simpa only [Function.update_self] using here
  · simpa only [Function.update_of_ne same] using tracked other

variable {site : Site S σ World Call Out Choice Env}

/-- A segment of a program and the segment of the flow that tracks it settle alike. -/
theorem settle {slots : ℕ → Slot Call Pc Out} {slots' : ℕ → Slot Call (Suspended S σ Out) Out}
    (tracked : ∀ pid, SlotTracks flow (slots pid) (slots' pid)) (world : World) (pid : ℕ)
    {call : Call} {led : σ × Target Pc Out} {resumption : Resumption S σ Out}
    (tracks : Tracks flow call led resumption) :
    Tracking flow (Pool.settle slots pid (Pool.land site world pid call led))
      (Pool.settle slots' pid (Pool.land site world pid call resumption.target)) := by
  cases tracks with
  | done => exact ⟨rfl, update tracked pid .finished⟩
  | await rest => exact ⟨rfl, update tracked pid (.running (.intro rest))⟩

/-- The programs and the flow that tracks them step alike, or neither can. -/
theorem rel {body : Call → Async S σ Out} (implements : Implements flow body)
    (tracking : Tracking flow machine code) (event : Event Call Choice Env) :
    Option.Rel (Tracking flow) (Pool.step site flow machine event)
      (Pool.step site (Flow.ofPrograms body) code event) := by
  obtain ⟨world, tracked⟩ := tracking
  cases event with
  | call pid call =>
      have here := tracked pid
      simp only [Pool.step, world]
      generalize machine.slots pid = slot at here ⊢
      generalize code.slots pid = slot' at here ⊢
      cases here with
      | free =>
          cases site.start code.world pid call with
          | none => exact .none
          | some world' => exact .some (settle tracked world' pid (implements call _))
      | _ => exact .none
  | step pid choice =>
      have here := tracked pid
      simp only [Pool.step, world]
      generalize machine.slots pid = slot at here ⊢
      generalize code.slots pid = slot' at here ⊢
      cases here with
      | @running call pc suspended stopped =>
          obtain ⟨rest⟩ := stopped
          cases answered : site.exec code.world pid call (flow.op call pc) choice with
          | none =>
              simp only [Flow.ofPrograms, answered]
              exact .none
          | some answer =>
              simp only [Flow.ofPrograms, answered]
              exact .some (settle tracked answer.1 pid (rest answer.2 _))
      | _ => exact .none
  | crash pid performed =>
      have here := tracked pid
      cases performed with
      | none =>
          simp only [Pool.step, world]
          generalize machine.slots pid = slot at here ⊢
          generalize code.slots pid = slot' at here ⊢
          cases here with
          | running stopped => exact .some ⟨rfl, update tracked pid .crashed⟩
          | _ => exact .none
      | some choice =>
          simp only [Pool.step, world]
          generalize machine.slots pid = slot at here ⊢
          generalize code.slots pid = slot' at here ⊢
          cases here with
          | @running call pc suspended stopped =>
              obtain ⟨rest⟩ := stopped
              cases answered : site.exec code.world pid call (flow.op call pc) choice with
              | none =>
                  simp only [Flow.ofPrograms, answered]
                  exact .none
              | some answer =>
                  simp only [Flow.ofPrograms, answered]
                  exact .some ⟨rfl, update tracked pid .crashed⟩
          | _ => exact .none
  | env event =>
      simp only [Pool.step, world]
      cases site.env code.world event with
      | none => exact .none
      | some world' => exact .some ⟨rfl, tracked⟩

/-- Each step of the programs is a step of the flow. -/
theorem step {body : Call → Async S σ Out} (implements : Implements flow body)
    (tracking : Tracking flow machine code) {event : Event Call Choice Env}
    {code' : Pool World Call (Suspended S σ Out) Out}
    (taken : Pool.step site (Flow.ofPrograms body) code event = some code') :
    ∃ machine', Pool.step site flow machine event = some machine' ∧
      Tracking flow machine' code' := by
  have related : Option.Rel (Tracking flow) (Pool.step site flow machine event) (some code') :=
    taken ▸ tracking.rel implements event
  generalize Pool.step site flow machine event = outcome at related ⊢
  cases related with
  | some tracking' => exact ⟨_, rfl, tracking'⟩

/-- Each step of the flow is a step of the programs. -/
theorem taken {body : Call → Async S σ Out} (implements : Implements flow body)
    (tracking : Tracking flow machine code) {event : Event Call Choice Env}
    {machine' : Pool World Call Pc Out}
    (taken : Pool.step site flow machine event = some machine') :
    ∃ code', Pool.step site (Flow.ofPrograms body) code event = some code' ∧
      Tracking flow machine' code' := by
  have related : Option.Rel (Tracking flow) (some machine')
      (Pool.step site (Flow.ofPrograms body) code event) := taken ▸ tracking.rel implements event
  generalize Pool.step site (Flow.ofPrograms body) code event = outcome at related ⊢
  cases related with
  | some tracking' => exact ⟨_, rfl, tracking'⟩

/-- Each run of the programs under a condition on what the pool shows is tracked by a run
of the flow under the same condition. -/
theorem path {body : Call → Async S σ Out} (implements : Implements flow body)
    {C : Pool World Call S.Op Out → Event Call Choice Env → Prop}
    (tracking : Tracking flow machine code) {code' : Pool World Call (Suspended S σ Out) Out}
    (ran : Path (Pool.step site (Flow.ofPrograms body))
      (fun pool event => C (observe (Flow.ofPrograms body) pool) event) code code') :
    ∃ machine', Path (Pool.step site flow) (fun pool event => C (observe flow pool) event)
      machine machine' ∧ Tracking flow machine' code' := by
  induction ran with
  | refl => exact ⟨machine, .refl, tracking⟩
  | tail _ edge ih =>
      obtain ⟨event, allowed, taken⟩ := edge
      obtain ⟨middle, ran, tracked⟩ := ih
      obtain ⟨machine', taken', tracking'⟩ := tracked.step implements taken
      have allowed' : C (observe flow middle) event := by
        rw [show observe flow middle = _ from tracked.observe_eq]
        exact allowed
      exact ⟨machine', ran.tail ⟨event, allowed', taken'⟩, tracking'⟩

/-- Each run of the flow is one of the programs, under the same condition. -/
theorem traced {body : Call → Async S σ Out} (implements : Implements flow body)
    {C : Pool World Call S.Op Out → Event Call Choice Env → Prop}
    (tracking : Tracking flow machine code) {machine' : Pool World Call Pc Out}
    (ran : Path (Pool.step site flow) (fun pool event => C (observe flow pool) event)
      machine machine') :
    ∃ code', Path (Pool.step site (Flow.ofPrograms body))
      (fun pool event => C (observe (Flow.ofPrograms body) pool) event) code code' ∧
      Tracking flow machine' code' := by
  induction ran with
  | refl => exact ⟨code, .refl, tracking⟩
  | tail _ edge ih =>
      obtain ⟨event, allowed, taken⟩ := edge
      obtain ⟨middle, ran, tracked⟩ := ih
      obtain ⟨code', taken', tracking'⟩ := tracked.taken implements taken
      have allowed' : C (observe (Flow.ofPrograms body) middle) event := by
        rw [← show observe flow _ = _ from tracked.observe_eq]
        exact allowed
      exact ⟨code', ran.tail ⟨event, allowed', taken'⟩, tracking'⟩

end Tracking

end Pool

/-- **Every run of the programs from the start is, seen from outside, a run of the flow.** -/
theorem Implements.path {flow : Flow S σ Call Pc Out} {body : Call → Async S σ Out}
    (implements : Implements flow body) {site : Site S σ World Call Out Choice Env}
    {C : Pool World Call S.Op Out → Event Call Choice Env → Prop} {world : World}
    {code : Pool World Call (Suspended S σ Out) Out}
    (ran : Path (Pool.step site (Flow.ofPrograms body))
      (fun pool event => C (pool.observe (Flow.ofPrograms body)) event) (.initial world) code) :
    ∃ machine, Path (Pool.step site flow) (fun pool event => C (pool.observe flow) event)
      (.initial world) machine ∧
      machine.observe flow = code.observe (Flow.ofPrograms body) := by
  obtain ⟨machine, ran', tracking⟩ := (Pool.Tracking.initial world).path implements ran
  exact ⟨machine, ran', tracking.observe_eq⟩

/-! ## Programs that go on where others end -/

/-- The outcome of a call, changed. -/
def Target.map {Out' : Type} (change : Out → Out') : Target Pc Out → Target Pc Out'
  | .running pc => .running pc
  | .finished out => .finished (change out)

/-- The table of programs that go on, without awaiting anything, where those of another table
end. `part` is the call of the other table that such a program begins with. -/
def Flow.andThen {Call' Out' : Type} (flow : Flow S σ Call Pc Out) (part : Call' → Call)
    (rest : Call' → Out → Out') : Flow S σ Call' Pc Out' where
  op call pc := flow.op (part call) pc
  enter call fields := Prod.map id (.map (rest call)) (flow.enter (part call) fields)
  next call pc reply fields := Prod.map id (.map (rest call)) (flow.next (part call) pc reply fields)

/-- Such a table tracks a program that goes on where one ends that the other table tracks. -/
theorem Tracks.andThen {Call' Out' : Type} {flow : Flow S σ Call Pc Out} {part : Call' → Call}
    {rest : Call' → Out → Out'} {call : Call'} {led : σ × Target Pc Out}
    {resumption : Resumption S σ Out} (tracks : Tracks flow (part call) led resumption) :
    Tracks (flow.andThen part rest) call (Prod.map id (.map (rest call)) led)
      (resumption.bind fun out fields => .done (rest call out) fields) := by
  induction tracks with
  | done => exact .done
  | @await fields pc _ _ ih =>
      exact @Tracks.await _ _ _ _ _ (flow.andThen part rest) call fields pc _ ih

end WorkflowHub.Processes
