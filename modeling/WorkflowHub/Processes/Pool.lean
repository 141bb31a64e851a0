import Mathlib.Data.Nat.Notation
import Mathlib.Logic.Function.Basic
import WorkflowHub.Processes.Paths
import WorkflowHub.Processes.Resumption

/-!
# A pool of processes

Any number of calls run side by side. A call is suspended at an operation, and a step
lets the outside answer the operation of one call, which then runs up to its next
operation. Calls start at any time, and a call may crash at any time: while its
operation is still pending, or after the operation took effect and before the reply
arrived.

A `Site` says what the operations do: how an operation changes the world and which
reply it gives, for each choice the outside has, and what the outside records when a
call starts, ends or crashes. A `Flow` says what the calls do: where a call is
suspended, and where it goes from there. The programs of `Resumption` are a flow
(`Flow.ofPrograms`), and so is a hand-written table of program points; the steps of a
pool are the same for both.
-/

set_option autoImplicit false

namespace WorkflowHub.Processes

/-- Where a segment leads: the next suspension, or the end of the call. -/
inductive Target (Pc Out : Type) where
  | running (pc : Pc)
  | finished (out : Out)

/-- The control flow of a family of calls over suspensions `Pc`. -/
structure Flow (S : Signature) (σ Call Pc Out : Type) where
  op : Call → Pc → S.Op
  enter : Call → σ → σ × Target Pc Out
  next : (call : Call) → (pc : Pc) → S.Res (op call pc) → σ → σ × Target Pc Out

/-- A program stopped at an operation. -/
structure Suspended (S : Signature) (σ Out : Type) where
  op : S.Op
  resume : S.Res op → σ → Resumption S σ Out

/-- Where a segment of a program leads. -/
def Resumption.target {S : Signature} {σ Out : Type} :
    Resumption S σ Out → σ × Target (Suspended S σ Out) Out
  | .done out fields => (fields, .finished out)
  | .await op fields resume => (fields, .running ⟨op, resume⟩)

/-- The control flow of programs. -/
def Flow.ofPrograms {S : Signature} {σ Call Out : Type} (body : Call → Async S σ Out) :
    Flow S σ Call (Suspended S σ Out) Out where
  op _ suspended := suspended.op
  enter call fields := (body call fields).target
  next _ suspended reply fields := (suspended.resume reply fields).target

/-- What the outside does. `load` and `store` give a call the fields of the object it runs
on; `exec` is an operation as the outside performs it, under a choice of the outside. -/
structure Site (S : Signature) (σ World Call Out Choice Env : Type) where
  load : World → Call → σ
  store : World → Call → σ → World
  start : World → ℕ → Call → Option World
  exec : World → ℕ → Call → (op : S.Op) → Choice → Option (World × S.Res op)
  finish : World → ℕ → Call → Out → World
  crash : World → ℕ → Call → World
  env : World → Env → Option World

variable {S : Signature} {σ World Call Pc Out Choice Env : Type}

/-- One entry of the process table. -/
inductive Slot (Call Pc Out : Type) where
  | free
  | running (call : Call) (pc : Pc)
  | finished (call : Call) (out : Out)
  | crashed (call : Call)

/-- The call of an entry that is not free. -/
def Slot.call? : Slot Call Pc Out → Option Call
  | .free => none
  | .running call _ => some call
  | .finished call _ => some call
  | .crashed call => some call

def Slot.isRunning : Slot Call Pc Out → Bool
  | .running _ _ => true
  | _ => false

/-- An entry that is not running is none of the running ones. -/
theorem Slot.ne_running {slot : Slot Call Pc Out} (stopped : slot.isRunning = false) {call : Call}
    {pc : Pc} : slot ≠ .running call pc := by
  rintro rfl
  cases stopped

/-- The world and the process table. -/
structure Pool (World Call Pc Out : Type) where
  world : World
  slots : ℕ → Slot Call Pc Out

/-- What can happen: a call starts, the outside answers a suspended call, a call crashes
(with `some choice`, after its operation was performed), or the outside moves alone. -/
inductive Event (Call Choice Env : Type) where
  | call (pid : ℕ) (call : Call)
  | step (pid : ℕ) (choice : Choice)
  | crash (pid : ℕ) (performed : Option Choice)
  | env (event : Env)
  deriving DecidableEq

/-- The call an event is about. -/
def Event.pid? : Event Call Choice Env → Option ℕ
  | .call pid _ => some pid
  | .step pid _ => some pid
  | .crash pid _ => some pid
  | .env _ => none

namespace Pool

/-- The process table over a world, before any call. -/
def initial (world : World) : Pool World Call Pc Out := ⟨world, fun _ => .free⟩

section Steps

variable (site : Site S σ World Call Out Choice Env)

/-- The world and the entry of call `pid` after a segment of it led to `led`. -/
def land (world : World) (pid : ℕ) (call : Call) (led : σ × Target Pc Out) :
    World × Slot Call Pc Out :=
  match led.2 with
  | .running pc => (site.store world call led.1, .running call pc)
  | .finished out => (site.finish (site.store world call led.1) pid call out, .finished call out)

@[simp] theorem land_running (world : World) (pid : ℕ) (call : Call) (fields : σ) (pc : Pc) :
    land site world pid call (fields, (.running pc : Target Pc Out)) =
      (site.store world call fields, .running call pc) := rfl

@[simp] theorem land_finished (world : World) (pid : ℕ) (call : Call) (fields : σ) (out : Out) :
    land site world pid call (fields, (.finished out : Target Pc Out)) =
      (site.finish (site.store world call fields) pid call out, .finished call out) := rfl

/-- A call that is suspended after a segment was led to where it is suspended. -/
theorem land_eq_running {world : World} {pid : ℕ} {call call' : Call} {led : σ × Target Pc Out}
    {pc : Pc} (landed : (land site world pid call led).2 = .running call' pc) :
    call' = call ∧ led.2 = .running pc ∧
      (land site world pid call led).1 = site.store world call led.1 := by
  obtain ⟨fields, target⟩ := led
  cases target with
  | running pc =>
      simp only [land_running, Slot.running.injEq] at landed
      obtain ⟨rfl, rfl⟩ := landed
      exact ⟨rfl, rfl, rfl⟩
  | finished out => cases landed

/-- A segment leaves the world alone when the calls have no fields and their end is not
recorded. -/
theorem land_world {world : World} {pid : ℕ} {call : Call}
    (stores : ∀ fields, site.store world call fields = world)
    (finishes : ∀ out, site.finish world pid call out = world) (led : σ × Target Pc Out) :
    (land site world pid call led).1 = world := by
  obtain ⟨fields, target⟩ := led
  cases target with
  | running pc => exact stores fields
  | finished out => rw [land_finished, stores, finishes]

/-- Write the result of a segment of call `pid` into the process table. -/
def settle (slots : ℕ → Slot Call Pc Out) (pid : ℕ) (landed : World × Slot Call Pc Out) :
    Pool World Call Pc Out :=
  ⟨landed.1, Function.update slots pid landed.2⟩

@[simp] theorem settle_world (slots : ℕ → Slot Call Pc Out) (pid : ℕ)
    (landed : World × Slot Call Pc Out) : (settle slots pid landed).world = landed.1 := rfl

@[simp] theorem settle_self (slots : ℕ → Slot Call Pc Out) (pid : ℕ)
    (landed : World × Slot Call Pc Out) : (settle slots pid landed).slots pid = landed.2 :=
  Function.update_self ..

theorem settle_other (slots : ℕ → Slot Call Pc Out) {pid other : ℕ} (different : other ≠ pid)
    (landed : World × Slot Call Pc Out) : (settle slots pid landed).slots other = slots other :=
  Function.update_of_ne different ..

variable (flow : Flow S σ Call Pc Out)

/-- The transition function of the pool. -/
def step (pool : Pool World Call Pc Out) :
    Event Call Choice Env → Option (Pool World Call Pc Out)
  | .call pid call =>
      match pool.slots pid with
      | .free =>
          (site.start pool.world pid call).map fun world =>
            settle pool.slots pid (land site world pid call (flow.enter call (site.load world call)))
      | _ => none
  | .step pid choice =>
      match pool.slots pid with
      | .running call pc =>
          (site.exec pool.world pid call (flow.op call pc) choice).map fun (world, reply) =>
            settle pool.slots pid
              (land site world pid call (flow.next call pc reply (site.load world call)))
      | _ => none
  | .crash pid none =>
      match pool.slots pid with
      | .running call _ =>
          some (settle pool.slots pid (site.crash pool.world pid call, .crashed call))
      | _ => none
  | .crash pid (some choice) =>
      match pool.slots pid with
      | .running call pc =>
          (site.exec pool.world pid call (flow.op call pc) choice).map fun (world, _) =>
            settle pool.slots pid (site.crash world pid call, .crashed call)
      | _ => none
  | .env event => (site.env pool.world event).map fun world => ⟨world, pool.slots⟩

/-- All a step of the pool can be, with what had to hold for it. -/
inductive Stepped (pool : Pool World Call Pc Out) :
    Event Call Choice Env → Pool World Call Pc Out → Prop where
  | call {pid : ℕ} {call : Call} {world : World} (free : pool.slots pid = .free)
      (started : site.start pool.world pid call = some world) :
      Stepped pool (.call pid call)
        (settle pool.slots pid
          (land site world pid call (flow.enter call (site.load world call))))
  | step {pid : ℕ} {choice : Choice} {call : Call} {pc : Pc} {world : World}
      {reply : S.Res (flow.op call pc)} (running : pool.slots pid = .running call pc)
      (answered : site.exec pool.world pid call (flow.op call pc) choice = some (world, reply)) :
      Stepped pool (.step pid choice)
        (settle pool.slots pid
          (land site world pid call (flow.next call pc reply (site.load world call))))
  | crashPending {pid : ℕ} {call : Call} {pc : Pc} (running : pool.slots pid = .running call pc) :
      Stepped pool (.crash pid none)
        (settle pool.slots pid (site.crash pool.world pid call, .crashed call))
  | crashPerformed {pid : ℕ} {choice : Choice} {call : Call} {pc : Pc} {world : World}
      {reply : S.Res (flow.op call pc)} (running : pool.slots pid = .running call pc)
      (answered : site.exec pool.world pid call (flow.op call pc) choice = some (world, reply)) :
      Stepped pool (.crash pid (some choice))
        (settle pool.slots pid (site.crash world pid call, .crashed call))
  | env {event : Env} {world : World} (moved : site.env pool.world event = some world) :
      Stepped pool (.env event) ⟨world, pool.slots⟩

variable {site flow}

/-- A step of the pool is one of the steps of `Stepped`. -/
theorem stepped {pool pool' : Pool World Call Pc Out} {event : Event Call Choice Env}
    (taken : step site flow pool event = some pool') : Stepped site flow pool event pool' := by
  cases event with
  | call pid call =>
      simp only [step] at taken
      split at taken
      · rename_i free
        obtain ⟨world, started, rfl⟩ := Option.map_eq_some_iff.mp taken
        exact .call free started
      · cases taken
  | step pid choice =>
      simp only [step] at taken
      split at taken
      · rename_i running
        obtain ⟨⟨world, reply⟩, answered, rfl⟩ := Option.map_eq_some_iff.mp taken
        exact .step running answered
      · cases taken
  | crash pid performed =>
      cases performed with
      | none =>
          simp only [step] at taken
          split at taken
          · rename_i running
            cases taken
            exact .crashPending running
          · cases taken
      | some choice =>
          simp only [step] at taken
          split at taken
          · rename_i running
            obtain ⟨⟨world, reply⟩, answered, rfl⟩ := Option.map_eq_some_iff.mp taken
            exact .crashPerformed running answered
          · cases taken
  | env event =>
      obtain ⟨world, moved, rfl⟩ := Option.map_eq_some_iff.mp taken
      exact .env moved

/-- Each step of `Stepped` can be taken. -/
theorem Stepped.taken {pool pool' : Pool World Call Pc Out} {event : Event Call Choice Env}
    (stepped : Stepped site flow pool event pool') :
    Pool.step site flow pool event = some pool' := by
  cases stepped with
  | call free started => simp [Pool.step, free, started]
  | step running answered => simp [Pool.step, running, answered]
  | crashPending running => simp [Pool.step, running]
  | crashPerformed running answered => simp [Pool.step, running, answered]
  | env moved => simp [Pool.step, moved]

/-- A step leaves the entries of other calls alone. -/
theorem step_other {pool pool' : Pool World Call Pc Out} {event : Event Call Choice Env} {pid : ℕ}
    (taken : step site flow pool event = some pool') (other : pid ∉ event.pid?) :
    pool'.slots pid = pool.slots pid := by
  have elsewhere : ∀ {mine : ℕ} (landed : World × Slot Call Pc Out), pid ∉ some mine →
      (settle pool.slots mine landed).slots pid = pool.slots pid := by
    intro mine landed different
    refine settle_other _ (fun same => different ?_) _
    rw [same]
    rfl
  cases stepped taken with
  | call free started => exact elsewhere _ other
  | step running answered => exact elsewhere _ other
  | crashPending running => exact elsewhere _ other
  | crashPerformed running answered => exact elsewhere _ other
  | env moved => rfl

@[simp] theorem call?_land (world : World) (pid : ℕ) (call : Call) (led : σ × Target Pc Out) :
    (land site world pid call led).2.call? = some call := by
  obtain ⟨fields, target⟩ := led
  cases target with
  | _ => rfl

/-- A call starts at an entry that is free. -/
theorem step_call {pool pool' : Pool World Call Pc Out} {pid : ℕ} {call : Call}
    (taken : step site flow pool (.call pid call : Event Call Choice Env) = some pool') :
    pool.slots pid = .free ∧ (pool'.slots pid).call? = some call := by
  cases stepped taken with
  | call free started => exact ⟨free, by rw [settle_self, call?_land]⟩

/-- A call goes on to be the call of its entry. -/
theorem step_call? {pool pool' : Pool World Call Pc Out} {event : Event Call Choice Env} {pid : ℕ}
    {call : Call} (taken : step site flow pool event = some pool')
    (called : (pool.slots pid).call? = some call) : (pool'.slots pid).call? = some call := by
  by_cases mine : pid ∈ event.pid?
  · cases stepped taken with
    | call free started =>
        cases mine
        rw [free] at called
        cases called
    | step running answered =>
        cases mine
        rw [settle_self, call?_land, ← called, running]
        rfl
    | crashPending running =>
        cases mine
        rw [settle_self, ← called, running]
        rfl
    | crashPerformed running answered =>
        cases mine
        rw [settle_self, ← called, running]
        rfl
    | env moved => cases mine
  · rw [step_other taken mine, called]

/-- The call of an entry was there before, or it has just started. -/
theorem called_of_step {pool pool' : Pool World Call Pc Out} {event : Event Call Choice Env}
    {pid : ℕ} {call : Call} (taken : step site flow pool event = some pool')
    (called : (pool'.slots pid).call? = some call) :
    (pool.slots pid).call? = some call ∨ event = .call pid call := by
  cases before : (pool.slots pid).call? with
  | some call' => exact .inl ((step_call? taken before).symm.trans called)
  | none =>
      refine .inr ?_
      have free : pool.slots pid = .free := by
        cases slot : pool.slots pid with
        | free => rfl
        | _ =>
            rw [slot] at before
            cases before
      by_cases mine : pid ∈ event.pid?
      · cases stepped taken with
        | call free started =>
            cases mine
            rw [settle_self, call?_land, Option.some.injEq] at called
            rw [called]
        | step running answered =>
            cases mine
            rw [running] at free
            cases free
        | crashPending running =>
            cases mine
            rw [running] at free
            cases free
        | crashPerformed running answered =>
            cases mine
            rw [running] at free
            cases free
        | env moved => cases mine
      · rw [step_other taken mine, free] at called
        cases called

/-- A call that has ended stays so. -/
theorem step_finished {pool pool' : Pool World Call Pc Out} {event : Event Call Choice Env}
    {pid : ℕ} {call : Call} {out : Out} (taken : step site flow pool event = some pool')
    (finished : pool.slots pid = .finished call out) : pool'.slots pid = .finished call out := by
  refine (step_other taken fun mine => ?_).trans finished
  have occupied : pool.slots pid ≠ .free ∧ ∀ call pc, pool.slots pid ≠ .running call pc := by
    rw [finished]
    exact ⟨by simp, by simp⟩
  cases stepped taken with
  | call free started =>
      cases mine
      exact occupied.1 free
  | step running answered =>
      cases mine
      exact occupied.2 _ _ running
  | crashPending running =>
      cases mine
      exact occupied.2 _ _ running
  | crashPerformed running answered =>
      cases mine
      exact occupied.2 _ _ running
  | env moved => cases mine

/-- A run has started finitely many calls. -/
theorem eventually_free {C : Pool World Call Pc Out → Event Call Choice Env → Prop} {world : World}
    {pool : Pool World Call Pc Out} (ran : Path (step site flow) C (initial world) pool) :
    ∃ bound, ∀ pid, bound ≤ pid → pool.slots pid = .free := by
  refine ran.invariant (P := fun pool => ∃ bound, ∀ pid, bound ≤ pid → pool.slots pid = .free)
    ⟨0, fun _ _ => rfl⟩ ?_
  rintro before event after _ ⟨bound, free⟩ taken
  refine ⟨max bound (event.pid?.elim 0 (· + 1)), fun pid above => ?_⟩
  rw [step_other taken, free pid (by omega)]
  intro mine
  rw [Option.mem_def.mp mine, Option.elim_some] at above
  omega

/-- No call is running after a run over a list of events, if none of those is that the
events are about. -/
theorem idle_of_run {world : World} {events : List (Event Call Choice Env)}
    {pool : Pool World Call Pc Out} (ran : run (step site flow) (initial world) events = some pool)
    (idle : ∀ event ∈ events, ∀ pid ∈ event.pid?, (pool.slots pid).isRunning = false) (pid : ℕ) :
    (pool.slots pid).isRunning = false := by
  by_cases about : ∃ event ∈ events, pid ∈ event.pid?
  · obtain ⟨event, happened, mine⟩ := about
    exact idle event happened pid mine
  · rw [run_unchanged (fun pool => pool.slots pid) (P := fun event => pid ∉ event.pid?)
      (fun _ _ _ other taken => step_other taken other) ran
      fun event happened mine => about ⟨event, happened, mine⟩]
    rfl

end Steps

end Pool

end WorkflowHub.Processes
