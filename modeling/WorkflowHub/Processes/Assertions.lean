import WorkflowHub.Processes.Tracking

/-!
# Assertions at program points

The proof rule for invariants of a pool. `Global` is what always holds of the world, and
`Local` says of a call what holds of the world while the call is where it is. The
invariant is their conjunction over the process table. A step of one call owes three
things: the global part, the assertion where the call is now, and that it left the
assertions of the other calls true.
-/

set_option autoImplicit false

namespace WorkflowHub.Processes

variable {S : Signature} {σ World Call Pc Out Choice Env : Type}

/-- Assertions about a world: one that always holds, and one for each process entry. -/
structure Assertions (World Call Pc Out : Type) where
  Global : World → Prop
  Local : World → ℕ → Slot Call Pc Out → Prop

namespace Assertions

/-- The global assertion holds, and so does the one of every entry. -/
structure Holds (assertions : Assertions World Call Pc Out) (pool : Pool World Call Pc Out) :
    Prop where
  globally : assertions.Global pool.world
  locally : ∀ pid, assertions.Local pool.world pid (pool.slots pid)

/-- What a step of call `pid` owes when it leaves the world and its own entry as `landed`. -/
structure Owed (assertions : Assertions World Call Pc Out) (pool : Pool World Call Pc Out)
    (pid : ℕ) (landed : World × Slot Call Pc Out) : Prop where
  globally : assertions.Global landed.1
  locally : assertions.Local landed.1 pid landed.2
  others : ∀ other, other ≠ pid → assertions.Local pool.world other (pool.slots other) →
    assertions.Local landed.1 other (pool.slots other)

/-- What is owed, when the world the step leaves is known. -/
theorem Owed.of_world {assertions : Assertions World Call Pc Out} {pool : Pool World Call Pc Out}
    {pid : ℕ} {world : World} {landed : World × Slot Call Pc Out} (same : landed.1 = world)
    (globally : assertions.Global world) (locally : assertions.Local world pid landed.2)
    (others : ∀ other, other ≠ pid → assertions.Local pool.world other (pool.slots other) →
      assertions.Local world other (pool.slots other)) : assertions.Owed pool pid landed := by
  subst same
  exact ⟨globally, locally, others⟩

/-- What has to be shown of assertions: each kind of step pays what it owes. `C` is what
may be assumed of the state before the step and of the event. -/
structure Valid (assertions : Assertions World Call Pc Out)
    (site : Site S σ World Call Out Choice Env) (flow : Flow S σ Call Pc Out)
    (C : Pool World Call Pc Out → Event Call Choice Env → Prop) : Prop where
  call : ∀ {pool pid call world}, assertions.Holds pool → C pool (.call pid call) →
    pool.slots pid = .free → site.start pool.world pid call = some world →
    assertions.Owed pool pid
      (Pool.land site world pid call (flow.enter call (site.load world call)))
  step : ∀ {pool pid choice call pc world reply}, assertions.Holds pool →
    C pool (.step pid choice) → pool.slots pid = .running call pc →
    site.exec pool.world pid call (flow.op call pc) choice = some (world, reply) →
    assertions.Owed pool pid
      (Pool.land site world pid call (flow.next call pc reply (site.load world call)))
  crashPending : ∀ {pool pid call pc}, assertions.Holds pool → C pool (.crash pid none) →
    pool.slots pid = .running call pc →
    assertions.Owed pool pid (site.crash pool.world pid call, .crashed call)
  crashPerformed : ∀ {pool pid choice call pc world reply}, assertions.Holds pool →
    C pool (.crash pid (some choice)) → pool.slots pid = .running call pc →
    site.exec pool.world pid call (flow.op call pc) choice = some (world, reply) →
    assertions.Owed pool pid (site.crash world pid call, .crashed call)
  env : ∀ {pool event world}, assertions.Holds pool → C pool (.env event) →
    site.env pool.world event = some world →
    assertions.Global world ∧ ∀ pid, assertions.Local pool.world pid (pool.slots pid) →
      assertions.Local world pid (pool.slots pid)

variable {assertions : Assertions World Call Pc Out} {site : Site S σ World Call Out Choice Env}
  {flow : Flow S σ Call Pc Out} {C : Pool World Call Pc Out → Event Call Choice Env → Prop}

/-- A step that pays what it owes keeps the assertions. -/
theorem Owed.settle {pool : Pool World Call Pc Out} {pid : ℕ} {landed : World × Slot Call Pc Out}
    (owed : assertions.Owed pool pid landed) (holds : assertions.Holds pool) :
    assertions.Holds (Pool.settle pool.slots pid landed) := by
  refine ⟨owed.globally, fun other => ?_⟩
  by_cases same : other = pid
  · subst same
    simpa only [Pool.settle, Function.update_self] using owed.locally
  · simpa only [Pool.settle, Function.update_of_ne same] using
      owed.others other same (holds.locally other)

/-- Every step under the condition keeps valid assertions. -/
theorem Valid.preserved (valid : assertions.Valid site flow C) (before : Pool World Call Pc Out)
    (event : Event Call Choice Env) (after : Pool World Call Pc Out) (allowed : C before event)
    (holds : assertions.Holds before) (taken : Pool.step site flow before event = some after) :
    assertions.Holds after := by
  cases Pool.stepped taken with
  | call free started => exact (valid.call holds allowed free started).settle holds
  | step running answered => exact (valid.step holds allowed running answered).settle holds
  | crashPending running => exact (valid.crashPending holds allowed running).settle holds
  | crashPerformed running answered =>
      exact (valid.crashPerformed holds allowed running answered).settle holds
  | env moved =>
      obtain ⟨globally, locally⟩ := valid.env holds allowed moved
      exact ⟨globally, fun pid => locally pid (holds.locally pid)⟩

/-- **Valid assertions that hold at the start hold all along every run.** -/
theorem Valid.path (valid : assertions.Valid site flow C) {first last : Pool World Call Pc Out}
    (ran : Path (Pool.step site flow) C first last) (holds : assertions.Holds first) :
    assertions.Holds last :=
  ran.invariant holds valid.preserved

end Assertions

/-! ## Assertions of the program points alone -/

/-- What holds of a call wherever it is led, whatever the replies are. -/
structure Flow.Keeps (flow : Flow S σ Call Pc Out) (P : Call → Target Pc Out → Prop) : Prop where
  enter : ∀ call fields, P call (flow.enter call fields).2
  next : ∀ call pc reply fields, P call (.running pc) → P call (flow.next call pc reply fields).2

/-- It holds of the entry of the call. -/
def Slot.Placed (P : Call → Target Pc Out → Prop) : Slot Call Pc Out → Prop
  | .running call pc => P call (.running pc)
  | .finished call out => P call (.finished out)
  | _ => True

/-- It does so in every state. -/
theorem Flow.Keeps.valid {flow : Flow S σ Call Pc Out} {P : Call → Target Pc Out → Prop}
    (keeps : flow.Keeps P) (site : Site S σ World Call Out Choice Env) :
    Assertions.Valid ⟨fun _ => True, fun _ _ => Slot.Placed P⟩ site flow fun _ _ => True := by
  have landed {world : World} {pid : ℕ} {call : Call} {led : σ × Target Pc Out}
      (holds : P call led.2) : (Pool.land site world pid call led).2.Placed P := by
    obtain ⟨fields, target⟩ := led
    cases target with
    | _ => exact holds
  constructor
  case call => exact fun _ _ _ _ => ⟨trivial, landed (keeps.enter _ _), fun _ _ before => before⟩
  case step =>
    intro pool pid choice call pc world reply holds _ running _
    have placed := holds.locally pid
    simp only [running] at placed
    exact ⟨trivial, landed (keeps.next call pc reply _ placed), fun _ _ before => before⟩
  case crashPending => exact fun _ _ _ => ⟨trivial, trivial, fun _ _ before => before⟩
  case crashPerformed => exact fun _ _ _ _ => ⟨trivial, trivial, fun _ _ before => before⟩
  case env => exact fun _ _ _ => ⟨trivial, fun _ before => before⟩

end WorkflowHub.Processes
