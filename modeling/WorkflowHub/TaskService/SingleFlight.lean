import WorkflowHub.TaskService.Polling

/-!
# `isPolling` and the poll run it stands for

A tick of the interval may start `pollOutbox` while an earlier run awaits a reply, and the
run clears `isPolling` in two places. `SingleFlight` says that the field is set while a run
is past its check; `Taken` is the other direction, and together they say that the field is
set exactly then (`single_flight_polling`). So an instance whose run has ended, in whatever
way, fetches again at the next tick (`tick_fetches`).
-/

set_option autoImplicit false

namespace WorkflowHub.TaskService

open Processes

section PastCheck

variable {Pc : Type}

/-- Call `pid` is a poll run of the instance that is past its check of `isPolling`. A run
that found it set has ended before another call moves. -/
def PastCheck (pool : Pool World Call Pc (Except Thrown Reply)) (instanceId pid : ℕ) : Prop :=
  (pool.slots pid).isRunning = true ∧ (pool.slots pid).call? = some (.pollOutbox instanceId)

instance (pool : Pool World Call Pc (Except Thrown Reply)) (instanceId pid : ℕ) :
    Decidable (PastCheck pool instanceId pid) := by
  unfold PastCheck
  infer_instance

theorem pastCheck_iff {pool : Pool World Call Pc (Except Thrown Reply)} {instanceId pid : ℕ} :
    PastCheck pool instanceId pid ↔
      ∃ pc, pool.slots pid = .running (.pollOutbox instanceId) pc := by
  constructor
  · rintro ⟨running, called⟩
    cases found : pool.slots pid with
    | running call pc =>
        simp only [found, Slot.call?, Option.some.injEq] at called
        exact ⟨pc, by rw [called]⟩
    | _ => simp [found, Slot.isRunning] at running
  · rintro ⟨pc, found⟩
    simp [PastCheck, found, Slot.isRunning, Slot.call?]

end PastCheck

/-! ## `isPolling` is set by a run -/

/-- Where `isPolling` is set, a poll run of the instance is past its check. -/
def Taken (pool : Pool World Call Pc (Except Thrown Reply)) : Prop :=
  ∀ instanceId, pool.world.isPolling instanceId = true →
    ∃ pid pc, pool.slots pid = .running (.pollOutbox instanceId) pc ∧ pc.Polls

/-- A poll run ends, and clears `isPolling`, or it goes on to another of its operations. -/
theorem next_poll {call : Call} {pc : Pc} (polls : pc.Polls)
    (reply : (promises Op Op.Value Thrown).Res (flow.op call pc)) (fields : Fields) :
    flow.next call pc reply fields = Led.endPoll fields ∨
      ∃ pc', pc'.Polls ∧ flow.next call pc reply fields = (fields, .running pc') := by
  have rest : ∀ events : List Outbox, Led.pollNext fields events = Led.endPoll fields ∨
      ∃ pc', pc'.Polls ∧ Led.pollNext fields events = (fields, .running pc') := by
    intro events
    cases events with
    | nil => exact .inl rfl
    | cons event events => exact .inr ⟨.emit event events, trivial, rfl⟩
  cases pc with
  | findPending =>
      cases reply with
      | error error => exact .inl rfl
      | ok batch => exact rest batch
  | emit event events =>
      cases reply with
      | error error => exact .inr ⟨.saveCaught _ events, trivial, rfl⟩
      | ok _ => exact .inr ⟨.saveCompleted _ events, trivial, rfl⟩
  | saveCompleted document events =>
      cases reply with
      | error error => exact .inr ⟨.saveCaught _ events, trivial, rfl⟩
      | ok _ => exact rest events
  | saveCaught document events =>
      cases reply with
      | error error => exact .inl rfl
      | ok _ => exact rest events
  | _ => cases polls

theorem land_endPoll {world : World} {pid instanceId : ℕ} {fields : Fields} :
    (Pool.land site world pid (.pollOutbox instanceId) (Led.endPoll fields)).1.isPolling instanceId =
      false :=
  Function.update_self ..

namespace Taken

variable {pool : Pool World Call Pc (Except Thrown Reply)}

/-- What remains to be shown of a step of call `pid`: where it leaves `isPolling` set, it is
the run itself, or the field was set before and the run is another one. -/
theorem settle (before : Taken pool) {pid : ℕ}
    {landed : World × Slot Call Pc (Except Thrown Reply)}
    (here : ∀ instanceId, landed.1.isPolling instanceId = true →
      (∃ pc, landed.2 = .running (.pollOutbox instanceId) pc ∧ pc.Polls) ∨
        pool.world.isPolling instanceId = true ∧
          ∀ pc, pool.slots pid ≠ .running (.pollOutbox instanceId) pc) :
    Taken (Pool.settle pool.slots pid landed) := by
  intro instanceId polling
  rcases here instanceId polling with ⟨pc, running, polls⟩ | ⟨polling, elsewhere⟩
  · exact ⟨pid, pc, (Pool.settle_self ..).trans running, polls⟩
  · obtain ⟨other, pc, running, polls⟩ := before instanceId polling
    have different : other ≠ pid := by
      rintro rfl
      exact elsewhere pc running
    exact ⟨other, pc, (Pool.settle_other _ different _).trans running, polls⟩

theorem initial : Taken (.initial {}) := by
  intro instanceId polling
  cases polling

/-- The world may change as long as nobody sets or clears `isPolling`. -/
theorem congr (before : Taken pool) {world : World}
    (same : world.isPolling = pool.world.isPolling) : Taken ⟨world, pool.slots⟩ := by
  intro instanceId polling
  exact before instanceId ((congrFun same instanceId).symm.trans polling)

/-- A crash clears `isPolling` of the run it ends, and of no other. -/
theorem crashed (before : Taken pool) {pid : ℕ} {call : Call} {pc : Pc}
    (running : pool.slots pid = .running call pc) :
    Taken (Pool.settle pool.slots pid (site.crash pool.world pid call, .crashed call)) := by
  refine before.settle fun instanceId polling => .inr ?_
  have different : call ≠ .pollOutbox instanceId := by
    rintro rfl
    rw [show (site.crash pool.world pid (.pollOutbox instanceId)).isPolling instanceId = false from
      Function.update_self ..] at polling
    cases polling
  refine ⟨(crash_isPolling_other different).symm.trans polling, fun pc' running' => ?_⟩
  rw [running] at running'
  cases running'
  exact different rfl

/-- A tick that finds `isPolling` set leaves it to the run that set it. -/
theorem called (before : Taken pool) {pid : ℕ} {call : Call} (free : pool.slots pid = .free) :
    Taken (Pool.settle pool.slots pid (Pool.land site pool.world pid call
      (Led.enter (site.load pool.world call) call))) := by
  have mine : ∀ instanceId pc, pool.slots pid ≠ .running (.pollOutbox instanceId) pc := by
    intro instanceId pc running
    rw [free] at running
    cases running
  refine before.settle fun instanceId polling => ?_
  by_cases same : call = .pollOutbox instanceId
  · subst same
    by_cases already : pool.world.isPolling instanceId = true
    · exact .inr ⟨already, mine instanceId⟩
    · refine .inl ⟨.findPending, ?_, trivial⟩
      simp [Led.enter, site, already]
  · rw [land_isPolling_other same] at polling
    exact .inr ⟨polling, mine instanceId⟩

/-- Every step of the system keeps it. -/
theorem step {after : Pool World Call Pc (Except Thrown Reply)} {event : Happening}
    (before : Taken pool) (alone : SingleFlight pool)
    (taken : Pool.step site flow pool event = some after) : Taken after := by
  cases Pool.stepped taken with
  | call free started =>
      cases started
      exact before.called free
  | @step pid choice call pc world reply running answered =>
      have moved := before.congr (exec_isPolling answered)
      refine moved.settle fun instanceId polling => ?_
      by_cases same : call = .pollOutbox instanceId
      · subst same
        left
        -- The run that set the field is this one, for it is the only one.
        obtain ⟨pid', pc', running', polls⟩ := before instanceId (alone.polling running)
        obtain rfl : pid' = pid := alone.alone running' running
        obtain rfl : pc' = pc := by
          rw [running] at running'
          cases running'
          rfl
        rcases next_poll polls reply (site.load world _) with ended | ⟨next, polls', goes⟩
        · -- It cannot have ended, for the field is still set.
          rw [ended, land_endPoll] at polling
          cases polling
        · rw [goes]
          exact ⟨next, rfl, polls'⟩
      · right
        rw [land_isPolling_other same] at polling
        refine ⟨polling, fun pc' running' => ?_⟩
        rw [show pool.slots pid = _ from running] at running'
        cases running'
        exact same rfl
  | crashPending running => exact before.crashed running
  | crashPerformed running answered =>
      exact (before.congr (exec_isPolling answered)).crashed running
  | env moved => exact before.congr (env_isPolling moved)

theorem path {C : View → Happening → Prop} {machine : Pool World Call Pc (Except Thrown Reply)}
    (ran : FlowRuns C (.initial {}) machine) : Taken machine :=
  (Sane.initial.path ran).invariant initial fun _ _ _ assumed before taken =>
    before.step assumed.2.singleFlight taken

end Taken

/-! ## Single flight -/

/-- The event an operation publishes or writes back. -/
def Op.event? : Op → Option ObjectId
  | .emit event _ _ => some event
  | .save document => some document.event.id
  | _ => none

theorem Pc.mem_held {pc : Pc} {id : ObjectId} (works : pc.op.event? = some id) :
    id ∈ pc.held := by
  cases pc with
  | emit event rest =>
      cases works
      exact List.mem_cons_self
  | saveCompleted document rest =>
      cases works
      exact List.mem_cons_self
  | saveCaught document rest =>
      cases works
      exact List.mem_cons_self
  | _ => cases works

/-- What holds of one instance of the poller. -/
structure OneRun (state : View) (instanceId : ℕ) : Prop where
  /-- At most one poll run is past its check of `isPolling`. -/
  alone : ∀ {pid other}, PastCheck state instanceId pid → PastCheck state instanceId other →
    pid = other
  /-- The event that a run publishes or writes back is one it holds. -/
  held : ∀ {pid op id}, state.slots pid = .running (.pollOutbox instanceId) op →
    op.event? = some id → id ∈ state.world.copiesOf pid
  /-- No event is held by two poll runs, whether they are still active or not. -/
  sole : ∀ {pid other id}, (state.slots pid).call? = some (.pollOutbox instanceId) →
    (state.slots other).call? = some (.pollOutbox instanceId) →
    id ∈ state.world.copiesOf pid → id ∈ state.world.copiesOf other → pid = other
  /-- `isPolling` is set exactly while such a run is active. -/
  polling : state.world.isPolling instanceId = true ↔ ∃ pid, PastCheck state instanceId pid

theorem pastCheck_observe {machine : Pool World Call Pc (Except Thrown Reply)}
    {instanceId pid : ℕ} :
    PastCheck (machine.observe flow) instanceId pid ↔ PastCheck machine instanceId pid := by
  constructor
  · rintro ⟨running, called⟩
    exact ⟨Slot.isRunning_observe.symm.trans running, Slot.call?_observe.symm.trans called⟩
  · rintro ⟨running, called⟩
    exact ⟨Slot.isRunning_observe.trans running, Slot.call?_observe.trans called⟩

/-- A poll run that holds copies is past its check. -/
theorem pastCheck_of_copies {machine : Pool World Call Pc (Except Thrown Reply)}
    (sane : Sane machine) {instanceId pid : ℕ} {id : ObjectId}
    (called : (machine.slots pid).call? = some (.pollOutbox instanceId))
    (held : id ∈ machine.world.copiesOf pid) : PastCheck machine instanceId pid := by
  refine ⟨?_, called⟩
  have copies := sane.holding.locally pid
  cases found : machine.slots pid with
  | running call pc => rfl
  | _ =>
      simp only [holding, found] at copies
      rw [copies] at held
      cases held

theorem oneRun {machine : Pool World Call Pc (Except Thrown Reply)} (sane : Sane machine)
    (taken : Taken machine) (instanceId : ℕ) : OneRun (machine.observe flow) instanceId := by
  have alone : ∀ {pid other}, PastCheck machine instanceId pid →
      PastCheck machine instanceId other → pid = other := by
    intro pid other active active'
    obtain ⟨pc, running⟩ := pastCheck_iff.mp active
    obtain ⟨pc', running'⟩ := pastCheck_iff.mp active'
    exact sane.singleFlight.alone running running'
  constructor
  case alone =>
    intro pid other active active'
    exact alone (pastCheck_observe.mp active) (pastCheck_observe.mp active')
  case held =>
    intro pid op id running works
    obtain ⟨pc, found, rfl⟩ := Slot.of_observe_running running
    rw [Pool.observe_world, (sane.running found).2.2.1]
    exact Pc.mem_held works
  case sole =>
    intro pid other id called called' held held'
    exact alone (pastCheck_of_copies sane (Slot.call?_observe.symm.trans called) held)
      (pastCheck_of_copies sane (Slot.call?_observe.symm.trans called') held')
  case polling =>
    constructor
    · intro polling
      obtain ⟨pid, pc, running, _⟩ := taken instanceId polling
      exact ⟨pid, pastCheck_observe.mpr (pastCheck_iff.mpr ⟨pc, running⟩)⟩
    · rintro ⟨pid, active⟩
      obtain ⟨pc, running⟩ := pastCheck_iff.mp (pastCheck_observe.mp active)
      exact sane.singleFlight.polling running

theorem oneRun_of_run {C : View → Happening → Prop} {state : State}
    (ran : Runs C (.initial {}) state) (instanceId : ℕ) :
    OneRun (state.observe programs) instanceId := by
  obtain ⟨machine, ran, same⟩ := implements.path ran
  have ran : FlowRuns C (.initial {}) machine := ran
  have sane : Sane machine :=
    ran.invariant .initial fun _ _ _ _ sane taken => sane.step taken
  rw [← show machine.observe flow = state.observe programs from same]
  exact oneRun sane (.path ran) instanceId

/-- **A poller whose run has ended fetches again at the next tick,** however the run ended. -/
theorem tick_fetches {C : View → Happening → Prop} {state : State}
    (ran : Runs C (.initial {}) state) {instanceId pid : ℕ}
    (ended : ∀ other, ¬ PastCheck (state.observe programs) instanceId other)
    (free : state.slots pid = .free) :
    ∃ after ∈ step state (.call pid (.pollOutbox instanceId)),
      (after.observe programs).slots pid =
        .running (.pollOutbox instanceId) (.findPending batchSize) := by
  have idle : state.world.isPolling instanceId = false := by
    refine Bool.eq_false_iff.mpr fun polling => ?_
    obtain ⟨other, active⟩ := (oneRun_of_run ran instanceId).polling.mp polling
    exact ended other active
  have fields : site.load state.world (.pollOutbox instanceId) = ⟨false, state.world.now⟩ := by
    simp only [site, idle]
  refine ⟨Pool.settle state.slots pid (Pool.land site state.world pid (.pollOutbox instanceId)
    (programs.enter (.pollOutbox instanceId) ⟨false, state.world.now⟩)), ?_, ?_⟩
  · simp only [Pool.step, free, ← fields]
    rfl
  · simp only [Pool.observe_slots, Pool.settle_self]
    rfl

/-- **Single-flight polling.** In every state of every run, at most one poll run of an
instance is past its check of `isPolling`, no event is held by two of them, and the field is
set exactly while one is active. -/
theorem single_flight_polling {state : State} (ran : Runs Always (.initial {}) state) :
    ∀ instanceId, OneRun (state.observe programs) instanceId :=
  fun instanceId => oneRun_of_run ran instanceId

/-- Ticks at every await of a run whose `emit` and whose `save` are rejected, and of the run
after it. -/
def Sample.ticks : List Happening :=
  let tick (pid : ℕ) : Happening := .call pid (.pollOutbox 0)
  [tick 1, tick 2, resolves 1, tick 3, rejects 1, tick 4, rejects 1, tick 5, resolves 5, tick 6]

/-- The theorem there: run 1 has ended, and run 5 is the one that is active. -/
theorem single_flight_polling_ticks :
    ∃ state ∈ run step (.initial {}) (Sample.created ++ Sample.ticks),
      (∀ pid ≤ 6, PastCheck (state.observe programs) 0 pid ↔ pid = 5) ∧
        state.world.copiesOf 5 = [Sample.recordId] ∧
        ∀ instanceId, OneRun (state.observe programs) instanceId := by
  obtain ⟨state, ran, active, copies⟩ :
      ∃ state ∈ run step (.initial {}) (Sample.created ++ Sample.ticks),
        (∀ pid ≤ 6, PastCheck (state.observe programs) 0 pid ↔ pid = 5) ∧
          state.world.copiesOf 5 = [Sample.recordId] := by decide +kernel
  exact ⟨state, ran, active, copies, single_flight_polling (.of_run ran .always)⟩

end WorkflowHub.TaskService
