import WorkflowHub.TaskService.Delivery

/-!
# Poll runs and their copies

Two facts about poll runs that hold in every run of the system. `SingleFlight`: of the
poll runs of one instance, at most one is past its check of `isPolling`. `holding`: the
history `copies` lists the records of the batch that a poll run has not written back, and
a record is in a batch once.
-/

set_option autoImplicit false

namespace WorkflowHub.TaskService

open Processes

/-! ## The copies of a poll run -/

/-- The records a call holds copies of. -/
def Pc.held (pc : Pc) : List ObjectId := pc.batch.map (·.id)

/-- The points of a poll run. -/
def Pc.Polls : Pc → Prop
  | .findPending | .emit .. | .saveCompleted .. | .saveCaught .. => True
  | _ => False

/-- The copies of a call are those it holds where it is. -/
def Holding (call : Call) (copies : List ObjectId) : Target Pc (Except Thrown Reply) → Prop
  | .running pc => copies = pc.held ∧ pc.held.Nodup ∧
      (pc.Polls → ∃ instanceId, call = .pollOutbox instanceId)
  | .finished _ => True

def holding : Assertions World Call Pc (Except Thrown Reply) where
  Global _ := True
  Local world pid slot :=
    match slot with
    | .running call pc => Holding call (world.copiesOf pid) (.running pc)
    | _ => world.copiesOf pid = []

theorem store_copiesOf (world : World) (call : Call) (fields : Fields) (pid : ℕ) :
    (site.store world call fields).copiesOf pid = world.copiesOf pid := by
  cases call <;> rfl

/-- A call leaves the copies of others alone when it settles. -/
theorem land_copiesOf_other {world : World} {pid : ℕ} {call : Call} {led : Led} {other : ℕ}
    (different : other ≠ pid) :
    (Pool.land site world pid call led).1.copiesOf other = world.copiesOf other := by
  obtain ⟨fields, target⟩ := led
  cases target with
  | running pc => exact store_copiesOf world call fields other
  | finished out =>
      exact (World.copiesOf_hold_other _ different []).trans
        (store_copiesOf world call fields other)

theorem land_copiesOf_subset {world : World} {pid : ℕ} {call : Call} {led : Led} (other : ℕ) :
    (Pool.land site world pid call led).1.copiesOf other ⊆ world.copiesOf other := by
  obtain ⟨fields, target⟩ := led
  cases target with
  | running pc =>
      rw [← store_copiesOf world call fields other]
      exact List.Subset.refl _
  | finished out =>
      by_cases different : other = pid
      · subst different
        rw [show (Pool.land site world other call (fields, .finished out)).1.copiesOf other = [] from
          World.copiesOf_hold_self _ other []]
        exact List.nil_subset _
      · rw [land_copiesOf_other different]
        exact List.Subset.refl _

theorem crash_copiesOf_other {world : World} {pid : ℕ} {call : Call} {other : ℕ}
    (different : other ≠ pid) :
    (site.crash world pid call).copiesOf other = world.copiesOf other :=
  World.copiesOf_hold_other world different []

theorem crash_copiesOf_self {world : World} {pid : ℕ} {call : Call} :
    (site.crash world pid call).copiesOf pid = [] :=
  World.copiesOf_hold_self world pid []

/-- So does an operation. -/
theorem exec_copiesOf_other {world world' : World} {pid : ℕ} {op : Op} {answer : Answer}
    {reply : Except Thrown op.Value} {other : ℕ} (different : other ≠ pid)
    (answered : exec world pid op answer = some (world', reply)) :
    world'.copiesOf other = world.copiesOf other := by
  cases op with
  | findPending limit =>
      rcases respond_cases answered with ⟨rfl, _⟩ | ⟨_, rfl, _⟩
      · rfl
      · split
        · exact World.copiesOf_hold_other _ different _
        · rfl
  | save document =>
      rcases respond_cases answered with ⟨rfl, _⟩ | ⟨_, rfl, _⟩
      · rfl
      · split
        · exact World.copiesOf_hold_other _ different _
        · rfl
  | commitTransaction =>
      rcases respond_cases answered with ⟨rfl, _⟩ | ⟨_, rfl, _⟩
      · split <;> rfl
      · rfl
  | _ =>
      rcases respond_cases answered with ⟨rfl, _⟩ | ⟨_, rfl, _⟩
      · rfl
      · rfl

/-- Only a fetch or a save that resolved changes the copies of the caller. -/
theorem exec_copiesOf_self {world world' : World} {pid : ℕ} {op : Op} {answer : Answer}
    {reply : Except Thrown op.Value}
    (fetch : ∀ limit, op = .findPending limit → answer.outcome ≠ .resolved)
    (save : ∀ document, op = .save document → answer.outcome ≠ .resolved)
    (answered : exec world pid op answer = some (world', reply)) :
    world'.copiesOf pid = world.copiesOf pid := by
  cases op with
  | findPending limit =>
      rcases respond_cases answered with ⟨rfl, _⟩ | ⟨_, rfl, _⟩
      · rfl
      · rw [if_neg (fetch limit rfl)]
  | save document =>
      rcases respond_cases answered with ⟨rfl, _⟩ | ⟨_, rfl, _⟩
      · rfl
      · rw [if_neg (save document rfl)]
        rfl
  | commitTransaction =>
      rcases respond_cases answered with ⟨rfl, _⟩ | ⟨_, rfl, _⟩
      · split <;> rfl
      · rfl
  | _ =>
      rcases respond_cases answered with ⟨rfl, _⟩ | ⟨_, rfl, _⟩
      · rfl
      · rfl

/-- No other operation than a fetch adds copies. -/
theorem exec_copiesOf_subset {world world' : World} {pid : ℕ} {op : Op} {answer : Answer}
    {reply : Except Thrown op.Value} (fetch : ∀ limit, op ≠ .findPending limit)
    (answered : exec world pid op answer = some (world', reply)) (other : ℕ) :
    world'.copiesOf other ⊆ world.copiesOf other := by
  by_cases different : other = pid
  · subst different
    by_cases saving : ∃ document, op = .save document
    · obtain ⟨document, rfl⟩ := saving
      rcases respond_cases answered with ⟨rfl, _⟩ | ⟨_, rfl, _⟩
      · exact List.Subset.refl _
      · split
        · rw [World.release, World.copiesOf_hold_self]
          exact List.erase_subset
        · exact List.Subset.refl _
    · rw [exec_copiesOf_self (fun limit same => absurd same (fetch limit))
        (fun document same => absurd ⟨document, same⟩ saving) answered]
      exact List.Subset.refl _
  · rw [exec_copiesOf_other different answered]
    exact List.Subset.refl _

/-- A save that resolved releases the copy. -/
theorem released {world world' : World} {pid : ℕ} {document : OutboxDocument}
    {answer : Answer} {value : Unit} {rest : List ObjectId}
    (same : world.copiesOf pid = document.event.id :: rest)
    (answered : exec world pid (.save document) answer = some (world', .ok value)) :
    world'.copiesOf pid = rest := by
  obtain ⟨_, rfl, _, resolved⟩ := respond_ok answered
  have before : ({ world with toLedger := world.writeBack document } : World).copiesOf pid =
      document.event.id :: rest := same
  simp only [resolved, ↓reduceIte, World.release, World.copiesOf_hold_self, before,
    List.erase_cons_head]

/-- A batch has no record twice. -/
theorem nodup_pendingBatch {ledger : Ledger} (nodup : (ledger.outbox.map (·.id)).Nodup)
    (limit : ℕ) : ((ledger.pendingBatch limit).map (·.id)).Nodup := by
  have sublist := List.take_sublist limit
    ((ledger.outbox.filter (·.status = .pending)).insertionSort (·.createdAt ≤ ·.createdAt))
  refine List.Nodup.sublist (sublist.map _) ?_
  have sorted := List.perm_insertionSort
    (fun first second : Outbox => first.createdAt ≤ second.createdAt)
    (ledger.outbox.filter (·.status = .pending))
  rw [(sorted.map (·.id)).nodup_iff]
  exact nodup.sublist (List.filter_sublist.map _)

theorem holding_pollNext {instanceId : ℕ} {fields : Fields} {rest : List Outbox}
    {copies : List ObjectId} (same : copies = rest.map (·.id)) (nodup : (rest.map (·.id)).Nodup) :
    Holding (.pollOutbox instanceId) copies (Led.pollNext fields rest).2 := by
  cases rest with
  | nil => trivial
  | cons event rest => exact ⟨same, nodup, fun _ => ⟨instanceId, rfl⟩⟩

/-- The copies where the call goes after an operation. -/
theorem holding_next {world world' : World} {pid : ℕ} {call : Call} {pc : Pc} {answer : Answer}
    {reply : Except Thrown pc.op.Value} {fields : Fields} (provenance : Provenance world.toLedger)
    (holds : Holding call (world.copiesOf pid) (.running pc))
    (answered : exec world pid pc.op answer = some (world', reply)) :
    Holding call (world'.copiesOf pid) (Led.next fields pc reply).2 := by
  obtain ⟨same, nodup, polls⟩ := holds
  cases pc with
  | findPending =>
      obtain ⟨instanceId, rfl⟩ := polls trivial
      cases reply with
      | error error => trivial
      | ok batch =>
          obtain ⟨_, rfl, rfl, resolved⟩ := respond_ok answered
          refine holding_pollNext ?_ (nodup_pendingBatch provenance.nodup _)
          simp only [resolved, ↓reduceIte, World.copiesOf_hold_self]
  | emit event rest =>
      have kept : world'.copiesOf pid = world.copiesOf pid :=
        exec_copiesOf_self (by simp [Pc.op]) (by simp [Pc.op]) answered
      cases reply with
      | error error =>
          have id := (caught_same fields.now error { event }).1
          refine ⟨?_, ?_, fun _ => polls trivial⟩
          · simpa only [Pc.held, Pc.batch, List.map_cons, id] using kept.trans same
          · simpa only [Pc.held, Pc.batch, List.map_cons, id] using nodup
      | ok _ => exact ⟨kept.trans same, nodup, fun _ => polls trivial⟩
  | saveCompleted document rest =>
      cases reply with
      | error error =>
          have kept : world'.copiesOf pid = world.copiesOf pid :=
            exec_copiesOf_self (by simp [Pc.op]) (fun _ _ => respond_error answered) answered
          have id := (caught_same fields.now error document).1
          refine ⟨?_, ?_, fun _ => polls trivial⟩
          · simpa only [Pc.held, Pc.batch, List.map_cons, id] using kept.trans same
          · simpa only [Pc.held, Pc.batch, List.map_cons, id] using nodup
      | ok _ =>
          obtain ⟨instanceId, rfl⟩ := polls trivial
          exact holding_pollNext (released same answered) nodup.of_cons
  | saveCaught document rest =>
      cases reply with
      | error error => trivial
      | ok _ =>
          obtain ⟨instanceId, rfl⟩ := polls trivial
          exact holding_pollNext (released same answered) nodup.of_cons
  | createTask body =>
      cases reply with
      | error error => trivial
      | ok created => cases created <;> trivial
  | findByIdAndDelete taskId =>
      cases reply with
      | error error => trivial
      | ok deleted => cases deleted <;> trivial
  | _ =>
      have kept : world'.copiesOf pid = world.copiesOf pid :=
        exec_copiesOf_self (by simp [Pc.op]) (by simp [Pc.op]) answered
      cases reply with
      | error error => first | trivial | exact ⟨kept.trans same, nodup, nofun⟩
      | ok _ => first | trivial | exact ⟨kept.trans same, nodup, nofun⟩

theorem holding_land {world : World} {pid : ℕ} {call : Call} {led : Led}
    (holds : Holding call (world.copiesOf pid) led.2) :
    holding.Local (Pool.land site world pid call led).1 pid
      (Pool.land site world pid call led).2 := by
  obtain ⟨fields, target⟩ := led
  cases target with
  | running pc =>
      simp only [holding, Pool.land_running, store_copiesOf]
      exact holds
  | finished out => exact World.copiesOf_hold_self _ pid []

theorem holding_others {world world' : World} {other : ℕ}
    {slot : Slot Call Pc (Except Thrown Reply)} (same : world'.copiesOf other = world.copiesOf other)
    (holds : holding.Local world other slot) : holding.Local world' other slot := by
  cases slot with
  | running call pc =>
      simp only [holding, same]
      exact holds
  | _ => exact same.trans holds

theorem holding_enter {fields : Fields} {call : Call} {copies : List ObjectId}
    (none : copies = []) : Holding call copies (Led.enter fields call).2 := by
  cases call with
  | pollOutbox instanceId =>
      simp only [Led.enter]
      split
      · trivial
      · exact ⟨none, List.nodup_nil, fun _ => ⟨instanceId, rfl⟩⟩
  | _ => exact ⟨none, List.nodup_nil, fun polls => by cases polls⟩

theorem holding_valid : holding.Valid site flow fun pool _ => transactional.Holds pool where
  call := by
    intro pool pid call world holds _ free started
    cases started
    have none : pool.world.copiesOf pid = [] := by simpa only [holding, free] using holds.locally pid
    exact ⟨trivial, holding_land (holding_enter none), fun other different before =>
      holding_others (land_copiesOf_other different) before⟩
  step := by
    intro pool pid choice call pc world reply holds transaction running answered
    have held : Holding call (pool.world.copiesOf pid) (.running pc) := by
      simpa only [holding, running] using holds.locally pid
    exact ⟨trivial, holding_land (holding_next transaction.globally held answered),
      fun other different before => holding_others
        ((land_copiesOf_other different).trans (exec_copiesOf_other different answered)) before⟩
  crashPending := by
    intro pool pid call pc _ _ _
    exact ⟨trivial, crash_copiesOf_self, fun other different before =>
      holding_others (crash_copiesOf_other different) before⟩
  crashPerformed := by
    intro pool pid choice call pc world reply _ _ _ answered
    exact ⟨trivial, crash_copiesOf_self, fun other different before => holding_others
      ((crash_copiesOf_other different).trans (exec_copiesOf_other different answered)) before⟩
  env := by
    intro pool event world _ _ moved
    rcases env_cases moved with ⟨milliseconds, rfl, rfl⟩ | ⟨record, _, rfl, rfl⟩
    · exact ⟨trivial, fun pid before => before⟩
    · exact ⟨trivial, fun pid before => before⟩

/-! ## One poll run at a time -/

/-- Of the poll runs of an instance, at most one is past its check of `isPolling`. -/
structure SingleFlight (pool : Pool World Call Pc (Except Thrown Reply)) : Prop where
  polling : ∀ {pid instanceId pc}, pool.slots pid = .running (.pollOutbox instanceId) pc →
    pool.world.isPolling instanceId = true
  alone : ∀ {pid other instanceId pc pc'},
    pool.slots pid = .running (.pollOutbox instanceId) pc →
    pool.slots other = .running (.pollOutbox instanceId) pc' → pid = other

theorem exec_isPolling {world world' : World} {pid : ℕ} {op : Op} {answer : Answer}
    {reply : Except Thrown op.Value}
    (answered : exec world pid op answer = some (world', reply)) :
    world'.isPolling = world.isPolling := by
  cases op with
  | commitTransaction =>
      rcases respond_cases answered with ⟨rfl, _⟩ | ⟨_, rfl, _⟩
      · split <;> rfl
      · rfl
  | findPending limit =>
      rcases respond_cases answered with ⟨rfl, _⟩ | ⟨_, rfl, _⟩
      · rfl
      · split <;> rfl
  | save document =>
      rcases respond_cases answered with ⟨rfl, _⟩ | ⟨_, rfl, _⟩
      · rfl
      · split <;> rfl
  | _ =>
      rcases respond_cases answered with ⟨rfl, _⟩ | ⟨_, rfl, _⟩
      · rfl
      · rfl

/-- A segment that leads to another operation leaves `isPolling` as it is. -/
theorem next_isPolling {fields : Fields} {pc pc' : Pc} {reply : Except Thrown pc.op.Value}
    (led : (Led.next fields pc reply).2 = .running pc') :
    (Led.next fields pc reply).1.isPolling = fields.isPolling := by
  have rest : ∀ events : List Outbox, (Led.pollNext fields events).2 = .running pc' →
      (Led.pollNext fields events).1.isPolling = fields.isPolling := by
    intro events led
    cases events with
    | nil => cases led
    | cons event events => rfl
  cases pc with
  | findPending =>
      cases reply with
      | error error => cases led
      | ok batch => exact rest batch led
  | saveCompleted document events =>
      cases reply with
      | error error => rfl
      | ok _ => exact rest events led
  | saveCaught document events =>
      cases reply with
      | error error => cases led
      | ok _ => exact rest events led
  | createTask body =>
      cases reply with
      | error error => rfl
      | ok created => cases created <;> rfl
  | findByIdAndDelete taskId =>
      cases reply with
      | error error => rfl
      | ok deleted => cases deleted <;> rfl
  | _ => cases reply <;> rfl

/-- A call of another kind, or of another instance, does not touch `isPolling`. -/
theorem land_isPolling_other {world : World} {pid : ℕ} {call : Call} {led : Led} {instanceId : ℕ}
    (different : call ≠ .pollOutbox instanceId) :
    (Pool.land site world pid call led).1.isPolling instanceId = world.isPolling instanceId := by
  obtain ⟨fields, target⟩ := led
  have stored : (site.store world call fields).isPolling instanceId =
      world.isPolling instanceId := by
    cases call with
    | pollOutbox other =>
        refine Function.update_of_ne ?_ _ _
        rintro rfl
        exact different rfl
    | _ => rfl
  cases target with
  | running pc => exact stored
  | finished out => exact stored

/-- Nor does the crash of such a call. -/
theorem crash_isPolling_other {world : World} {pid : ℕ} {call : Call} {instanceId : ℕ}
    (different : call ≠ .pollOutbox instanceId) :
    (site.crash world pid call).isPolling instanceId = world.isPolling instanceId := by
  cases call with
  | pollOutbox other =>
      refine Function.update_of_ne ?_ _ _
      rintro rfl
      exact different rfl
  | _ => rfl

theorem env_isPolling {world world' : World} {event : Env}
    (moved : site.env world event = some world') : world'.isPolling = world.isPolling := by
  rcases env_cases moved with ⟨milliseconds, _, rfl⟩ | ⟨record, _, _, rfl⟩
  · rfl
  · rfl

namespace SingleFlight

variable {pool : Pool World Call Pc (Except Thrown Reply)}

/-- What remains to be shown of a step of call `pid`: a poll run suspended in its place has
set `isPolling` and is alone, and `isPolling` stays set for the others. -/
theorem settle (before : SingleFlight pool) {pid : ℕ}
    {landed : World × Slot Call Pc (Except Thrown Reply)}
    (here : ∀ {instanceId pc}, landed.2 = .running (.pollOutbox instanceId) pc →
      landed.1.isPolling instanceId = true ∧
        ∀ other pc', other ≠ pid → pool.slots other ≠ .running (.pollOutbox instanceId) pc')
    (elsewhere : ∀ {other instanceId pc}, other ≠ pid →
      pool.slots other = .running (.pollOutbox instanceId) pc →
        landed.1.isPolling instanceId = true) :
    SingleFlight (Pool.settle pool.slots pid landed) := by
  have entry : (Pool.settle pool.slots pid landed).slots pid = landed.2 := Function.update_self ..
  have entries : ∀ {other}, other ≠ pid →
      (Pool.settle pool.slots pid landed).slots other = pool.slots other :=
    fun different => Function.update_of_ne different ..
  constructor
  · intro other instanceId pc running
    by_cases different : other = pid
    · subst different
      exact (here (entry.symm.trans running)).1
    · rw [entries different] at running
      exact elsewhere different running
  · intro first second instanceId pc pc' running running'
    by_cases first' : first = pid
    · by_cases second' : second = pid
      · exact first'.trans second'.symm
      · rw [entries second'] at running'
        rw [first', entry] at running
        exact absurd running' ((here running).2 second pc' second')
    · rw [entries first'] at running
      by_cases second' : second = pid
      · rw [second', entry] at running'
        exact absurd running ((here running').2 first pc first')
      · rw [entries second'] at running'
        exact before.alone running running'

theorem initial : SingleFlight (.initial {}) :=
  ⟨nofun, nofun⟩

/-- The world may change as long as nobody sets or clears `isPolling`. -/
theorem congr (before : SingleFlight pool) {world : World}
    (same : world.isPolling = pool.world.isPolling) : SingleFlight ⟨world, pool.slots⟩ := by
  refine ⟨fun running => ?_, before.alone⟩
  rw [show (⟨world, pool.slots⟩ : Pool World Call Pc _).world.isPolling = _ from same]
  exact before.polling running

/-- When a call that is running settles, the other poll runs are of other instances. -/
theorem elsewhere (before : SingleFlight pool) {pid : ℕ} {call : Call} {pc : Pc} {world : World}
    (running : pool.slots pid = .running call pc)
    (same : ∀ instanceId, call ≠ .pollOutbox instanceId →
      world.isPolling instanceId = pool.world.isPolling instanceId)
    {other instanceId : ℕ} {pc' : Pc} (different : other ≠ pid)
    (running' : pool.slots other = .running (.pollOutbox instanceId) pc') :
    world.isPolling instanceId = true := by
  refine (same instanceId ?_).trans (before.polling running')
  rintro rfl
  exact different (before.alone running' running)

/-- A crash takes the fields of the poller with it. -/
theorem crashed (before : SingleFlight pool) {pid : ℕ} {call : Call} {pc : Pc}
    (running : pool.slots pid = .running call pc) :
    SingleFlight (Pool.settle pool.slots pid (site.crash pool.world pid call, .crashed call)) := by
  exact before.settle nofun (before.elsewhere running fun _ => crash_isPolling_other)

/-- A call of `pollOutbox` either finds `isPolling` set and ends, or sets it. -/
theorem called (before : SingleFlight pool) {pid : ℕ} {call : Call} :
    SingleFlight (Pool.settle pool.slots pid (Pool.land site pool.world pid call
      (Led.enter (site.load pool.world call) call))) := by
  refine before.settle ?_ ?_
  · intro instanceId pc landed
    obtain ⟨rfl, _, _⟩ := Pool.land_eq_running site landed
    by_cases polling : pool.world.isPolling instanceId = true
    · simp [Led.enter, site, polling] at landed
    · refine ⟨?_, fun other pc' _ running => polling (before.polling running)⟩
      simp [Led.enter, site, polling]
  · intro other instanceId pc _ running
    by_cases same : call = .pollOutbox instanceId
    · subst same
      simp [Led.enter, site, before.polling running, World.hold]
    · rw [land_isPolling_other same]
      exact before.polling running

/-- Every step of the system keeps it. -/
theorem step {after : Pool World Call Pc (Except Thrown Reply)} {event : Happening}
    (before : SingleFlight pool) (taken : Pool.step site flow pool event = some after) :
    SingleFlight after := by
  cases Pool.stepped taken with
  | call free started =>
      cases started
      exact before.called
  | @step pid choice call pc world reply running answered =>
      have moved := before.congr (exec_isPolling answered)
      refine moved.settle ?_ (moved.elsewhere running fun instanceId different =>
        land_isPolling_other different)
      intro instanceId pc' landed
      obtain ⟨rfl, led, stored⟩ := Pool.land_eq_running site landed
      refine ⟨?_, fun other pc'' different running' => different (before.alone running' running)⟩
      rw [stored]
      refine (Function.update_self ..).trans ((next_isPolling led).trans ?_)
      exact moved.polling running
  | crashPending running => exact before.crashed running
  | crashPerformed running answered => exact (before.congr (exec_isPolling answered)).crashed running
  | env moved => exact before.congr (env_isPolling moved)

end SingleFlight

/-! ## Together -/

/-- What holds in every state of every run. -/
structure Sane (pool : Pool World Call Pc (Except Thrown Reply)) : Prop where
  transactional : transactional.Holds pool
  delivery : delivery.Holds pool
  holding : holding.Holds pool
  singleFlight : SingleFlight pool

namespace Sane

variable {pool : Pool World Call Pc (Except Thrown Reply)}

theorem initial : Sane (.initial {}) where
  transactional := transactional_initial
  delivery := delivery_holds (C := Always) .refl
  holding := ⟨trivial, fun _ => rfl⟩
  singleFlight := .initial

theorem step {after : Pool World Call Pc (Except Thrown Reply)} {event : Happening}
    (sane : Sane pool) (taken : Pool.step site flow pool event = some after) : Sane after where
  transactional := transactional_valid.preserved _ _ _ trivial sane.transactional taken
  delivery := delivery_valid.preserved _ _ _ sane.transactional sane.delivery taken
  holding := holding_valid.preserved _ _ _ sane.transactional sane.holding taken
  singleFlight := sane.singleFlight.step taken

/-- It may be assumed at every step of a run. -/
theorem path {C : View → Happening → Prop} {first last : Pool World Call Pc (Except Thrown Reply)}
    (sane : Sane first) (ran : FlowRuns C first last) :
    Path (Pool.step site flow) (fun pool event => C (pool.observe flow) event ∧ Sane pool)
      first last :=
  ran.strengthen sane fun _ _ _ _ before taken => before.step taken

/-- What a running call gives: the transaction, the copies, and which of them it holds. -/
theorem running (sane : Sane pool) {pid : ℕ} {call : Call} {pc : Pc}
    (running : pool.slots pid = .running call pc) :
    pc.Sound pool.world.toLedger (pool.world.sessions pid) call ∧ pc.Copies pool.world.emits ∧
      Holding call (pool.world.copiesOf pid) (.running pc) := by
  refine ⟨?_, ?_, ?_⟩
  · have sound := sane.transactional.locally pid
    simp only [TaskService.transactional, running] at sound
    exact sound.2
  · simpa only [TaskService.delivery, running] using sane.delivery.locally pid
  · simpa only [TaskService.holding, running] using sane.holding.locally pid

end Sane

end WorkflowHub.TaskService
