import Mathlib.Data.Fintype.EquivFin
import WorkflowHub.TaskService.SingleFlight

/-!
# What a new instance of the poller can do

Poll runs may have crashed at any point, and others may hang for ever; records keep their status,
and nothing is locked. So from whatever state the service has come to, a new instance of the poller
publishes everything that is pending, by itself, as soon as MongoDB and Kafka answer
(`can_always_drain`).
-/

set_option autoImplicit false

namespace WorkflowHub.TaskService

open Processes

/-- Nobody moves but the poller instance, and what it awaits resolves. -/
def Serving (instanceId : ℕ) (view : View) : Happening → Prop
  | .call _ call => call = .pollOutbox instanceId
  | .step pid answer =>
      answer.outcome = .resolved ∧ (view.slots pid).call? = some (.pollOutbox instanceId)
  | _ => False

/-- The events have been published, and what else was there is as it was. -/
structure Flushed (events : List Outbox) (before after : Ledger) : Prop where
  emits : before.emits ⊆ after.emits
  nodup : (before.outbox.map (·.id)).Nodup → (after.outbox.map (·.id)).Nodup
  completed : ∀ event ∈ events, ∃ record ∈ after.outbox, record.id = event.id ∧
    record.status = .completed ∧ record.Acknowledged after.emits
  others : ∀ record ∈ before.outbox, record.id ∉ events.map (·.id) → record ∈ after.outbox
  kept : ∀ record ∈ before.outbox, record.status ≠ .pending → record ∈ after.outbox
  pending : ∀ record ∈ after.outbox, record.status = .pending →
    record ∈ before.outbox ∧ record.id ∉ events.map (·.id)

namespace Flushed

variable {events later : List Outbox} {before between after : Ledger}

theorem nothing (ledger : Ledger) : Flushed [] ledger ledger where
  emits := List.Subset.refl _
  nodup := id
  completed _ there := absurd there List.not_mem_nil
  others _ there _ := there
  kept _ there _ := there
  pending _ there _ := ⟨there, List.not_mem_nil⟩

theorem trans (first : Flushed events before between) (second : Flushed later between after) :
    Flushed (events ++ later) before after where
  emits := List.Subset.trans first.emits second.emits
  nodup := second.nodup ∘ first.nodup
  completed event there := by
    rcases List.mem_append.mp there with mine | mine
    · obtain ⟨record, found, same, status, acknowledged⟩ := first.completed event mine
      refine ⟨record, second.kept record found ?_, same, status, acknowledged.mono second.emits⟩
      rw [status]
      exact OutboxStatus.noConfusion
    · exact second.completed event mine
  others record there apart := by
    rw [List.map_append, List.mem_append] at apart
    obtain ⟨apart, apart'⟩ := not_or.mp apart
    exact second.others record (first.others record there apart) apart'
  kept record there settled := second.kept record (first.kept record there settled) settled
  pending record there waits := by
    obtain ⟨found, apart⟩ := second.pending record there waits
    obtain ⟨found, apart'⟩ := first.pending record found waits
    rw [List.map_append, List.mem_append]
    exact ⟨found, not_or.mpr ⟨apart', apart⟩⟩

/-- The document that is saved after an acknowledged `emit` completes the record. -/
theorem applyTo_completed {event : Outbox} (waits : event.status = .pending) (now : ℕ)
    (stored : Outbox) : ((OutboxDocument.completed now { event }).applyTo stored).status =
      .completed := by
  simp [OutboxDocument.completed, OutboxDocument.applyTo, OutboxDocument.setStatus,
    OutboxDocument.setProcessedAt, OutboxDocument.setAttempts, waits]

/-- One event: Kafka acknowledges it, and it is saved. -/
theorem event {ledger : Ledger} (nodup : (ledger.outbox.map (·.id)).Nodup) {event : Outbox}
    (there : event ∈ ledger.outbox) (waits : event.status = .pending) (now : ℕ) :
    Flushed [event] ledger ((ledger.publish event.id event.pattern event.payload
      .resolved).writeBack (OutboxDocument.completed now { event })) where
  emits := List.subset_append_left _ _
  nodup distinct := by
    rw [Ledger.writeBack_ids]
    exact distinct
  completed other same := by
    rw [List.mem_singleton.mp same]
    refine ⟨_, List.mem_map.mpr ⟨event, there, if_pos rfl⟩, rfl, applyTo_completed waits now event, ?_⟩
    exact ⟨_, List.mem_append_right _ (List.mem_singleton_self _), rfl, rfl, rfl, rfl⟩
  others record found apart :=
    List.mem_map.mpr ⟨record, found, if_neg fun same => apart (List.mem_singleton.mpr same)⟩
  kept record found settled := by
    refine List.mem_map.mpr ⟨record, found, if_neg fun same => settled ?_⟩
    rw [List.inj_on_of_nodup_map nodup found there same]
    exact waits
  pending record found waiting := by
    obtain ⟨before, stored, same, rfl⟩ := Ledger.mem_writeBack found
    by_cases mine : before.id = (OutboxDocument.completed now { event }).event.id
    · rw [if_pos mine, applyTo_completed waits now before] at waiting
      cases waiting
    · rw [if_neg mine]
      exact ⟨stored, List.mem_singleton.not.mpr mine⟩

end Flushed

/-! ## One poll -/

abbrev Machine : Type := Pool World Call Pc (Except Thrown Reply)

/-- The steps of a poll run that is alone. -/
abbrev Polls (instanceId : ℕ) : Machine → Machine → Prop := FlowRuns (Serving instanceId)

/-- A call that is where a segment has led it. -/
def landed (slots : ℕ → Slot Call Pc (Except Thrown Reply)) (world : World) (pid instanceId : ℕ)
    (led : Led) : Machine :=
  Pool.settle slots pid (Pool.land site world pid (.pollOutbox instanceId) led)

section Poll

variable {slots : ℕ → Slot Call Pc (Except Thrown Reply)} {world after : World}
  {pid instanceId : ℕ} {fields : Fields} {pc : Pc}

/-- An operation resolves. -/
theorem landed_step {id : ObjectId} {value : pc.op.Value}
    (answered : exec (site.store world (.pollOutbox instanceId) fields) pid pc.op
      ⟨.resolved, id⟩ = some (after, .ok value)) :
    Polls instanceId (landed slots world pid instanceId (fields, .running pc))
      (landed slots after pid instanceId
        (Led.next (site.load after (.pollOutbox instanceId)) pc (.ok value))) := by
  have running : (landed slots world pid instanceId (fields, .running pc)).slots pid =
      .running (.pollOutbox instanceId) pc := Pool.settle_self ..
  have stepped : Pool.Stepped site flow (landed slots world pid instanceId (fields, .running pc))
      (.step pid ⟨.resolved, id⟩) _ := .step running answered
  have serving : Serving instanceId
      ((landed slots world pid instanceId (fields, .running pc)).observe flow)
      (.step pid ⟨.resolved, id⟩) := by
    refine ⟨rfl, ?_⟩
    rw [Pool.observe_slots, running]
    rfl
  refine .single serving (stepped.taken.trans ?_)
  simp only [landed, Pool.settle, Function.update_idem]
  rfl

/-- A batch, one event after the other. -/
theorem polls_batch (slots : ℕ → Slot Call Pc (Except Thrown Reply)) (pid instanceId : ℕ)
    (batch : List Outbox) : ∀ (world : World) (fields : Fields),
    (world.outbox.map (·.id)).Nodup → (batch.map (·.id)).Nodup →
    (∀ event ∈ batch, event ∈ world.outbox ∧ event.status = .pending) →
    ∃ world' fields', Polls instanceId
        (landed slots world pid instanceId (Led.pollNext fields batch))
        (landed slots world' pid instanceId (Led.endPoll fields')) ∧
      Flushed batch world.toLedger world'.toLedger := by
  induction batch with
  | nil => exact fun world fields _ _ _ => ⟨world, fields, .refl, .nothing _⟩
  | cons event rest ih =>
      intro world fields nodup distinct stored
      obtain ⟨fresh, distinct⟩ := List.nodup_cons.mp distinct
      obtain ⟨there, waits⟩ := stored event List.mem_cons_self
      -- Kafka acknowledges the message.
      let published : World :=
        { site.store world (.pollOutbox instanceId) fields with
          toLedger := world.publish event.id event.pattern event.payload .resolved }
      have emitted : exec (site.store world (.pollOutbox instanceId) fields) pid
          (Pc.emit event rest).op ⟨.resolved, event.id⟩ = some (published, .ok ()) := rfl
      -- The record is saved.
      let fields' := site.load published (.pollOutbox instanceId)
      let document := OutboxDocument.completed fields'.now { event }
      let saved : World :=
        ({ site.store published (.pollOutbox instanceId) fields' with
          toLedger := published.writeBack document } : World).release pid event.id
      have written : exec (site.store published (.pollOutbox instanceId) fields') pid
          (Pc.saveCompleted document rest).op ⟨.resolved, event.id⟩ = some (saved, .ok ()) :=
        if_pos (List.mem_map.mpr ⟨event, there, rfl⟩)
      have flushed : Flushed [event] world.toLedger saved.toLedger :=
        .event nodup there waits fields'.now
      obtain ⟨world', fields'', path, later⟩ := ih saved
        (site.load saved (.pollOutbox instanceId)) (flushed.nodup nodup) distinct
        fun other behind => by
          obtain ⟨found, pending⟩ := stored other (List.mem_cons_of_mem _ behind)
          refine ⟨flushed.others other found fun mine => fresh ?_, pending⟩
          rw [← List.mem_singleton.mp mine]
          exact List.mem_map_of_mem behind
      exact ⟨world', fields'', ((landed_step emitted).trans (landed_step written)).trans path,
        flushed.trans later⟩

end Poll

/-- A poll of an idle instance. -/
theorem polls_once {machine : Machine} {pid instanceId : ℕ} (free : machine.slots pid = .free)
    (idle : machine.world.isPolling instanceId = false)
    (nodup : (machine.world.outbox.map (·.id)).Nodup) :
    ∃ machine', Polls instanceId machine machine' ∧
      Flushed (machine.world.pendingBatch batchSize) machine.world.toLedger
        machine'.world.toLedger ∧ machine'.world.isPolling instanceId = false := by
  let batch := machine.world.pendingBatch batchSize
  let fields := site.load machine.world (.pollOutbox instanceId)
  have entered : flow.enter (.pollOutbox instanceId) fields =
      ({ fields with isPolling := true }, .running .findPending) :=
    if_neg (Bool.eq_false_iff.mp idle)
  have called : Pool.step site flow machine (.call pid (.pollOutbox instanceId)) =
      some (landed machine.slots machine.world pid instanceId
        ({ fields with isPolling := true }, .running .findPending)) := by
    rw [landed, ← entered]
    exact Pool.Stepped.taken (.call free rfl)
  let found : World := (site.store machine.world (.pollOutbox instanceId)
    { fields with isPolling := true }).hold pid (batch.map (·.id))
  have fetched : exec (site.store machine.world (.pollOutbox instanceId)
      { fields with isPolling := true }) pid Pc.findPending.op ⟨.resolved, Sample.taskId⟩ =
        some (found, .ok batch) := rfl
  obtain ⟨world', fields', path, flushed⟩ := polls_batch machine.slots pid instanceId batch
    found (site.load found (.pollOutbox instanceId)) nodup (nodup_pendingBatch nodup _)
    fun event there => Ledger.mem_pendingBatch there
  have starts : Polls instanceId machine (landed machine.slots machine.world pid instanceId
      ({ fields with isPolling := true }, .running .findPending)) :=
    .single (show Serving instanceId _ (.call pid (.pollOutbox instanceId)) from rfl) called
  exact ⟨landed machine.slots world' pid instanceId (Led.endPoll fields'),
    (starts.trans (landed_step fetched)).trans path, flushed, land_endPoll⟩

/-! ## As many polls as it takes -/

def Ledger.pending (ledger : Ledger) : List Outbox := ledger.outbox.filter (·.status = .pending)

theorem Ledger.mem_pending {ledger : Ledger} {record : Outbox} :
    record ∈ ledger.pending ↔ record ∈ ledger.outbox ∧ record.status = .pending := by
  simp only [Ledger.pending, List.mem_filter, decide_eq_true_eq]

/-- A batch that is not empty leaves fewer pending records. -/
theorem Flushed.length_lt {events : List Outbox} {before after : Ledger}
    (flushed : Flushed events before after) (nodup : (before.outbox.map (·.id)).Nodup)
    {event : Outbox} (there : event ∈ before.pending) (mine : event ∈ events) :
    after.pending.length < before.pending.length := by
  have distinct : after.pending.Nodup := (flushed.nodup nodup).of_map.filter _
  have gone : event ∉ after.pending := by
    intro still
    obtain ⟨found, waits⟩ := Ledger.mem_pending.mp still
    exact (flushed.pending event found waits).2 (List.mem_map_of_mem mine)
  have subset : event :: after.pending ⊆ before.pending := by
    refine List.cons_subset.mpr ⟨there, fun record still => ?_⟩
    obtain ⟨found, waits⟩ := Ledger.mem_pending.mp still
    exact Ledger.mem_pending.mpr ⟨(flushed.pending record found waits).1, waits⟩
  exact (List.subperm_of_subset (List.nodup_cons.mpr ⟨gone, distinct⟩) subset).length_le

/-- Where something is pending, a poll fetches something. -/
theorem Ledger.exists_mem_pendingBatch {ledger : Ledger} (waits : ledger.pending ≠ []) :
    ∃ event ∈ ledger.pendingBatch batchSize, event ∈ ledger.pending := by
  have sorted : (ledger.pending.insertionSort (·.createdAt ≤ ·.createdAt)) ≠ [] := by
    intro empty
    have length := List.length_insertionSort (fun first second : Outbox =>
      first.createdAt ≤ second.createdAt) ledger.pending
    rw [empty] at length
    exact waits (List.eq_nil_of_length_eq_zero length.symm)
  obtain ⟨event, rest, split⟩ := List.exists_cons_of_ne_nil sorted
  have fetched : event ∈ ledger.pendingBatch batchSize := by
    have here : ledger.pendingBatch batchSize =
        (ledger.pending.insertionSort (·.createdAt ≤ ·.createdAt)).take batchSize := rfl
    rw [here, split]
    exact List.mem_cons_self
  exact ⟨event, fetched, Ledger.mem_pending.mpr (Ledger.mem_pendingBatch fetched)⟩

theorem polls_all {instanceId : ℕ} (count : ℕ) : ∀ {machine : Machine},
    FlowRuns Always (.initial {}) machine → machine.world.isPolling instanceId = false →
    machine.world.pending.length ≤ count →
    ∃ machine' events, Polls instanceId machine machine' ∧
      Flushed events machine.world.toLedger machine'.world.toLedger ∧
      machine'.world.pending = [] ∧ machine'.world.isPolling instanceId = false := by
  induction count with
  | zero =>
      intro machine ran idle few
      exact ⟨machine, [], .refl, .nothing _, List.eq_nil_of_length_eq_zero (Nat.le_zero.mp few), idle⟩
  | succ count ih =>
      intro machine ran idle few
      by_cases waits : machine.world.pending = []
      · exact ⟨machine, [], .refl, .nothing _, waits, idle⟩
      · have provenance : Provenance machine.world.toLedger := (transactional_holds ran).globally
        obtain ⟨bound, free⟩ := Pool.eventually_free ran
        obtain ⟨machine', path, flushed, idle'⟩ :=
          polls_once (free bound (Nat.le_refl _)) idle provenance.nodup
        obtain ⟨event, fetched, there⟩ := Ledger.exists_mem_pendingBatch waits
        have fewer := flushed.length_lt provenance.nodup there fetched
        obtain ⟨last, events, path', flushed', rest⟩ :=
          ih (ran.trans (path.mono fun _ _ _ => trivial)) idle' (by omega)
        exact ⟨last, _, path.trans path', flushed.trans flushed', rest⟩

/-! ## From every state -/

/-- The poller instance, alone, has published all that was pending. -/
structure Drains (instanceId : ℕ) (state final : State) : Prop where
  alone : Runs (Serving instanceId) state final
  nothing : ∀ record ∈ final.world.outbox, record.status ≠ .pending
  completed : ∀ record ∈ state.world.outbox, record.status = .pending →
    ∃ record' ∈ final.world.outbox, record'.id = record.id ∧ record'.status = .completed ∧
      record'.Acknowledged final.world.emits
  kept : ∀ record ∈ state.world.outbox, record.status ≠ .pending → record ∈ final.world.outbox

/-- The poller instance whose poll a call is. -/
def Call.polled? : Call → Option ℕ
  | .pollOutbox instanceId => some instanceId
  | _ => none

/-- Only finitely many instances are polling: each of them has a call of its own. -/
theorem exists_idle {state : Machine} (ran : FlowRuns Always (.initial {}) state) :
    ∃ instanceId, state.world.isPolling instanceId = false := by
  obtain ⟨bound, free⟩ := Pool.eventually_free ran
  let busy := (List.range bound).filterMap fun pid => (state.slots pid).call?.bind Call.polled?
  obtain ⟨instanceId, unused⟩ := Infinite.exists_notMem_finset busy.toFinset
  refine ⟨instanceId, Bool.eq_false_iff.mpr fun polling => unused ?_⟩
  obtain ⟨pid, pc, running, _⟩ := Taken.path ran instanceId polling
  rw [List.mem_toFinset, List.mem_filterMap]
  refine ⟨pid, List.mem_range.mpr (Nat.lt_of_not_le fun above => ?_), ?_⟩
  · cases (free pid above).symm.trans running
  · rw [running]
    rfl

/-- **The outbox can always be drained.** Whatever calls, poll runs, failures and crashes have led
to a state: there is a poller instance that is not busy, and every instance that is not can publish
by itself all that is pending. -/
theorem can_always_drain {state : State} (ran : Runs Always (.initial {}) state) :
    (∃ instanceId, state.world.isPolling instanceId = false) ∧
      ∀ instanceId, state.world.isPolling instanceId = false →
        ∃ final, Drains instanceId state final := by
  obtain ⟨machine, ran, tracking⟩ := (Pool.Tracking.initial ({} : World)).path implements ran
  have ran : FlowRuns Always (.initial {}) machine := ran
  have world : machine.world = state.world := tracking.world
  rw [← world]
  refine ⟨?_, fun instanceId idle => ?_⟩
  · exact exists_idle ran
  · obtain ⟨machine', events, path, flushed, none, _⟩ := polls_all _ ran idle (Nat.le_refl _)
    obtain ⟨final, path', tracking'⟩ := tracking.traced implements path
    have nothing : ∀ record ∈ machine'.world.outbox, record.status ≠ .pending := by
      intro record there waits
      have mine : record ∈ machine'.world.pending := Ledger.mem_pending.mpr ⟨there, waits⟩
      rw [none] at mine
      cases mine
    have world' : machine'.world = final.world := tracking'.world
    rw [world] at flushed
    rw [world'] at flushed nothing
    refine ⟨final, path', nothing, fun record there waits => ?_, flushed.kept⟩
    by_cases mine : record.id ∈ events.map (·.id)
    · obtain ⟨event, listed, same⟩ := List.mem_map.mp mine
      obtain ⟨record', found, same', rest⟩ := flushed.completed event listed
      exact ⟨record', found, same'.trans same, rest⟩
    · exact absurd waits (nothing record (flushed.others record there mine))

/-- One instance has crashed before it could save what Kafka has acknowledged, and another one
hangs with a copy of the record. -/
def Sample.stuck : List Happening :=
  created ++ [.call 1 (.pollOutbox 0), resolves 1, resolves 1, .crash 1 none,
    .call 2 (.pollOutbox 1), resolves 2]

/-- The theorem at a record that one instance has lost and another one does not save. -/
theorem can_always_drain_stuck :
    ∃ state ∈ run step (.initial {}) Sample.stuck,
      state.world.outbox.map (·.status) = [.pending] ∧ state.world.isPolling 1 = true ∧
        ∃ final, Drains 0 state final := by
  obtain ⟨state, ran, waits, busy, idle⟩ :
      ∃ state ∈ run step (.initial {}) Sample.stuck,
        state.world.outbox.map (·.status) = [.pending] ∧ state.world.isPolling 1 = true ∧
          state.world.isPolling 0 = false := by decide +kernel
  exact ⟨state, ran, waits, busy, (can_always_drain (.of_run ran .always)).2 0 idle⟩

end WorkflowHub.TaskService
