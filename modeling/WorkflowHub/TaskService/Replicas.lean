import WorkflowHub.TaskService.Polling

/-!
# Several poller instances over one outbox

`isPolling` is a field of one process, so two instances may fetch the same pending record,
and the one that saves last writes over what the other has saved. `SoleCopies` is the
condition that this does not happen: no poll run fetches a record of which another one
still holds a copy. Under it a processed record keeps its status and the attempts of a
record never decrease (`terminal_absorbing`); without it neither is so
(`shared_copies_overwrite`).
-/

set_option autoImplicit false

namespace WorkflowHub.TaskService

open Processes

/-! ## Copies that are not shared -/

/-- A record has one holder, and is pending while it is held. -/
structure SoleHolder (outbox : List Outbox) (copiesOf : ℕ → List ObjectId) : Prop where
  alone : ∀ {pid other id}, id ∈ copiesOf pid → id ∈ copiesOf other → pid = other
  pending : ∀ record ∈ outbox, ∀ pid, record.id ∈ copiesOf pid → record.status = .pending

/-- No copy has fewer attempts than the stored record. -/
def UpToDate (outbox : List Outbox) (batch : List Outbox) : Prop :=
  ∀ copy ∈ batch, ∀ stored ∈ outbox, stored.id = copy.id → stored.attempts ≤ copy.attempts

/-- The copies where a segment leads are up to date. -/
def UpToDateAt (outbox : List Outbox) : Target Pc (Except Thrown Reply) → Prop
  | .running pc => UpToDate outbox pc.batch
  | .finished _ => True

def replicas : Assertions World Call Pc (Except Thrown Reply) where
  Global world := SoleHolder world.outbox world.copiesOf
  Local world _ slot :=
    match slot with
    | .running _ pc => UpToDate world.outbox pc.batch
    | _ => True

/-- What may become of a stored record: a processed one keeps its status, and attempts do
not decrease. -/
structure Outbox.Advances (record record' : Outbox) : Prop where
  status : record.status ≠ .pending → record'.status = record.status
  attempts : record.attempts ≤ record'.attempts

theorem Outbox.Advances.refl (record : Outbox) : record.Advances record := ⟨fun _ => rfl, le_rfl⟩

theorem Outbox.Advances.trans {first second third : Outbox} (earlier : first.Advances second)
    (later : second.Advances third) : first.Advances third where
  status processed := by
    have same := earlier.status processed
    exact (later.status (same ▸ processed)).trans same
  attempts := earlier.attempts.trans later.attempts

/-- The records after a step: each was there before, and has advanced, or is new. -/
def Progress (before after : Ledger) : Prop :=
  ∀ record ∈ after.outbox, (∃ stored ∈ before.outbox, stored.id = record.id ∧
    stored.Advances record) ∨ ∀ commit ∈ before.commits, commit.record.id ≠ record.id

theorem Progress.of_subset {before after : Ledger} (shrunk : after.outbox ⊆ before.outbox) :
    Progress before after :=
  fun record found => .inl ⟨record, shrunk found, rfl, .refl record⟩

/-- A pending record advances when an up-to-date copy is saved. -/
theorem advances_applyTo {document : OutboxDocument} {stored : Outbox}
    (pending : stored.status = .pending) (attempts : stored.attempts ≤ document.event.attempts) :
    stored.Advances (document.applyTo stored) where
  status processed := absurd pending processed
  attempts := by
    simp only [OutboxDocument.applyTo]
    split
    · exact attempts
    · exact le_rfl

/-! ## What one operation does -/

theorem SoleHolder.shrink {outbox : List Outbox} {copiesOf copiesOf' : ℕ → List ObjectId}
    (holder : SoleHolder outbox copiesOf) (shrunk : ∀ pid, copiesOf' pid ⊆ copiesOf pid) :
    SoleHolder outbox copiesOf' where
  alone here there := holder.alone (shrunk _ here) (shrunk _ there)
  pending record found pid held := holder.pending record found pid (shrunk _ held)

/-- The copy a call is about to save has as many attempts as it held before, or more. -/
theorem UpToDate.replace {outbox : List Outbox} {copy copy' : Outbox} {rest : List Outbox}
    (upToDate : UpToDate outbox (copy :: rest)) (id : copy'.id = copy.id)
    (attempts : copy.attempts ≤ copy'.attempts) : UpToDate outbox (copy' :: rest) := by
  intro other held stored found same
  rcases List.mem_cons.mp held with rfl | held
  · exact (upToDate copy List.mem_cons_self stored found (same.trans id)).trans attempts
  · exact upToDate other (List.mem_cons_of_mem _ held) stored found same

theorem caught_attempts (now : ℕ) (error : Thrown) (document : OutboxDocument) :
    (document.caught now error).event.attempts = document.event.attempts + 1 := by
  simp only [OutboxDocument.caught]
  split
  · rfl
  · rfl

theorem UpToDate.nil {outbox : List Outbox} : UpToDate outbox [] :=
  fun _ held => absurd held List.not_mem_nil

/-- A fetched copy has the attempts of the record it is a copy of. -/
theorem upToDate_pendingBatch {ledger : Ledger} (nodup : (ledger.outbox.map (·.id)).Nodup)
    (limit : ℕ) : UpToDate ledger.outbox (ledger.pendingBatch limit) := by
  intro copy fetched stored found same
  have there := (Ledger.mem_pendingBatch fetched).1
  rw [List.inj_on_of_nodup_map nodup found there same]

section Performed

variable {world world' : World} {pid : ℕ} {call : Call} {pc : Pc} {answer : Answer}
  {reply : Except Thrown pc.op.Value} (provenance : Provenance world.toLedger)
  (sound : pc.Sound world.toLedger (world.sessions pid) call)
  (holds : Holding call (world.copiesOf pid) (.running pc))
  (answered : exec world pid pc.op answer = some (world', reply))

include holds

/-- The document to be saved is one the call holds. -/
theorem saves_held {document : OutboxDocument} (saves : pc.saves = some document) :
    document.event.id ∈ world.copiesOf pid := by
  obtain ⟨_, rest, batch⟩ := Pc.saves_op saves
  rw [holds.1, Pc.held, batch]
  exact List.mem_cons_self

include provenance sound answered

/-- Whatever the copies are afterwards, if none was added, and if the caller has let go of
what it has saved, then a record is pending while it is held. -/
theorem SoleHolder.performed (holder : SoleHolder world.outbox world.copiesOf)
    {copiesOf' : ℕ → List ObjectId} (shrunk : ∀ other, copiesOf' other ⊆ world.copiesOf other)
    (released : ∀ document, pc.saves = some document →
      (∀ error, answer.outcome ≠ .rejected error) → document.event.id ∉ copiesOf' pid) :
    SoleHolder world'.outbox copiesOf' := by
  refine ⟨(holder.shrink shrunk).alone, fun record found other held => ?_⟩
  rcases outbox_cases provenance sound answered with
    ⟨same, _⟩ | ⟨document, saves, written, applied⟩ | ⟨fresh, pending, _, _, _, added, _⟩
  · rw [same] at found
    exact holder.pending record found other (shrunk other held)
  · rw [written] at found
    obtain ⟨before, there, id, rfl⟩ := Ledger.mem_writeBack found
    split at held
    · rename_i same
      have mine : other = pid :=
        holder.alone (same ▸ shrunk other held) (saves_held holds saves)
      subst mine
      exact absurd (same ▸ held) (released document saves applied)
    · rename_i different
      rw [if_neg different]
      exact holder.pending before there other (shrunk other held)
  · rw [added, List.mem_append, List.mem_singleton] at found
    rcases found with found | rfl
    · exact holder.pending record found other (shrunk other held)
    · exact pending

omit holds in
/-- Copies of records that are not saved stay up to date. -/
theorem UpToDate.performed {batch : List Outbox} (upToDate : UpToDate world.outbox batch)
    (apart : ∀ document, pc.saves = some document →
      (∀ error, answer.outcome ≠ .rejected error) → ∀ copy ∈ batch, copy.id ≠ document.event.id) :
    UpToDate world'.outbox batch := by
  intro copy held stored found same
  rcases outbox_cases provenance sound answered with
    ⟨unchanged, _⟩ | ⟨document, saves, written, applied⟩ | ⟨fresh, _, attempts, _, _, added, _⟩
  · rw [unchanged] at found
    exact upToDate copy held stored found same
  · rw [written] at found
    obtain ⟨before, there, id, rfl⟩ := Ledger.mem_writeBack found
    have other : before.id ≠ document.event.id := by
      rw [id, same]
      exact apart document saves applied copy held
    rw [if_neg other]
    exact upToDate copy held before there (id.trans same)
  · rw [added, List.mem_append, List.mem_singleton] at found
    rcases found with found | rfl
    · exact upToDate copy held stored found same
    · rw [attempts]
      exact Nat.zero_le _

/-- Every stored record advances. -/
theorem progress_performed (holder : SoleHolder world.outbox world.copiesOf)
    (upToDate : UpToDate world.outbox pc.batch) : Progress world.toLedger world'.toLedger := by
  rcases outbox_cases provenance sound answered with
    ⟨same, _⟩ | ⟨document, saves, written, _⟩ | ⟨fresh, _, _, _, _, added, new⟩
  · exact .of_subset (by rw [same]; exact List.Subset.refl _)
  · intro record found
    rw [written] at found
    obtain ⟨before, there, id, rfl⟩ := Ledger.mem_writeBack found
    refine .inl ⟨before, there, id, ?_⟩
    split
    · rename_i same
      obtain ⟨_, rest, batch⟩ := Pc.saves_op saves
      refine advances_applyTo (holder.pending before there pid ?_) ?_
      · rw [same]
        exact saves_held holds saves
      · exact upToDate _ (by rw [batch]; exact List.mem_cons_self) before there same
    · exact .refl before
  · intro record found
    rw [added, List.mem_append, List.mem_singleton] at found
    rcases found with found | rfl
    · exact .inl ⟨record, found, rfl, .refl record⟩
    · exact .inr new

/-- The copies where the call goes are up to date, if the save it was at was clean. -/
theorem upToDate_next {fields : Fields} (upToDate : UpToDate world.outbox pc.batch)
    (clean : ∀ document, pc.saves = some document → answer.outcome.Clean) :
    UpToDateAt world'.outbox (Led.next fields pc reply).2 := by
  have unsaved : pc.saves = none → UpToDate world'.outbox pc.batch := fun none =>
    upToDate.performed provenance sound answered fun _ saves => nomatch none.symm.trans saves
  have nodup := holds.2.1
  have onward : ∀ rest : List Outbox, UpToDate world'.outbox rest →
      UpToDateAt world'.outbox (Led.pollNext fields rest).2 := by
    intro rest upToDate
    cases rest with
    | nil => trivial
    | cons event rest => exact upToDate
  -- The rest of the batch, whatever becomes of the document at its head.
  have tail : ∀ document rest, pc.saves = some document → pc.batch = document.event :: rest →
      UpToDate world'.outbox rest := by
    intro document rest saves batch
    rw [batch] at upToDate
    rw [Pc.held, batch, List.map_cons, List.nodup_cons] at nodup
    refine UpToDate.performed provenance sound answered
      (fun copy held => upToDate copy (List.mem_cons_of_mem _ held)) ?_
    intro document' saves' _ copy held same
    obtain rfl := Option.some.inj (saves'.symm.trans saves)
    exact nodup.1 (List.mem_map.mpr ⟨copy, held, same⟩)
  cases pc with
  | findPending =>
      cases reply with
      | error error => trivial
      | ok batch =>
          obtain ⟨_, rfl, rfl, resolved⟩ := respond_ok answered
          refine onward _ ?_
          simp only [resolved, ↓reduceIte]
          exact upToDate_pendingBatch provenance.nodup batchSize
  | emit event rest =>
      cases reply with
      | error error =>
          exact (unsaved rfl).replace (caught_same fields.now error { event }).1
            (by rw [caught_attempts]; exact Nat.le_succ _)
      | ok _ => exact (unsaved rfl).replace rfl (Nat.le_succ _)
  | saveCompleted document rest =>
      cases reply with
      | error error =>
          -- The save was clean, so a rejection means that nothing was written.
          have kept : UpToDate world'.outbox (document.event :: rest) := by
            refine upToDate.performed provenance sound answered fun _ _ applied => ?_
            exact absurd ((clean document rfl).resolved applied) (respond_error answered)
          exact kept.replace (caught_same fields.now error document).1
            (by rw [caught_attempts]; exact Nat.le_succ _)
      | ok _ => exact onward rest (tail document rest rfl rfl)
  | saveCaught document rest =>
      cases reply with
      | error error => trivial
      | ok _ => exact onward rest (tail document rest rfl rfl)
  | createTask body =>
      cases reply with
      | error error => trivial
      | ok created => cases created <;> trivial
  | findByIdAndDelete taskId =>
      cases reply with
      | error error => trivial
      | ok deleted => cases deleted <;> trivial
  | _ => cases reply <;> first | trivial | exact .nil

end Performed

/-! ## Runs in which copies are not shared -/

/-- No poll run fetches a record of which another one still holds a copy, and a save that is
rejected has not been applied. -/
def SoleCopies (state : View) : Happening → Prop
  | .step pid answer =>
      match state.slots pid with
      | .running _ (.findPending limit) =>
          ∀ record ∈ state.world.pendingBatch limit, ∀ copy ∈ state.world.copies,
            copy.2 = record.id → copy.1 = pid
      | .running _ (.save _) => answer.outcome.Clean
      | _ => True
  | _ => True

instance (state : View) (event : Happening) : Decidable (SoleCopies state event) := by
  unfold SoleCopies
  split
  · split <;> infer_instance
  · infer_instance

section Condition

variable {pool : Pool World Call Pc (Except Thrown Reply)} {pid : ℕ} {answer : Answer} {call : Call}

theorem SoleCopies.fetch (allowed : SoleCopies (pool.observe flow) (.step pid answer))
    (running : pool.slots pid = .running call .findPending) :
    ∀ record ∈ pool.world.pendingBatch batchSize, ∀ other,
      record.id ∈ pool.world.copiesOf other → other = pid := by
  simp only [SoleCopies, Pool.observe_slots, running, Slot.observe, flow, Pc.op] at allowed
  exact fun record fetched other held =>
    allowed record fetched _ (World.mem_copiesOf.mp held) rfl

theorem SoleCopies.save {pc : Pc} (allowed : SoleCopies (pool.observe flow) (.step pid answer))
    (running : pool.slots pid = .running call pc) :
    ∀ document, pc.saves = some document → answer.outcome.Clean := by
  intro document saves
  simpa only [SoleCopies, Pool.observe_slots, running, Slot.observe, flow,
    (Pc.saves_op saves).1] using allowed

end Condition

theorem replicas_land {world : World} {pid : ℕ} {call : Call} {led : Led}
    (upToDate : UpToDateAt world.outbox led.2) :
    replicas.Local (Pool.land site world pid call led).1 pid
      (Pool.land site world pid call led).2 := by
  obtain ⟨fields, target⟩ := led
  cases target with
  | running pc =>
      simp only [replicas, Pool.land_running, store_toLedger]
      exact upToDate
  | finished out => trivial

/-- The copies of other calls stay up to date. -/
theorem replicas_others {world world' : World} {other : ℕ}
    {slot : Slot Call Pc (Except Thrown Reply)}
    (kept : ∀ {call pc}, slot = .running call pc → UpToDate world.outbox pc.batch →
      UpToDate world'.outbox pc.batch)
    (holds : replicas.Local world other slot) : replicas.Local world' other slot := by
  cases slot with
  | running call pc => exact kept rfl holds
  | _ => trivial

/-- A fetch that resolved under the condition: the new copies have no other holder. -/
theorem SoleHolder.fetched {world : World} {pid : ℕ} (limit : ℕ)
    (nodup : (world.outbox.map (·.id)).Nodup) (holder : SoleHolder world.outbox world.copiesOf)
    (free : ∀ record ∈ world.pendingBatch limit, ∀ other,
      record.id ∈ world.copiesOf other → other = pid) :
    SoleHolder world.outbox
      (world.hold pid ((world.pendingBatch limit).map (·.id))).copiesOf := by
  have cases : ∀ {other id},
      id ∈ (world.hold pid ((world.pendingBatch limit).map (·.id))).copiesOf other →
        (other = pid ∧ ∃ record ∈ world.pendingBatch limit, record.id = id) ∨
          other ≠ pid ∧ id ∈ world.copiesOf other := by
    intro other id held
    by_cases same : other = pid
    · subst same
      rw [World.copiesOf_hold_self] at held
      exact .inl ⟨rfl, List.mem_map.mp held⟩
    · rw [World.copiesOf_hold_other _ same] at held
      exact .inr ⟨same, held⟩
  refine ⟨fun here there => ?_, fun record found other held => ?_⟩
  · rcases cases here with ⟨rfl, record, fetched, rfl⟩ | ⟨_, before⟩
    · rcases cases there with ⟨rfl, _⟩ | ⟨_, before⟩
      · rfl
      · exact (free record fetched _ before).symm
    · rcases cases there with ⟨rfl, record, fetched, rfl⟩ | ⟨_, before'⟩
      · exact free record fetched _ before
      · exact holder.alone before before'
  · rcases cases held with ⟨_, fetched, batch, same⟩ | ⟨_, before⟩
    · obtain ⟨there, pending⟩ := Ledger.mem_pendingBatch batch
      rwa [List.inj_on_of_nodup_map nodup found there same.symm]
    · exact holder.pending record found other before

/-- A call that has saved a document has let go of it. -/
theorem saved_released {world world' : World} {pid : ℕ} {call : Call} {pc : Pc} {answer : Answer}
    {reply : Except Thrown pc.op.Value} {document : OutboxDocument}
    (saves : pc.saves = some document) (resolved : answer.outcome = .resolved)
    (holds : Holding call (world.copiesOf pid) (.running pc))
    (answered : exec world pid pc.op answer = some (world', reply)) :
    document.event.id ∉ world'.copiesOf pid := by
  obtain ⟨same, nodup, _⟩ := holds
  cases pc with
  | saveCompleted document' rest =>
      cases saves
      cases reply with
      | error error => exact absurd resolved (respond_error answered)
      | ok _ =>
          rw [released same answered]
          exact (List.nodup_cons.mp nodup).1
  | saveCaught document' rest =>
      cases saves
      cases reply with
      | error error => exact absurd resolved (respond_error answered)
      | ok _ =>
          rw [released same answered]
          exact (List.nodup_cons.mp nodup).1
  | _ => cases saves

/-- What a call saves, no other call holds. -/
theorem replicas_apart {pool : Pool World Call Pc (Except Thrown Reply)}
    (holds : replicas.Holds pool) (sane : Sane pool) {pid other : ℕ} {call call' : Call}
    {pc pc' : Pc} {document : OutboxDocument} (running : pool.slots pid = .running call pc)
    (running' : pool.slots other = .running call' pc') (different : other ≠ pid)
    (saves : pc.saves = some document) : ∀ copy ∈ pc'.batch, copy.id ≠ document.event.id := by
  intro copy held same
  have sole : SoleHolder pool.world.outbox pool.world.copiesOf := holds.globally
  have mine := saves_held (sane.running running).2.2 saves
  have theirs : copy.id ∈ pool.world.copiesOf other := by
    rw [(sane.running running').2.2.1]
    exact List.mem_map_of_mem held
  exact different (sole.alone (same ▸ theirs) mine)

theorem replicas_valid : replicas.Valid site flow fun pool event =>
    SoleCopies (pool.observe flow) event ∧ Sane pool where
  call := by
    intro pool pid call world holds _ free started
    cases started
    refine ⟨?_, replicas_land ?_, fun other _ before => replicas_others ?_ before⟩
    · simp only [replicas, land_toLedger]
      exact SoleHolder.shrink holds.globally land_copiesOf_subset
    · cases call with
      | pollOutbox instanceId =>
          simp only [flow, Led.enter]
          split
          · trivial
          · exact .nil
      | _ => exact .nil
    · intro call pc _ upToDate
      rwa [land_toLedger]
  step := by
    intro pool pid answer call pc world reply holds allowed running answered
    obtain ⟨condition, sane⟩ := allowed
    have provenance : Provenance pool.world.toLedger := sane.transactional.globally
    obtain ⟨sound, _, held⟩ := sane.running running
    have upToDate : UpToDate pool.world.outbox pc.batch := by
      simpa only [replicas, running] using holds.locally pid
    have clean := condition.save running
    refine ⟨?_, replicas_land (upToDate_next provenance sound held answered upToDate clean), ?_⟩
    · simp only [replicas, land_toLedger]
      refine SoleHolder.shrink ?_ land_copiesOf_subset
      by_cases fetch : pc = .findPending
      · subst fetch
        rcases respond_cases answered with ⟨rfl, _⟩ | ⟨_, rfl, _⟩
        · exact holds.globally
        · split
          · exact SoleHolder.fetched _ provenance.nodup holds.globally (condition.fetch running)
          · exact holds.globally
      · refine SoleHolder.performed provenance sound held answered holds.globally
          (exec_copiesOf_subset ?_ answered) fun document saves applied kept => ?_
        · intro limit same
          cases pc <;> first | exact fetch rfl | cases same
        · exact saved_released saves ((clean document saves).resolved applied) held answered kept
    · intro other different before
      refine replicas_others (fun running' upToDate => ?_) before
      rw [land_toLedger]
      exact upToDate.performed provenance sound answered fun document saves _ =>
        replicas_apart holds sane running running' different saves
  crashPending := by
    intro pool pid call pc holds _ _
    refine ⟨SoleHolder.shrink holds.globally fun other => ?_, trivial, fun other _ before =>
      replicas_others (fun _ upToDate => upToDate) before⟩
    by_cases same : other = pid
    · rw [same, crash_copiesOf_self]
      exact List.nil_subset _
    · rw [crash_copiesOf_other same]
      exact List.Subset.refl _
  crashPerformed := by
    intro pool pid answer call pc world reply holds allowed running answered
    have sane := allowed.2
    have provenance : Provenance pool.world.toLedger := sane.transactional.globally
    obtain ⟨sound, _, held⟩ := sane.running running
    refine ⟨SoleHolder.performed provenance sound held answered holds.globally (fun other => ?_)
      fun _ _ _ => ?_, trivial, fun other different before => ?_⟩
    · by_cases same : other = pid
      · rw [same, crash_copiesOf_self]
        exact List.nil_subset _
      · rw [crash_copiesOf_other same, exec_copiesOf_other same answered]
        exact List.Subset.refl _
    · rw [crash_copiesOf_self]
      exact List.not_mem_nil
    · exact replicas_others (fun running' upToDate => upToDate.performed provenance sound answered
        fun document saves _ => replicas_apart holds sane running running' different saves) before
  env := by
    intro pool event world holds _ moved
    rcases env_cases moved with ⟨milliseconds, rfl, rfl⟩ | ⟨record, _, rfl, rfl⟩
    · exact ⟨holds.globally, fun pid before => before⟩
    · have subset := Ledger.prune_outbox_subset pool.world.toLedger record.id
      have global : SoleHolder pool.world.outbox pool.world.copiesOf := holds.globally
      exact ⟨⟨global.alone, fun record found => global.pending record (subset found)⟩,
        fun pid before => replicas_others (fun _ upToDate copy held stored found =>
          upToDate copy held stored (subset found)) before⟩

/-! ## Along a run -/

/-- A step advances the stored records, and no commit is undone. -/
theorem step_progress {before after : Pool World Call Pc (Except Thrown Reply)} {event : Happening}
    (sane : Sane before) (holds : replicas.Holds before)
    (taken : Pool.step site flow before event = some after) :
    Progress before.world.toLedger after.world.toLedger ∧
      before.world.commits ⊆ after.world.commits := by
  have provenance : Provenance before.world.toLedger := sane.transactional.globally
  have unchanged : Progress before.world.toLedger before.world.toLedger ∧
      before.world.commits ⊆ before.world.commits :=
    ⟨.of_subset (List.Subset.refl _), List.Subset.refl _⟩
  have performed : ∀ {pid call pc answer world} {reply : Except Thrown (Pc.op pc).Value},
      before.slots pid = .running call pc →
      exec before.world pid pc.op answer = some (world, reply) →
      Progress before.world.toLedger world.toLedger ∧ before.world.commits ⊆ world.commits := by
    intro pid call pc answer world reply running answered
    obtain ⟨sound, _, held⟩ := sane.running running
    have upToDate : UpToDate before.world.outbox pc.batch := by
      simpa only [replicas, running] using holds.locally pid
    obtain ⟨authored, _⟩ := by simpa only [transactional, running] using sane.transactional.locally pid
    exact ⟨progress_performed provenance sound held answered holds.globally upToDate,
      (TaskService.performed provenance authored sound answered).confined.commits⟩
  cases Pool.stepped taken with
  | call free started =>
      cases started
      simpa only [Pool.settle, land_toLedger] using unchanged
  | step running answered => simpa only [Pool.settle, land_toLedger] using performed running answered
  | crashPending running => exact unchanged
  | crashPerformed running answered =>
      have done := performed running answered
      exact done
  | env moved =>
      rcases env_cases moved with ⟨milliseconds, rfl, rfl⟩ | ⟨record, _, rfl, rfl⟩
      · exact unchanged
      · exact ⟨.of_subset (Ledger.prune_outbox_subset _ _), List.Subset.refl _⟩

/-- What has become of the records of an earlier state. -/
structure Since (first last : Pool World Call Pc (Except Thrown Reply)) : Prop where
  holds : replicas.Holds last
  commits : first.world.commits ⊆ last.world.commits
  advances : ∀ record ∈ first.world.outbox, ∀ record' ∈ last.world.outbox,
    record'.id = record.id → record.Advances record'

theorem Since.refl {first : Pool World Call Pc (Except Thrown Reply)} (sane : Sane first)
    (holds : replicas.Holds first) : Since first first where
  holds := holds
  commits := List.Subset.refl _
  advances record found record' found' same := by
    have provenance : Provenance first.world.toLedger := sane.transactional.globally
    rw [List.inj_on_of_nodup_map provenance.nodup found' found same]
    exact .refl record

theorem Since.step {first before after : Pool World Call Pc (Except Thrown Reply)}
    {event : Happening} (first_sane : Sane first) (sane : Sane before)
    (since : Since first before) (allowed : SoleCopies (before.observe flow) event)
    (taken : Pool.step site flow before event = some after) : Since first after := by
  obtain ⟨progress, grown⟩ := step_progress sane since.holds taken
  refine ⟨replicas_valid.preserved _ _ _ ⟨allowed, sane⟩ since.holds taken,
    List.Subset.trans since.commits grown, ?_⟩
  intro record found record' found' same
  rcases progress record' found' with ⟨stored, there, id, advanced⟩ | new
  · exact (since.advances record found stored there (id.trans same)).trans advanced
  · -- A new record has an id of its own.
    have provenance : Provenance first.world.toLedger := first_sane.transactional.globally
    obtain ⟨commit, known, stems⟩ := provenance.stored record found
    exact absurd (stems.id.symm.trans same.symm) (new commit (since.commits known))

theorem flow_advances {first last : Pool World Call Pc (Except Thrown Reply)} (sane : Sane first)
    (holds : replicas.Holds first) (ran : FlowRuns SoleCopies first last) :
    Since first last := by
  refine (sane.path ran).invariant (.refl sane holds) ?_
  intro before event after allowed since taken
  exact since.step sane allowed.2 allowed.1 taken

theorem replicas_holds {machine : Pool World Call Pc (Except Thrown Reply)}
    (ran : FlowRuns SoleCopies (.initial {}) machine) : replicas.Holds machine := by
  refine replicas_valid.path (Sane.initial.path ran) ⟨⟨?_, ?_⟩, fun _ => trivial⟩
  · intro pid other id held
    cases held
  · intro record found
    cases found

/-- **Processed records stay as they are, and attempts do not decrease,** if no poll run
fetches a record of which another one still holds a copy. -/
theorem terminal_absorbing {first last : State} (reached : Runs SoleCopies (.initial {}) first)
    (ran : Runs SoleCopies first last) :
    ∀ record ∈ first.world.outbox, ∀ record' ∈ last.world.outbox, record'.id = record.id →
      (record.status ≠ .pending → record'.status = record.status) ∧
        record.attempts ≤ record'.attempts := by
  obtain ⟨machine, before, tracking⟩ := (Pool.Tracking.initial ({} : World)).path implements reached
  obtain ⟨machine', after, tracking'⟩ := tracking.path implements ran
  have sane : Sane machine := by
    refine before.invariant .initial fun _ _ _ _ sane taken => sane.step taken
  intro record found record' found' same
  rw [← show machine.world = first.world from tracking.world] at found
  rw [← show machine'.world = last.world from tracking'.world] at found'
  have advanced := (flow_advances sane (replicas_holds before) after).advances record found record'
    found' same
  exact ⟨advanced.status, advanced.attempts⟩

/-- The theorem at two poll runs, one after the other, of two instances. -/
theorem terminal_absorbing_consecutive :
    ∃ first ∈ run step (.initial {}) (Sample.created ++ Sample.rejectedBy 0 1),
      ∃ last ∈ run step first (Sample.deliveredBy 1 2),
        last.world.outbox.map (·.status) = [.completed] ∧
        ∀ record ∈ first.world.outbox, ∀ record' ∈ last.world.outbox, record'.id = record.id →
          (record.status ≠ .pending → record'.status = record.status) ∧
            record.attempts ≤ record'.attempts := by
  obtain ⟨first, before, last, after, completed, alone, alone'⟩ :
      ∃ first ∈ run step (.initial {}) (Sample.created ++ Sample.rejectedBy 0 1),
        ∃ last ∈ run step first (Sample.deliveredBy 1 2),
          last.world.outbox.map (·.status) = [.completed] ∧
          Meets step (fun state event => SoleCopies (state.observe programs) event) (.initial {})
            (Sample.created ++ Sample.rejectedBy 0 1) ∧
          Meets step (fun state event => SoleCopies (state.observe programs) event) first
            (Sample.deliveredBy 1 2) := by decide +kernel
  exact ⟨first, before, last, after, completed,
    terminal_absorbing (.of_run before alone) (.of_run after alone')⟩

/-- **Copies that are shared.** After 24 rejections two instances fetch the record. The one
delivers it and saves it as completed; Kafka rejects the other, which saves it as failed.
And a poll run that fetched the record before two others failed on it saves fewer attempts
than they did. No save fails in either run. -/
theorem shared_copies_overwrite :
    (∃ first ∈ run step (.initial {}) (Sample.created ++ Sample.rejections 24 ++
        [.call 25 (.pollOutbox 0), Sample.resolves 25, .call 26 (.pollOutbox 1),
          Sample.resolves 26, Sample.resolves 25, Sample.resolves 25]),
      ∃ last ∈ run step first [Sample.rejects 26, Sample.resolves 26],
        ∃ record ∈ first.world.outbox, ∃ record' ∈ last.world.outbox, record'.id = record.id ∧
          record.status = .completed ∧ record'.status = .failed) ∧
    ∃ first ∈ run step (.initial {}) (Sample.created ++
        [.call 1 (.pollOutbox 0), Sample.resolves 1] ++ Sample.rejectedBy 1 2 ++
          Sample.rejectedBy 1 3),
      ∃ last ∈ run step first [Sample.rejects 1, Sample.resolves 1],
        ∃ record ∈ first.world.outbox, ∃ record' ∈ last.world.outbox, record'.id = record.id ∧
          record.attempts = 2 ∧ record'.attempts = 1 := by
  constructor
  · decide +kernel
  · decide +kernel

end WorkflowHub.TaskService
