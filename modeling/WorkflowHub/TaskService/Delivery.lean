import WorkflowHub.TaskService.DualWrite

/-!
# Processed records

What the status of an outbox record says about its other fields and about Kafka, in every
state and for any number of pollers. The pollers work on copies that others may have made
stale, so the invariant is about the copies, too: a copy that was just fetched is pending,
and a document that is about to be saved either leaves status and `processedAt` alone or
writes both of them.
-/

set_option autoImplicit false

namespace WorkflowHub.TaskService

open Processes

/-- Kafka has acknowledged a message with the pattern and the payload of this record. -/
def Outbox.Acknowledged (emits : List Emit) (record : Outbox) : Prop :=
  ∃ emit ∈ emits, emit.event = record.id ∧ emit.pattern = record.pattern ∧
    emit.payload = record.payload ∧ emit.acknowledged = true

theorem Outbox.Acknowledged.mono {emits emits' : List Emit} {record : Outbox}
    (acknowledged : record.Acknowledged emits) (grown : emits ⊆ emits') :
    record.Acknowledged emits' := by
  obtain ⟨emit, found, same⟩ := acknowledged
  exact ⟨emit, grown found, same⟩

theorem Outbox.Acknowledged.congr {emits : List Emit} {record record' : Outbox}
    (acknowledged : record.Acknowledged emits) (id : record'.id = record.id)
    (pattern : record'.pattern = record.pattern) (payload : record'.payload = record.payload) :
    record'.Acknowledged emits := by
  obtain ⟨emit, found, event, rest⟩ := acknowledged
  exact ⟨emit, found, event.trans id.symm, by rwa [pattern, payload]⟩

/-- The fields of a stored record fit together. -/
structure Outbox.Consistent (emits : List Emit) (record : Outbox) : Prop where
  processed : record.processedAt = none ↔ record.status = .pending
  attempts : record.status = .pending → record.attempts < maxAttempts
  completed : record.status = .completed → record.Acknowledged emits

theorem Outbox.Consistent.mono {emits emits' : List Emit} {record : Outbox}
    (consistent : record.Consistent emits) (grown : emits ⊆ emits') :
    record.Consistent emits' :=
  ⟨consistent.processed, consistent.attempts, fun status => (consistent.completed status).mono grown⟩

/-- The record awaits its first or next attempt. -/
structure Outbox.Waiting (record : Outbox) : Prop where
  status : record.status = .pending
  processedAt : record.processedAt = none
  attempts : record.attempts < maxAttempts

theorem Outbox.Waiting.consistent {emits : List Emit} {record : Outbox} (waiting : record.Waiting) :
    record.Consistent emits where
  processed := by simp [waiting.status, waiting.processedAt]
  attempts _ := waiting.attempts
  completed status := nomatch waiting.status.symm.trans status

namespace OutboxDocument

/-- Saving the document ends the publication of its record. -/
structure Settled (emits : List Emit) (document : OutboxDocument) : Prop where
  statusModified : document.modified.status = true
  processedAtModified : document.modified.processedAt = true
  status : document.event.status ≠ .pending
  processedAt : document.event.processedAt ≠ none
  acknowledged : document.event.status = .completed → document.event.Acknowledged emits

/-- Saving the document leaves the record to a later attempt. -/
structure Retried (document : OutboxDocument) : Prop where
  statusKept : document.modified.status = false
  processedAtKept : document.modified.processedAt = false
  attempts : document.event.attempts < maxAttempts

variable {emits : List Emit}

theorem Settled.mono {emits' : List Emit} {document : OutboxDocument}
    (settled : document.Settled emits) (grown : emits ⊆ emits') :
    document.Settled emits' :=
  ⟨settled.statusModified, settled.processedAtModified, settled.status, settled.processedAt,
    fun status => (settled.acknowledged status).mono grown⟩

/-- After an acknowledged `emit` the document is settled. -/
theorem settled_completed {event : Outbox} {now : ℕ} (waiting : event.Waiting)
    (acknowledged : event.Acknowledged emits) :
    (OutboxDocument.completed now { event }).Settled emits where
  statusModified := by simp [OutboxDocument.completed, setStatus, setProcessedAt, setAttempts,
    waiting.status]
  processedAtModified := by simp [OutboxDocument.completed, setStatus, setProcessedAt, setAttempts,
    waiting.processedAt]
  status := by simp [OutboxDocument.completed, setStatus, setProcessedAt, setAttempts]
  processedAt := by simp [OutboxDocument.completed, setStatus, setProcessedAt, setAttempts]
  acknowledged _ := acknowledged.congr rfl rfl rfl

/-- After a rejected `emit` the document is settled as failed, or its record is retried. -/
theorem caught_waiting {event : Outbox} {now : ℕ} {error : Thrown} (waiting : event.Waiting) :
    (OutboxDocument.caught now error { event }).Settled emits ∨
      (OutboxDocument.caught now error { event }).Retried := by
  simp only [OutboxDocument.caught]
  split
  · left
    constructor
    · simp [setStatus, setProcessedAt, setAttempts, setError, waiting.status]
    · simp [setStatus, setProcessedAt, setAttempts, setError, waiting.processedAt]
    · simp [setStatus, setProcessedAt]
    · simp [setStatus, setProcessedAt]
    · simp [setStatus, setProcessedAt]
  · rename_i few
    right
    exact ⟨rfl, rfl, Nat.lt_of_not_le few⟩

/-- A settled document stays settled in the `catch` block. -/
theorem Settled.caught {document : OutboxDocument} {now : ℕ} {error : Thrown}
    (settled : document.Settled emits) : (document.caught now error).Settled emits := by
  simp only [OutboxDocument.caught]
  split
  · constructor
    · simp [setStatus, setProcessedAt, setAttempts, setError, settled.statusModified]
    · simp [setStatus, setProcessedAt, setAttempts, setError, settled.processedAtModified]
    · simp [setStatus, setProcessedAt]
    · simp [setStatus, setProcessedAt]
    · simp [setStatus, setProcessedAt]
  · exact ⟨settled.statusModified, settled.processedAtModified, settled.status,
      settled.processedAt, fun status => (settled.acknowledged status).congr rfl rfl rfl⟩

/-- Saving a settled document leaves a consistent record, whatever was stored. -/
theorem Settled.applyTo {document : OutboxDocument} {stored : Outbox}
    (settled : document.Settled emits) (id : stored.id = document.event.id)
    (same : stored.pattern = document.event.pattern ∧ stored.payload = document.event.payload) :
    (document.applyTo stored).Consistent emits where
  processed := by
    simp [OutboxDocument.applyTo, settled.statusModified, settled.processedAtModified,
      settled.status, settled.processedAt]
  attempts pending := by
    simp only [OutboxDocument.applyTo, settled.statusModified, ↓reduceIte] at pending
    exact absurd pending settled.status
  completed completed := by
    simp only [OutboxDocument.applyTo, settled.statusModified, ↓reduceIte] at completed
    exact (settled.acknowledged completed).congr id same.1 same.2

/-- Saving a document to be retried keeps a record consistent. -/
theorem Retried.applyTo {document : OutboxDocument} {stored : Outbox} (retried : document.Retried)
    (consistent : stored.Consistent emits) : (document.applyTo stored).Consistent emits where
  processed := by
    simpa [OutboxDocument.applyTo, retried.statusKept, retried.processedAtKept] using
      consistent.processed
  attempts pending := by
    simp only [OutboxDocument.applyTo, retried.statusKept, Bool.false_eq_true, ↓reduceIte]
      at pending ⊢
    split
    · exact retried.attempts
    · exact consistent.attempts pending
  completed completed := by
    simp only [OutboxDocument.applyTo, retried.statusKept, Bool.false_eq_true, ↓reduceIte]
      at completed
    exact (consistent.completed completed).congr rfl rfl rfl

end OutboxDocument

/-! ## The assertions -/

/-- What holds of the copies a call works on. -/
def Pc.Copies (emits : List Emit) : Pc → Prop
  | .emit event rest => ∀ copy ∈ event :: rest, copy.Waiting
  | .saveCompleted document rest => document.Settled emits ∧ ∀ copy ∈ rest, copy.Waiting
  | .saveCaught document rest =>
      (document.Settled emits ∨ document.Retried) ∧ ∀ copy ∈ rest, copy.Waiting
  | _ => True

/-- What holds of the copies where a segment leads. -/
def Copies (emits : List Emit) : Target Pc (Except Thrown Reply) → Prop
  | .running pc => pc.Copies emits
  | .finished _ => True

theorem Pc.Copies.mono {emits emits' : List Emit} {pc : Pc} (copies : pc.Copies emits)
    (grown : emits ⊆ emits') : pc.Copies emits' := by
  cases pc with
  | saveCompleted document rest => exact ⟨copies.1.mono grown, copies.2⟩
  | saveCaught document rest => exact ⟨copies.1.imp_left fun settled => settled.mono grown, copies.2⟩
  | _ => exact copies

/-- The document a call is about to save is settled or retried. -/
theorem Pc.Copies.saves {emits : List Emit} {pc : Pc} {document : OutboxDocument}
    (copies : pc.Copies emits) (saves : pc.saves = some document) :
    document.Settled emits ∨ document.Retried := by
  cases pc with
  | saveCompleted document' rest => cases saves; exact .inl copies.1
  | saveCaught document' rest => cases saves; exact copies.1
  | _ => cases saves

/-- Every record is consistent, and so is every copy of one. -/
def delivery : Assertions World Call Pc (Except Thrown Reply) where
  Global world := ∀ record ∈ world.outbox, record.Consistent world.emits
  Local world _ slot :=
    match slot with
    | .running _ pc => pc.Copies world.emits
    | _ => True

/-- The records after an operation. -/
theorem consistent_performed {world world' : World} {pid : ℕ} {call : Call} {pc : Pc}
    {answer : Answer} {reply : Except Thrown pc.op.Value} (provenance : Provenance world.toLedger)
    (sound : pc.Sound world.toLedger (world.sessions pid) call)
    (consistent : ∀ record ∈ world.outbox, record.Consistent world.emits)
    (copies : pc.Copies world.emits)
    (answered : exec world pid pc.op answer = some (world', reply)) :
    ∀ record ∈ world'.outbox, record.Consistent world'.emits := by
  suffices held : ∀ record ∈ world'.outbox, record.Consistent world.emits from
    fun record found => (held record found).mono (emits_subset answered)
  intro record found
  rcases outbox_cases provenance sound answered with
    ⟨same, _⟩ | ⟨document, saves, written, _⟩ | ⟨fresh, pending, attempts, processedAt, _, added, _⟩
  · rw [same] at found
    exact consistent record found
  · rw [written] at found
    obtain ⟨before, there, _, rfl⟩ := Ledger.mem_writeBack found
    have held := consistent before there
    split
    · rename_i same
      rcases copies.saves saves with settled | retried
      · exact settled.applyTo same
          (provenance.agree (provenance.stored before there) (sound.saves saves) same)
      · exact retried.applyTo held
    · exact held
  · rw [added, List.mem_append, List.mem_singleton] at found
    rcases found with found | rfl
    · exact consistent record found
    · refine Outbox.Waiting.consistent ⟨pending, processedAt, ?_⟩
      rw [attempts]
      decide

theorem copies_pollNext {emits : List Emit} {fields : Fields} {rest : List Outbox}
    (waiting : ∀ copy ∈ rest, copy.Waiting) : Copies emits (Led.pollNext fields rest).2 := by
  cases rest with
  | nil => trivial
  | cons event rest => exact waiting

/-- The copies where the call goes after an operation. -/
theorem copies_next {world world' : World} {pid : ℕ} {pc : Pc} {answer : Answer}
    {reply : Except Thrown pc.op.Value} {fields : Fields}
    (consistent : ∀ record ∈ world.outbox, record.Consistent world.emits)
    (copies : pc.Copies world.emits)
    (answered : exec world pid pc.op answer = some (world', reply))
    (grown : world.emits ⊆ world'.emits) :
    Copies world'.emits (Led.next fields pc reply).2 := by
  cases pc with
  | findPending =>
      cases reply with
      | error error => trivial
      | ok batch =>
          obtain ⟨_, rfl, rfl, _⟩ := respond_ok answered
          refine copies_pollNext fun copy fetched => ?_
          obtain ⟨found, status⟩ := Ledger.mem_pendingBatch fetched
          have held := consistent copy found
          exact ⟨status, held.processed.mpr status, held.attempts status⟩
  | emit event rest =>
      have waiting := copies event List.mem_cons_self
      have others : ∀ copy ∈ rest, copy.Waiting :=
        fun copy held => copies copy (List.mem_cons_of_mem _ held)
      cases reply with
      | error error => exact ⟨OutboxDocument.caught_waiting waiting, others⟩
      | ok _ =>
          obtain ⟨_, rfl, _, resolved⟩ := respond_ok answered
          refine ⟨OutboxDocument.settled_completed waiting ⟨_, List.mem_append_right _
            (List.mem_singleton_self _), rfl, rfl, rfl, ?_⟩, others⟩
          simp [resolved]
  | saveCompleted document rest =>
      cases reply with
      | error error => exact ⟨.inl (copies.1.mono grown).caught, copies.2⟩
      | ok _ => exact copies_pollNext copies.2
  | saveCaught document rest =>
      cases reply with
      | error error => trivial
      | ok _ => exact copies_pollNext copies.2
  | createTask body =>
      cases reply with
      | error error => trivial
      | ok created => cases created <;> trivial
  | findByIdAndDelete taskId =>
      cases reply with
      | error error => trivial
      | ok deleted => cases deleted <;> trivial
  | _ => cases reply <;> trivial

theorem delivery_land {world : World} {pid : ℕ} {call : Call} {led : Led}
    (copies : Copies world.emits led.2) :
    delivery.Local (Pool.land site world pid call led).1 pid
      (Pool.land site world pid call led).2 := by
  obtain ⟨fields, target⟩ := led
  cases target with
  | running pc =>
      simp only [delivery, Pool.land_running, store_toLedger]
      exact copies
  | finished out => trivial

/-- The copies of other calls stay as asserted while messages are added. -/
theorem delivery_others {world world' : World} (grown : world.emits ⊆ world'.emits) {other : ℕ}
    {slot : Slot Call Pc (Except Thrown Reply)} (holds : delivery.Local world other slot) :
    delivery.Local world' other slot := by
  cases slot with
  | running call pc => exact holds.mono grown
  | _ => trivial

theorem copies_enter {emits : List Emit} {fields : Fields} {call : Call} :
    Copies emits (Led.enter fields call).2 := by
  cases call with
  | pollOutbox instanceId =>
      simp only [Led.enter]
      split <;> trivial
  | _ => trivial

theorem delivery_valid : delivery.Valid site flow fun pool _ => transactional.Holds pool where
  call := by
    intro pool pid call world holds _ free started
    cases started
    refine ⟨?_, delivery_land copies_enter, fun other _ before => delivery_others ?_ before⟩
    · simpa only [delivery, land_toLedger] using holds.globally
    · rw [land_toLedger]
      exact List.Subset.refl _
  step := by
    intro pool pid choice call pc world reply holds transaction running answered
    obtain ⟨_, sound⟩ := by simpa only [transactional, running] using transaction.locally pid
    have copies : pc.Copies pool.world.emits := by
      simpa only [delivery, running] using holds.locally pid
    have consistent :=
      consistent_performed transaction.globally sound holds.globally copies answered
    have grown := emits_subset answered
    refine ⟨?_, delivery_land (copies_next holds.globally copies answered grown),
      fun other _ before => delivery_others ?_ before⟩
    · simpa only [delivery, land_toLedger] using consistent
    · rw [land_toLedger]
      exact grown
  crashPending := by
    intro pool pid call pc holds _ _
    exact ⟨holds.globally, trivial, fun other _ before => delivery_others (List.Subset.refl _) before⟩
  crashPerformed := by
    intro pool pid choice call pc world reply holds transaction running answered
    obtain ⟨_, sound⟩ := by simpa only [transactional, running] using transaction.locally pid
    have copies : pc.Copies pool.world.emits := by
      simpa only [delivery, running] using holds.locally pid
    have consistent :=
      consistent_performed transaction.globally sound holds.globally copies answered
    exact ⟨consistent, trivial, fun other _ before => delivery_others (emits_subset answered) before⟩
  env := by
    intro pool event world holds _ moved
    rcases env_cases moved with ⟨milliseconds, rfl, rfl⟩ | ⟨record, _, rfl, rfl⟩
    · exact ⟨holds.globally, fun pid before => before⟩
    · exact ⟨fun stored found => holds.globally stored (Ledger.prune_outbox_subset _ _ found),
        fun pid before => before⟩

theorem delivery_holds {C : View → Happening → Prop}
    {machine : Pool World Call Pc (Except Thrown Reply)} (ran : FlowRuns C (.initial {}) machine) :
    delivery.Holds machine := by
  refine delivery_valid.path ((transactional_path ran).mono fun _ _ both => both.2)
    ⟨?_, fun _ => trivial⟩
  intro record found
  cases found

/-- Stored records are consistent with the messages in every state of the programs. -/
theorem consistent_of_run {C : View → Happening → Prop} {state : State}
    (ran : Runs C (.initial {}) state) :
    ∀ record ∈ state.world.outbox, record.Consistent state.world.emits := by
  obtain ⟨machine, ran, same⟩ := implements.path ran
  have ran : FlowRuns C (.initial {}) machine := ran
  rw [← show machine.world = state.world from congrArg Pool.world same]
  exact (delivery_holds ran).globally

/-! ## The life of an outbox record -/

structure OutboxLifecycle (state : View) : Prop where
  /-- `processedAt` is set exactly when the record leaves `PENDING`. -/
  processed : ∀ record ∈ state.world.outbox, record.processedAt = none ↔ record.status = .pending
  /-- The TTL index never removes a pending record. -/
  kept : ∀ record ∈ state.world.outbox, record.status = .pending → ∀ now, ¬ record.Expired now
  attempts : ∀ record ∈ state.world.outbox, record.status = .pending → record.attempts < maxAttempts
  /-- Pattern and payload are those `create` wrote. -/
  written : ∀ record ∈ state.world.outbox, ∃ commit ∈ state.world.commits,
    commit.record.Announces commit.task ∧ record.StemsFrom commit
  /-- A completed record was delivered. -/
  delivered : ∀ record ∈ state.world.outbox, record.status = .completed →
    ∃ emit ∈ state.world.emits, emit.event = record.id ∧ emit.pattern = record.pattern ∧
      emit.payload = record.payload ∧ emit.acknowledged = true

/-- **A pending record is never pruned, and a completed one was delivered.** -/
theorem outbox_lifecycle {state : State} (ran : Runs Always (.initial {}) state) :
    OutboxLifecycle (state.observe programs) := by
  have provenance := provenance_of_run ran
  have consistent := consistent_of_run ran
  constructor
  case processed => exact fun record found => (consistent record found).processed
  case kept =>
    rintro record found pending now ⟨date, processed, _⟩
    rw [(consistent record found).processed.mpr pending] at processed
    cases processed
  case attempts => exact fun record found => (consistent record found).attempts
  case written =>
    intro record found
    obtain ⟨commit, known, stems⟩ := provenance.stored record found
    exact ⟨commit, known, provenance.owned.announced commit known, stems⟩
  case delivered => exact fun record found => (consistent record found).completed

/-- The theorem at a run in which a record is rejected once and then delivered. -/
theorem outbox_lifecycle_delivered :
    ∃ state ∈ run step (.initial {})
        (Sample.created ++ Sample.rejectedBy 0 1 ++ Sample.deliveredBy 0 2),
      state.world.outbox.map (·.status) = [.completed] ∧
        OutboxLifecycle (state.observe programs) := by
  obtain ⟨state, ran, completed⟩ :
      ∃ state ∈ run step (.initial {})
          (Sample.created ++ Sample.rejectedBy 0 1 ++ Sample.deliveredBy 0 2),
        state.world.outbox.map (·.status) = [.completed] := by decide +kernel
  exact ⟨state, ran, completed, outbox_lifecycle (.of_run ran .always)⟩

end WorkflowHub.TaskService
