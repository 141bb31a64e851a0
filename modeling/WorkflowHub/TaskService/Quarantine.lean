import WorkflowHub.TaskService.Replicas

/-!
# Attempts and quarantine

One poller instance, whose saves may fail. Every `emit` of a record that Kafka rejects is
counted as an attempt, and after 25 of them the record is quarantined. The `catch` block
also handles a save that failed after Kafka had acknowledged the message; it counts that
publication a second time, and may quarantine a record that was delivered
(`acknowledged_counted_twice`). `PublicationsSaved` is the condition that this does not
happen, and `quarantine_accounting` says that the books are right under it.
-/

set_option autoImplicit false

namespace WorkflowHub.TaskService

open Processes

/-! ## The books -/

/-- The calls of `emit` for a record. -/
def emitsOf (emits : List Emit) (id : ObjectId) : List Emit := emits.filter (·.event = id)

/-- Kafka has acknowledged no message of this record. -/
def Refused (emits : List Emit) (id : ObjectId) : Prop :=
  ∀ emit ∈ emitsOf emits id, emit.acknowledged = false

theorem emitsOf_append (emits : List Emit) (emit : Emit) (id : ObjectId) :
    emitsOf (emits ++ [emit]) id =
      emitsOf emits id ++ if emit.event = id then [emit] else [] := by
  rw [emitsOf, List.filter_append]
  congr 1
  by_cases same : emit.event = id
  · simp [same]
  · simp [same]

/-- A copy of a record that Kafka has not acknowledged, with no more attempts than calls. -/
structure Unpublished (emits : List Emit) (copy : Outbox) : Prop where
  refused : Refused emits copy.id
  attempts : copy.attempts ≤ (emitsOf emits copy.id).length

/-- What the stored records say about the messages. A pending record that was acknowledged
is still held by the poll run that published it. -/
structure Books (outbox : List Outbox) (emits : List Emit) (copiesOf : ℕ → List ObjectId) :
    Prop where
  counted : ∀ record ∈ outbox, record.attempts ≤ (emitsOf emits record.id).length
  failed : ∀ record ∈ outbox, record.status = .failed →
    maxAttempts ≤ (emitsOf emits record.id).length ∧ Refused emits record.id
  waiting : ∀ record ∈ outbox, record.status = .pending →
    Refused emits record.id ∨ ∃ pid, record.id ∈ copiesOf pid

/-- What the copies of a call say about the messages. -/
def Pc.Accounts (emits : List Emit) : Pc → Prop
  | .emit event rest => ∀ copy ∈ event :: rest, Unpublished emits copy
  | .saveCompleted document rest =>
      (document.event.status = .completed ∧
        document.event.attempts ≤ (emitsOf emits document.event.id).length) ∧
      ∀ copy ∈ rest, Unpublished emits copy
  | .saveCaught document rest =>
      (Unpublished emits document.event ∧ document.event.status ≠ .completed ∧
        (document.event.status = .failed → maxAttempts ≤ document.event.attempts)) ∧
      ∀ copy ∈ rest, Unpublished emits copy
  | _ => True

def Accounts (emits : List Emit) : Target Pc (Except Thrown Reply) → Prop
  | .running pc => pc.Accounts emits
  | .finished _ => True

/-- The books of the poller instance `instanceId`, which is the only one. -/
def accounting (instanceId : ℕ) : Assertions World Call Pc (Except Thrown Reply) where
  Global world := Books world.outbox world.emits world.copiesOf
  Local world _ slot :=
    match slot with
    | .running call pc =>
        pc.Accounts world.emits ∧ ∀ other, call = .pollOutbox other → other = instanceId
    | _ => True

/-! ## The runs -/

/-- Only the instance `instanceId` polls; its runs are not cut off, and a save that is
rejected has not been applied. -/
def SingleInstance (instanceId : ℕ) (state : View) : Happening → Prop
  | .call _ (.pollOutbox other) => other = instanceId
  | .crash pid _ =>
      match state.slots pid with
      | .running (.pollOutbox _) _ => False
      | _ => True
  | .step pid answer =>
      match state.slots pid with
      | .running _ (.save _) => answer.outcome.Clean
      | _ => True
  | _ => True

/-- No save that records an acknowledged publication is rejected. -/
def PublicationsSaved (state : View) : Happening → Prop
  | .step pid answer =>
      match state.slots pid with
      | .running _ (.save document) =>
          document.event.status = .completed → answer.outcome = .resolved
      | _ => True
  | _ => True

instance (instanceId : ℕ) (state : View) :
    (event : Happening) → Decidable (SingleInstance instanceId state event)
  | .call _ (.pollOutbox other) => inferInstanceAs (Decidable (other = instanceId))
  | .call _ (.create _) | .call _ (.findAllByUserId _) | .call _ (.createSaga _)
  | .call _ (.deleteSaga _) => isTrue trivial
  | .crash pid _ =>
      show Decidable (match state.slots pid with
        | .running (.pollOutbox _) _ => False
        | _ => True) from
      match state.slots pid with
      | .running (.pollOutbox _) _ => isFalse id
      | .running (.create _) _ | .running (.findAllByUserId _) _ | .running (.createSaga _) _
      | .running (.deleteSaga _) _ | .free | .finished .. | .crashed _ => isTrue trivial
  | .step pid answer =>
      show Decidable (match state.slots pid with
        | .running _ (.save _) => answer.outcome.Clean
        | _ => True) from
      match state.slots pid with
      | .running _ (.save _) => inferInstanceAs (Decidable answer.outcome.Clean)
      | .running _ .startSession | .running _ (.createTaskInSession _)
      | .running _ (.createOutboxInSession ..) | .running _ .commitTransaction
      | .running _ .abortTransaction | .running _ .endSession | .running _ (.createTask _)
      | .running _ (.findTasks _) | .running _ (.findByIdAndDelete _)
      | .running _ (.findPending _) | .running _ (.emit ..)
      | .free | .finished .. | .crashed _ => isTrue trivial
  | .env _ => isTrue trivial

instance (state : View) : (event : Happening) → Decidable (PublicationsSaved state event)
  | .step pid answer =>
      show Decidable (match state.slots pid with
        | .running _ (.save document) =>
            document.event.status = .completed → answer.outcome = .resolved
        | _ => True) from
      match state.slots pid with
      | .running _ (.save document) => inferInstanceAs (Decidable
          (document.event.status = .completed → answer.outcome = .resolved))
      | .running _ .startSession | .running _ (.createTaskInSession _)
      | .running _ (.createOutboxInSession ..) | .running _ .commitTransaction
      | .running _ .abortTransaction | .running _ .endSession | .running _ (.createTask _)
      | .running _ (.findTasks _) | .running _ (.findByIdAndDelete _)
      | .running _ (.findPending _) | .running _ (.emit ..)
      | .free | .finished .. | .crashed _ => isTrue trivial
  | .call .. | .crash .. | .env _ => isTrue trivial

/-- The books are right: no record has more attempts than it had calls of `emit`, and a
failed one had at least 25, all of them rejected. -/
structure Accounted (state : View) : Prop where
  attempts : ∀ record ∈ state.world.outbox,
    record.attempts ≤ (emitsOf state.world.emits record.id).length
  failed : ∀ record ∈ state.world.outbox, record.status = .failed →
    25 ≤ (emitsOf state.world.emits record.id).length ∧
      ∀ emit ∈ emitsOf state.world.emits record.id, emit.acknowledged = false

/-! ## What one operation does -/

theorem Unpublished.congr {emits emits' : List Emit} {copy copy' : Outbox}
    (unpublished : Unpublished emits copy) (id : copy'.id = copy.id)
    (attempts : copy'.attempts = copy.attempts)
    (same : emitsOf emits' copy.id = emitsOf emits copy.id) : Unpublished emits' copy' where
  refused := by simpa only [Refused, id, same] using unpublished.refused
  attempts := by simpa only [id, attempts, same] using unpublished.attempts

/-- A rejected `emit` is one more attempt and one more call. -/
theorem Unpublished.rejected {emits : List Emit} {copy copy' : Outbox} {emit : Emit}
    (unpublished : Unpublished emits copy) (id : copy'.id = copy.id)
    (attempts : copy'.attempts = copy.attempts + 1) (event : emit.event = copy.id)
    (rejected : emit.acknowledged = false) : Unpublished (emits ++ [emit]) copy' where
  refused := by
    intro other found
    rw [id, emitsOf_append, if_pos event, List.mem_append, List.mem_singleton] at found
    rcases found with found | rfl
    · exact unpublished.refused other found
    · exact rejected
  attempts := by
    rw [id, attempts, emitsOf_append, if_pos event, List.length_append, List.length_singleton]
    exact Nat.succ_le_succ unpublished.attempts

/-- Saving a document leaves the attempts of the document or those of the stored record. -/
theorem applyTo_counted {document : OutboxDocument} {stored : Outbox} {count : ℕ}
    (stored_le : stored.attempts ≤ count) (document_le : document.event.attempts ≤ count) :
    (document.applyTo stored).attempts ≤ count := by
  simp only [OutboxDocument.applyTo]
  split
  · exact document_le
  · exact stored_le

namespace Pc.Accounts

variable {emits : List Emit} {pc : Pc} {document : OutboxDocument} {stored : Outbox}

theorem saves_attempts (accounts : pc.Accounts emits) (saves : pc.saves = some document) :
    document.event.attempts ≤ (emitsOf emits document.event.id).length := by
  cases pc with
  | saveCompleted document' rest => cases saves; exact accounts.1.2
  | saveCaught document' rest => cases saves; exact accounts.1.1.attempts
  | _ => cases saves

/-- A save makes a pending record failed only when Kafka has rejected it 25 times. -/
theorem saves_failed (accounts : pc.Accounts emits) (saves : pc.saves = some document)
    (pending : stored.status = .pending)
    (failed : (document.applyTo stored).status = .failed) :
    maxAttempts ≤ (emitsOf emits document.event.id).length ∧ Refused emits document.event.id := by
  have settled : document.event.status = .failed := by
    simp only [OutboxDocument.applyTo] at failed
    split at failed
    · exact failed
    · cases pending.symm.trans failed
  cases pc with
  | saveCompleted document' rest =>
      cases saves
      cases accounts.1.1.symm.trans settled
  | saveCaught document' rest =>
      cases saves
      obtain ⟨⟨unpublished, _, enough⟩, _⟩ := accounts
      exact ⟨(enough settled).trans unpublished.attempts, unpublished.refused⟩
  | _ => cases saves

/-- A save leaves a record pending only when Kafka has rejected it so far. -/
theorem saves_pending (accounts : pc.Accounts emits) (saves : pc.saves = some document)
    (copies : pc.Copies emits) (pending : (document.applyTo stored).status = .pending) :
    Refused emits document.event.id := by
  cases pc with
  | saveCompleted document' rest =>
      cases saves
      simp only [OutboxDocument.applyTo, copies.1.statusModified, ↓reduceIte] at pending
      exact absurd pending copies.1.status
  | saveCaught document' rest =>
      cases saves
      exact accounts.1.1.refused
  | _ => cases saves

end Pc.Accounts

/-- After a rejected `emit` the record is pending or failed, and failed only after 25. -/
theorem caught_status {event : Outbox} (now : ℕ) (error : Thrown)
    (pending : event.status = .pending) :
    (OutboxDocument.caught now error { event }).event.status ≠ .completed ∧
      ((OutboxDocument.caught now error { event }).event.status = .failed →
        maxAttempts ≤ (OutboxDocument.caught now error { event }).event.attempts) := by
  simp only [OutboxDocument.caught]
  split
  · rename_i enough
    refine ⟨fun completed => ?_, fun _ => enough⟩
    cases completed
  · refine ⟨?_, ?_⟩
    · simp [OutboxDocument.setAttempts, OutboxDocument.setError, pending]
    · simp [OutboxDocument.setAttempts, OutboxDocument.setError, pending]

section Performed

variable {world world' : World} {pid : ℕ} {call : Call} {pc : Pc} {answer : Answer}
  {reply : Except Thrown pc.op.Value}
  (answered : exec world pid pc.op answer = some (world', reply))

include answered

/-- The messages of a record change only by an `emit` of that record. -/
theorem emitsOf_performed {id : ObjectId}
    (other : ∀ event rest, pc = .emit event rest → event.id ≠ id) :
    emitsOf world'.emits id = emitsOf world.emits id := by
  rcases emits_cases answered with same | ⟨event, rest, stored, emitting, added⟩
  · rw [same]
  · rw [added, emitsOf_append, if_neg (other event rest emitting), List.append_nil]

theorem emitsOf_length_le (id : ObjectId) :
    (emitsOf world.emits id).length ≤ (emitsOf world'.emits id).length := by
  rcases emits_cases answered with same | ⟨event, rest, stored, _, added⟩
  · rw [same]
  · rw [added, emitsOf_append, List.length_append]
    exact Nat.le_add_right _ _

variable (provenance : Provenance world.toLedger)
  (sound : pc.Sound world.toLedger (world.sessions pid) call)
  (holds : Holding call (world.copiesOf pid) (.running pc))

include provenance sound in
/-- No message is about a record that no commit has written. -/
theorem emitsOf_new {id : ObjectId} (new : ∀ commit ∈ world.commits, commit.record.id ≠ id) :
    emitsOf world'.emits id = [] := by
  rw [emitsOf_performed answered, emitsOf, List.filter_eq_nil_iff]
  · intro emit found same
    obtain ⟨commit, known, event, _⟩ := provenance.emitted emit found
    exact new commit known (event.symm.trans (of_decide_eq_true same))
  · rintro event rest rfl
    obtain ⟨commit, known, stems⟩ := sound event List.mem_cons_self
    exact fun same => new commit known (stems.id.symm.trans same)

omit answered in
include holds in
/-- The record that is published is held by the caller. -/
theorem emits_held {event : Outbox} {rest : List Outbox} (emitting : pc = .emit event rest) :
    event.id ∈ world.copiesOf pid := by
  subst emitting
  rw [holds.1]
  exact List.mem_cons_self

include holds in
/-- A processed record is not the one that is published, for what is held is pending. -/
theorem emitsOf_processed (holder : SoleHolder world.outbox world.copiesOf) {record : Outbox}
    (found : record ∈ world.outbox) (done : record.status ≠ .pending) :
    emitsOf world'.emits record.id = emitsOf world.emits record.id := by
  refine emitsOf_performed answered fun event rest emitting same => done ?_
  exact holder.pending record found pid (same ▸ emits_held holds emitting)

include holds in
theorem Books.failed_performed (books : Books world.outbox world.emits world.copiesOf)
    (holder : SoleHolder world.outbox world.copiesOf) {record : Outbox}
    (found : record ∈ world.outbox) (failed : record.status = .failed) :
    maxAttempts ≤ (emitsOf world'.emits record.id).length ∧ Refused world'.emits record.id := by
  have done : record.status ≠ .pending := by
    rw [failed]
    decide
  rw [Refused, emitsOf_processed answered holds holder found done]
  exact books.failed record found failed

include holds in
/-- A pending record is still held, or was refused, unless it was saved just now. -/
theorem Books.waiting_performed (books : Books world.outbox world.emits world.copiesOf)
    {copiesOf' : ℕ → List ObjectId} {record : Outbox} (found : record ∈ world.outbox)
    (pending : record.status = .pending)
    (kept : ∀ other, record.id ∈ world.copiesOf other →
      Refused world'.emits record.id ∨ ∃ other, record.id ∈ copiesOf' other) :
    Refused world'.emits record.id ∨ ∃ other, record.id ∈ copiesOf' other := by
  by_cases emitting : ∃ event rest, pc = .emit event rest ∧ event.id = record.id
  · obtain ⟨event, rest, emitting, same⟩ := emitting
    exact kept pid (same ▸ emits_held holds emitting)
  · rcases books.waiting record found pending with refused | ⟨other, held⟩
    · left
      rw [Refused, emitsOf_performed answered fun event rest same id =>
        emitting ⟨event, rest, same, id⟩]
      exact refused
    · exact kept other held

include provenance sound holds in
/-- The books after an operation. -/
theorem Books.performed (books : Books world.outbox world.emits world.copiesOf)
    (holder : SoleHolder world.outbox world.copiesOf) (copies : pc.Copies world.emits)
    (accounts : pc.Accounts world.emits) (clean : ∀ document, pc.saves = some document →
      answer.outcome.Clean) {copiesOf' : ℕ → List ObjectId}
    (kept : ∀ id other, id ∈ world.copiesOf other → id ∈ copiesOf' other ∨
      Refused world'.emits id ∨ ∃ document, pc.saves = some document ∧ document.event.id = id ∧
        answer.outcome = .resolved) :
    Books world'.outbox world'.emits copiesOf' := by
  have failed : ∀ record ∈ world.outbox, record.status = .failed →
      maxAttempts ≤ (emitsOf world'.emits record.id).length ∧ Refused world'.emits record.id :=
    fun record found => books.failed_performed answered holds holder found
  have counted : ∀ record ∈ world.outbox,
      record.attempts ≤ (emitsOf world'.emits record.id).length :=
    fun record found => (books.counted record found).trans (emitsOf_length_le answered _)
  have waiting : ∀ record ∈ world.outbox, record.status = .pending →
      (∀ document, pc.saves = some document → answer.outcome = .resolved →
        document.event.id ≠ record.id) →
      Refused world'.emits record.id ∨ ∃ other, record.id ∈ copiesOf' other := by
    intro record found pending unsaved
    refine books.waiting_performed answered holds found pending fun other held => ?_
    rcases kept record.id other held with here | refused | ⟨document, saves, same, resolved⟩
    · exact .inr ⟨other, here⟩
    · exact .inl refused
    · exact absurd same (unsaved document saves resolved)
  rcases outbox_cases provenance sound answered with
    ⟨same, unsaved⟩ | ⟨document, saves, written, applied⟩ |
      ⟨fresh, pending, attempts, _, saves, added, new⟩
  · rw [same]
    refine ⟨counted, failed, fun record found pending => waiting record found pending ?_⟩
    exact fun document saves resolved => absurd resolved (unsaved document saves)
  · have resolved := (clean document saves).resolved applied
    have quiet : ∀ id, emitsOf world'.emits id = emitsOf world.emits id := by
      refine fun id => emitsOf_performed answered fun event rest emitting => ?_
      subst emitting
      cases saves
    have cases : ∀ {record}, record ∈ world'.outbox → ∃ before ∈ world.outbox,
        before.id = document.event.id ∧ record = document.applyTo before ∨
          before.id ≠ document.event.id ∧ record = before := by
      intro record found
      rw [written] at found
      obtain ⟨before, there, _, rfl⟩ := Ledger.mem_writeBack found
      refine ⟨before, there, ?_⟩
      split
      · exact .inl ⟨‹_›, rfl⟩
      · exact .inr ⟨‹_›, rfl⟩
    constructor
    · intro record found
      obtain ⟨before, there, ⟨same, rfl⟩ | ⟨_, rfl⟩⟩ := cases found
      · rw [OutboxDocument.applyTo_id]
        exact applyTo_counted (counted before there)
          (by rw [quiet, same]; exact accounts.saves_attempts saves)
      · exact counted record there
    · intro record found status
      obtain ⟨before, there, ⟨same, rfl⟩ | ⟨_, rfl⟩⟩ := cases found
      · have pending := holder.pending before there pid (same ▸ saves_held holds saves)
        rw [OutboxDocument.applyTo_id, Refused, quiet, same]
        exact accounts.saves_failed saves pending status
      · exact failed record there status
    · intro record found status
      obtain ⟨before, there, ⟨same, rfl⟩ | ⟨other, rfl⟩⟩ := cases found
      · left
        rw [OutboxDocument.applyTo_id, Refused, quiet, same]
        exact accounts.saves_pending saves copies status
      · refine waiting record there status fun document' saves' _ same => other ?_
        obtain rfl := Option.some.inj (saves'.symm.trans saves)
        exact same.symm
  · have none := emitsOf_new answered provenance sound new
    have cases : ∀ {record}, record ∈ world'.outbox → record ∈ world.outbox ∨ record = fresh := by
      intro record found
      rwa [added, List.mem_append, List.mem_singleton] at found
    constructor
    · intro record found
      rcases cases found with found | rfl
      · exact counted record found
      · rw [attempts]
        exact Nat.zero_le _
    · intro record found status
      rcases cases found with found | rfl
      · exact failed record found status
      · cases pending.symm.trans status
    · intro record found status
      rcases cases found with found | rfl
      · exact waiting record found status fun _ saves' => nomatch saves.symm.trans saves'
      · left
        rw [Refused, none]
        exact fun _ found => absurd found List.not_mem_nil

include holds in
/-- The copies where the call goes after an operation. -/
theorem accounts_next {fields : Fields} (books : Books world.outbox world.emits world.copiesOf)
    (copies : pc.Copies world.emits) (accounts : pc.Accounts world.emits)
    (free : pc = .findPending → ∀ record ∈ world.pendingBatch batchSize, ∀ other,
      record.id ∈ world.copiesOf other → other = pid)
    (saved : ∀ document, pc.saves = some document → document.event.status = .completed →
      answer.outcome = .resolved) :
    Accounts world'.emits (Led.next fields pc reply).2 := by
  have onward : ∀ rest : List Outbox, (∀ copy ∈ rest, Unpublished world'.emits copy) →
      Accounts world'.emits (Led.pollNext fields rest).2 := by
    intro rest unpublished
    cases rest with
    | nil => trivial
    | cons event rest => exact unpublished
  have kept : ∀ copy : Outbox, Unpublished world.emits copy →
      (∀ event rest, pc = .emit event rest → event.id ≠ copy.id) → Unpublished world'.emits copy :=
    fun copy unpublished other => unpublished.congr rfl rfl (emitsOf_performed answered other)
  have same := holds.1
  have nodup := holds.2.1
  cases pc with
  | findPending =>
      cases reply with
      | error error => trivial
      | ok batch =>
          obtain ⟨_, rfl, rfl, resolved⟩ := respond_ok answered
          refine onward _ fun copy fetched => kept copy ?_ fun _ _ emitting => nomatch emitting
          obtain ⟨found, pending⟩ := Ledger.mem_pendingBatch fetched
          refine ⟨(books.waiting copy found pending).resolve_right ?_, books.counted copy found⟩
          rintro ⟨other, held⟩
          have mine := free rfl copy fetched other held
          rw [mine, same] at held
          cases held
  | emit event rest =>
      obtain ⟨stored, added⟩ := emits_emit answered
      have here : Unpublished world.emits event := accounts event List.mem_cons_self
      have others : ∀ copy ∈ rest, Unpublished world'.emits copy := by
        intro copy held
        refine kept copy (accounts copy (List.mem_cons_of_mem _ held))
          fun event' rest' emitting id => ?_
        cases emitting
        exact (List.nodup_cons.mp nodup).1 (List.mem_map.mpr ⟨copy, held, id.symm⟩)
      cases reply with
      | error error =>
          have rejected : decide (answer.outcome = .resolved) = false :=
            decide_eq_false (respond_error answered)
          have status := caught_status fields.now error (copies event List.mem_cons_self).status
          refine ⟨⟨?_, status.1, status.2⟩, others⟩
          rw [added]
          exact here.rejected (caught_same fields.now error { event }).1 (caught_attempts ..) rfl
            rejected
      | ok _ =>
          have counted : (emitsOf world'.emits event.id).length =
              (emitsOf world.emits event.id).length + 1 := by
            simp [added, emitsOf_append]
          refine ⟨⟨rfl, ?_⟩, others⟩
          exact (Nat.succ_le_succ here.attempts).trans_eq counted.symm
  | saveCompleted document rest =>
      cases reply with
      | error error =>
          exact absurd (saved document rfl accounts.1.1) (respond_error answered)
      | ok _ =>
          exact onward rest fun copy held =>
            kept copy (accounts.2 copy held) fun _ _ emitting => nomatch emitting
  | saveCaught document rest =>
      cases reply with
      | error error => trivial
      | ok _ =>
          exact onward rest fun copy held =>
            kept copy (accounts.2 copy held) fun _ _ emitting => nomatch emitting
  | createTask body =>
      cases reply with
      | error error => trivial
      | ok created => cases created <;> trivial
  | findByIdAndDelete taskId =>
      cases reply with
      | error error => trivial
      | ok deleted => cases deleted <;> trivial
  | _ => cases reply <;> trivial

end Performed

/-! ## The copies a call keeps -/

theorem Books.shrink {outbox : List Outbox} {emits : List Emit}
    {copiesOf copiesOf' : ℕ → List ObjectId} (books : Books outbox emits copiesOf)
    (kept : ∀ id other, id ∈ copiesOf other → id ∈ copiesOf' other) :
    Books outbox emits copiesOf' where
  counted := books.counted
  failed := books.failed
  waiting record found pending := (books.waiting record found pending).imp_right
    fun ⟨other, held⟩ => ⟨other, kept _ other held⟩

theorem land_pollNext_copiesOf {world : World} {pid : ℕ} {call : Call} {fields : Fields}
    {rest : List Outbox} (same : world.copiesOf pid = rest.map (·.id)) :
    (Pool.land site world pid call (Led.pollNext fields rest)).1.copiesOf pid =
      rest.map (·.id) := by
  cases rest with
  | nil => exact World.copiesOf_hold_self _ pid []
  | cons event rest => exact (store_copiesOf world call fields pid).trans same

theorem Pc.polls_of_held {pc : Pc} {id : ObjectId} (held : id ∈ pc.held) : pc.Polls := by
  cases pc with
  | emit event rest => trivial
  | saveCompleted document rest => trivial
  | saveCaught document rest => trivial
  | _ => cases held

/-- A copy a call held before an operation it holds afterwards, or Kafka has not acknowledged
the record, or the operation was the save of that copy. -/
theorem kept_next {world world' : World} {pid : ℕ} {call : Call} {pc : Pc} {answer : Answer}
    {reply : Except Thrown pc.op.Value} {fields : Fields}
    (answered : exec world pid pc.op answer = some (world', reply))
    (holds : Holding call (world.copiesOf pid) (.running pc)) (accounts : pc.Accounts world.emits)
    (saved : ∀ document, pc.saves = some document → document.event.status = .completed →
      answer.outcome = .resolved) {id : ObjectId} (held : id ∈ world.copiesOf pid) :
    id ∈ (Pool.land site world' pid call (Led.next fields pc reply)).1.copiesOf pid ∨
      Refused world'.emits id ∨ ∃ document, pc.saves = some document ∧ document.event.id = id ∧
        answer.outcome = .resolved := by
  have same := holds.1
  rw [same] at held
  have onward : ∀ (document : OutboxDocument) (rest : List Outbox),
      world'.copiesOf pid = rest.map (·.id) → id ∈ document.event.id :: rest.map (·.id) →
      id ∈ (Pool.land site world' pid call (Led.pollNext fields rest)).1.copiesOf pid ∨
        document.event.id = id := by
    intro document rest kept held
    rw [land_pollNext_copiesOf kept]
    rcases List.mem_cons.mp held with rfl | held
    · exact .inr rfl
    · exact .inl held
  cases pc with
  | emit event rest =>
      left
      have kept : world'.copiesOf pid = world.copiesOf pid :=
        exec_copiesOf_self (by simp [Pc.op]) (by simp [Pc.op]) answered
      cases reply with
      | error error => rwa [← same, ← kept, ← store_copiesOf world' call fields pid] at held
      | ok _ => rwa [← same, ← kept, ← store_copiesOf world' call fields pid] at held
  | saveCompleted document rest =>
      have resolved := saved document rfl accounts.1.1
      cases reply with
      | error error => exact absurd resolved (respond_error answered)
      | ok _ =>
          rcases onward document rest (released same answered) held with here | mine
          · exact .inl here
          · exact .inr (.inr ⟨document, rfl, mine, resolved⟩)
  | saveCaught document rest =>
      cases reply with
      | ok _ =>
          obtain ⟨_, _, _, resolved⟩ := respond_ok answered
          rcases onward document rest (released same answered) held with here | mine
          · exact .inl here
          · exact .inr (.inr ⟨document, rfl, mine, resolved⟩)
      | error error =>
          right; left
          rw [Refused, emitsOf_performed answered fun _ _ emitting => by cases emitting]
          rcases List.mem_cons.mp held with rfl | held
          · exact accounts.1.1.refused
          · obtain ⟨copy, there, rfl⟩ := List.mem_map.mp held
            exact (accounts.2 copy there).refused
  | _ => cases held

theorem Pc.Accounts.others {emits emits' : List Emit} {pc : Pc} (accounts : pc.Accounts emits)
    (quiet : ∀ id ∈ pc.held, emitsOf emits' id = emitsOf emits id) : pc.Accounts emits' := by
  have copies : ∀ copy : Outbox, copy.id ∈ pc.held → Unpublished emits copy →
      Unpublished emits' copy :=
    fun copy held unpublished => unpublished.congr rfl rfl (quiet copy.id held)
  have rest : ∀ (head : Outbox) (rest : List Outbox), pc.batch = head :: rest →
      (∀ copy ∈ rest, Unpublished emits copy) → ∀ copy ∈ rest, Unpublished emits' copy := by
    intro head rest batch unpublished copy held
    refine copies copy ?_ (unpublished copy held)
    rw [Pc.held, batch]
    exact List.mem_map_of_mem (List.mem_cons_of_mem _ held)
  cases pc with
  | emit event rest =>
      exact fun copy held => copies copy (List.mem_map_of_mem held) (accounts copy held)
  | saveCompleted document tail =>
      refine ⟨⟨accounts.1.1, ?_⟩, rest _ _ rfl accounts.2⟩
      rw [quiet _ List.mem_cons_self]
      exact accounts.1.2
  | saveCaught document tail =>
      exact ⟨⟨copies _ List.mem_cons_self accounts.1.1, accounts.1.2⟩, rest _ _ rfl accounts.2⟩
  | _ => trivial

/-! ## Along a run -/

section Instance

variable {instanceId : ℕ} {pool : Pool World Call Pc (Except Thrown Reply)} {pid : ℕ} {call : Call}
  {pc : Pc}

/-- Of the poll runs of the only instance, one is past its check of `isPolling`. -/
theorem sole_poller (sane : Sane pool) (holds : (accounting instanceId).Holds pool)
    {other : ℕ} {call' : Call} {pc' : Pc} (running : pool.slots pid = .running call pc)
    (running' : pool.slots other = .running call' pc') (polls : pc.Polls) (polls' : pc'.Polls) :
    other = pid := by
  obtain ⟨first, rfl⟩ := (sane.running running).2.2.2.2 polls
  obtain ⟨second, rfl⟩ := (sane.running running').2.2.2.2 polls'
  have here := holds.locally pid
  have there := holds.locally other
  simp only [accounting, running, Call.pollOutbox.injEq] at here
  simp only [accounting, running', Call.pollOutbox.injEq] at there
  rw [here.2 first rfl] at running
  rw [there.2 second rfl] at running'
  exact sane.singleFlight.alone running' running

/-- Who holds a copy is past the check. -/
theorem polls_of_copy (sane : Sane pool) {other : ℕ} {id : ObjectId}
    (held : id ∈ pool.world.copiesOf other) :
    ∃ call' pc', pool.slots other = .running call' pc' ∧ pc'.Polls := by
  have holds := sane.holding.locally other
  match found : pool.slots other with
  | .running call' pc' =>
      simp only [holding, found] at holds
      rw [holds.1] at held
      exact ⟨call', pc', rfl, Pc.polls_of_held held⟩
  | .free =>
      simp only [holding, found] at holds
      rw [holds] at held
      cases held
  | .finished _ _ =>
      simp only [holding, found] at holds
      rw [holds] at held
      cases held
  | .crashed _ =>
      simp only [holding, found] at holds
      rw [holds] at held
      cases held

/-- A single instance never fetches a record of which a copy is held. -/
theorem soleCopies (sane : Sane pool) (holds : (accounting instanceId).Holds pool)
    {event : Happening} (single : SingleInstance instanceId (pool.observe flow) event) :
    SoleCopies (pool.observe flow) event := by
  cases event with
  | step pid answer =>
      simp only [SoleCopies, SingleInstance] at single ⊢
      split
      · rename_i call limit seen
        obtain ⟨pc, running, op⟩ := Slot.of_observe_running seen
        intro record _ copy found _
        obtain ⟨call', pc', running', polls'⟩ := polls_of_copy sane (World.mem_copiesOf.mpr found)
        refine sole_poller sane holds running running' ?_ polls'
        cases pc <;> trivial
      · rename_i call document seen
        simpa only [seen] using single
      · trivial
  | _ => trivial

/-- A call that a crash may cut off holds no copies. -/
theorem no_copies_of_crash (sane : Sane pool) {performed : Option Answer}
    (single : SingleInstance instanceId (pool.observe flow) (.crash pid performed))
    (running : pool.slots pid = .running call pc) : pool.world.copiesOf pid = [] := by
  have holding := (sane.running running).2.2
  rw [holding.1, List.eq_nil_iff_forall_not_mem]
  intro id held
  obtain ⟨other, rfl⟩ := holding.2.2 (Pc.polls_of_held held)
  simp only [SingleInstance, Pool.observe_slots, running, Slot.observe] at single

theorem PublicationsSaved.saves {answer : Answer}
    (allowed : PublicationsSaved (pool.observe flow) (.step pid answer))
    (running : pool.slots pid = .running call pc) :
    ∀ document, pc.saves = some document → document.event.status = .completed →
      answer.outcome = .resolved := by
  intro document saves
  simpa only [PublicationsSaved, Pool.observe_slots, running, Slot.observe, flow,
    (Pc.saves_op saves).1] using allowed

theorem accounting_others {world world' : World} {other : ℕ}
    {slot : Slot Call Pc (Except Thrown Reply)}
    (quiet : ∀ {call pc}, slot = .running call pc → ∀ id ∈ pc.held,
      emitsOf world'.emits id = emitsOf world.emits id)
    (holds : (accounting instanceId).Local world other slot) :
    (accounting instanceId).Local world' other slot := by
  cases slot with
  | running call pc => exact ⟨holds.1.others (quiet rfl), holds.2⟩
  | _ => trivial

theorem accounting_land {world : World} {led : Led} (accounts : Accounts world.emits led.2)
    (mine : ∀ other, call = .pollOutbox other → other = instanceId) :
    (accounting instanceId).Local (Pool.land site world pid call led).1 pid
      (Pool.land site world pid call led).2 := by
  obtain ⟨fields, target⟩ := led
  cases target with
  | running pc =>
      simp only [accounting, Pool.land_running, store_toLedger]
      exact ⟨accounts, mine⟩
  | finished out => trivial

/-- The messages about what one poll run holds are not added by another call. -/
theorem quiet_others (sane : Sane pool) (holds : (accounting instanceId).Holds pool)
    {answer : Answer} {world : World} {reply : Except Thrown pc.op.Value}
    (running : pool.slots pid = .running call pc)
    (answered : exec pool.world pid pc.op answer = some (world, reply)) {other : ℕ}
    (different : other ≠ pid) {call' : Call} {pc' : Pc}
    (running' : pool.slots other = .running call' pc') :
    ∀ id ∈ pc'.held, emitsOf world.emits id = emitsOf pool.world.emits id := by
  intro id held
  refine emitsOf_performed answered fun event rest emitting _ => different ?_
  subst emitting
  exact sole_poller sane holds running running' trivial (Pc.polls_of_held held)

theorem accounting_valid : (accounting instanceId).Valid site flow fun pool event =>
    (SingleInstance instanceId (pool.observe flow) event ∧
      PublicationsSaved (pool.observe flow) event) ∧ Sane pool ∧ replicas.Holds pool where
  call := by
    intro pool pid call world holds allowed free started
    cases started
    have sane := allowed.2.1
    have none : pool.world.copiesOf pid = [] := by
      simpa only [holding, free] using sane.holding.locally pid
    refine ⟨?_, accounting_land ?_ ?_, fun other _ before => accounting_others ?_ before⟩
    · simp only [accounting, land_toLedger]
      refine Books.shrink holds.globally fun id other held => ?_
      by_cases same : other = pid
      · rw [same, none] at held
        cases held
      · rwa [land_copiesOf_other same]
    · cases call with
      | pollOutbox instanceId =>
          simp only [flow, Led.enter]
          split <;> trivial
      | _ => trivial
    · rintro other rfl
      exact allowed.1.1
    · intro _ _ _ _ _
      rw [land_toLedger]
  step := by
    intro pool pid answer call pc world reply holds allowed running answered
    obtain ⟨⟨single, published⟩, sane, sole⟩ := allowed
    have provenance : Provenance pool.world.toLedger := sane.transactional.globally
    obtain ⟨sound, copies, held⟩ := sane.running running
    obtain ⟨accounts, mine⟩ := by simpa only [accounting, running] using holds.locally pid
    have condition := soleCopies sane holds single
    have saved := published.saves running
    refine ⟨?_, accounting_land ?_ mine, fun other different before =>
      accounting_others (fun running' => ?_) before⟩
    · simp only [accounting, land_toLedger]
      refine Books.performed answered provenance sound held holds.globally sole.globally copies
        accounts (condition.save running) fun id other there => ?_
      by_cases same : other = pid
      · subst same
        exact kept_next answered held accounts saved there
      · left
        rwa [land_copiesOf_other same, exec_copiesOf_other same answered]
    · refine accounts_next answered held holds.globally copies accounts (fun fetch => ?_) saved
      subst fetch
      exact condition.fetch running
    · rw [land_toLedger]
      exact quiet_others sane holds running answered different running'
  crashPending := by
    intro pool pid call pc holds allowed running
    obtain ⟨⟨single, _⟩, sane, _⟩ := allowed
    refine ⟨Books.shrink holds.globally fun id other held => ?_, trivial, fun other _ before =>
      accounting_others (fun _ _ _ => rfl) before⟩
    by_cases same : other = pid
    · rw [same, no_copies_of_crash sane single running] at held
      cases held
    · rwa [crash_copiesOf_other same]
  crashPerformed := by
    intro pool pid answer call pc world reply holds allowed running answered
    obtain ⟨⟨single, published⟩, sane, sole⟩ := allowed
    have provenance : Provenance pool.world.toLedger := sane.transactional.globally
    obtain ⟨sound, copies, held⟩ := sane.running running
    obtain ⟨accounts, mine⟩ := by simpa only [accounting, running] using holds.locally pid
    have none := no_copies_of_crash sane single running
    refine ⟨?_, trivial, fun other different before =>
      accounting_others (fun running' => ?_) before⟩
    · refine Books.performed answered provenance sound held holds.globally sole.globally copies
        accounts ?_ fun id other there => ?_
      · intro document saves
        have mine := saves_held held saves
        rw [none] at mine
        cases mine
      · by_cases same : other = pid
        · rw [same, none] at there
          cases there
        · left
          rwa [crash_copiesOf_other same, exec_copiesOf_other same answered]
    · exact quiet_others sane holds running answered different running'
  env := by
    intro pool event world holds _ moved
    rcases env_cases moved with ⟨milliseconds, rfl, rfl⟩ | ⟨record, _, rfl, rfl⟩
    · exact ⟨holds.globally, fun pid before => before⟩
    · have subset := Ledger.prune_outbox_subset pool.world.toLedger record.id
      have books : Books pool.world.outbox pool.world.emits pool.world.copiesOf := holds.globally
      exact ⟨⟨fun record found => books.counted record (subset found),
        fun record found => books.failed record (subset found),
        fun record found => books.waiting record (subset found)⟩, fun pid before => before⟩

end Instance

/-- What holds in every state of a run of the single instance. -/
structure Kept (instanceId : ℕ) (pool : Pool World Call Pc (Except Thrown Reply)) : Prop where
  sane : Sane pool
  replicas : replicas.Holds pool
  accounting : (accounting instanceId).Holds pool

theorem kept_holds {instanceId : ℕ} {machine : Pool World Call Pc (Except Thrown Reply)}
    (ran : FlowRuns (fun state event => SingleInstance instanceId state event ∧
      PublicationsSaved state event) (.initial {}) machine) : Kept instanceId machine := by
  refine ran.invariant ⟨.initial, replicas_holds .refl, ⟨⟨?_, ?_, ?_⟩, fun _ => trivial⟩⟩ ?_
  · exact fun _ found => nomatch found
  · exact fun _ found => nomatch found
  · exact fun _ found => nomatch found
  · intro before event after allowed kept taken
    have condition := soleCopies kept.sane kept.accounting allowed.1
    exact ⟨kept.sane.step taken,
      replicas_valid.preserved _ _ _ ⟨condition, kept.sane⟩ kept.replicas taken,
      accounting_valid.preserved _ _ _ ⟨allowed, kept.sane, kept.replicas⟩ kept.accounting taken⟩

/-- **The books are right,** if no save that records an acknowledged publication is rejected. -/
theorem quarantine_accounting {instanceId : ℕ} {state : State}
    (ran : Runs (fun state event => SingleInstance instanceId state event ∧
      PublicationsSaved state event) (.initial {}) state) :
    Accounted (state.observe programs) := by
  obtain ⟨machine, ran, same⟩ := implements.path
    (C := fun state event => SingleInstance instanceId state event ∧ PublicationsSaved state event) ran
  have books : Books machine.world.outbox machine.world.emits machine.world.copiesOf :=
    (kept_holds ran).accounting.globally
  rw [← show machine.observe flow = state.observe programs from same]
  exact ⟨books.counted, books.failed⟩

/-- The theorem at a run of 25 rejections: the record is quarantined. -/
theorem quarantine_accounting_rejections :
    ∃ state ∈ run step (.initial {}) (Sample.created ++ Sample.rejections 25),
      state.world.outbox.map (·.status) = [.failed] ∧ Accounted (state.observe programs) := by
  obtain ⟨state, ran, failed, allowed⟩ :
      ∃ state ∈ run step (.initial {}) (Sample.created ++ Sample.rejections 25),
        state.world.outbox.map (·.status) = [.failed] ∧
        Meets step (fun state event => SingleInstance 0 (state.observe programs) event ∧
          PublicationsSaved (state.observe programs) event) (.initial {})
          (Sample.created ++ Sample.rejections 25) := by decide +kernel
  exact ⟨state, ran, failed, quarantine_accounting (.of_run ran allowed)⟩

/-- **An acknowledged publication counted twice.** Kafka acknowledges the message, the save
of the completed record is rejected, and the `catch` block counts the attempt again: two
attempts for one call. After 24 rejections the same quarantines a record that was
delivered. -/
theorem acknowledged_counted_twice :
    (∃ state ∈ run step (.initial {}) (Sample.created ++
        [.call 1 (.pollOutbox 0), Sample.resolves 1, Sample.resolves 1, Sample.rejects 1,
          Sample.resolves 1]),
      Meets step (fun state event => SingleInstance 0 (state.observe programs) event) (.initial {})
        (Sample.created ++ [.call 1 (.pollOutbox 0), Sample.resolves 1, Sample.resolves 1,
          Sample.rejects 1, Sample.resolves 1]) ∧
      ∃ record ∈ state.world.outbox, record.attempts = 2 ∧
        (emitsOf state.world.emits record.id).length = 1) ∧
    ∃ state ∈ run step (.initial {}) (Sample.created ++ Sample.rejections 23 ++
        [.call 24 (.pollOutbox 0), Sample.resolves 24, Sample.resolves 24, Sample.rejects 24,
          Sample.resolves 24]),
      ∃ record ∈ state.world.outbox, record.status = .failed ∧
        ∃ emit ∈ emitsOf state.world.emits record.id, emit.acknowledged = true := by
  constructor
  · decide +kernel
  · decide +kernel

end WorkflowHub.TaskService
