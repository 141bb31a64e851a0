import WorkflowHub.TaskService.HeadOfLine
import WorkflowHub.TaskService.Polling

/-!
# How fast the outbox drains

A poll run whose `find` and whose `save`s all resolve attempts the ten oldest pending records,
each of them once (`Polled.attempts`). Along a sequence of such polls a record of group `g`, the
records `10 g` to `10 g + 9` from the oldest, is attempted by every poll from number `25 g + 1` on
while it is pending, and no record is pending after 25 attempts (`bounded_drain`).
-/

set_option autoImplicit false

namespace WorkflowHub.TaskService

open Processes

/-! ## One attempt -/

/-- The record is a later state of the event. -/
structure Continues (event record : Outbox) : Prop where
  id : record.id = event.id
  pattern : record.pattern = event.pattern
  payload : record.payload = event.payload
  createdAt : record.createdAt = event.createdAt

namespace Continues

variable {event record later : Outbox}

theorem refl (event : Outbox) : Continues event event := ⟨rfl, rfl, rfl, rfl⟩

theorem trans (first : Continues event record) (second : Continues record later) :
    Continues event later :=
  ⟨second.id.trans first.id, second.pattern.trans first.pattern,
    second.payload.trans first.payload, second.createdAt.trans first.createdAt⟩

theorem emission (continues : Continues event record) : record.emission = event.emission := by
  rw [Outbox.emission, Outbox.emission, continues.id, continues.pattern, continues.payload]

end Continues

/-- What an attempt makes of a pending record. -/
structure Attempted (event record : Outbox) : Prop where
  continues : Continues event record
  status : record.status = .completed ∨ record.status = .failed ∨
    record.status = .pending ∧ record.attempts = event.attempts + 1 ∧ record.attempts < maxAttempts

theorem continues_applyTo (document : OutboxDocument) (stored : Outbox) :
    Continues stored (document.applyTo stored) := ⟨rfl, rfl, rfl, rfl⟩

theorem attempted_completed {event : Outbox} (pending : event.status = .pending) (now : ℕ) :
    Attempted event ((OutboxDocument.completed now { event }).applyTo event) := by
  refine ⟨continues_applyTo _ _, .inl ?_⟩
  simp [OutboxDocument.completed, OutboxDocument.applyTo, OutboxDocument.setStatus,
    OutboxDocument.setProcessedAt, OutboxDocument.setAttempts, pending]

theorem attempted_caught {event : Outbox} (pending : event.status = .pending) (now : ℕ)
    (error : Thrown) :
    Attempted event ((OutboxDocument.caught now error { event }).applyTo event) := by
  refine ⟨continues_applyTo _ _, ?_⟩
  by_cases exhausted : maxAttempts ≤ event.attempts + 1
  · refine .inr (.inl ?_)
    simp [OutboxDocument.caught, OutboxDocument.applyTo, OutboxDocument.setStatus,
      OutboxDocument.setProcessedAt, OutboxDocument.setAttempts, OutboxDocument.setError, pending,
      exhausted]
  · refine .inr (.inr ?_)
    simp [OutboxDocument.caught, OutboxDocument.applyTo, OutboxDocument.setAttempts,
      OutboxDocument.setError, pending, exhausted, Nat.lt_of_not_le exhausted]

/-- The document does not make a record pending. -/
def OutboxDocument.KeepsPending (document : OutboxDocument) : Prop :=
  ∀ stored, (document.applyTo stored).status = .pending → stored.status = .pending

theorem keepsPending_completed {event : Outbox} (now : ℕ) (pending : event.status = .pending) :
    (OutboxDocument.completed now { event }).KeepsPending := by
  intro stored
  simp [OutboxDocument.completed, OutboxDocument.applyTo, OutboxDocument.setStatus,
    OutboxDocument.setProcessedAt, OutboxDocument.setAttempts, pending]

theorem keepsPending_caught {event : Outbox} (now : ℕ) (error : Thrown)
    (pending : event.status = .pending) :
    (OutboxDocument.caught now error { event }).KeepsPending := by
  intro stored
  by_cases exhausted : maxAttempts ≤ event.attempts + 1
  · simp [OutboxDocument.caught, OutboxDocument.applyTo, OutboxDocument.setStatus,
      OutboxDocument.setProcessedAt, OutboxDocument.setAttempts, OutboxDocument.setError, pending,
      exhausted]
  · simp [OutboxDocument.caught, OutboxDocument.applyTo, OutboxDocument.setAttempts,
      OutboxDocument.setError, exhausted]

/-! ## One poll -/

abbrev PollExchange : Type := Exchange (promises Op Op.Value Thrown) Answer

/-- The operations take effect as they do in the system, and all but `emit` resolve. -/
def serving (pid : ℕ) (world : World) (op : Op) (answer : Answer) (reply : Except Thrown op.Value)
    (world' : World) : Prop :=
  (op.isEmit = false → answer.outcome = .resolved) ∧ exec world pid op answer = some (world', reply)

/-- A poll of the instance from its start, with no other one going, to its end. -/
def Polled (instanceId : ℕ) (before : World) (exchanges : List PollExchange) (after : World) :
    Prop :=
  ∃ pid now out, Executes (serving pid) programs (.pollOutbox instanceId) before
    (programs.enter (.pollOutbox instanceId) { isPolling := false, now }) exchanges out after

/-- Some records are attempted once, and the others stay as they are. -/
structure Attempts (batch before after : List Outbox) (called : List Op) : Prop where
  ids : after.map (·.id) = before.map (·.id)
  others : ∀ record ∈ before, record.id ∉ batch.map (·.id) → record ∈ after
  called : ∀ event ∈ batch, event.emission ∈ called
  attempted : ∀ event ∈ batch, ∃ record ∈ after, Attempted event record
  came : ∀ record ∈ after, ∃ stored ∈ before, Continues stored record ∧
    (record.status = .pending → stored.status = .pending)

namespace Attempts

theorem nothing {outbox : List Outbox} (called : List Op) : Attempts [] outbox outbox called where
  ids := rfl
  others _ found _ := found
  called _ found := by cases found
  attempted _ found := by cases found
  came record found := ⟨record, found, .refl record, id⟩

theorem more {batch before after : List Outbox} {called called' : List Op}
    (attempts : Attempts batch before after called) (grown : called ⊆ called') :
    Attempts batch before after called' :=
  { attempts with called := fun event fetched => grown (attempts.called event fetched) }

/-- One attempt, and then the others. -/
theorem cons {event : Outbox} {rest before between after : List Outbox} {called called' : List Op}
    (fresh : event.id ∉ rest.map (·.id)) (first : Attempts [event] before between called)
    (others : Attempts rest between after called') :
    Attempts (event :: rest) before after (called ++ called') where
  ids := others.ids.trans first.ids
  others record found apart := by
    obtain ⟨different, apart⟩ := not_or.mp (List.mem_cons.not.mp apart)
    exact others.others record (first.others record found (List.mem_singleton.not.mpr different))
      apart
  called := by
    intro other fetched
    rcases List.mem_cons.mp fetched with rfl | behind
    · exact List.mem_append_left _ (first.called other (.head _))
    · exact List.mem_append_right _ (others.called other behind)
  attempted := by
    intro other fetched
    rcases List.mem_cons.mp fetched with rfl | behind
    · obtain ⟨record, found, attempted⟩ := first.attempted other (.head _)
      exact ⟨record, others.others record found (attempted.continues.id ▸ fresh), attempted⟩
    · exact others.attempted other behind
  came := by
    intro record found
    obtain ⟨middle, between, continues', pending'⟩ := others.came record found
    obtain ⟨stored, before, continues, pending⟩ := first.came middle between
    exact ⟨stored, before, continues.trans continues', fun status => pending (pending' status)⟩

/-- The `save` of an attempt. -/
theorem of_save {ledger : Ledger} {event : Outbox} {document : OutboxDocument}
    (there : event ∈ ledger.outbox) (id : document.event.id = event.id)
    (attempted : Attempted event (document.applyTo event))
    (keeps : document.KeepsPending) {called : List Op} (emitted : event.emission ∈ called) :
    Attempts [event] ledger.outbox (ledger.writeBack document).outbox called where
  ids := ledger.writeBack_ids document
  others record found apart := by
    refine List.mem_map.mpr ⟨record, found, if_neg fun same => apart ?_⟩
    exact List.mem_singleton.mpr (same.trans id)
  called other fetched := by
    rw [List.mem_singleton.mp fetched]
    exact emitted
  attempted other fetched := by
    rw [List.mem_singleton.mp fetched]
    exact ⟨_, List.mem_map.mpr ⟨event, there, if_pos id.symm⟩, attempted⟩
  came record found := by
    obtain ⟨stored, before, same, rfl⟩ := Ledger.mem_writeBack found
    refine ⟨stored, before, ?_⟩
    split
    · exact ⟨continues_applyTo _ _, keeps stored⟩
    · exact ⟨.refl stored, fun pending => pending⟩

end Attempts

section Polls

variable {instanceId pid : ℕ} {call : Call} {before after : World} {fields : Fields}
  {exchanges : List PollExchange} {out : Except Thrown Reply}

/-- A `save` that resolves, and what follows it. -/
theorem of_serving_save {document : OutboxDocument} {answer : Answer} {reply : Except Thrown Unit}
    {between : World} (serves : serving pid before (.save document) answer reply between) :
    reply = .ok () ∧ between.outbox = (before.writeBack document).outbox := by
  obtain ⟨resolves, answered⟩ := serves
  obtain ⟨_, rfl, rfl⟩ := respond_resolved (resolves rfl) answered
  simp only [resolves rfl, ↓reduceIte]
  exact ⟨rfl, rfl⟩

/-- The attempt on one event, and the rest of the run. -/
theorem attempts_event {event : Outbox} {rest : List Outbox} (there : event ∈ before.outbox)
    (pending : event.status = .pending)
    (executes : Executes (serving pid) flow call before (Led.pollNext fields (event :: rest))
      exchanges out after) :
    ∃ between fields' first later, exchanges = first ++ later ∧
      Attempts [event] before.outbox between.outbox (first.map (·.op)) ∧
      Executes (serving pid) flow call between (Led.pollNext fields' rest) later out after := by
  obtain ⟨answer, reply, published, fields, later, rfl, ⟨_, answered⟩, executes⟩ :=
    executes.of_running
  have same : published.outbox = before.outbox := by
    rcases respond_cases answered with ⟨rfl, _⟩ | ⟨_, rfl, _⟩
    · rfl
    · rfl
  have there : event ∈ published.outbox := same ▸ there
  cases reply with
  | ok _ =>
      obtain ⟨answer', reply, between, fields', later, rfl, saves, executes⟩ := executes.of_running
      obtain ⟨rfl, saved⟩ := of_serving_save saves
      refine ⟨between, fields', [_, _], later, rfl, ?_, executes⟩
      rw [saved, ← same]
      exact .of_save there rfl (attempted_completed pending _) (keepsPending_completed _ pending)
        (.head _)
  | error error =>
      obtain ⟨answer', reply, between, fields', later, rfl, saves, executes⟩ := executes.of_running
      obtain ⟨rfl, saved⟩ := of_serving_save saves
      refine ⟨between, fields', [_, _], later, rfl, ?_, executes⟩
      rw [saved, ← same]
      exact .of_save there (caught_same _ error { event }).1 (attempted_caught pending _ error)
        (keepsPending_caught _ error pending) (.head _)

/-- Every event of the batch is attempted. -/
theorem attempts_batch (batch : List Outbox) : ∀ {before : World} {fields : Fields}
    {exchanges : List PollExchange}, (batch.map (·.id)).Nodup → batch ⊆ before.outbox →
    (∀ event ∈ batch, event.status = .pending) →
    Executes (serving pid) flow call before (Led.pollNext fields batch) exchanges out after →
    Attempts batch before.outbox after.outbox (exchanges.map (·.op)) := by
  induction batch with
  | nil =>
      intro before fields exchanges _ _ _ executes
      obtain ⟨rfl, _, rfl⟩ := executes.of_finished
      exact .nothing _
  | cons event rest ih =>
      intro before fields exchanges distinct there pending executes
      obtain ⟨fresh, distinct⟩ := List.nodup_cons.mp distinct
      obtain ⟨between, fields', first, later, rfl, attempts, executes⟩ :=
        attempts_event (there (.head _)) (pending event (.head _)) executes
      have remaining : rest ⊆ between.outbox := by
        intro other behind
        refine attempts.others other (there (.tail _ behind)) fun same => fresh ?_
        rw [← List.mem_singleton.mp same]
        exact List.mem_map_of_mem behind
      rw [List.map_append]
      exact attempts.cons fresh
        (ih distinct remaining (fun other behind => pending other (.tail _ behind)) executes)

/-- **A poll attempts the oldest pending records,** each of them once. -/
theorem Polled.attempts (polled : Polled instanceId before exchanges after)
    (unique : (before.outbox.map (·.id)).Nodup) :
    Attempts (before.pendingBatch batchSize) before.outbox after.outbox (exchanges.map (·.op)) := by
  obtain ⟨pid, now, out, executes⟩ := polled
  obtain ⟨answer, reply, fetched, fields, later, rfl, ⟨resolves, answered⟩, executes⟩ :=
    (implements.executes executes).of_running
  obtain ⟨_, rfl, rfl⟩ := respond_resolved (resolves rfl) answered
  simp only [resolves rfl, ↓reduceIte] at executes
  have there : before.pendingBatch batchSize ⊆
      (before.hold pid ((before.pendingBatch batchSize).map (·.id))).outbox :=
    fun event fetched => (Ledger.mem_pendingBatch fetched).1
  have pending : ∀ event ∈ before.pendingBatch batchSize, event.status = .pending :=
    fun event fetched => (Ledger.mem_pendingBatch fetched).2
  have attempts := attempts_batch _ (nodup_pendingBatch unique _) there pending executes
  exact attempts.more (List.subset_cons_self _ _)

end Polls

/-! ## A sequence of polls -/

/-- The events are pending, from the oldest to the youngest, and what else is pending is younger
than all of them. -/
structure Backlog (events : List Outbox) (world : World) : Prop where
  unique : (world.outbox.map (·.id)).Nodup
  stored : ∀ event ∈ events, event ∈ world.outbox
  pending : ∀ event ∈ events, event.status = .pending ∧ event.attempts < maxAttempts
  sorted : events.Pairwise (·.createdAt < ·.createdAt)
  younger : ∀ record ∈ world.outbox, record.status = .pending →
    record ∈ events ∨ ∀ event ∈ events, event.createdAt < record.createdAt

/-- Records younger than the events are inserted. The rest of the world may change as it likes. -/
structure Inserts (events : List Outbox) (before after : World) : Prop where
  unique : (after.outbox.map (·.id)).Nodup
  outbox : ∃ inserted, after.outbox = before.outbox ++ inserted ∧
    ∀ record ∈ inserted, ∀ event ∈ events, event.createdAt < record.createdAt

/-- The instance completes one poll after the other, and records are inserted between them. -/
inductive Serves (instanceId : ℕ) (events : List Outbox) (first : World) :
    List (List PollExchange) → World → Prop where
  | start : Serves instanceId events first [] first
  | polled {polls : List (List PollExchange)} {before after : World}
      {exchanges : List PollExchange} (serves : Serves instanceId events first polls before)
      (polled : Polled instanceId before exchanges after) :
      Serves instanceId events first (polls ++ [exchanges]) after
  | inserted {polls : List (List PollExchange)} {before after : World}
      (serves : Serves instanceId events first polls before)
      (inserts : Inserts events before after) : Serves instanceId events first polls after

/-- The event was attempted by the poll with this number, counted from 0, or by an earlier one. -/
def TriedBy (number : ℕ) (polls : List (List PollExchange)) (event : Outbox) : Prop :=
  ∃ k ≤ number, ∃ exchanges, polls[k]? = some exchanges ∧ event.emission ∈ exchanges.map (·.op)

theorem TriedBy.append {number : ℕ} {polls : List (List PollExchange)} {event : Outbox}
    (tried : TriedBy number polls event) (exchanges : List PollExchange) :
    TriedBy number (polls ++ [exchanges]) event := by
  obtain ⟨k, early, poll, there, called⟩ := tried
  obtain ⟨bound, _⟩ := List.getElem?_eq_some_iff.mp there
  exact ⟨k, early, poll, by rwa [List.getElem?_append_left bound], called⟩

/-- Where an event of a group stands after the polls: its record is the one given. -/
structure Stands (world : World) (polls : List (List PollExchange)) (group : ℕ)
    (event record : Outbox) : Prop where
  stored : record ∈ world.outbox
  continues : Continues event record
  attempts : record.status = .pending →
    record.attempts < maxAttempts ∧ polls.length ≤ maxAttempts * group + record.attempts
  tried : TriedBy (maxAttempts * group) polls event ∨
    polls.length ≤ maxAttempts * group ∧ record.status = .pending

/-- How far the polls have come with the events. -/
structure Progressed (events : List Outbox) (world : World) (polls : List (List PollExchange)) :
    Prop where
  unique : (world.outbox.map (·.id)).Nodup
  stands : ∀ i event, events[i]? = some event →
    ∃ record, Stands world polls (i / batchSize) event record
  younger : ∀ record ∈ world.outbox, record.status = .pending →
    record.id ∈ events.map (·.id) ∨ ∀ event ∈ events, event.createdAt < record.createdAt

/-! ## The front of a sorted list -/

/-- An item is among the first of the sorted items if few others have a key as small. -/
theorem mem_take_insertionSort {α : Type} (key : α → ℕ) {items : List α} {item : α} {n : ℕ}
    (distinct : items.Nodup) (member : item ∈ items)
    (few : ∀ front : List α, front.Nodup →
      (∀ other ∈ front, other ∈ items ∧ key other ≤ key item ∧ other ≠ item) → front.length < n) :
    item ∈ (items.insertionSort fun first second => key first ≤ key second).take n := by
  set sorted := items.insertionSort fun first second => key first ≤ key second with same
  have perm : sorted.Perm items := List.perm_insertionSort _ _
  by_contra missing
  have behind : item ∈ sorted.drop n := by
    have there : item ∈ sorted.take n ++ sorted.drop n := by
      rw [List.take_append_drop]
      exact perm.mem_iff.mpr member
    exact (List.mem_append.mp there).resolve_left missing
  have ordered : sorted.Pairwise fun first second => key first ≤ key second := by
    have : IsTrans α fun first second => key first ≤ key second :=
      ⟨fun _ _ _ first second => Nat.le_trans first second⟩
    have : Std.Total fun first second : α => key first ≤ key second :=
      ⟨fun first second => Nat.le_total _ _⟩
    exact List.pairwise_insertionSort _ _
  rw [← List.take_append_drop n sorted, List.pairwise_append] at ordered
  refine absurd (few (sorted.take n) ?_ fun other front => ⟨?_, ?_, ?_⟩) ?_
  · exact (perm.nodup_iff.mpr distinct).sublist (List.take_sublist n sorted)
  · exact perm.mem_iff.mp (List.mem_of_mem_take front)
  · exact ordered.2.2 other front item behind
  · rintro rfl
    exact missing front
  · have long : 0 < (sorted.drop n).length := List.length_pos_of_mem behind
    rw [List.length_drop] at long
    rw [List.length_take]
    omega

/-! ## The progress of the polls -/

section Progress

variable {instanceId : ℕ} {events : List Outbox} {world before after : World}
  {polls : List (List PollExchange)} {exchanges : List PollExchange} {event record : Outbox} {i : ℕ}

theorem Progressed.eq_of_id (progressed : Progressed events world polls) {first second : Outbox}
    (here : first ∈ world.outbox) (there : second ∈ world.outbox) (same : first.id = second.id) :
    first = second :=
  List.inj_on_of_nodup_map progressed.unique here there same

/-- When the group of an event is due, the pending records as old as its own belong to events of
the group that come before it. -/
theorem Progressed.ahead (progressed : Progressed events world polls)
    (sorted : events.Pairwise (·.createdAt < ·.createdAt)) (there : events[i]? = some event)
    (stands : Stands world polls (i / batchSize) event record)
    (due : maxAttempts * (i / batchSize) ≤ polls.length) {other : Outbox}
    (stored : other ∈ world.outbox) (pending : other.status = .pending)
    (older : other.createdAt ≤ record.createdAt) (different : other ≠ record) :
    ∃ j event', events[j]? = some event' ∧ event'.id = other.id ∧
      batchSize * (i / batchSize) ≤ j ∧ j < i := by
  rw [stands.continues.createdAt] at older
  have mine : other.id ∈ events.map (·.id) := by
    refine (progressed.younger other stored pending).resolve_right fun younger => ?_
    exact absurd older (Nat.not_le_of_lt (younger event (List.mem_of_getElem? there)))
  obtain ⟨event', listed, same⟩ := List.mem_map.mp mine
  obtain ⟨j, there'⟩ := List.mem_iff_getElem?.mp listed
  obtain ⟨record', stands'⟩ := progressed.stands j event' there'
  obtain rfl : record' = other :=
    progressed.eq_of_id stands'.stored stored (stands'.continues.id.trans same)
  refine ⟨j, event', there', same, ?_, ?_⟩
  · have attempts := stands'.attempts pending
    have := Nat.div_mul_le_self j batchSize
    have group : i / batchSize ≤ j / batchSize := by
      simp only [maxAttempts] at attempts due
      omega
    calc batchSize * (i / batchSize) ≤ batchSize * (j / batchSize) := Nat.mul_le_mul_left _ group
      _ ≤ j := Nat.mul_div_le j batchSize
  · rw [stands'.continues.createdAt] at older
    obtain ⟨bound, rfl⟩ := List.getElem?_eq_some_iff.mp there
    obtain ⟨bound', rfl⟩ := List.getElem?_eq_some_iff.mp there'
    rcases Nat.lt_trichotomy j i with before | rfl | after
    · exact before
    · refine absurd (progressed.eq_of_id stored stands.stored ?_) different
      exact same.symm.trans stands.continues.id.symm
    · have := List.pairwise_iff_getElem.mp sorted i j bound bound' after
      omega

/-- The record of an event whose group is due is among the oldest pending ones. -/
theorem Progressed.fetched (progressed : Progressed events world polls)
    (sorted : events.Pairwise (·.createdAt < ·.createdAt)) (there : events[i]? = some event)
    (stands : Stands world polls (i / batchSize) event record) (pending : record.status = .pending)
    (due : maxAttempts * (i / batchSize) ≤ polls.length) :
    record ∈ world.pendingBatch batchSize := by
  have waits : record ∈ world.outbox.filter (·.status = .pending) :=
    List.mem_filter.mpr ⟨stands.stored, decide_eq_true pending⟩
  refine mem_take_insertionSort (·.createdAt) ((List.Nodup.of_map _ progressed.unique).filter _)
    waits fun front distinct early => ?_
  have stored : ∀ other ∈ front, other ∈ world.outbox ∧ other.status = .pending := by
    intro other ahead
    obtain ⟨stored, pending⟩ := List.mem_filter.mp (early other ahead).1
    exact ⟨stored, of_decide_eq_true pending⟩
  have ids : (front.map (·.id)).Nodup := distinct.map_on fun first here second there =>
    progressed.eq_of_id (stored first here).1 (stored second there).1
  have group : front.map (·.id) ⊆
      ((events.take i).drop (batchSize * (i / batchSize))).map (·.id) := by
    intro id found
    obtain ⟨other, ahead, rfl⟩ := List.mem_map.mp found
    obtain ⟨j, event', there', same, first, last⟩ := progressed.ahead sorted there stands due
      (stored other ahead).1 (stored other ahead).2 (early other ahead).2.1 (early other ahead).2.2
    refine List.mem_map.mpr ⟨event', List.mem_iff_getElem?.mpr ?_, same⟩
    refine ⟨j - batchSize * (i / batchSize), ?_⟩
    rw [List.getElem?_drop, Nat.add_sub_cancel' first, List.getElem?_take_of_lt last, there']
  have few := (List.subperm_of_subset ids group).length_le
  rw [List.length_map, List.length_map, List.length_drop, List.length_take] at few
  have := Nat.div_add_mod i batchSize
  have := Nat.mod_lt i (show 0 < batchSize by decide)
  omega

/-- The record of an event after a poll that has attempted it. -/
theorem Stands.attempted {group : ℕ} {later : Outbox}
    (stands : Stands before polls group event record) (pending : record.status = .pending)
    (stored : later ∈ after.outbox) (attempted : Attempted record later)
    (called : record.emission ∈ exchanges.map (·.op)) :
    Stands after (polls ++ [exchanges]) group event later where
  stored := stored
  continues := stands.continues.trans attempted.continues
  attempts waiting := by
    obtain ⟨_, bound⟩ := stands.attempts pending
    rcases attempted.status with completed | failed | ⟨_, counted, few⟩
    · cases completed.symm.trans waiting
    · cases failed.symm.trans waiting
    · refine ⟨few, ?_⟩
      rw [List.length_append, List.length_singleton, counted]
      omega
  tried := by
    rcases stands.tried with tried | ⟨early, _⟩
    · exact .inl (tried.append exchanges)
    · refine .inl ⟨polls.length, early, exchanges, ?_, stands.continues.emission ▸ called⟩
      rw [List.getElem?_append_right (Nat.le_refl _), Nat.sub_self]
      rfl

/-- The record of an event after a poll that has not fetched it. -/
theorem Stands.passed {group : ℕ} (stands : Stands before polls group event record)
    (stored : record ∈ after.outbox)
    (early : record.status = .pending → polls.length < maxAttempts * group) :
    Stands after (polls ++ [exchanges]) group event record where
  stored := stored
  continues := stands.continues
  attempts waiting := by
    have := early waiting
    refine ⟨(stands.attempts waiting).1, ?_⟩
    rw [List.length_append, List.length_singleton]
    omega
  tried := by
    rcases stands.tried with tried | ⟨_, waiting⟩
    · exact .inl (tried.append exchanges)
    · refine .inr ⟨?_, waiting⟩
      rw [List.length_append, List.length_singleton]
      exact early waiting

/-- One poll. -/
theorem Progressed.polled (progressed : Progressed events before polls)
    (sorted : events.Pairwise (·.createdAt < ·.createdAt))
    (polled : Polled instanceId before exchanges after) :
    Progressed events after (polls ++ [exchanges]) := by
  have attempts := polled.attempts progressed.unique
  constructor
  · rw [attempts.ids]
    exact progressed.unique
  · intro i event there
    obtain ⟨record, stands⟩ := progressed.stands i event there
    by_cases fetched : record ∈ before.pendingBatch batchSize
    · obtain ⟨later, stored, attempted⟩ := attempts.attempted record fetched
      exact ⟨later, stands.attempted (Ledger.mem_pendingBatch fetched).2 stored attempted
        (attempts.called record fetched)⟩
    · refine ⟨record, stands.passed (attempts.others record stands.stored fun mine => fetched ?_)
        fun pending => ?_⟩
      · obtain ⟨other, taken, same⟩ := List.mem_map.mp mine
        have stored := (Ledger.mem_pendingBatch taken).1
        rwa [← progressed.eq_of_id stored stands.stored same]
      · by_contra due
        exact fetched (progressed.fetched sorted there stands pending (Nat.le_of_not_lt due))
  · intro record stored pending
    obtain ⟨origin, before, continues, was⟩ := attempts.came record stored
    rw [continues.id, continues.createdAt]
    exact progressed.younger origin before (was pending)

/-- What is inserted between two polls is younger. -/
theorem Progressed.inserted (progressed : Progressed events before polls)
    (inserts : Inserts events before after) : Progressed events after polls := by
  obtain ⟨inserted, same, later⟩ := inserts.outbox
  constructor
  · exact inserts.unique
  · intro i event there
    obtain ⟨record, stands⟩ := progressed.stands i event there
    refine ⟨record, { stands with stored := ?_ }⟩
    rw [same]
    exact List.mem_append_left _ stands.stored
  · intro record stored pending
    rw [same] at stored
    rcases List.mem_append.mp stored with old | new
    · exact progressed.younger record old pending
    · exact .inr (later record new)

theorem Backlog.progressed (backlog : Backlog events world) : Progressed events world [] := by
  constructor
  · exact backlog.unique
  · intro i event there
    have listed := List.mem_of_getElem? there
    obtain ⟨pending, few⟩ := backlog.pending event listed
    exact ⟨event, backlog.stored event listed, .refl event, fun _ => ⟨few, Nat.zero_le _⟩,
      .inr ⟨Nat.zero_le _, pending⟩⟩
  · intro record stored pending
    exact (backlog.younger record stored pending).imp_left fun listed => List.mem_map_of_mem listed

theorem Serves.progressed (backlog : Backlog events before)
    (serves : Serves instanceId events before polls after) : Progressed events after polls := by
  induction serves with
  | start => exact backlog.progressed
  | polled _ polled ih => exact ih.polled backlog.sorted polled
  | inserted _ inserts ih => exact ih.inserted inserts

end Progress

/-- **The outbox drains.** After `25 * ⌈n / 10⌉` polls none of `n` pending events is pending any
more, and the `i`-th oldest of them, counted from 0, has been attempted by poll number
`25 * ⌊i / 10⌋ + 1`, counted from 1. -/
theorem bounded_drain {instanceId : ℕ} {events : List Outbox} {first last : World}
    {polls : List (List PollExchange)} (backlog : Backlog events first)
    (serves : Serves instanceId events first polls last) :
    (25 * ((events.length + 9) / 10) ≤ polls.length → ∀ event ∈ events,
      event.id ∈ last.outbox.map (·.id) ∧ ∀ record ∈ last.outbox, record.id = event.id →
        record.status = .completed ∨ record.status = .failed) ∧
    ∀ i event, events[i]? = some event → 25 * (i / 10) + 1 ≤ polls.length →
      TriedBy (25 * (i / 10)) polls event := by
  have progressed := serves.progressed backlog
  constructor
  · intro enough event listed
    obtain ⟨i, there⟩ := List.mem_iff_getElem?.mp listed
    obtain ⟨record, stands⟩ := progressed.stands i event there
    refine ⟨List.mem_map.mpr ⟨record, stands.stored, stands.continues.id⟩, ?_⟩
    intro other stored same
    obtain rfl : other = record :=
      progressed.eq_of_id stored stands.stored (same.trans stands.continues.id.symm)
    cases status : other.status with
    | completed => exact .inl rfl
    | failed => exact .inr rfl
    | pending =>
        obtain ⟨bound, _⟩ := List.getElem?_eq_some_iff.mp there
        obtain ⟨few, due⟩ := stands.attempts status
        simp only [maxAttempts, batchSize] at few due
        omega
  · intro i event there enough
    obtain ⟨record, stands⟩ := progressed.stands i event there
    refine stands.tried.resolve_right fun early => ?_
    have := early.1
    simp only [maxAttempts, batchSize] at this
    omega

namespace Sample

theorem serving_save {world : World} {document : OutboxDocument} (pid : ℕ) (id : ObjectId)
    (there : document.event.id ∈ world.outbox.map (·.id)) :
    serving pid world (.save document) ⟨.resolved, id⟩ (.ok ())
      ({ world with toLedger := world.writeBack document }.release pid document.event.id) :=
  ⟨fun _ => rfl, if_pos there⟩

/-- Kafka may reject every event of a batch. -/
theorem exists_rejections (pid : ℕ) (call : Call) (fields : Fields) (batch : List Outbox) :
    ∀ before : World, batch.map (·.id) ⊆ before.outbox.map (·.id) →
      ∃ exchanges out after, Executes (serving pid) flow call before (Led.pollNext fields batch)
        exchanges out after := by
  induction batch with
  | nil => exact fun before _ => ⟨[], .ok .polled, before, .finished⟩
  | cons event rest ih =>
      intro before there
      obtain ⟨mine, there⟩ := List.cons_subset.mp there
      set document := OutboxDocument.caught fields.now unavailable { event }
      set emitted : World := { before with
        toLedger := before.publish event.id event.pattern event.payload (.rejected unavailable) }
      have mine : document.event.id ∈ emitted.outbox.map (·.id) := by
        rw [(caught_same fields.now unavailable { event }).1]
        exact mine
      have kept := emitted.writeBack_ids document
      obtain ⟨later, out, after, executes⟩ := ih
        ({ emitted with toLedger := emitted.writeBack document }.release pid document.event.id)
        (kept ▸ there)
      exact ⟨⟨event.emission, ⟨.rejected unavailable, taskId⟩, .error unavailable⟩ ::
          ⟨.save document, ⟨.resolved, taskId⟩, .ok ()⟩ :: later, out, after,
        .running fields ⟨fun emits => (by cases emits), rfl⟩
          (.running fields (serving_save pid taskId mine) executes)⟩

/-- A poll may go like that. -/
theorem exists_polled {before : World} (unique : (before.outbox.map (·.id)).Nodup) :
    ∃ exchanges after, Polled 0 before exchanges after ∧
      after.outbox.map (·.id) = before.outbox.map (·.id) := by
  have there : (before.pendingBatch batchSize).map (·.id) ⊆ before.outbox.map (·.id) :=
    List.map_subset _ fun event fetched => (Ledger.mem_pendingBatch fetched).1
  obtain ⟨exchanges, out, after, executes⟩ := exists_rejections 0 (.pollOutbox 0) ⟨true, 0⟩
    (before.pendingBatch batchSize)
    (before.hold 0 ((before.pendingBatch batchSize).map (·.id))) there
  have fetched : Executes (serving 0) flow (.pollOutbox 0) before
      (Led.enter ⟨false, 0⟩ (.pollOutbox 0))
      (⟨.findPending batchSize, ⟨.resolved, taskId⟩, .ok (before.pendingBatch batchSize)⟩ ::
        exchanges) out after :=
    .running ⟨true, 0⟩ ⟨fun _ => rfl, rfl⟩ executes
  have polled : Polled 0 before _ after := ⟨0, 0, out, implements.executed fetched⟩
  exact ⟨_, after, polled, (polled.attempts unique).ids⟩

/-- So may any number of polls. -/
theorem exists_serves {events : List Outbox} {first before : World}
    {polls : List (List PollExchange)} (serves : Serves 0 events first polls before)
    (unique : (before.outbox.map (·.id)).Nodup) (count : ℕ) :
    ∃ polls' after, Serves 0 events first polls' after ∧ polls'.length = polls.length + count ∧
      after.outbox.map (·.id) = before.outbox.map (·.id) := by
  induction count with
  | zero => exact ⟨polls, before, serves, rfl, rfl⟩
  | succ count ih =>
      obtain ⟨polls', between, serves, length, same⟩ := ih
      obtain ⟨exchanges, after, polled, same'⟩ := exists_polled (same ▸ unique)
      refine ⟨_, after, .polled serves polled, ?_, same'.trans same⟩
      rw [List.length_append, length]
      rfl

def youngest : Outbox := pendingRecord ⟨"65f0a1b2c3d4e5f6a7b8cf0a", rfl⟩ 11

/-- Eleven records, from the oldest to the youngest. -/
def waiting : List Outbox :=
  [pendingRecord ⟨"65f0a1b2c3d4e5f6a7b8cf00", rfl⟩ 1,
    pendingRecord ⟨"65f0a1b2c3d4e5f6a7b8cf01", rfl⟩ 2,
    pendingRecord ⟨"65f0a1b2c3d4e5f6a7b8cf02", rfl⟩ 3,
    pendingRecord ⟨"65f0a1b2c3d4e5f6a7b8cf03", rfl⟩ 4,
    pendingRecord ⟨"65f0a1b2c3d4e5f6a7b8cf04", rfl⟩ 5,
    pendingRecord ⟨"65f0a1b2c3d4e5f6a7b8cf05", rfl⟩ 6,
    pendingRecord ⟨"65f0a1b2c3d4e5f6a7b8cf06", rfl⟩ 7,
    pendingRecord ⟨"65f0a1b2c3d4e5f6a7b8cf07", rfl⟩ 8,
    pendingRecord ⟨"65f0a1b2c3d4e5f6a7b8cf08", rfl⟩ 9,
    pendingRecord ⟨"65f0a1b2c3d4e5f6a7b8cf09", rfl⟩ 10, youngest]

/-- The record that is inserted. -/
def late : Outbox := pendingRecord ⟨"65f0a1b2c3d4e5f6a7b8cf0b", rfl⟩ 12

def backlogged : World := { outbox := waiting }

theorem backlog : Backlog waiting backlogged where
  unique := by decide +kernel
  stored := fun _ found => found
  pending := by decide +kernel
  sorted := by decide +kernel
  younger := fun _ found _ => .inl found

/-- Fifty polls, and an insertion after half of them. -/
theorem served : ∃ polls last, Serves 0 waiting backlogged polls last ∧ polls.length = 50 ∧
    last.outbox.map (·.id) = (waiting ++ [late]).map (·.id) := by
  obtain ⟨polls, before, serves, length, same⟩ := exists_serves .start backlog.unique 25
  have ids : (before.outbox ++ [late]).map (·.id) = (waiting ++ [late]).map (·.id) := by
    rw [List.map_append, same, List.map_append]
    rfl
  have unique : ((before.outbox ++ [late]).map (·.id)).Nodup := by
    rw [ids]
    decide +kernel
  have inserts : Inserts waiting before { before with outbox := before.outbox ++ [late] } := by
    refine ⟨unique, [late], rfl, fun record found => ?_⟩
    rw [List.mem_singleton.mp found]
    decide +kernel
  obtain ⟨polls', last, serves, length', same'⟩ :=
    exists_serves (.inserted serves inserts) unique 25
  exact ⟨polls', last, serves, by rw [length', length]; rfl, same'.trans ids⟩

end Sample

/-- The theorem at eleven records and fifty polls, between which one more record comes. -/
theorem bounded_drain_rejected :
    ∃ polls last, Serves 0 Sample.waiting Sample.backlogged polls last ∧ polls.length = 50 ∧
      last.outbox.map (·.id) = (Sample.waiting ++ [Sample.late]).map (·.id) ∧
      (∀ event ∈ Sample.waiting, ∀ record ∈ last.outbox, record.id = event.id →
        record.status = .completed ∨ record.status = .failed) ∧
      TriedBy 25 polls Sample.youngest := by
  obtain ⟨polls, last, serves, length, ids⟩ := Sample.served
  obtain ⟨drained, tried⟩ := bounded_drain Sample.backlog serves
  refine ⟨polls, last, serves, length, ids, fun event waits => ?_, ?_⟩
  · exact (drained (by rw [length]; decide) event waits).2
  · exact tried 10 Sample.youngest rfl (by rw [length]; decide)

end WorkflowHub.TaskService
