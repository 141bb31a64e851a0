import WorkflowHub.Processes.Executions
import WorkflowHub.Processes.Handler

/-!
# Handlers that run alone

The meaning of one call to its caller: in which world it starts, how it ends and which world it
leaves, with the operations in between hidden. `EndsIn` says this of a resumption and `Yields` of a
handler, where an operation is what `answers` says the outside may do with it. There is one rule
for each construct of the handlers (`yields_await`, `yields_bind`, `yields_tryCatch`, …), so that
the runs of a handler are read off its text; they are the executions of its calls
(`alone_iff_yields`).
-/

set_option autoImplicit false

namespace WorkflowHub.Processes

variable {S : Signature} {σ World : Type}

/-- The resumption ends with a value, and leaves these fields and this world. In between the
fields may be anything, as other calls write them. -/
inductive EndsIn (answers : World → (op : S.Op) → S.Res op → World → Prop) {α : Type} :
    Resumption S σ α → World → α → σ → World → Prop where
  | done {value : α} {fields : σ} {world : World} :
      EndsIn answers (.done value fields) world value fields world
  | await {op : S.Op} {fields : σ} {resume : S.Res op → σ → Resumption S σ α}
      {before between after : World} {reply : S.Res op} {value : α} {last : σ} (fields' : σ)
      (answered : answers before op reply between)
      (rest : EndsIn answers (resume reply fields') between value last after) :
      EndsIn answers (.await op fields resume) before value last after

section Resumptions

variable {answers : World → (op : S.Op) → S.Res op → World → Prop} {α β : Type}
  {before after : World} {last : σ}

@[simp] theorem endsIn_done {value value' : α} {fields : σ} :
    EndsIn answers (.done value fields) before value' last after ↔
      value' = value ∧ last = fields ∧ after = before := by
  constructor
  · intro ends
    cases ends
    exact ⟨rfl, rfl, rfl⟩
  · rintro ⟨rfl, rfl, rfl⟩
    exact .done

@[simp] theorem endsIn_await {op : S.Op} {fields : σ} {resume : S.Res op → σ → Resumption S σ α}
    {value : α} : EndsIn answers (.await op fields resume) before value last after ↔
      ∃ reply fields' between, answers before op reply between ∧
        EndsIn answers (resume reply fields') between value last after := by
  constructor
  · intro ends
    cases ends with
    | await fields' answered rest => exact ⟨_, fields', _, answered, rest⟩
  · rintro ⟨reply, fields', between, answered, rest⟩
    exact .await fields' answered rest

/-- What is bound runs where the first part has ended. -/
theorem endsIn_bind {resumption : Resumption S σ α} {rest : α → σ → Resumption S σ β} {value : β} :
    ∀ {before : World}, EndsIn answers (resumption.bind rest) before value last after ↔
      ∃ middle fields between, EndsIn answers resumption before middle fields between ∧
        EndsIn answers (rest middle fields) between value last after := by
  induction resumption with
  | done middle fields =>
      intro before
      constructor
      · exact fun ends => ⟨middle, fields, before, .done, ends⟩
      · rintro ⟨_, _, _, ends, later⟩
        obtain ⟨rfl, rfl, rfl⟩ := endsIn_done.mp ends
        exact later
  | await op fields resume ih =>
      intro before
      constructor
      · intro ends
        obtain ⟨reply, fields', world, answered, later⟩ := endsIn_await.mp ends
        obtain ⟨middle, fields'', between, first, later⟩ := (ih reply fields').mp later
        exact ⟨middle, fields'', between, .await fields' answered first, later⟩
      · rintro ⟨middle, fields'', between, ends, later⟩
        obtain ⟨reply, fields', world, answered, first⟩ := endsIn_await.mp ends
        exact .await fields' answered
          ((ih reply fields').mpr ⟨middle, fields'', between, first, later⟩)

/-- What the outside may do with an operation, whatever it chooses. -/
abbrev Possible {Op Choice : Type} {Res : Op → Type}
    (answers : World → (op : Op) → Choice → Res op → World → Prop) (before : World) (op : Op)
    (reply : Res op) (after : World) : Prop :=
  ∃ choice, answers before op choice reply after

/-- **Runs are executions** whose exchanges are forgotten. -/
theorem executes_iff_endsIn {Call Choice : Type} {body : Call → Async S σ α} {call : Call}
    {answers : World → (op : S.Op) → Choice → S.Res op → World → Prop} {value : α}
    {resumption : Resumption S σ α} : ∀ {before : World},
    (∃ exchanges, Executes answers (Flow.ofPrograms body) call before resumption.target exchanges
      value after) ↔
      ∃ last, EndsIn (Possible answers) resumption before value last after := by
  induction resumption with
  | done value' fields =>
      intro before
      constructor
      · rintro ⟨exchanges, executes⟩
        obtain ⟨_, rfl, rfl⟩ := executes.of_finished
        exact ⟨fields, .done⟩
      · rintro ⟨last, ends⟩
        obtain ⟨rfl, rfl, rfl⟩ := endsIn_done.mp ends
        exact ⟨[], .finished⟩
  | await op fields resume ih =>
      intro before
      constructor
      · rintro ⟨exchanges, executes⟩
        obtain ⟨choice, reply, between, fields', rest, _, answered, later⟩ := executes.of_running
        obtain ⟨last, ends⟩ := (ih reply fields').mp ⟨rest, later⟩
        exact ⟨last, .await fields' ⟨choice, answered⟩ ends⟩
      · rintro ⟨last, ends⟩
        obtain ⟨reply, fields', between, ⟨choice, answered⟩, later⟩ := endsIn_await.mp ends
        obtain ⟨exchanges, executes⟩ := (ih reply fields').mpr ⟨last, later⟩
        exact ⟨_, .running fields' answered executes⟩

end Resumptions

/-! ## Handlers -/

section Handlers

variable {Op : Type} {Value : Op → Type} {ε α β : Type}

/-- A handler, given the fields and the world, resolves with a value or throws. -/
def Yields (answers : World → (op : Op) → Except ε (Value op) → World → Prop)
    (handler : Handler Op Value ε σ α) (fields : σ) (before : World) (result : Except ε α)
    (last : σ) (after : World) : Prop :=
  @EndsIn (promises Op Value ε) σ World answers _ (handler.run fields) before result last after

variable {answers : World → (op : Op) → Except ε (Value op) → World → Prop}
  {handler : Handler Op Value ε σ α} {fields last : σ} {before after : World}
  {result : Except ε α}

@[simp] theorem yields_pure {value : α} :
    Yields answers (pure value : Handler Op Value ε σ α) fields before result last after ↔
      result = .ok value ∧ last = fields ∧ after = before :=
  endsIn_done

@[simp] theorem yields_throw {error : ε} :
    Yields answers (throw error : Handler Op Value ε σ α) fields before result last after ↔
      result = .error error ∧ last = fields ∧ after = before :=
  endsIn_done

/-- The fields may be anything after an operation. -/
@[simp] theorem yields_await {op : Op} {reply : Except ε (Value op)} :
    Yields answers (await op : Handler Op Value ε σ (Value op)) fields before reply last after ↔
      answers before op reply after := by
  constructor
  · intro runs
    obtain ⟨_, _, _, answered, later⟩ := endsIn_await.mp runs
    obtain ⟨rfl, _, rfl⟩ := endsIn_done.mp later
    exact answered
  · exact fun answered => .await last answered .done

/-- What is bound runs on the value, if there is one. -/
@[simp] theorem yields_bind {rest : α → Handler Op Value ε σ β} {result : Except ε β} :
    Yields answers (handler >>= rest) fields before result last after ↔
      (∃ value middle between, Yields answers handler fields before (.ok value) middle between ∧
        Yields answers (rest value) middle between result last after) ∨
      ∃ error, Yields answers handler fields before (.error error) last after ∧
        result = .error error := by
  constructor
  · intro runs
    obtain ⟨first, middle, between, ended, later⟩ := endsIn_bind.mp runs
    cases first with
    | ok value => exact .inl ⟨value, middle, between, ended, later⟩
    | error error =>
        obtain ⟨rfl, rfl, rfl⟩ := endsIn_done.mp later
        exact .inr ⟨error, ended, rfl⟩
  · rintro (⟨value, middle, between, ended, later⟩ | ⟨error, ended, rfl⟩)
    · exact endsIn_bind.mpr ⟨.ok value, middle, between, ended, later⟩
    · exact endsIn_bind.mpr ⟨.error error, last, after, ended, .done⟩

/-- What catches runs on the error, if there is one. -/
@[simp] theorem yields_tryCatch {handle : ε → Handler Op Value ε σ α} :
    Yields answers (tryCatch handler handle) fields before result last after ↔
      (∃ value, Yields answers handler fields before (.ok value) last after ∧ result = .ok value) ∨
      ∃ error middle between, Yields answers handler fields before (.error error) middle between ∧
        Yields answers (handle error) middle between result last after := by
  constructor
  · intro runs
    obtain ⟨first, middle, between, ended, later⟩ := endsIn_bind.mp runs
    cases first with
    | ok value =>
        obtain ⟨rfl, rfl, rfl⟩ := endsIn_done.mp later
        exact .inl ⟨value, ended, rfl⟩
    | error error => exact .inr ⟨error, middle, between, ended, later⟩
  · rintro (⟨value, ended, rfl⟩ | ⟨error, middle, between, ended, later⟩)
    · exact endsIn_bind.mpr ⟨.ok value, last, after, ended, .done⟩
    · exact endsIn_bind.mpr ⟨.error error, middle, between, ended, later⟩

/-- A call of the method has the outside to itself. -/
def Alone {Call Choice : Type}
    (answers : World → (op : Op) → Choice → Except ε (Value op) → World → Prop)
    (method : Call → Handler Op Value ε σ α) (call : Call) (fields : σ) (before : World)
    (result : Except ε α) (after : World) : Prop :=
  ∃ exchanges, Executes answers (Flow.ofPrograms fun call => (method call).run) call before
    ((Flow.ofPrograms fun call => (method call).run).enter call fields) exchanges result after

/-- **The executions of a call are the runs of its handler.** -/
theorem alone_iff_yields {Call Choice : Type} {method : Call → Handler Op Value ε σ α} {call : Call}
    {answers : World → (op : Op) → Choice → Except ε (Value op) → World → Prop} :
    Alone answers method call fields before result after ↔
      ∃ last, Yields (Possible answers) (method call) fields before result last after :=
  executes_iff_endsIn

end Handlers

/-! ## Handlers that write once -/

section Writes

variable {Op σ World ε α β γ : Type} {Value : Op → Type}
  {answers : World → (op : Op) → Except ε (Value op) → World → Prop}
  {operation : Handler Op Value ε σ (Option α)} {rest : Option α → Handler Op Value ε σ β}
  {fields last : σ} {before after : World} {reply : Except ε β}

/-- An operation was applied, with this result if the caller learns of it, or it was rejected. -/
def Writes (read : World → γ) (before after : World) (result : γ → α → Prop)
    (reply : Except ε α) : Prop :=
  (read after = read before ∧ ∃ error, reply = .error error) ∨
    ∃ value, result (read after) value ∧ ((∃ error, reply = .error error) ∨ reply = .ok value)

theorem Writes.congr {before' : World} {read : World → γ} {result : γ → α → Prop}
    {reply : Except ε α} (same : read before = read before')
    (writes : Writes read before after result reply) :
    Writes read before' after result reply := by
  rw [Writes, ← same]
  exact writes

/-- A method that makes one such operation, and throws when it gives nothing. -/
theorem writes_of_yields {read : World → γ} (result : γ → Option α → Prop) {made : α → β}
    (performs : ∀ {reply : Except ε (Option α)} {last : σ} {after : World},
      Yields answers operation fields before reply last after →
        Writes read before after result reply)
    (nothing : ∀ {written}, result written none → written = read before)
    (absent : ∃ error, rest none = throw error)
    (present : ∀ item, rest (some item) = pure (made item))
    (yields : Yields answers (operation >>= rest) fields before reply last after) :
    Writes read before after (fun written value =>
      ∃ item, result written (some item) ∧ value = made item) reply := by
  rcases yields_bind.mp yields with
    ⟨found, _, between, performed, goesOn⟩ | ⟨error, performed, rfl⟩
  · rcases performs performed with ⟨_, error, failed⟩ | ⟨value, written, ⟨error, failed⟩ | ok⟩
    · cases failed
    · cases failed
    · obtain rfl := Except.ok.inj ok
      cases found with
      | none =>
          obtain ⟨error, throws⟩ := absent
          rw [throws] at goesOn
          obtain ⟨rfl, _, rfl⟩ := yields_throw.mp goesOn
          exact .inl ⟨nothing written, error, rfl⟩
      | some item =>
          rw [present] at goesOn
          obtain ⟨rfl, _, rfl⟩ := yields_pure.mp goesOn
          exact .inr ⟨_, ⟨item, written, rfl⟩, .inr rfl⟩
  · rcases performs performed with ⟨same, _⟩ | ⟨value, written, _⟩
    · exact .inl ⟨same, error, rfl⟩
    · cases value with
      | none => exact .inl ⟨nothing written, error, rfl⟩
      | some item => exact .inr ⟨_, ⟨item, written, rfl⟩, .inl ⟨error, rfl⟩⟩

/-- What a controller makes of the result. -/
theorem Writes.bind {method : Handler Op Value ε σ α} {control : α → Handler Op Value ε σ β}
    {read : World → γ} {result : γ → α → Prop} {result' : γ → β → Prop}
    (writes : ∀ {reply : Except ε α} {last : σ} {after : World},
      Yields answers method fields before reply last after → Writes read before after result reply)
    (maps : ∀ {written value}, result written value →
      ∃ value', control value = pure value' ∧ result' written value')
    (yields : Yields answers (method >>= control) fields before reply last after) :
    Writes read before after result' reply := by
  rcases yields_bind.mp yields with
    ⟨found, _, between, performed, goesOn⟩ | ⟨error, performed, rfl⟩
  · rcases writes performed with ⟨_, error, failed⟩ | ⟨value, written, ⟨error, failed⟩ | ok⟩
    · cases failed
    · cases failed
    · obtain rfl := Except.ok.inj ok
      obtain ⟨value', same, result⟩ := maps written
      rw [same] at goesOn
      obtain ⟨rfl, _, rfl⟩ := yields_pure.mp goesOn
      exact .inr ⟨value', result, .inr rfl⟩
  · rcases writes performed with ⟨same, _⟩ | ⟨value, written, _⟩
    · exact .inl ⟨same, error, rfl⟩
    · obtain ⟨value', _, result⟩ := maps written
      exact .inr ⟨value', result, .inl ⟨error, rfl⟩⟩

/-- A handler that throws an exception of its own instead. -/
theorem Writes.tryCatch {method : Handler Op Value ε σ α} {handle : ε → Handler Op Value ε σ α}
    {read : World → γ} {result : γ → α → Prop} {reply : Except ε α}
    (writes : ∀ {reply : Except ε α} {last : σ} {after : World},
      Yields answers method fields before reply last after → Writes read before after result reply)
    (throws : ∀ error, ∃ error', handle error = throw error')
    (yields : Yields answers (tryCatch method handle) fields before reply last after) :
    Writes read before after result reply := by
  rcases yields_tryCatch.mp yields with
    ⟨value, performed, rfl⟩ | ⟨error, _, between, performed, goesOn⟩
  · exact writes performed
  · obtain ⟨error', same⟩ := throws error
    rw [same] at goesOn
    obtain ⟨rfl, _, rfl⟩ := yields_throw.mp goesOn
    rcases writes performed with ⟨same, _⟩ | ⟨value, written, _⟩
    · exact .inl ⟨same, error', rfl⟩
    · exact .inr ⟨value, written, .inl ⟨error', rfl⟩⟩

/-- The handler can do this, and its caller may learn of it or not. -/
structure Performs (answers : World → (op : Op) → Except ε (Value op) → World → Prop)
    (handler : Handler Op Value ε σ α) (fields : σ) (before : World) (value : α) (last : σ)
    (after : World) : Prop where
  resolves : Yields answers handler fields before (.ok value) last after
  rejects : ∃ error, Yields answers handler fields before (.error error) last after

section Performs

variable {method : Handler Op Value ε σ α} {value : α}

theorem Performs.bind {control : α → Handler Op Value ε σ β} {made : β}
    (performs : Performs answers method fields before value last after)
    (same : control value = pure made) :
    Performs answers (method >>= control) fields before made last after where
  resolves := yields_bind.mpr
    (.inl ⟨value, last, after, performs.resolves, same ▸ yields_pure.mpr ⟨rfl, rfl, rfl⟩⟩)
  rejects := by
    obtain ⟨error, rejects⟩ := performs.rejects
    exact ⟨error, yields_bind.mpr (.inr ⟨error, rejects, rfl⟩)⟩

/-- What comes first resolves. -/
theorem Performs.preceded {first : Handler Op Value ε σ β} {later : β → Handler Op Value ε σ α}
    {found : β} {between : World} (middle : σ)
    (resolves : Yields answers first fields before (.ok found) middle between)
    (performs : Performs answers (later found) middle between value last after) :
    Performs answers (first >>= later) fields before value last after where
  resolves := yields_bind.mpr (.inl ⟨found, middle, between, resolves, performs.resolves⟩)
  rejects := by
    obtain ⟨error, rejects⟩ := performs.rejects
    exact ⟨error, yields_bind.mpr (.inl ⟨found, middle, between, resolves, rejects⟩)⟩

theorem Performs.tryCatch {handle : ε → Handler Op Value ε σ α}
    (performs : Performs answers method fields before value last after)
    (throws : ∀ error, ∃ error', handle error = throw error') :
    Performs answers (tryCatch method handle) fields before value last after where
  resolves := yields_tryCatch.mpr (.inl ⟨value, performs.resolves, rfl⟩)
  rejects := by
    obtain ⟨error, rejects⟩ := performs.rejects
    obtain ⟨error', same⟩ := throws error
    exact ⟨error', yields_tryCatch.mpr
      (.inr ⟨error, last, after, rejects, same ▸ yields_throw.mpr ⟨rfl, rfl, rfl⟩⟩)⟩

/-- A call that has the outside to itself. -/
theorem Performs.alone {Call Choice : Type} {method : Call → Handler Op Value ε σ α} {call : Call}
    {answers : World → (op : Op) → Choice → Except ε (Value op) → World → Prop}
    (performs : Performs (Possible answers) (method call) fields before value last after) :
    Alone answers method call fields before (.ok value) after ∧
      ∃ error, Alone answers method call fields before (.error error) after := by
  obtain ⟨error, rejects⟩ := performs.rejects
  exact ⟨alone_iff_yields.mpr ⟨last, performs.resolves⟩, error,
    alone_iff_yields.mpr ⟨last, rejects⟩⟩

end Performs

section Refuses

variable {method : Handler Op Value ε σ α}

/-- The handler can throw and leave nothing behind. -/
def Refuses (answers : World → (op : Op) → Except ε (Value op) → World → Prop)
    (handler : Handler Op Value ε σ α) (fields : σ) (before : World) : Prop :=
  ∃ error last, Yields answers handler fields before (.error error) last before

theorem Refuses.bind {control : α → Handler Op Value ε σ β}
    (refuses : Refuses answers method fields before) :
    Refuses answers (method >>= control) fields before := by
  obtain ⟨error, last, refuses⟩ := refuses
  exact ⟨error, last, yields_bind.mpr (.inr ⟨error, refuses, rfl⟩)⟩

theorem Refuses.tryCatch {handle : ε → Handler Op Value ε σ α}
    (refuses : Refuses answers method fields before)
    (throws : ∀ error, ∃ error', handle error = throw error') :
    Refuses answers (tryCatch method handle) fields before := by
  obtain ⟨error, last, refuses⟩ := refuses
  obtain ⟨error', same⟩ := throws error
  exact ⟨error', last, yields_tryCatch.mpr
    (.inr ⟨error, last, before, refuses, same ▸ yields_throw.mpr ⟨rfl, rfl, rfl⟩⟩)⟩

theorem Refuses.alone {Call Choice : Type} {method : Call → Handler Op Value ε σ α} {call : Call}
    {answers : World → (op : Op) → Choice → Except ε (Value op) → World → Prop}
    (refuses : Refuses (Possible answers) (method call) fields before) :
    ∃ error, Alone answers method call fields before (.error error) before := by
  obtain ⟨error, last, refuses⟩ := refuses
  exact ⟨error, alone_iff_yields.mpr ⟨last, refuses⟩⟩

end Refuses

end Writes

end WorkflowHub.Processes
