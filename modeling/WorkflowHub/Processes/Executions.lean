import WorkflowHub.Processes.Tracking

/-!
# Executions of one call

What a pool is for many calls, an execution is for one of them: the operations it awaited, in
order, each with how the outside answered it. `answers` says what the outside may do with an
operation: from which world, under which choice, with which reply, and what it leaves. It is a
relation, so that it may also let others act in between; `anyReply` is the outside that may
reply anything, and `following` the one whose replies are given in advance.

An execution of a program is one of every table that tracks it (`Tracks.executes_iff`), and a
program ends whatever the outside replies (`Executes.total`).
-/

set_option autoImplicit false

namespace WorkflowHub.Processes

variable {S : Signature} {σ World Call Pc Out Choice : Type}

/-- An operation, the choice the outside made, and the reply. -/
structure Exchange (S : Signature) (Choice : Type) where
  op : S.Op
  choice : Choice
  reply : S.Res op

/-- The outside that may reply anything. -/
abbrev anyReply : Unit → (op : S.Op) → Choice → S.Res op → Unit → Prop := fun _ _ _ _ _ => True

/-- The outside that replies to the operations, which it counts, by a pattern. -/
abbrev following (pattern : ℕ → (op : S.Op) → S.Res op) :
    ℕ → (op : S.Op) → Unit → S.Res op → ℕ → Prop :=
  fun count op _ reply count' => reply = pattern count op ∧ count' = count + 1

/-- The call goes from where a segment has led it to its end. -/
inductive Executes (answers : World → (op : S.Op) → Choice → S.Res op → World → Prop)
    (flow : Flow S σ Call Pc Out) (call : Call) :
    World → σ × Target Pc Out → List (Exchange S Choice) → Out → World → Prop where
  | finished {world : World} {fields : σ} {out : Out} :
      Executes answers flow call world (fields, .finished out) [] out world
  | running {before between after : World} {fields : σ} {pc : Pc} {choice : Choice}
      {reply : S.Res (flow.op call pc)} {exchanges : List (Exchange S Choice)} {out : Out}
      (fields' : σ) (answered : answers before (flow.op call pc) choice reply between)
      (rest : Executes answers flow call between (flow.next call pc reply fields') exchanges out
        after) :
      Executes answers flow call before (fields, .running pc)
        (⟨flow.op call pc, choice, reply⟩ :: exchanges) out after

namespace Executes

variable {answers : World → (op : S.Op) → Choice → S.Res op → World → Prop}
  {flow : Flow S σ Call Pc Out} {call : Call} {before after : World} {fields : σ}
  {led : σ × Target Pc Out} {out : Out} {exchanges : List (Exchange S Choice)}

/-- Nothing follows the end. -/
theorem of_finished {out' : Out}
    (executes : Executes answers flow call before (fields, .finished out') exchanges out after) :
    exchanges = [] ∧ out = out' ∧ after = before := by
  cases executes
  exact ⟨rfl, rfl, rfl⟩

/-- What follows a suspension: the operation is answered, and the call goes on. -/
theorem of_running {pc : Pc}
    (executes : Executes answers flow call before (fields, .running pc) exchanges out after) :
    ∃ choice reply between fields' rest,
      exchanges = ⟨flow.op call pc, choice, reply⟩ :: rest ∧
        answers before (flow.op call pc) choice reply between ∧
          Executes answers flow call between (flow.next call pc reply fields') rest out after := by
  cases executes with
  | running fields' answered rest => exact ⟨_, _, _, fields', _, rfl, answered, rest⟩

/-- Worlds from which the outside answers alike, and which stay related, have the same
executions. -/
theorem related {World' : Type} {answers' : World' → (op : S.Op) → Choice → S.Res op → World' → Prop}
    {R : World → World' → Prop}
    (alike : ∀ {before before' op choice reply between}, R before before' →
      answers before op choice reply between →
        ∃ between', answers' before' op choice reply between' ∧ R between between')
    (executes : Executes answers flow call before led exchanges out after) {before' : World'}
    (start : R before before') :
    ∃ after', Executes answers' flow call before' led exchanges out after' ∧ R after after' := by
  induction executes generalizing before' with
  | finished => exact ⟨before', .finished, start⟩
  | running fields' answered _ ih =>
      obtain ⟨between', answered', middle⟩ := alike start answered
      obtain ⟨after', rest, last⟩ := ih middle
      exact ⟨after', .running fields' answered' rest, last⟩

/-- **Programs end.** When the outside answers every operation, a program comes to its end. -/
theorem total {body : Call → Async S σ Out} {call : Call} (fields : σ)
    (answerable : ∀ world op, ∃ choice reply world', answers world op choice reply world') :
    ∀ (resumption : Resumption S σ Out) (before : World), ∃ exchanges out after,
      Executes answers (Flow.ofPrograms body) call before resumption.target exchanges out after := by
  intro resumption
  induction resumption with
  | done out fields => exact fun before => ⟨[], out, before, .finished⟩
  | await op fields' resume ih =>
      intro before
      obtain ⟨choice, reply, between, answered⟩ := answerable before op
      obtain ⟨exchanges, out, after, rest⟩ := ih reply fields between
      exact ⟨_, out, after, .running fields answered rest⟩

/-- There is an execution for every pattern of replies. -/
theorem exists_following (body : Call → Async S σ Out) (call : Call) (fields : σ)
    (pattern : ℕ → (op : S.Op) → S.Res op) :
    ∃ exchanges out after, Executes (following pattern) (Flow.ofPrograms body) call 0
      ((Flow.ofPrograms body).enter call fields) exchanges out after :=
  total fields (fun count op => ⟨(), pattern count op, count + 1, rfl, rfl⟩) (body call fields) 0

end Executes

/-- **The executions of a program are those of the table that tracks it.** -/
theorem Tracks.executes_iff {flow : Flow S σ Call Pc Out} {body : Call → Async S σ Out} {call : Call}
    {answers : World → (op : S.Op) → Choice → S.Res op → World → Prop}
    {led : σ × Target Pc Out} {resumption : Resumption S σ Out}
    (tracks : Tracks flow call led resumption) :
    ∀ {before after : World} {exchanges : List (Exchange S Choice)} {out : Out},
      Executes answers (Flow.ofPrograms body) call before resumption.target exchanges out after ↔
        Executes answers flow call before led exchanges out after := by
  induction tracks with
  | done =>
      intro before after exchanges out
      constructor
      · intro executes
        obtain ⟨rfl, rfl, rfl⟩ := executes.of_finished
        exact .finished
      · intro executes
        obtain ⟨rfl, rfl, rfl⟩ := executes.of_finished
        exact .finished
  | await rest ih =>
      intro before after exchanges out
      constructor
      · intro executes
        obtain ⟨choice, reply, between, fields', later, rfl, answered, executes⟩ :=
          executes.of_running
        exact .running fields' answered ((ih reply fields').mp executes)
      · intro executes
        obtain ⟨choice, reply, between, fields', later, rfl, answered, executes⟩ :=
          executes.of_running
        exact .running fields' answered ((ih reply fields').mpr executes)

/-- The executions of the programs, told by the table that implements them. -/
theorem Implements.executes {flow : Flow S σ Call Pc Out} {body : Call → Async S σ Out}
    (implements : Implements flow body)
    {answers : World → (op : S.Op) → Choice → S.Res op → World → Prop} {call : Call} {fields : σ}
    {before after : World} {exchanges : List (Exchange S Choice)} {out : Out}
    (executes : Executes answers (Flow.ofPrograms body) call before
      ((Flow.ofPrograms body).enter call fields) exchanges out after) :
    Executes answers flow call before (flow.enter call fields) exchanges out after :=
  (implements call fields).executes_iff.mp executes

/-- The executions of the table, told by the programs it implements. -/
theorem Implements.executed {flow : Flow S σ Call Pc Out} {body : Call → Async S σ Out}
    (implements : Implements flow body)
    {answers : World → (op : S.Op) → Choice → S.Res op → World → Prop} {call : Call} {fields : σ}
    {before after : World} {exchanges : List (Exchange S Choice)} {out : Out}
    (executes : Executes answers flow call before (flow.enter call fields) exchanges out after) :
    Executes answers (Flow.ofPrograms body) call before ((Flow.ofPrograms body).enter call fields)
      exchanges out after :=
  (implements call fields).executes_iff.mpr executes

end WorkflowHub.Processes
