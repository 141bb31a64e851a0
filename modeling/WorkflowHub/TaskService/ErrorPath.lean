import WorkflowHub.TaskService.DualWrite

/-!
# When `create` does not return

One call of `create` is followed through all that the service and its database do. As long as
neither its commit nor its abort rejects, it throws the `RpcException` with status 400, nothing of
what it wrote is visible, and its session was ended once (`recovers`). Once one of them has
rejected, the call can only throw what the abort rejects with (`broken`): the driver takes no
abort after a commit.
-/

set_option autoImplicit false

namespace WorkflowHub.TaskService

open Processes

/-! ## Conditions on a run -/

/-- The exception `create` throws when its transaction was aborted. -/
def isBadRequest : Thrown → Bool
  | .rpcException statusCode _ => statusCode = 400
  | _ => false

/-- A rejection of the driver, and not the exception of the service. -/
def OfDriver : Outcome → Prop
  | .resolved => True
  | .rejected error => isBadRequest error = false
  | .rejectedApplied error => isBadRequest error = false

instance : (outcome : Outcome) → Decidable (OfDriver outcome)
  | .resolved => isTrue trivial
  | .rejected error => inferInstanceAs (Decidable (isBadRequest error = false))
  | .rejectedApplied error => inferInstanceAs (Decidable (isBadRequest error = false))

/-- The operations of call `who` end in certain ways. -/
def Ends (D : Op → Outcome → Prop) (who : ℕ) (state : View) : Happening → Prop
  | .step pid answer =>
      match state.slots pid with
      | .running _ op => pid = who → D op answer.outcome
      | _ => True
  | _ => True

instance (D : Op → Outcome → Prop) [∀ op outcome, Decidable (D op outcome)] (who : ℕ)
    (state : View) : (event : Happening) → Decidable (Ends D who state event)
  | .step pid answer =>
      show Decidable (match state.slots pid with
        | .running _ op => pid = who → D op answer.outcome
        | _ => True) from
      match state.slots pid with
      | .running _ op => inferInstanceAs (Decidable (pid = who → D op answer.outcome))
      | .free => isTrue trivial
      | .finished _ _ => isTrue trivial
      | .crashed _ => isTrue trivial
  | .call _ _ => isTrue trivial
  | .crash _ _ => isTrue trivial
  | .env _ => isTrue trivial

/-- The session is started, and ending it does not reject. The driver rejects with errors of its
own. -/
abbrev Started : ℕ → View → Happening → Prop :=
  Ends fun op outcome =>
    OfDriver outcome ∧ (op = .startSession ∨ op = .endSession → outcome = .resolved)

/-- Neither the commit nor the abort rejects. -/
abbrev Settles : ℕ → View → Happening → Prop :=
  Ends fun op outcome => op = .commitTransaction ∨ op = .abortTransaction → outcome = .resolved

/-- What a call of `create` that has thrown owes its caller and the database. -/
structure CleanedUp (world : World) (who : ℕ) (thrown : Thrown) : Prop where
  answered : isBadRequest thrown = true
  task : ∀ task ∈ (world.sessions who).task, task.id ∉ world.tasks.map (·.id)
  record : ∀ record ∈ (world.sessions who).record, record.id ∉ world.outbox.map (·.id)
  ended : (world.sessions who).ended = 1

/-! ## One call and its session -/

/-- The error path, while neither the commit nor the abort has rejected. -/
def Recovers (session : Session) (call : Call) : Target Pc (Except Thrown Reply) → Prop
  | .running pc =>
      match pc with
      | .startSession _ => session = {}
      | .createTaskInSession _ | .createOutboxInSession .. | .commitTransaction _
      | .abortTransaction _ => session.state = .inProgress ∧ session.ended = 0
      | .endSession (.error thrown) =>
          session.state = .aborted ∧ session.ended = 0 ∧ isBadRequest thrown = true
      | .endSession (.ok _) => True
      | _ => ∀ body, call ≠ .create body
  | .finished out => ∀ body thrown, call = .create body → out = .error thrown →
      session.state = .aborted ∧ session.ended = 1 ∧ isBadRequest thrown = true

/-- The error path, once the commit or the abort has rejected. -/
def Broken (session : Session) (_ : Call) : Target Pc (Except Thrown Reply) → Prop
  | .running pc =>
      match pc with
      | .abortTransaction _ => session.state ≠ .inProgress
      | .endSession (.error thrown) => isBadRequest thrown = false
      | _ => False
  | .finished out => ∃ thrown, out = .error thrown ∧ isBadRequest thrown = false

section Follows

variable (who : ℕ) (fresh : Session → Prop)
  (P : Session → Call → Target Pc (Except Thrown Reply) → Prop)

/-- An assertion about the session of one call and where the call is. -/
def follows : Assertions World Call Pc (Except Thrown Reply) where
  Global _ := True
  Local world pid slot := pid = who →
    match slot with
    | .free => fresh (world.sessions pid)
    | .running call pc => P (world.sessions pid) call (.running pc)
    | .finished call out => P (world.sessions pid) call (.finished out)
    | .crashed _ => True

variable {who fresh P}

theorem follows_land {world : World} {pid : ℕ} {call : Call} {led : Led}
    (leads : pid = who → P (world.sessions pid) call led.2) :
    (follows who fresh P).Local (Pool.land site world pid call led).1 pid
      (Pool.land site world pid call led).2 := by
  intro mine
  rw [show (Pool.land site world pid call led).1.sessions pid = world.sessions pid from
    congrArg (fun ledger : Ledger => ledger.sessions pid) (land_toLedger world pid call led)]
  obtain ⟨fields, target⟩ := led
  cases target with
  | running pc => exact leads mine
  | finished out => exact leads mine

/-- No other call touches the session. -/
theorem follows_others {world world' : World} {other : ℕ}
    (sessions : world'.sessions other = world.sessions other)
    {slot : Slot Call Pc (Except Thrown Reply)}
    (holds : (follows who fresh P).Local world other slot) :
    (follows who fresh P).Local world' other slot := by
  intro mine
  have before := holds mine
  cases slot with
  | crashed call => trivial
  | _ =>
      simp only [sessions]
      exact before

/-- **One call at a time.** An assertion about a call and its session holds along a run when the
steps of this call keep it. -/
theorem follows_valid {D : Op → Outcome → Prop}
    (enters : ∀ session call fields, session = {} → fresh session →
      P session call (Led.enter fields call).2)
    (goesOn : ∀ {world world' call pc answer reply} fields, D pc.op answer.outcome →
      pc.Sound world.toLedger (world.sessions who) call →
      P (world.sessions who) call (.running pc) →
      exec world who pc.op answer = some (world', reply) →
      P (world'.sessions who) call (Led.next fields pc reply).2) :
    (follows who fresh P).Valid site flow fun pool event =>
      Ends D who (pool.observe flow) event ∧ transactional.Holds pool where
  call := by
    intro pool pid call world holds allowed free started
    cases started
    refine ⟨trivial, follows_land fun mine => ?_, fun other different before => ?_⟩
    · subst mine
      have fresh : pool.world.sessions pid = {} := by
        simpa only [transactional, free] using allowed.2.locally pid
      have before := holds.locally pid rfl
      rw [free] at before
      exact enters _ call _ fresh before
    · exact follows_others (congrArg (fun ledger : Ledger => ledger.sessions other)
        (land_toLedger pool.world pid call _)) before
  step := by
    intro pool pid answer call pc world reply holds allowed running answered
    obtain ⟨ends, transactional⟩ := allowed
    obtain ⟨authored, sound⟩ := by
      simpa only [TaskService.transactional, running] using transactional.locally pid
    have done := performed transactional.globally authored sound answered
    refine ⟨trivial, follows_land fun mine => ?_, fun other different before => ?_⟩
    · subst mine
      have before := holds.locally pid rfl
      rw [running] at before
      refine goesOn _ ?_ sound before answered
      simp only [Ends, Pool.observe_slots, running, Slot.observe] at ends
      exact ends trivial
    · refine follows_others ?_ before
      rw [congrArg (fun ledger : Ledger => ledger.sessions other) (land_toLedger world pid call _)]
      exact done.confined.sessions other different
  crashPending := by
    intro pool pid call pc holds allowed running
    exact ⟨trivial, fun _ => trivial, fun other different before => before⟩
  crashPerformed := by
    intro pool pid answer call pc world reply holds allowed running answered
    obtain ⟨_, transactional⟩ := allowed
    obtain ⟨authored, sound⟩ := by
      simpa only [TaskService.transactional, running] using transactional.locally pid
    have done := performed transactional.globally authored sound answered
    exact ⟨trivial, fun _ => trivial, fun other different before =>
      follows_others (done.confined.sessions other different) before⟩
  env := by
    intro pool event world holds allowed moved
    refine ⟨trivial, fun pid before => follows_others ?_ before⟩
    rcases env_cases moved with ⟨milliseconds, _, rfl⟩ | ⟨record, _, _, rfl⟩
    · rfl
    · rfl

end Follows

/-! ## The two ends of the error path -/

section Steps

variable {world world' : World} {who : ℕ} {call : Call} {pc : Pc} {answer : Answer}
  {reply : Except Thrown pc.op.Value} (fields : Fields)

theorem recovers_pollNext {session : Session} (different : ∀ body, call ≠ .create body) :
    ∀ rest : List Outbox, Recovers session call (Led.pollNext fields rest).2
  | [] => fun body _ same => absurd same (different body)
  | _ :: _ => different

theorem recovers_enter (session : Session) (call : Call) (fields : Fields) (opened : session = {}) :
    Recovers session call (Led.enter fields call).2 := by
  cases call with
  | create body => exact opened
  | pollOutbox instanceId =>
      obtain ⟨isPolling, now⟩ := fields
      cases isPolling with
      | true => exact fun _ _ same => by cases same
      | false => exact fun _ same => by cases same
  | _ => exact fun _ same => by cases same

/-- The session of the call after a step that changes only this session. -/
theorem session_of_update {session : Session} {ledger : Ledger}
    (same : ledger.sessions = Function.update world.sessions who session) :
    ledger.sessions who = session := by
  rw [same, Function.update_self]

/-- A step of the error path, if neither the commit nor the abort rejects. -/
theorem recovers_next (resolves : pc.op = .startSession ∨ pc.op = .endSession ∨
      pc.op = .commitTransaction ∨ pc.op = .abortTransaction → answer.outcome = .resolved)
    (recovers : Recovers (world.sessions who) call (.running pc))
    (answered : exec world who pc.op answer = some (world', reply)) :
    Recovers (world'.sessions who) call (Led.next fields pc reply).2 := by
  cases pc with
  | startSession body =>
      obtain ⟨_, rfl, rfl⟩ := respond_resolved (resolves (.inl rfl)) answered
      rw [session_of_update rfl]
      exact ⟨rfl, rfl⟩
  | createTaskInSession body =>
      rcases respond_cases answered with
        ⟨rfl, error, _, rfl⟩ | ⟨_, rfl, ⟨_, rfl⟩ | ⟨error, _, rfl⟩⟩
      · exact recovers
      · rw [session_of_update rfl]
        exact recovers
      · rw [session_of_update rfl]
        exact recovers
  | createOutboxInSession body task =>
      rcases respond_cases answered with
        ⟨rfl, error, _, rfl⟩ | ⟨_, rfl, ⟨_, rfl⟩ | ⟨error, _, rfl⟩⟩
      · exact recovers
      · rw [session_of_update rfl]
        exact recovers
      · rw [session_of_update rfl]
        exact recovers
  | commitTransaction task =>
      obtain ⟨_, rfl, rfl⟩ := respond_resolved (resolves (.inr (.inr (.inl rfl)))) answered
      trivial
  | abortTransaction error =>
      obtain ⟨_, rfl, rfl⟩ := respond_resolved (resolves (.inr (.inr (.inr rfl)))) answered
      rw [session_of_update rfl]
      exact ⟨rfl, recovers.2, rfl⟩
  | endSession outcome =>
      obtain ⟨_, rfl, rfl⟩ := respond_resolved (resolves (.inr (.inl rfl))) answered
      rw [session_of_update rfl]
      rintro body thrown rfl rfl
      obtain ⟨aborted, ended, answers⟩ := recovers
      simp only [aborted, ended, reduceCtorEq, ↓reduceIte]
      exact ⟨trivial, trivial, answers⟩
  | findPending =>
      cases reply with
      | ok batch => exact recovers_pollNext fields recovers batch
      | error error => exact fun body _ same => absurd same (recovers body)
  | emit event rest =>
      cases reply with
      | ok _ => exact recovers
      | error error => exact recovers
  | saveCompleted document rest =>
      cases reply with
      | ok _ => exact recovers_pollNext fields recovers rest
      | error error => exact recovers
  | saveCaught document rest =>
      cases reply with
      | ok _ => exact recovers_pollNext fields recovers rest
      | error error => exact fun body _ same => absurd same (recovers body)
  | createTask body =>
      rcases reply with _ | _ | _
      · exact fun body _ same => absurd same (recovers body)
      · exact fun body _ same => absurd same (recovers body)
      · exact fun body _ same => absurd same (recovers body)
  | findTasks userId =>
      cases reply with
      | ok _ => exact fun body _ same => absurd same (recovers body)
      | error error => exact fun body _ same => absurd same (recovers body)
  | findByIdAndDelete taskId =>
      rcases reply with _ | _ | _
      · exact fun body _ same => absurd same (recovers body)
      · exact fun body _ same => absurd same (recovers body)
      · exact fun body _ same => absurd same (recovers body)

/-- The driver takes an abort only while the transaction is in progress. -/
theorem broken_next (ofDriver : OfDriver answer.outcome)
    (resolves : pc.op = .startSession ∨ pc.op = .endSession → answer.outcome = .resolved)
    (broken : Broken (world.sessions who) call (.running pc))
    (answered : exec world who pc.op answer = some (world', reply)) :
    Broken (world'.sessions who) call (Led.next fields pc reply).2 := by
  cases pc with
  | abortTransaction error =>
      rcases respond_cases answered with ⟨rfl, error, rejected, rfl⟩ | ⟨opened, _⟩
      · rw [rejected] at ofDriver
        exact ofDriver
      · exact absurd opened broken
  | endSession outcome =>
      obtain ⟨_, rfl, rfl⟩ := respond_resolved (resolves (.inr rfl)) answered
      cases outcome with
      | ok _ => exact broken.elim
      | error thrown => exact ⟨thrown, rfl, broken⟩
  | _ => exact broken.elim

/-- A commit or an abort that rejects breaks the error path. -/
theorem broken_of_rejected (ofDriver : OfDriver answer.outcome)
    (sound : pc.Sound world.toLedger (world.sessions who) call)
    (cleanup : pc.op = .commitTransaction ∨ pc.op = .abortTransaction)
    (rejected : answer.outcome ≠ .resolved)
    (answered : exec world who pc.op answer = some (world', reply)) :
    Broken (world'.sessions who) call (Led.next fields pc reply).2 := by
  cases pc with
  | commitTransaction task =>
      obtain ⟨record, opened, _⟩ := sound
      rcases respond_cases answered with
        ⟨rfl, error, _, rfl⟩ | ⟨_, rfl, ⟨resolved, _⟩ | ⟨error, _, rfl⟩⟩
      · rw [opened, if_pos rfl, session_of_update rfl]
        exact fun same => by cases same
      · exact absurd resolved rejected
      · rw [session_of_update rfl]
        exact fun same => by cases same
  | abortTransaction error =>
      rcases respond_cases answered with
        ⟨rfl, thrown, lost, rfl⟩ | ⟨_, rfl, ⟨resolved, _⟩ | ⟨thrown, lost, rfl⟩⟩
      · rw [lost] at ofDriver
        exact ofDriver
      · exact absurd resolved rejected
      · rw [lost] at ofDriver
        exact ofDriver
  | _ => rcases cleanup with same | same <;> cases same

end Steps

/-! ## The call in a run -/

section Ends

variable {D E : Op → Outcome → Prop} {who : ℕ}

theorem Ends.and {state : View} {event : Happening} (first : Ends D who state event)
    (second : Ends E who state event) :
    Ends (fun op outcome => D op outcome ∧ E op outcome) who state event := by
  cases event with
  | step pid answer =>
      simp only [Ends] at first second ⊢
      cases slot : state.slots pid with
      | running call op =>
          rw [slot] at first second
          exact fun mine => ⟨first mine, second mine⟩
      | _ => trivial
  | _ => trivial

/-- An operation of the call that does not end in these ways. -/
theorem exists_of_not_ends {machine : Pool World Call Pc (Except Thrown Reply)} {event : Happening}
    (breaks : ¬ Ends D who (machine.observe flow) event) :
    ∃ answer call pc, event = .step who answer ∧ machine.slots who = .running call pc ∧
      ¬ D pc.op answer.outcome := by
  cases event with
  | step pid answer =>
      cases slot : machine.slots pid with
      | running call pc =>
          simp only [Ends, Pool.observe_slots, slot, Slot.observe, Classical.not_imp] at breaks
          obtain ⟨rfl, breaks⟩ := breaks
          exact ⟨answer, call, pc, rfl, slot, breaks⟩
      | _ =>
          simp only [Ends, Pool.observe_slots, slot, Slot.observe, not_true_eq_false] at breaks
  | _ => exact absurd trivial breaks

end Ends

/-- A call of `create` whose commit and abort have not rejected. -/
theorem recovers_holds {who : ℕ} {machine : Pool World Call Pc (Except Thrown Reply)}
    (ran : FlowRuns (fun state event => Started who state event ∧ Settles who state event)
      (.initial {}) machine) :
    (follows who (fun _ => True) Recovers).Holds machine := by
  refine (follows_valid
    (fun session call fields opened _ => recovers_enter session call fields opened)
    fun fields ends sound recovers answered => ?_).path
      ((transactional_path ran).mono fun _ _ allowed =>
        ⟨allowed.1.1.and allowed.1.2, allowed.2⟩)
      ⟨trivial, fun _ _ => trivial⟩
  refine recovers_next fields (fun awaits => ?_) recovers answered
  rcases awaits with start | finish | cleanup
  · exact ends.1.2 (.inl start)
  · exact ends.1.2 (.inr finish)
  · exact ends.2 cleanup

/-- A call of `create` after its commit or its abort has rejected. -/
theorem broken_holds {who : ℕ} {before after last : Pool World Call Pc (Except Thrown Reply)}
    {event : Happening} (transactional : transactional.Holds before)
    (started : Started who (before.observe flow) event)
    (breaks : ¬ Settles who (before.observe flow) event)
    (taken : Pool.step site flow before event = some after)
    (ran : FlowRuns (Started who) after last) :
    (follows who (fun _ => False) Broken).Holds last := by
  obtain ⟨answer, call, pc, rfl, running, rejects⟩ := exists_of_not_ends breaks
  obtain ⟨cleanup, rejected⟩ := Classical.not_imp.mp rejects
  simp only [Ends, Pool.observe_slots, running, Slot.observe, true_imp_iff] at started
  have transactional' := transactional_valid.preserved _ _ _ trivial transactional taken
  have start : (follows who (fun _ => False) Broken).Holds after := by
    cases Pool.stepped taken with
    | @step _ _ _ _ world reply running' answered =>
        cases running.symm.trans running'
        obtain ⟨_, sound⟩ := by
          simpa only [TaskService.transactional, running] using transactional.locally who
        refine ⟨trivial, fun pid mine => ?_⟩
        let led : Led := Led.next (site.load world call) pc reply
        have landed : (follows who (fun _ => False) Broken).Local
            (Pool.land site world who call led).1 who (Pool.land site world who call led).2 :=
          follows_land fun _ => broken_of_rejected _ started.1 sound cleanup rejected answered
        subst mine
        simp only [Pool.settle_self, Pool.settle_world]
        exact landed rfl
  have strong := ran.strengthen transactional' fun before event after _ =>
    transactional_valid.preserved before event after trivial
  exact (follows_valid (fun _ _ _ _ never => never.elim) fun fields ends sound broken answered =>
    broken_next fields ends.1 ends.2 broken answered).path strong start

/-- The entry of a call that has finished, in the table. -/
theorem finished_of_observe {machine : Pool World Call Pc (Except Thrown Reply)} {state : State}
    {who : ℕ} {call : Call} {out : Except Thrown Reply}
    (same : machine.observe flow = state.observe programs)
    (finished : state.slots who = .finished call out) : machine.slots who = .finished call out := by
  have seen : (machine.slots who).observe flow.op = .finished call out := by
    rw [← Pool.observe_slots, same, Pool.observe_slots, finished]
    rfl
  exact Slot.of_observe_finished seen

/-- **The error path of `create`.** A call of `create` that throws, throws the `RpcException` with
status 400, has stored neither its task nor its record and has ended its session once, exactly if
neither its commit nor its abort has rejected. -/
theorem create_cleans_up {events : List Happening} {state : State} {who : ℕ} {body : TaskBody}
    {thrown : Thrown} (ran : run step (.initial {}) events = some state)
    (started : Meets step (fun state event => Started who (state.observe programs) event)
      (.initial {}) events)
    (finished : state.slots who = .finished (.create body) (.error thrown)) :
    CleanedUp state.world who thrown ↔
      Meets step (fun state event => Settles who (state.observe programs) event) (.initial {})
        events := by
  constructor
  · intro cleaned
    rcases Meets.or_breaks ran started with settles |
      ⟨before, event, after, path, domain, breaks, taken, path'⟩
    · exact settles
    · exfalso
      obtain ⟨machine, ran, tracking⟩ := (Pool.Tracking.initial ({} : World)).path implements
        (C := Started who) path
      obtain ⟨machine', taken', tracking'⟩ := tracking.step implements taken
      obtain ⟨last, ran', tracked⟩ := tracking'.path implements (C := Started who) path'
      have slot := finished_of_observe tracked.observe_eq finished
      have seen : machine.observe flow = before.observe programs := tracking.observe_eq
      rw [← seen] at domain breaks
      have broken :=
        (broken_holds (transactional_holds ran) domain breaks taken' ran').locally who rfl
      rw [slot] at broken
      obtain ⟨_, same, other⟩ := broken
      cases same
      exact Bool.false_ne_true (other.symm.trans cleaned.answered)
  · intro settles
    obtain ⟨machine, path, same⟩ := implements.path
      (C := fun state event => Started who state event ∧ Settles who state event)
      (Path.of_run ran (started.and settles))
    have path : FlowRuns (fun state event => Started who state event ∧ Settles who state event)
      (.initial {}) machine := path
    have slot := finished_of_observe same finished
    have recovers := (recovers_holds path).locally who rfl
    rw [slot] at recovers
    obtain ⟨aborted, ended, answered⟩ := recovers body thrown rfl rfl
    have provenance : Provenance machine.world.toLedger := (transactional_holds path).globally
    have silent : who ∉ machine.world.commits.map (·.caller) := by
      intro committed
      obtain ⟨commit, found, mine⟩ := List.mem_map.mp committed
      have state := (provenance.owned.commits commit found).1
      rw [mine, aborted] at state
      cases state
    obtain ⟨task, record⟩ := provenance.uncommitted silent
    rw [← show machine.world = state.world from congrArg Pool.world same]
    exact ⟨answered, task, record, ended⟩

/-! ## Two error paths -/

namespace Sample

def timeout : Thrown := .error "Error" "timeout"

/-- The insert of the record is rejected, and the transaction is aborted. -/
def aborted : List Happening :=
  [.call 0 (.create body), resolves 0, resolves 0, rejects 0, resolves 0, resolves 0]

/-- The reply to the commit is lost, and the abort is rejected. -/
def commitUnknown : List Happening :=
  [.call 0 (.create body), resolves 0, resolves 0, .step 0 ⟨.resolved, recordId⟩,
    .step 0 ⟨.rejectedApplied timeout, taskId⟩, rejects 0, resolves 0]

/-- What call 0 has thrown. -/
def thrown (state : State) : Option (Call × Thrown) :=
  match state.slots 0 with
  | .finished call (.error thrown) => some (call, thrown)
  | _ => none

theorem finished_of_thrown {state : State} {call : Call} {error : Thrown}
    (threw : thrown state = some (call, error)) :
    state.slots 0 = .finished call (.error error) := by
  simp only [thrown] at threw
  split at threw
  · rename_i finished
    cases threw
    exact finished
  · cases threw

end Sample

/-- The theorem at an insert of the record that is rejected. -/
theorem create_cleans_up_aborted :
    ∃ state ∈ run step (.initial {}) Sample.aborted,
      (state.world.sessions 0).task.isSome = true ∧ CleanedUp state.world 0
        (.rpcException 400 "Task creation transaction failed: timeout") := by
  obtain ⟨state, ran, written, threw, started, settles⟩ :
      ∃ state ∈ run step (.initial {}) Sample.aborted,
        (state.world.sessions 0).task.isSome = true ∧
        Sample.thrown state = some (.create Sample.body,
          .rpcException 400 "Task creation transaction failed: timeout") ∧
        Meets step (fun state event => Started 0 (state.observe programs) event) (.initial {})
          Sample.aborted ∧
        Meets step (fun state event => Settles 0 (state.observe programs) event) (.initial {})
          Sample.aborted := by decide +kernel
  exact ⟨state, ran, written,
    (create_cleans_up ran started (Sample.finished_of_thrown threw)).mpr settles⟩

/-- **A task of a call that has thrown.** The commit is rejected although it was applied, the abort
is rejected, and the caller gets the error of the abort. -/
theorem unknown_commit_leaves_task :
    ∃ state ∈ run step (.initial {}) Sample.commitUnknown,
      Meets step (fun state event => Started 0 (state.observe programs) event) (.initial {})
        Sample.commitUnknown ∧
      state.slots 0 = .finished (.create Sample.body) (.error Sample.timeout) ∧
      state.world.tasks.map (·.id) = [Sample.taskId] ∧
      state.world.outbox.map (·.id) = [Sample.recordId] ∧
      ¬ CleanedUp state.world 0 Sample.timeout := by
  obtain ⟨state, ran, started, threw, task, record⟩ :
      ∃ state ∈ run step (.initial {}) Sample.commitUnknown,
        Meets step (fun state event => Started 0 (state.observe programs) event) (.initial {})
          Sample.commitUnknown ∧
        Sample.thrown state = some (.create Sample.body, Sample.timeout) ∧
        state.world.tasks.map (·.id) = [Sample.taskId] ∧
        state.world.outbox.map (·.id) = [Sample.recordId] := by decide +kernel
  exact ⟨state, ran, started, Sample.finished_of_thrown threw, task, record,
    fun cleaned => absurd cleaned.answered (by decide)⟩

end WorkflowHub.TaskService
