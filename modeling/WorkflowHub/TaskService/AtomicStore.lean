import Mathlib.Data.Set.Insert
import WorkflowHub.Processes.Atomic
import WorkflowHub.TaskService.Transactions

/-!
# The task service as an atomic store of tasks

What the methods of `TaskServiceService` are for: a store in which tasks are created, listed by
user and deleted. A call of `create` makes five round trips to the database, `createSaga`,
`findAllByUserId` and `deleteSaga` one each; any of them may fail, with or without effect, and any
process may crash. The store of this file does each operation at once (`taskStore`), and every run
of the task service is a run of it (`tasks_atomic`): the service is linearizable.
-/

set_option autoImplicit false

namespace WorkflowHub.TaskService

open Processes AtomicObject

/-! ## The store -/

/-- The tasks, and the ids of all tasks there ever were. -/
structure Store where
  tasks : List Task := []
  used : Set ObjectId := ∅

inductive StoreOp where
  | create (body : TaskBody)
  | list (userId : String)
  | delete (taskId : String)

inductive StoreRes where
  | created (task : Task)
  | listed (tasks : List Task)
  | deleted

open Classical in
/-- The operations. A new task gets an id that no task has had. -/
noncomputable def taskStore : AtomicObject Store StoreOp ObjectId StoreRes where
  apply store op id :=
    match op with
    | .create body =>
        if body.Valid ∧ id ∉ store.used then
          some (⟨store.tasks ++ [body.toTask id], insert id store.used⟩, .created (body.toTask id))
        else none
    | .list userId => some (store, .listed (store.tasks.filter (·.userId = userId)))
    | .delete taskId =>
        if ∃ task ∈ store.tasks, task.id.toString = taskId then
          some ({ store with tasks := store.tasks.filter (·.id.toString ≠ taskId) }, .deleted)
        else none

/-! ## What a state of the service shows of it -/

/-- The operation of the store a call asks for; a poll run asks for none. -/
def Call.storeOp? : Call → Option StoreOp
  | .create body => some (.create body)
  | .createSaga body => some (.create body)
  | .findAllByUserId userId => some (.list userId)
  | .deleteSaga taskId => some (.delete taskId)
  | .pollOutbox _ => none

/-- What the caller is told. A caller who gets an error is told nothing. -/
def Call.storeRes? : Call → Except Thrown Reply → Option StoreRes
  | .create _, .ok (.created _ task) => some (.created task)
  | .createSaga _, .ok (.created _ task) => some (.created task)
  | .findAllByUserId _, .ok (.listed _ tasks) => some (.listed tasks)
  | .deleteSaga _, .ok (.deleted ..) => some .deleted
  | _, _ => none

/-- What a call that is still going on has done: `create` goes on after its commit. -/
def Session.storeRes? (session : Session) : Option StoreRes :=
  if session.state = .committed then session.task.map .created else none

def Ledger.store (ledger : Ledger) : Store where
  tasks := ledger.tasks
  used := {id | (∃ commit ∈ ledger.commits, commit.task.id = id) ∨ id ∈ ledger.sagaTasks}

/-- How far a call of the store has come. -/
def Status.of (op : StoreOp) (session : Session) {Pc : Type} :
    Slot Call Pc (Except Thrown Reply) → Status StoreOp StoreRes
  | .free => .idle
  | .running _ _ => session.storeRes?.elim (.invoked op) (.performed op)
  | .finished call out => (call.storeRes? out).elim (.failed op) (.returned op)
  | .crashed _ => .failed op

section Shown

variable {Pc : Type}

def storeStatus (session : Session) (slot : Slot Call Pc (Except Thrown Reply)) :
    Status StoreOp StoreRes :=
  (slot.call?.bind Call.storeOp?).elim .idle fun op => Status.of op session slot

/-- The store a state of the service shows. -/
def storeImage (pool : Pool World Call Pc (Except Thrown Reply)) :
    AtomicObject.State Store StoreOp StoreRes where
  value := pool.world.store
  calls pid := storeStatus (pool.world.sessions pid) (pool.slots pid)

theorem storeStatus_observe {S : Signature} (op : Call → Pc → S.Op) (session : Session)
    (slot : Slot Call Pc (Except Thrown Reply)) :
    storeStatus session (slot.observe op) = storeStatus session slot := by
  cases slot with
  | _ => rfl

/-- The store a state shows can be seen from outside. -/
theorem storeImage_observe (flow : Flow (promises Op Op.Value Thrown) Fields Call Pc
    (Except Thrown Reply)) (pool : Pool World Call Pc (Except Thrown Reply)) :
    storeImage (pool.observe flow) = storeImage pool :=
  congrArg (State.mk _) (funext fun _ => storeStatus_observe flow.op _ _)

/-- The store after the world and the entry of one call have changed. -/
theorem storeImage_settle {pool : Pool World Call Pc (Except Thrown Reply)} {pid : ℕ}
    {landed : World × Slot Call Pc (Except Thrown Reply)} (world : World)
    (same : landed.1.toLedger = world.toLedger)
    (confined : ∀ other, other ≠ pid → world.sessions other = pool.world.sessions other) :
    storeImage (Pool.settle pool.slots pid landed) =
      (storeImage pool).update world.store pid (storeStatus (world.sessions pid) landed.2) := by
  simp only [storeImage, State.update, State.mk.injEq, Pool.settle_world, same, true_and]
  funext other
  by_cases here : other = pid
  · subst here
    rw [Pool.settle_self, Function.update_self]
  · rw [Pool.settle_other _ here, Function.update_of_ne here, confined other here]

/-- A status that has not changed. -/
theorem storeImage_unchanged {pool : Pool World Call Pc (Except Thrown Reply)} {world : World}
    {pid : ℕ} {status : Status StoreOp StoreRes} (store : world.store = pool.world.store)
    (same : (storeImage pool).calls pid = status) :
    (storeImage pool).update world.store pid status = storeImage pool := by
  rw [store, ← same]
  simp only [State.update, Function.update_eq_self]
  rfl

end Shown

/-! ## Which call is at which program point -/

/-- The calls that can be at a program point. -/
def Pc.Of (call : Call) : Pc → Prop
  | .startSession _ | .createTaskInSession _ | .createOutboxInSession .. | .commitTransaction _
  | .abortTransaction _ | .endSession _ => ∃ body, call = .create body
  | .createTask body => call = .createSaga body
  | .findTasks userId => call = .findAllByUserId userId
  | .findByIdAndDelete taskId => call = .deleteSaga taskId
  | .findPending | .emit .. | .saveCompleted .. | .saveCaught .. =>
      ∃ instanceId, call = .pollOutbox instanceId

def Belongs (call : Call) : Target Pc (Except Thrown Reply) → Prop
  | .running pc => pc.Of call
  | .finished _ => True

theorem belongs_pollNext {call : Call} {fields : Fields} {instanceId : ℕ}
    (polls : call = .pollOutbox instanceId) (rest : List Outbox) :
    Belongs call (Led.pollNext fields rest).2 := by
  cases rest with
  | nil => trivial
  | cons event rest => exact ⟨instanceId, polls⟩

theorem flow_keeps : flow.Keeps Belongs where
  enter call fields := by
    cases call with
    | create body => exact ⟨body, rfl⟩
    | pollOutbox instanceId =>
        simp only [flow, Led.enter]
        split
        · trivial
        · exact ⟨instanceId, rfl⟩
    | _ => rfl
  next call pc reply fields belongs := by
    cases pc with
    | findPending =>
        obtain ⟨instanceId, polls⟩ := belongs
        cases reply with
        | ok batch => exact belongs_pollNext polls batch
        | error error => trivial
    | saveCompleted document rest =>
        obtain ⟨instanceId, polls⟩ := belongs
        cases reply with
        | ok _ => exact belongs_pollNext polls rest
        | error error => exact ⟨instanceId, polls⟩
    | saveCaught document rest =>
        obtain ⟨instanceId, polls⟩ := belongs
        cases reply with
        | ok _ => exact belongs_pollNext polls rest
        | error error => trivial
    | createTask body =>
        rcases reply with error | task
        · trivial
        · cases task with
          | _ => trivial
    | findByIdAndDelete taskId =>
        rcases reply with error | task
        · trivial
        · cases task with
          | _ => trivial
    | _ =>
        cases reply with
        | _ => trivial

/-! ## What an operation of the service is to the store -/

theorem toTask_injective {body body' : TaskBody} {id id' : ObjectId}
    (same : body.toTask id = body'.toTask id') : body = body' := by
  obtain ⟨userId, title, description⟩ := body
  obtain ⟨userId', title', description'⟩ := body'
  simp only [TaskBody.toTask, Task.mk.injEq] at same
  obtain ⟨_, rfl, rfl, rfl⟩ := same
  rfl

/-- What the caller is told where the call is led. -/
def Call.told (call : Call) : Target Pc (Except Thrown Reply) → Option StoreRes
  | .running _ => none
  | .finished out => call.storeRes? out

/-- What an operation does to the store: nothing, or the operation its call asks for. -/
inductive Atomically (world : World) (pid : ℕ) (call : Call) (world' : World)
    (target : Target Pc (Except Thrown Reply)) : Prop
  | silent (store : world'.store = world.store)
      (same : (world'.sessions pid).storeRes? = (world.sessions pid).storeRes?)
      (tells : ∀ res, call.told target = some res → (world.sessions pid).storeRes? = some res)
  | performs (op : StoreOp) (res : StoreRes) (id : ObjectId) (asks : call.storeOp? = some op)
      (before : (world.sessions pid).storeRes? = none)
      (applied : taskStore.apply world.store op id = some (world'.store, res))
      (after : ∀ pc, target = .running pc → (world'.sessions pid).storeRes? = some res)
      (tells : ∀ res', call.told target = some res' → res' = res)

section Effects

variable {world world' : World} {pid : ℕ} {call : Call} {target : Target Pc (Except Thrown Reply)}

/-- The operation did nothing that the caller is told of. -/
theorem Atomically.quiet (store : world'.store = world.store)
    (same : (world'.sessions pid).storeRes? = (world.sessions pid).storeRes?)
    (nothing : call.told target = none) : Atomically world pid call world' target :=
  .silent store same fun res told => by cases nothing.symm.trans told

theorem told_poll (instanceId : ℕ) (target : Target Pc (Except Thrown Reply)) :
    (Call.pollOutbox instanceId).told target = none := by
  cases target with
  | _ => rfl

/-- Only `create` has something to tell while it goes on. -/
theorem storeRes?_of_other (authored : Authored call (world.sessions pid))
    (other : ∀ body, call ≠ .create body) : (world.sessions pid).storeRes? = none := by
  have nothing : (world.sessions pid).task = none := by
    refine Option.eq_none_iff_forall_not_mem.mpr fun task written => ?_
    obtain ⟨body, same, _⟩ := authored task written
    exact other body same
  simp only [Session.storeRes?, nothing, Option.map_none, ite_self]

theorem storeRes?_of_ne {session : Session} (open' : session.state ≠ .committed) :
    session.storeRes? = none := if_neg open'

theorem storeRes?_setSession (ledger : Ledger) {session : Session}
    (same : session.storeRes? = (ledger.sessions pid).storeRes?) :
    ((ledger.setSession pid session).sessions pid).storeRes? = (ledger.sessions pid).storeRes? := by
  rw [← same]
  exact congrArg Session.storeRes? (Function.update_self ..)

theorem storeRes?_honest {session : Session} {body : TaskBody} {out : Except Thrown Reply}
    {res : StoreRes} (honest : Honest session out)
    (told : (Call.create body).storeRes? out = some res) : session.storeRes? = some res := by
  rcases out with error | reply
  · cases told
  · cases reply with
    | created message task =>
        cases told
        obtain ⟨committed, written⟩ := honest message task rfl
        simp only [Session.storeRes?, committed, ↓reduceIte, written, Option.map_some]
    | _ => cases told

/-- The id of a task that a transaction has written is not in use before its commit. -/
theorem unused_of_written {ledger : Ledger} {task : Task} (provenance : Provenance ledger)
    (open' : (ledger.sessions pid).state ≠ .committed)
    (written : (ledger.sessions pid).task = some task) : task.id ∉ ledger.store.used := by
  have held : (ledger.sessions pid).Holds task.id := .inl ⟨task, written, rfl⟩
  rintro (⟨commit, found, same⟩ | saga)
  · exact provenance.owned.caller_ne open' found
      (provenance.owned.unique (same ▸ provenance.owned.holds_task found) held)
  · exact (provenance.owned.saga _ saga).2 pid held

/-- Every id in use was given out. -/
theorem issued_of_used {ledger : Ledger} {id : ObjectId} (provenance : Provenance ledger)
    (used : id ∈ ledger.store.used) : id ∈ ledger.issued := by
  rcases used with ⟨commit, found, rfl⟩ | saga
  · exact provenance.owned.issued (provenance.owned.holds_task found)
  · exact (provenance.owned.saga id saga).1

/-- The commit of a transaction is the creation of its task. -/
theorem store_commit {ledger : Ledger} {task : Task} {record : Outbox}
    (hasTask : (ledger.sessions pid).task = some task)
    (hasRecord : (ledger.sessions pid).record = some record) :
    (ledger.commit pid).store = ⟨ledger.tasks ++ [task], insert task.id ledger.store.used⟩ := by
  simp only [Ledger.store, Ledger.commit, hasTask, hasRecord, Option.toList_some, Store.mk.injEq,
    true_and, Ledger.setSession]
  ext id
  simp only [List.mem_append, List.mem_singleton, Set.mem_ofPred_eq, Set.mem_insert_iff]
  constructor
  · rintro (⟨commit, found | rfl, rfl⟩ | saga)
    · exact .inr (.inl ⟨commit, found, rfl⟩)
    · exact .inl rfl
    · exact .inr (.inr saga)
  · rintro (rfl | ⟨commit, found, rfl⟩ | saga)
    · exact .inl ⟨_, .inr rfl, rfl⟩
    · exact .inl ⟨commit, .inl found, rfl⟩
    · exact .inr saga

theorem store_insertTask (ledger : Ledger) (task : Task) :
    (ledger.insertTask task).store = ⟨ledger.tasks ++ [task], insert task.id ledger.store.used⟩ := by
  simp only [Ledger.store, Ledger.insertTask, Store.mk.injEq, true_and]
  ext id
  simp only [List.mem_append, List.mem_singleton, Set.mem_ofPred_eq, Set.mem_insert_iff]
  rw [← or_assoc, or_comm]

/-- What each operation of the service does to the store. -/
theorem atomically {pc : Pc} {answer : Answer} {reply : Except Thrown pc.op.Value}
    (provenance : Provenance world.toLedger) (authored : Authored call (world.sessions pid))
    (sound : pc.Sound world.toLedger (world.sessions pid) call) (belongs : pc.Of call)
    (answered : exec world pid pc.op answer = some (world', reply)) (fields : Fields) :
    Atomically world pid call world' (Led.next fields pc reply).2 := by
  cases pc with
  | startSession body =>
      obtain ⟨rfl, fresh⟩ := sound
      have nothing : (Call.create body).told (Led.next fields (.startSession body) reply).2 = none := by
        cases reply with
        | _ => rfl
      rcases respond_cases answered with ⟨rfl, _⟩ | ⟨_, rfl, _⟩
      · exact .quiet rfl rfl nothing
      · exact .quiet rfl (storeRes?_setSession _ (by rw [fresh]; rfl)) nothing
  | createTaskInSession body =>
      obtain ⟨rfl, opened⟩ := sound
      have nothing :
          (Call.create body).told (Led.next fields (.createTaskInSession body) reply).2 = none := by
        cases reply with
        | _ => rfl
      rcases respond_cases answered with ⟨rfl, _⟩ | ⟨_, rfl, _⟩
      · exact .quiet rfl rfl nothing
      · exact .quiet rfl (storeRes?_setSession _ (by rw [opened]; rfl)) nothing
  | createOutboxInSession body task =>
      obtain ⟨opened, _⟩ := sound
      have nothing :
          call.told (Led.next fields (.createOutboxInSession body task) reply).2 = none := by
        cases reply with
        | _ => rfl
      rcases respond_cases answered with ⟨rfl, _⟩ | ⟨_, rfl, _⟩
      · exact .quiet rfl rfl nothing
      · exact .quiet rfl (storeRes?_setSession _ (by rw [opened]; rfl)) nothing
  | commitTransaction task =>
      obtain ⟨record, opened, announces⟩ := sound
      obtain ⟨body, rfl⟩ := belongs
      have nothing :
          (Call.create body).told (Led.next fields (.commitTransaction task) reply).2 = none := by
        cases reply with
        | _ => rfl
      have before : (world.sessions pid).storeRes? = none := storeRes?_of_ne (by simp [opened])
      rcases respond_cases answered with ⟨rfl, _⟩ | ⟨_, rfl, _⟩
      · split
        · exact .quiet rfl (storeRes?_setSession _ (by rw [opened]; rfl)) nothing
        · exact .quiet rfl rfl nothing
      · have written : (world.sessions pid).task = some task := by rw [opened]
        have unused : task.id ∉ world.store.used :=
          unused_of_written provenance (by simp [opened]) written
        obtain ⟨body', same, asked⟩ := authored task written
        cases same
        obtain ⟨body'', valid, made, _⟩ := announces.payload
        cases toTask_injective (made.symm.trans asked)
        refine .performs (.create body) (.created task) task.id rfl before
          ?_ (fun _ _ => ?_) fun res told => by cases nothing.symm.trans told
        · simp only [taskStore, valid, unused, not_false_eq_true, and_self, ↓reduceIte, ← asked]
          rw [store_commit written (by rw [opened])]
          rfl
        · simp only [Ledger.commit, Ledger.setSession, Function.update_self, Session.storeRes?,
            ↓reduceIte, written, Option.map_some]
  | abortTransaction error =>
      obtain ⟨body, rfl⟩ := belongs
      have nothing :
          (Call.create body).told (Led.next fields (.abortTransaction error) reply).2 = none := by
        cases reply with
        | _ => rfl
      rcases respond_cases answered with ⟨rfl, _⟩ | ⟨opened, rfl, _⟩
      · exact .quiet rfl rfl nothing
      · refine .quiet rfl (storeRes?_setSession _ ?_) nothing
        rw [storeRes?_of_ne (by simp), storeRes?_of_ne (by simp [opened])]
  | endSession outcome =>
      obtain ⟨body, rfl⟩ := belongs
      have tells : ∀ res, (Call.create body).told (Led.next fields (.endSession outcome) reply).2 =
          some res → (world.sessions pid).storeRes? = some res := by
        intro res told
        cases reply with
        | error error => cases told
        | ok _ => exact storeRes?_honest sound told
      rcases respond_cases answered with ⟨rfl, _⟩ | ⟨_, rfl, _⟩
      · exact .silent rfl rfl tells
      · refine .silent rfl (storeRes?_setSession _ ?_) tells
        by_cases opened : (world.sessions pid).state = .inProgress
        · rw [storeRes?_of_ne (by simp [opened]), storeRes?_of_ne (by simp [opened])]
        · simp only [Session.storeRes?, opened, ↓reduceIte]
  | createTask body =>
      cases belongs
      have before : (world.sessions pid).storeRes? = none :=
        storeRes?_of_other authored fun _ same => by cases same
      rcases respond_cases answered with ⟨rfl, error, _, rfl⟩ | ⟨⟨valid, fresh⟩, rfl, replied⟩
      · exact .quiet rfl rfl rfl
      · refine .performs (.create body) (.created (body.toTask answer.id)) answer.id
          rfl before ?_ ?_ ?_
        · have unused : answer.id ∉ world.store.used := fun used =>
            fresh (issued_of_used provenance used)
          simp only [taskStore, valid, unused, not_false_eq_true, and_self, ↓reduceIte]
          rw [store_insertTask]
          rfl
        · intro pc goesOn
          rcases replied with ⟨_, rfl⟩ | ⟨error, _, rfl⟩
          · cases goesOn
          · cases goesOn
        · intro res told
          rcases replied with ⟨_, rfl⟩ | ⟨error, _, rfl⟩
          · cases told
            rfl
          · cases told
  | findTasks userId =>
      cases belongs
      have before : (world.sessions pid).storeRes? = none :=
        storeRes?_of_other authored fun _ same => by cases same
      rcases respond_cases answered with ⟨rfl, error, _, rfl⟩ | ⟨_, rfl, replied⟩
      · exact .quiet rfl rfl rfl
      · refine .performs (.list userId)
          (.listed (world'.tasks.filter (·.userId = userId))) answer.id rfl before rfl ?_ ?_
        · intro pc goesOn
          rcases replied with ⟨_, rfl⟩ | ⟨error, _, rfl⟩
          · cases goesOn
          · cases goesOn
        · intro res told
          rcases replied with ⟨_, rfl⟩ | ⟨error, _, rfl⟩
          · cases told
            rfl
          · cases told
  | findByIdAndDelete taskId =>
      cases belongs
      have before : (world.sessions pid).storeRes? = none :=
        storeRes?_of_other authored fun _ same => by cases same
      rcases respond_cases answered with ⟨rfl, error, _, rfl⟩ | ⟨_, rfl, replied⟩
      · exact .quiet rfl rfl rfl
      · cases found : world.tasks.find? (·.id.toString = taskId) with
        | none =>
            have absent : ∀ task ∈ world.tasks, task.id.toString ≠ taskId := by
              simpa using List.find?_eq_none.mp found
            refine .quiet ?_ rfl ?_
            · have same : world.tasks.filter (·.id.toString ≠ taskId) = world.tasks :=
                List.filter_eq_self.mpr fun task there => decide_eq_true (absent task there)
              simp only [Ledger.store, Ledger.deleteTask, same]
            · rcases replied with ⟨_, rfl⟩ | ⟨error, _, rfl⟩
              · simp only [found]
                rfl
              · rfl
        | some task =>
            refine .performs (.delete taskId) .deleted answer.id rfl before ?_ ?_ ?_
            · have named := List.find?_some (p := fun task : Task => task.id.toString = taskId) found
              have present : ∃ task ∈ world.store.tasks, task.id.toString = taskId :=
                ⟨task, List.mem_of_find?_eq_some found, of_decide_eq_true named⟩
              simp only [taskStore, present, ↓reduceIte]
              rfl
            · intro pc goesOn
              rcases replied with ⟨_, rfl⟩ | ⟨error, _, rfl⟩
              · simp only [found] at goesOn
                cases goesOn
              · cases goesOn
            · intro res told
              rcases replied with ⟨_, rfl⟩ | ⟨error, _, rfl⟩
              · simp only [found] at told
                cases told
                rfl
              · cases told
  | emit event rest =>
      obtain ⟨instanceId, rfl⟩ := belongs
      rcases respond_cases answered with ⟨rfl, _⟩ | ⟨_, rfl, _⟩
      · exact .quiet rfl rfl (told_poll _ _)
      · exact .quiet rfl rfl (told_poll _ _)
  | _ =>
      obtain ⟨instanceId, rfl⟩ := belongs
      rcases respond_cases answered with ⟨rfl, _⟩ | ⟨_, rfl, _⟩
      · exact .quiet rfl rfl (told_poll _ _)
      · split
        · exact .quiet rfl rfl (told_poll _ _)
        · exact .quiet rfl rfl (told_poll _ _)

end Effects

/-! ## The simulation -/

section Simulation

variable {pool : Pool World Call Pc (Except Thrown Reply)} {world' : World} {pid : ℕ} {call : Call}
  {pc : Pc} {target : Target Pc (Except Thrown Reply)} {op : StoreOp}

theorem storeImage_running (asks : call.storeOp? = some op)
    (running : pool.slots pid = .running call pc) :
    (storeImage pool).calls pid =
      (pool.world.sessions pid).storeRes?.elim (.invoked op) (.performed op) := by
  simp only [storeImage, running, storeStatus, Slot.call?, Option.bind_some, asks, Option.elim_some,
    Status.of]

/-- The effect of an operation on the store, with the status the call has after it: one that it
keeps where it goes on, and that has the result it returns where it ends. -/
theorem Atomically.path (effect : Atomically pool.world pid call world' target)
    (asks : call.storeOp? = some op) (running : pool.slots pid = .running call pc) :
    ∃ status, Path taskStore.step Always (storeImage pool)
        ((storeImage pool).update world'.store pid status) ∧
      (status = .invoked op ∨ ∃ res, status = .performed op res) ∧
      (∀ pc, target = .running pc →
        (world'.sessions pid).storeRes?.elim (.invoked op) (.performed op) = status) ∧
      ∀ res, call.told target = some res → status = .performed op res := by
  have here := storeImage_running asks running
  cases effect with
  | silent store same tells =>
      refine ⟨_, by rw [storeImage_unchanged store here], ?_, fun _ _ => by rw [same], ?_⟩
      · cases (pool.world.sessions pid).storeRes? with
        | none => exact .inl rfl
        | some res => exact .inr ⟨res, rfl⟩
      · intro res told
        rw [tells res told]
        rfl
  | performs op' res id asks' before applied after tells =>
      cases asks.symm.trans asks'
      refine ⟨.performed op res, ?_, .inr ⟨res, rfl⟩, fun pc goesOn => ?_, fun res' told => ?_⟩
      · exact AtomicObject.performs (by rw [here, before]; rfl) applied
      · rw [after pc goesOn]
        rfl
      · rw [tells res' told]

/-- A segment of a call after its operation. -/
theorem Atomically.land_path (effect : Atomically pool.world pid call world' target)
    (asks : call.storeOp? = some op) (running : pool.slots pid = .running call pc)
    {landed : World × Slot Call Pc (Except Thrown Reply)} {fields : Fields}
    (lands : landed = Pool.land site world' pid call (fields, target)) :
    Path taskStore.step Always (storeImage pool)
      ((storeImage pool).update world'.store pid (storeStatus (world'.sessions pid) landed.2)) := by
  subst lands
  obtain ⟨status, path, pending, goesOn, ends⟩ := effect.path asks running
  cases target with
  | running pc =>
      have same : storeStatus (world'.sessions pid) (.running call pc) = status := by
        rw [← goesOn pc rfl]
        simp only [storeStatus, Slot.call?, Option.bind_some, asks, Option.elim_some, Status.of]
      rw [Pool.land_running, same]
      exact path
  | finished out =>
      have shown : storeStatus (world'.sessions pid) (.finished call out : Slot Call Pc _) =
          (call.storeRes? out).elim (.failed op) (.returned op) := by
        simp only [storeStatus, Slot.call?, Option.bind_some, asks, Option.elim_some, Status.of]
      rw [Pool.land_finished, shown]
      refine path.trans ?_
      cases told : call.storeRes? out with
      | none => exact fails_after pending
      | some res =>
          rw [ends res told]
          exact givesBack_after _

/-- A crash after an operation. -/
theorem Atomically.crash_path (effect : Atomically pool.world pid call world' target)
    (asks : call.storeOp? = some op) (running : pool.slots pid = .running call pc) :
    Path taskStore.step Always (storeImage pool)
      ((storeImage pool).update world'.store pid (.failed op)) := by
  obtain ⟨status, path, pending, _, _⟩ := effect.path asks running
  exact path.trans (fails_after pending)

/-- A call that asks for nothing of the store does nothing to it. -/
theorem Atomically.unchanged (effect : Atomically pool.world pid call world' target)
    (asksNone : call.storeOp? = none) (running : pool.slots pid = .running call pc)
    {slot : Slot Call Pc (Except Thrown Reply)} (same : slot.call? = some call) :
    (storeImage pool).update world'.store pid (storeStatus (world'.sessions pid) slot) =
      storeImage pool := by
  have idle (session : Session) {slot : Slot Call Pc (Except Thrown Reply)}
      (same : slot.call? = some call) : storeStatus session slot = .idle := by
    simp only [storeStatus, same, Option.bind_some, asksNone, Option.elim_none]
  cases effect with
  | silent store _ _ =>
      refine storeImage_unchanged store ?_
      rw [idle _ same]
      exact idle _ (by rw [running]; rfl)
  | performs op res id asks => cases asksNone.symm.trans asks

end Simulation

theorem land_call? (world : World) (pid : ℕ) (call : Call) (led : Led) :
    (Pool.land site world pid call led).2.call? = some call := by
  obtain ⟨fields, target⟩ := led
  cases target with
  | _ => rfl

/-- Every call is where a call of its kind can be. -/
abbrev Placed : Assertions World Call Pc (Except Thrown Reply) :=
  ⟨fun _ => True, fun _ _ => Slot.Placed Belongs⟩

theorem belongs_of {pool : Pool World Call Pc (Except Thrown Reply)} {pid : ℕ} {call : Call} {pc : Pc}
    (placed : Placed.Holds pool) (running : pool.slots pid = .running call pc) : pc.Of call := by
  have here := placed.locally pid
  rw [running] at here
  exact here

/-- Each step of the service is a path of the store. -/
theorem store_step {before after : Pool World Call Pc (Except Thrown Reply)} {event : Happening}
    (holds : transactional.Holds before)
    (placed : Placed.Holds before)
    (taken : Pool.step site flow before event = some after) :
    Path taskStore.step Always (storeImage before) (storeImage after) := by
  cases Pool.stepped taken with
  | @call pid call world free started =>
      cases started
      have fresh : before.world.sessions pid = {} := by
        simpa only [transactional, free] using holds.locally pid
      rw [storeImage_settle before.world (land_toLedger ..) fun _ _ => rfl, fresh]
      have idle : (storeImage before).calls pid = .idle := by
        simp only [storeImage, free]
        rfl
      cases call with
      | pollOutbox instanceId =>
          have still : ∀ led : Led, storeStatus {}
              (Pool.land site before.world pid (.pollOutbox instanceId) led).2 = .idle := by
            rintro ⟨fields, target⟩
            cases target with
            | _ => rfl
          rw [still, storeImage_unchanged rfl idle]
      | _ => exact invokes idle
  | @step pid answer call pc world reply running answered =>
      obtain ⟨authored, sound⟩ := by simpa only [transactional, running] using holds.locally pid
      have effect := atomically holds.globally authored sound (belongs_of placed running) answered
        (site.load world call)
      have done := performed holds.globally authored sound answered
      rw [storeImage_settle world (land_toLedger ..) done.confined.sessions]
      cases asks : call.storeOp? with
      | none => rw [effect.unchanged asks running (land_call? ..)]
      | some op => exact effect.land_path asks running rfl
  | @crashPending pid call pc running =>
      rw [storeImage_settle before.world rfl fun _ _ => rfl]
      have still : Atomically before.world pid call before.world (.running pc) := .quiet rfl rfl rfl
      cases asks : call.storeOp? with
      | none => rw [still.unchanged asks running rfl]
      | some op =>
          have failed : storeStatus (before.world.sessions pid)
              (.crashed call : Slot Call Pc (Except Thrown Reply)) = .failed op := by
            simp only [storeStatus, Slot.call?, Option.bind_some, asks, Option.elim_some, Status.of]
          rw [failed]
          exact still.crash_path asks running
  | @crashPerformed pid answer call pc world reply running answered =>
      obtain ⟨authored, sound⟩ := by simpa only [transactional, running] using holds.locally pid
      have effect := atomically holds.globally authored sound (belongs_of placed running) answered
        (site.load world call)
      have done := performed holds.globally authored sound answered
      rw [storeImage_settle world rfl done.confined.sessions]
      cases asks : call.storeOp? with
      | none => rw [effect.unchanged asks running rfl]
      | some op =>
          have failed : storeStatus (world.sessions pid)
              (.crashed call : Slot Call Pc (Except Thrown Reply)) = .failed op := by
            simp only [storeStatus, Slot.call?, Option.bind_some, asks, Option.elim_some, Status.of]
          rw [failed]
          exact effect.crash_path asks running
  | @env event world moved =>
      rcases env_cases moved with ⟨milliseconds, rfl, rfl⟩ | ⟨record, found, rfl, rfl⟩
      · exact .refl
      · exact .refl

/-- **The task service is an atomic store of tasks.** Whatever the calls and the poll runs
interleave, whichever operations fail, with or without effect, and whichever processes crash: every
run of the service is a run of the store, in which each call of `create`, `createSaga`,
`findAllByUserId` and `deleteSaga` takes effect at one moment between its start and its end, with
the reply the caller gets, and one that throws or crashes takes effect once or not at all. -/
theorem tasks_atomic {before after : State} (reached : Runs Always (.initial {}) before)
    (ran : Runs Always before after) :
    Path taskStore.step Always (storeImage before) (storeImage after) := by
  obtain ⟨machine, reached, tracking⟩ := (Pool.Tracking.initial ({} : World)).path implements reached
  obtain ⟨machine', ran, tracking'⟩ := tracking.path implements ran
  have shown {machine : Pool World Call Pc (Except Thrown Reply)} {state : State}
      (tracking : Pool.Tracking flow machine state) : storeImage machine = storeImage state := by
    rw [← storeImage_observe flow, ← storeImage_observe programs]
    exact congrArg storeImage tracking.observe_eq
  rw [← shown tracking, ← shown tracking']
  have placed {last : Pool World Call Pc (Except Thrown Reply)}
      (path : FlowRuns Always (.initial {}) last) :
      Placed.Holds last :=
    (flow_keeps.valid site).path path ⟨trivial, fun _ => trivial⟩
  refine ran.simulated storeImage fun middle event later path _ taken => ?_
  exact store_step (transactional_holds (reached.trans path)) (placed (reached.trans path)) taken

/-- The theorem at a call of `create` whose commit takes effect although its reply is lost. -/
theorem tasks_atomic_lost :
    ∃ state ∈ run step (.initial {}) (Sample.created.take 4 ++
        [.step 0 ⟨.rejectedApplied (.error "Error" "timeout"), Sample.taskId⟩, Sample.rejects 0,
          Sample.resolves 0]),
      state.world.tasks = [Sample.body.toTask Sample.taskId] ∧
        Path taskStore.step Always (storeImage (.initial {} : State)) (storeImage state) := by
  obtain ⟨state, ran, stored⟩ :
      ∃ state ∈ run step (.initial {}) (Sample.created.take 4 ++
          [.step 0 ⟨.rejectedApplied (.error "Error" "timeout"), Sample.taskId⟩, Sample.rejects 0,
            Sample.resolves 0]),
        state.world.tasks = [Sample.body.toTask Sample.taskId] := by decide +kernel
  exact ⟨state, ran, stored, tasks_atomic .refl (.of_run ran .always)⟩

end WorkflowHub.TaskService
