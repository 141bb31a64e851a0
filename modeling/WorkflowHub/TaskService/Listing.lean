import WorkflowHub.TaskService.AtomicStore

/-!
# What a listing shows

A call of `findAllByUserId` that starts after a task was created lists that task, unless somebody
asks to delete it; one that starts after a task was deleted does not list it; and whatever it lists
is a task of the user that somebody asked for (`listing_consistent`). All of this is proved of the
atomic store, whose invariant is `Inventory`, and carried over to the service by `tasks_atomic`.
-/

set_option autoImplicit false

namespace WorkflowHub.TaskService

open Processes AtomicObject

/-! ## The inventory of the store -/

abbrev StoreState : Type := AtomicObject.State Store StoreOp StoreRes

/-- Every task has an id of its own, and is the one a call asked for; what a call was told of a task
it created is that task, and what it was told of a deletion stays true. -/
structure Inventory (state : StoreState) : Prop where
  nodup : (state.value.tasks.map (·.id)).Nodup
  used : ∀ task ∈ state.value.tasks, task.id ∈ state.value.used
  asked : ∀ task ∈ state.value.tasks, ∃ pid body,
    (state.calls pid).op? = some (.create body) ∧ body.Valid ∧ task = body.toTask task.id
  created : ∀ pid body task, (state.calls pid).found? = some (.create body, .created task) →
    task = body.toTask task.id ∧ (task ∈ state.value.tasks ∨
      ∃ other, (state.calls other).op? = some (.delete task.id.toString))
  deleted : ∀ pid taskId, (state.calls pid).found? = some (.delete taskId, .deleted) →
    ∃ id ∈ state.value.used, id.toString = taskId ∧ id ∉ state.value.tasks.map (·.id)

section Apply

variable {store store' : Store} {id : ObjectId} {res : StoreRes}

/-- All an operation of the store can be. -/
theorem apply_create {body : TaskBody}
    (applied : taskStore.apply store (.create body) id = some (store', res)) :
    body.Valid ∧ id ∉ store.used ∧
      store' = ⟨store.tasks ++ [body.toTask id], insert id store.used⟩ ∧
        res = .created (body.toTask id) := by
  simp only [taskStore, Option.ite_none_right_eq_some, Option.some.injEq, Prod.mk.injEq] at applied
  obtain ⟨⟨valid, unused⟩, rfl, rfl⟩ := applied
  exact ⟨valid, unused, rfl, rfl⟩

theorem apply_list {userId : String}
    (applied : taskStore.apply store (.list userId) id = some (store', res)) :
    store' = store ∧ res = .listed (store.tasks.filter (·.userId = userId)) := by
  cases applied
  exact ⟨rfl, rfl⟩

theorem apply_delete {taskId : String}
    (applied : taskStore.apply store (.delete taskId) id = some (store', res)) :
    (∃ task ∈ store.tasks, task.id.toString = taskId) ∧ res = .deleted ∧
      store' = { store with tasks := store.tasks.filter (·.id.toString ≠ taskId) } := by
  simp only [taskStore, Option.ite_none_right_eq_some, Option.some.injEq, Prod.mk.injEq] at applied
  obtain ⟨present, rfl, rfl⟩ := applied
  exact ⟨present, rfl, rfl⟩

/-- An operation keeps a task, unless it deletes it. -/
theorem apply_keeps {op : StoreOp} {task : Task} (there : task ∈ store.tasks)
    (other : op ≠ .delete task.id.toString)
    (applied : taskStore.apply store op id = some (store', res)) : task ∈ store'.tasks := by
  cases op with
  | create body =>
      obtain ⟨_, _, rfl, _⟩ := apply_create applied
      exact List.mem_append_left _ there
  | list userId =>
      obtain ⟨rfl, _⟩ := apply_list applied
      exact there
  | delete taskId =>
      obtain ⟨_, _, rfl⟩ := apply_delete applied
      refine List.mem_filter.mpr ⟨there, decide_eq_true fun same => other ?_⟩
      rw [same]

/-- An operation leaves an id unused for ever once its task is gone. -/
theorem apply_gone {op : StoreOp} {gone : ObjectId} (used : gone ∈ store.used)
    (absent : gone ∉ store.tasks.map (·.id))
    (applied : taskStore.apply store op id = some (store', res)) :
    gone ∈ store'.used ∧ gone ∉ store'.tasks.map (·.id) := by
  cases op with
  | create body =>
      obtain ⟨_, unused, rfl, _⟩ := apply_create applied
      refine ⟨Set.mem_insert_of_mem _ used, fun there => ?_⟩
      rw [List.map_append, List.mem_append] at there
      rcases there with before | new
      · exact absent before
      · have same : gone = id := List.mem_singleton.mp new
        exact unused (same ▸ used)
  | list userId =>
      obtain ⟨rfl, _⟩ := apply_list applied
      exact ⟨used, absent⟩
  | delete taskId =>
      obtain ⟨_, _, rfl⟩ := apply_delete applied
      refine ⟨used, fun there => absent ?_⟩
      obtain ⟨task, left, same⟩ := List.mem_map.mp there
      exact List.mem_map.mpr ⟨task, List.mem_of_mem_filter left, same⟩

end Apply

/-! ## Moves of the store -/

theorem Inventory.initial : Inventory (.initial {}) where
  nodup := List.nodup_nil
  used task there := absurd there List.not_mem_nil
  asked task there := absurd there List.not_mem_nil
  created pid body task found := by cases found
  deleted pid taskId found := by cases found

/-- The tasks after an operation. -/
theorem Inventory.apply {state : StoreState} (inventory : Inventory state) {pid : ℕ} {op : StoreOp}
    {id : ObjectId} {store' : Store} {res : StoreRes} (mine : (state.calls pid).op? = some op)
    (applied : taskStore.apply state.value op id = some (store', res)) :
    (store'.tasks.map (·.id)).Nodup ∧ (∀ task ∈ store'.tasks, task.id ∈ store'.used) ∧
      ∀ task ∈ store'.tasks, task ∈ state.value.tasks ∨ ∃ body, op = .create body ∧ body.Valid ∧
        task = body.toTask task.id := by
  cases op with
  | create body =>
      obtain ⟨valid, unused, rfl, _⟩ := apply_create applied
      refine ⟨?_, fun task there => ?_, fun task there => ?_⟩
      · rw [List.map_append]
        refine inventory.nodup.append (List.nodup_singleton _) (List.disjoint_singleton.mpr ?_)
        intro there
        obtain ⟨task, held, (same : task.id = id)⟩ := List.mem_map.mp there
        exact unused (same ▸ inventory.used task held)
      · rcases List.mem_append.mp there with before | new
        · exact Set.mem_insert_of_mem _ (inventory.used task before)
        · rw [List.mem_singleton.mp new]
          exact Set.mem_insert _ _
      · rcases List.mem_append.mp there with before | new
        · exact .inl before
        · rw [List.mem_singleton.mp new]
          exact .inr ⟨body, rfl, valid, rfl⟩
  | list userId =>
      obtain ⟨rfl, _⟩ := apply_list applied
      exact ⟨inventory.nodup, inventory.used, fun task there => .inl there⟩
  | delete taskId =>
      obtain ⟨_, _, rfl⟩ := apply_delete applied
      refine ⟨inventory.nodup.sublist (List.filter_sublist.map _), fun task there => ?_,
        fun task there => .inl (List.mem_of_mem_filter there)⟩
      exact inventory.used task (List.mem_of_mem_filter there)

theorem Inventory.step {state state' : StoreState} {move : Move StoreOp ObjectId}
    (inventory : Inventory state)
    (taken : taskStore.step state move = some state') : Inventory state' := by
  have grown {pid : ℕ} {op : StoreOp} (mine : (state.calls pid).op? = some op) :
      (state'.calls pid).op? = some op := op?_step taken mine
  have asked {task : Task} (there : task ∈ state.value.tasks) : ∃ pid body,
      (state'.calls pid).op? = some (.create body) ∧ body.Valid ∧ task = body.toTask task.id := by
    obtain ⟨pid, body, mine, valid, same⟩ := inventory.asked task there
    exact ⟨pid, body, grown mine, valid, same⟩
  have tasks : (state'.value.tasks.map (·.id)).Nodup ∧
      (∀ task ∈ state'.value.tasks, task.id ∈ state'.value.used) ∧
        ∀ task ∈ state'.value.tasks, ∃ pid body, (state'.calls pid).op? = some (.create body) ∧
          body.Valid ∧ task = body.toTask task.id := by
    rcases value_step taken with same | ⟨pid, op, id, res, mine, applied⟩
    · rw [same]
      exact ⟨inventory.nodup, inventory.used, fun task there => asked there⟩
    · obtain ⟨nodup, used, origin⟩ := inventory.apply mine applied
      refine ⟨nodup, used, fun task there => ?_⟩
      rcases origin task there with before | ⟨body, rfl, valid, same⟩
      · exact asked before
      · exact ⟨pid, body, grown mine, valid, same⟩
  refine ⟨tasks.1, tasks.2.1, tasks.2.2, fun pid body task found => ?_,
    fun pid taskId found => ?_⟩
  · rcases found?_step taken found with before | ⟨id, applied⟩
    · obtain ⟨made, there | ⟨other, asks⟩⟩ := inventory.created pid body task before
      · refine ⟨made, ?_⟩
        rcases value_step taken with same | ⟨other, op, id, res, mine, applied⟩
        · rw [same]
          exact .inl there
        · by_cases deletes : op = .delete task.id.toString
          · exact .inr ⟨other, deletes ▸ grown mine⟩
          · exact .inl (apply_keeps there deletes applied)
      · exact ⟨made, .inr ⟨other, grown asks⟩⟩
    · obtain ⟨_, _, stored, told⟩ := apply_create applied
      cases told
      rw [stored]
      exact ⟨rfl, .inl (List.mem_append_right _ (List.mem_singleton_self _))⟩
  · rcases found?_step taken found with before | ⟨id, applied⟩
    · obtain ⟨gone, used, named, absent⟩ := inventory.deleted pid taskId before
      refine ⟨gone, ?_, named, ?_⟩
      all_goals
        rcases value_step taken with same | ⟨other, op, id, res, mine, applied⟩
      · exact same ▸ used
      · exact (apply_gone used absent applied).1
      · exact same ▸ absent
      · exact (apply_gone used absent applied).2
    · obtain ⟨⟨task, there, named⟩, _, stored⟩ := apply_delete applied
      rw [stored]
      refine ⟨task.id, inventory.used task there, named, fun still => ?_⟩
      obtain ⟨other, left, same⟩ := List.mem_map.mp still
      have different := of_decide_eq_true (List.mem_filter.mp left).2
      exact different (same ▸ named)

theorem inventory_of_path {state : StoreState}
    (path : Path taskStore.step Always (.initial {}) state) : Inventory state :=
  path.invariant .initial fun _ _ _ _ inventory taken => inventory.step taken

/-! ## Listings of the store -/

/-- What a call lists that starts after the first state and returns before the last. -/
structure Shows (first last : StoreState) (userId : String) (tasks : List Task) : Prop where
  created : ∀ pid body task, (first.calls pid).found? = some (.create body, .created task) →
    body.userId = userId → task ∈ tasks ∨
      ∃ other, (last.calls other).op? = some (.delete task.id.toString)
  deleted : ∀ pid taskId, (first.calls pid).found? = some (.delete taskId, .deleted) →
    ∀ task ∈ tasks, task.id.toString ≠ taskId
  own : ∀ task ∈ tasks, task.userId = userId ∧ ∃ pid body,
    (last.calls pid).op? = some (.create body) ∧ body.Valid ∧ task = body.toTask task.id
  nodup : (tasks.map (·.id)).Nodup

theorem shows_of_path {first last : StoreState} {reader : ℕ} {userId : String} {res : StoreRes}
    (reached : Path taskStore.step Always (.initial {}) first)
    (path : Path taskStore.step Always first last) (idle : first.calls reader = .idle)
    (found : (last.calls reader).found? = some (.list userId, res)) :
    ∃ tasks, res = .listed tasks ∧ Shows first last userId tasks := by
  obtain ⟨before, after, id, earlier, applied, effect, later⟩ := linearized path idle found
  obtain ⟨_, rfl⟩ := apply_list applied
  have inventory := inventory_of_path (reached.trans earlier)
  have started := inventory_of_path reached
  refine ⟨_, rfl, fun pid body task made mine => ?_, fun pid taskId gone task listed => ?_,
    fun task listed => ?_, inventory.nodup.sublist (List.filter_sublist.map _)⟩
  · obtain ⟨same, there | ⟨other, asks⟩⟩ := started.created pid body task made
    · rcases value_path (P := fun store => task ∈ store.tasks)
        (Q := fun op => op ≠ .delete task.id.toString) earlier there
        (fun _ _ _ _ _ allowed before applied => apply_keeps before allowed applied) with
        there | ⟨other, op, asks, deletes⟩
      · refine .inl (List.mem_filter.mpr ⟨there, decide_eq_true ?_⟩)
        rw [same, ← mine]
        rfl
      · rw [not_not.mp deletes] at asks
        exact .inr ⟨other, op?_path (effect.trans later) asks⟩
    · exact .inr ⟨other, op?_path path asks⟩
  · obtain ⟨former, used, rfl, absent⟩ := started.deleted pid taskId gone
    have still := value_path (Q := fun _ => True)
      (P := fun store => former ∈ store.used ∧ former ∉ store.tasks.map (·.id)) earlier
      ⟨used, absent⟩ fun _ _ _ _ _ _ before applied => apply_gone before.1 before.2 applied
    rcases still with ⟨_, absent⟩ | ⟨_, _, _, never⟩
    · intro same
      refine absent (List.mem_map.mpr ⟨task, (List.mem_filter.mp listed).1, ?_⟩)
      exact ObjectId.toString_injective same
    · exact absurd trivial never
  · obtain ⟨there, mine⟩ := List.mem_filter.mp listed
    obtain ⟨pid, body, asks, valid, same⟩ := inventory.asked task there
    exact ⟨of_decide_eq_true mine, pid, body, op?_path (effect.trans later) asks, valid, same⟩

/-! ## Listings of the service -/

/-- The call asks for a new task. -/
def Call.Creates (body : TaskBody) (call : Call) : Prop :=
  call = .create body ∨ call = .createSaga body

/-- What a call of `findAllByUserId` lists that starts after the first state and returns before
the last. -/
structure Consistent (before after : View) (userId : String) (tasks : List Task) : Prop where
  /-- What was created for the user is there, unless somebody asks to delete it. -/
  created : ∀ pid call body message task, Call.Creates body call → body.userId = userId →
    before.slots pid = .finished call (.ok (.created message task)) →
      task ∈ tasks ∨ ∃ other, (after.slots other).call? = some (.deleteSaga task.id.toString)
  /-- What was deleted is not. -/
  deleted : ∀ pid taskId success message,
    before.slots pid = .finished (.deleteSaga taskId) (.ok (.deleted success message)) →
      ∀ task ∈ tasks, task.id.toString ≠ taskId
  /-- It is the user's, and somebody asked for it. -/
  own : ∀ task ∈ tasks, task.userId = userId ∧ ∃ pid call body, Call.Creates body call ∧
    (after.slots pid).call? = some call ∧ body.Valid ∧ task = body.toTask task.id
  /-- Each task is listed once. -/
  nodup : (tasks.map (·.id)).Nodup

section Read

variable {view : View} {pid : ℕ} {call : Call}

theorem op?_storeImage : ((storeImage view).calls pid).op? =
    (view.slots pid).call?.bind Call.storeOp? := by
  simp only [storeImage]
  generalize view.slots pid = slot
  cases asks : slot.call?.bind Call.storeOp? with
  | none => simp only [storeStatus, asks, Option.elim_none, Status.op?]
  | some op =>
      simp only [storeStatus, asks, Option.elim_some]
      cases slot with
      | free => cases asks
      | running call pc =>
          simp only [Status.of]
          cases (view.world.sessions pid).storeRes? with
          | _ => rfl
      | finished call out =>
          simp only [Status.of]
          cases call.storeRes? out with
          | _ => rfl
      | crashed call => rfl

theorem found?_storeImage {out : Except Thrown Reply} {op : StoreOp} {res : StoreRes}
    (finished : view.slots pid = .finished call out) (asks : call.storeOp? = some op)
    (told : call.storeRes? out = some res) :
    ((storeImage view).calls pid).found? = some (op, res) := by
  simp only [storeImage, finished, storeStatus, Slot.call?, Option.bind_some, asks,
    Option.elim_some, Status.of, told, Status.found?]

theorem call?_of_op? {op : StoreOp} (asks : ((storeImage view).calls pid).op? = some op) :
    ∃ call, (view.slots pid).call? = some call ∧ call.storeOp? = some op := by
  rw [op?_storeImage] at asks
  exact Option.bind_eq_some_iff.mp asks

end Read

/-- What the listing of the store shows is what the listing of the service shows. -/
theorem Shows.consistent {before after : View} {userId : String} {tasks : List Task}
    (shows : Shows (storeImage before) (storeImage after) userId tasks) :
    Consistent before after userId tasks where
  created pid call body message task creates mine finished := by
    have found : ((storeImage before).calls pid).found? = some (.create body, .created task) := by
      rcases creates with rfl | rfl
      · exact found?_storeImage finished rfl rfl
      · exact found?_storeImage finished rfl rfl
    refine (shows.created pid body task found mine).imp_right fun ⟨other, asks⟩ => ⟨other, ?_⟩
    obtain ⟨call, called, same⟩ := call?_of_op? asks
    cases call with
    | deleteSaga taskId =>
        cases same
        exact called
    | _ => cases same
  deleted pid taskId success message finished :=
    shows.deleted pid taskId (found?_storeImage finished rfl rfl)
  own task listed := by
    obtain ⟨mine, pid, body, asks, valid, made⟩ := shows.own task listed
    obtain ⟨call, called, same⟩ := call?_of_op? asks
    refine ⟨mine, pid, call, body, ?_, called, valid, made⟩
    cases call with
    | create body' =>
        cases same
        exact .inl rfl
    | createSaga body' =>
        cases same
        exact .inr rfl
    | _ => cases same
  nodup := shows.nodup

/-- **Listings are consistent.** Whatever the calls interleave, fail and crash: a call of
`findAllByUserId` lists every task that was created for the user before it started and that nobody
asks to delete, no task that was deleted before it started, no task of another user, none that
nobody asked for, and none twice. -/
theorem listing_consistent {before after : State} {reader : ℕ} {userId message : String}
    {tasks : List Task} (reached : Runs Always (.initial {}) before)
    (ran : Runs Always before after) (free : before.slots reader = .free)
    (listed : after.slots reader =
      .finished (.findAllByUserId userId) (.ok (.listed message tasks))) :
    Consistent (before.observe programs) (after.observe programs) userId tasks := by
  have start : storeImage (.initial {} : State) = .initial {} := by
    have unused : ({} : World).store = {} := by
      simp only [Ledger.store, List.not_mem_nil, false_and, exists_false, or_self, Store.mk.injEq,
        true_and]
      rfl
    simp only [storeImage, Pool.initial, unused]
    rfl
  have earlier := tasks_atomic .refl reached
  have path := tasks_atomic reached ran
  rw [start, ← storeImage_observe programs before] at earlier
  rw [← storeImage_observe programs before, ← storeImage_observe programs after] at path
  have idle : (storeImage (before.observe programs)).calls reader = .idle := by
    simp only [storeImage, Pool.observe_slots, free]
    rfl
  have finished : (after.observe programs).slots reader =
      .finished (.findAllByUserId userId) (.ok (.listed message tasks)) := by
    rw [Pool.observe_slots, listed]
    rfl
  obtain ⟨tasks', same, shows⟩ :=
    shows_of_path earlier path idle (found?_storeImage finished rfl rfl)
  cases same
  exact shows.consistent

namespace Sample

def secondId : ObjectId := ⟨"65f0a1b2c3d4e5f6a7b8c9d2", rfl⟩

/-- A task is created by `create`; another by `createSaga`, and deleted. -/
def settled : List Happening :=
  created ++ [.call 1 (.createSaga body), .step 1 ⟨.resolved, secondId⟩,
    .call 2 (.deleteSaga secondId.toString), .step 2 ⟨.resolved, taskId⟩]

/-- A listing, while a third call of `create` crashes before its commit. -/
def listing : List Happening :=
  [.call 4 (.create body), .call 3 (.findAllByUserId body.userId), resolves 4, .crash 4 none,
    resolves 3]

/-- What a call has replied. -/
def replied (state : State) (pid : ℕ) : Option (Call × Reply) :=
  match state.slots pid with
  | .finished call (.ok reply) => some (call, reply)
  | _ => none

theorem finished_of_replied {state : State} {pid : ℕ} {call : Call} {reply : Reply}
    (replies : replied state pid = some (call, reply)) :
    state.slots pid = .finished call (.ok reply) := by
  simp only [replied] at replies
  split at replies
  · rename_i finished
    cases replies
    exact finished
  · cases replies

end Sample

/-- The theorem at a listing that shows the one of two tasks that was not deleted. -/
theorem listing_consistent_settled :
    ∃ before ∈ run step (.initial {}) Sample.settled,
      ∃ after ∈ run step before Sample.listing,
        Consistent (before.observe programs) (after.observe programs) Sample.body.userId
          [Sample.body.toTask Sample.taskId] := by
  obtain ⟨before, reached, after, ran, called, replies⟩ :
      ∃ before ∈ run step (.initial {}) Sample.settled,
        ∃ after ∈ run step before Sample.listing,
          (before.slots 3).call? = none ∧ Sample.replied after 3 =
            some (.findAllByUserId Sample.body.userId,
              .listed "Tasks fetched successfully" [Sample.body.toTask Sample.taskId]) := by
    decide +kernel
  have free : before.slots 3 = .free := by
    cases slot : before.slots 3 with
    | free => rfl
    | _ => cases (congrArg Slot.call? slot).symm.trans called
  exact ⟨before, reached, after, ran, listing_consistent (.of_run reached .always)
    (.of_run ran .always) free (Sample.finished_of_replied replies)⟩

end WorkflowHub.TaskService
