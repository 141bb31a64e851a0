import WorkflowHub.Processes.Assertions
import WorkflowHub.RabbitMq.System
import Mathlib.Data.List.Pairwise

/-!
# The retry topology

However many runs of the setup interleave and fail: the broker holds nothing but what a run
declares, and all of it once one run has completed (`holds_iff`). So it does not matter which
one, and messages go where the table of queues sends them (`topology_routes`).
-/

set_option autoImplicit false

namespace WorkflowHub.RabbitMq

open Processes Amqp

/-! ## What is declared -/

section Declared

variable {table : List Triplet} {service : Triplet}

theorem mem_declarations {declaration : Declaration} : declaration ∈ declarations table ↔
    (∃ name ∈ EXCHANGES.values, declaration = .exchange name ⟨"direct", true⟩) ∨
      ∃ service ∈ table, declaration ∈ service.declarations := by
  simp only [declarations, List.mem_append, List.mem_map, List.mem_flatMap, eq_comm]

theorem mem_of_service (there : service ∈ table) {declaration : Declaration}
    (own : declaration ∈ service.declarations) : declaration ∈ declarations table :=
  mem_declarations.mpr (.inr ⟨service, there, own⟩)

theorem exchange_mem {name : String} (named : name ∈ EXCHANGES.values) :
    .exchange name ⟨"direct", true⟩ ∈ declarations table :=
  mem_declarations.mpr (.inl ⟨name, named, rfl⟩)

/-- The bindings of an exchange. -/
theorem binding_mem {binding : Binding} : .binding binding ∈ declarations table ↔
    ∃ service ∈ table,
      binding = ⟨service.DLQ, EXCHANGES.DLQ, service.DLQ⟩ ∨
      binding = ⟨service.RETRY, EXCHANGES.RETRY, service.RETRY⟩ ∨
      binding = ⟨service.MAIN, EXCHANGES.NOTIFY, service.MAIN⟩ := by
  simp [mem_declarations, Triplet.declarations]

end Declared

/-! ## What the broker holds -/

/-- What a run has yet to declare. -/
def Pc.left (table : List Triplet) : Pc → List Declaration
  | connecting _ => declarations table
  | waiting _ => declarations table
  | creatingChannel => declarations table
  | declaring declaration rest => declaration :: rest
  | closingChannel => []
  | closingConnection => []

/-- The broker holds nothing but what the runs declare, and all of it that a run has behind it. -/
def declared (table : List Triplet) : Assertions Broker Unit Pc (Except Thrown Logged) where
  Global broker := ∀ declaration, broker.Holds declaration → declaration ∈ declarations table
  Local broker _ slot :=
    match slot with
    | .running _ pc => pc.left table ⊆ declarations table ∧
        ∀ declaration ∈ declarations table,
          broker.Holds declaration ∨ declaration ∈ pc.left table
    | .finished _ (.ok logged) => logged = completed →
        ∀ declaration ∈ declarations table, broker.Holds declaration
    | _ => True

section Steps

variable {table : List Triplet} {broker broker' : Broker} {pid : ℕ} {call : Unit} {pc : Pc}
  {op : Op} {outcome : Outcome}

/-- An operation declares what it is about, or changes nothing. It does not resolve without. -/
theorem exec_cases {reply : Except Thrown op.Value}
    (answered : exec broker op outcome = some (broker', reply)) :
    (broker' = broker ∧ ∀ declaration value, op = .declare declaration → reply ≠ .ok value) ∨
      ∃ declaration, op = .declare declaration ∧ broker.declare declaration = some broker' := by
  cases op with
  | declare declaration =>
      rcases respond_cases answered with ⟨same, error, _, rejected⟩ | ⟨succeeds, same, _⟩
      · refine .inl ⟨same, fun _ _ _ resolved => ?_⟩
        rw [rejected] at resolved
        cases resolved
      · obtain ⟨after, declared⟩ := Option.isSome_iff_exists.mp succeeds
        refine .inr ⟨declaration, rfl, ?_⟩
        rw [same, declared]
        rfl
  | setTimeout milliseconds =>
      cases outcome with
      | resolved =>
          cases answered
          exact .inl ⟨rfl, fun _ _ other => by cases other⟩
      | _ => cases answered
  | _ =>
      rcases respond_cases answered with ⟨same, _⟩ | ⟨_, same, _⟩
      · exact .inl ⟨same, fun _ _ other => by cases other⟩
      · exact .inl ⟨same, fun _ _ other => by cases other⟩

/-- What the broker holds it keeps, and it gets nothing but what is declared. -/
theorem holds_exec {reply : Except Thrown op.Value}
    (answered : exec broker op outcome = some (broker', reply)) (declaration : Declaration) :
    (broker.Holds declaration → broker'.Holds declaration) ∧
      (broker'.Holds declaration → broker.Holds declaration ∨ op = .declare declaration) := by
  rcases exec_cases answered with ⟨rfl, _⟩ | ⟨own, rfl, succeeds⟩
  · exact ⟨id, .inl⟩
  · rw [Broker.holds_declare succeeds]
    refine ⟨.inl, Or.imp_right ?_⟩
    rintro rfl
    rfl

/-- What a run declares is in the table. -/
theorem exec_global {reply : Except Thrown pc.op.Value} (holds : (declared table).Global broker)
    (within : (declared table).Local broker pid (.running call pc))
    (answered : exec broker pc.op outcome = some (broker', reply)) :
    (declared table).Global broker' := by
  intro declaration held
  rcases (holds_exec answered declaration).2 held with already | own
  · exact holds declaration already
  · cases pc with
    | declaring declaration' rest =>
        cases own
        exact within.1 List.mem_cons_self
    | _ => cases own

/-- A run that goes on declaring. -/
theorem declare_local {rest : List Declaration} (within : rest ⊆ declarations table)
    (others : ∀ declaration ∈ declarations table, broker.Holds declaration ∨ declaration ∈ rest) :
    (declared table).Local broker pid (Pool.land site broker pid call (Led.declare rest)).2 := by
  cases rest with
  | nil => exact ⟨within, others⟩
  | cons declaration rest => exact ⟨within, others⟩

theorem failed_local (error : Thrown) :
    (declared table).Local broker pid (Pool.land site broker pid call (Led.failed error)).2 :=
  fun same => by cases same

/-- A run that gets a reply has declared what it was about. -/
theorem next_local {reply : Except Thrown pc.op.Value}
    (holds : (declared table).Local broker pid (.running call pc))
    (answered : exec broker pc.op outcome = some (broker', reply)) :
    (declared table).Local broker' pid
      (Pool.land site broker' pid call (Led.next table pc reply)).2 := by
  have kept : ∀ declaration ∈ declarations table,
      broker'.Holds declaration ∨ declaration ∈ pc.left table := by
    intro declaration there
    exact (holds.2 declaration there).imp_left (holds_exec answered declaration).1
  cases pc with
  | connecting retries =>
      cases reply with
      | ok _ => exact ⟨List.Subset.refl _, fun _ there => .inr there⟩
      | error error =>
          rcases retries with _ | _ | retries
          · exact ⟨List.Subset.refl _, fun _ there => .inr there⟩
          · exact failed_local error
          · exact ⟨List.Subset.refl _, fun _ there => .inr there⟩
  | waiting retries =>
      cases reply with
      | ok _ => exact ⟨List.Subset.refl _, fun _ there => .inr there⟩
      | error error => exact failed_local error
  | creatingChannel =>
      cases reply with
      | ok _ => exact declare_local (List.Subset.refl _) fun _ there => .inr there
      | error error => exact failed_local error
  | declaring declaration rest =>
      cases reply with
      | error error => exact failed_local error
      | ok value =>
          rcases exec_cases answered with ⟨_, unresolved⟩ | ⟨own, same, succeeds⟩
          · exact absurd rfl (unresolved declaration value rfl)
          · cases same
            refine declare_local (List.subset_of_cons_subset holds.1) fun other there => ?_
            rcases kept other there with already | left
            · exact .inl already
            · rcases List.mem_cons.mp left with rfl | left
              · exact .inl ((Broker.holds_declare succeeds _).mpr (.inr rfl))
              · exact .inr left
  | closingChannel =>
      cases reply with
      | ok _ => exact ⟨holds.1, kept⟩
      | error error => exact failed_local error
  | closingConnection =>
      cases reply with
      | ok _ => exact fun _ other there => (kept other there).resolve_right (by simp [Pc.left])
      | error error => exact failed_local error

/-- What the broker keeps, other runs have behind them still. -/
theorem local_mono {slot : Slot Unit Pc (Except Thrown Logged)}
    (keeps : ∀ declaration, broker.Holds declaration → broker'.Holds declaration)
    (holds : (declared table).Local broker pid slot) :
    (declared table).Local broker' pid slot := by
  cases slot with
  | running call pc =>
      exact ⟨holds.1, fun declaration there => (holds.2 declaration there).imp_left (keeps _)⟩
  | finished call out =>
      cases out with
      | ok logged => exact fun done declaration there => keeps _ (holds done declaration there)
      | error error => trivial
  | _ => trivial

end Steps

theorem declared_valid (table : List Triplet) :
    (declared table).Valid site (flow table) Always where
  call := by
    intro machine pid call broker holds _ _ started
    cases started
    refine ⟨holds.globally, ⟨List.Subset.refl _, fun _ there => .inr there⟩, fun _ _ before => before⟩
  step := by
    intro machine pid outcome call pc broker reply holds _ running answered
    have before : (declared table).Local machine.world pid (.running call pc) :=
      running ▸ holds.locally pid
    refine .of_world (Pool.land_world _ (fun _ => rfl) (fun _ => rfl) _)
      (exec_global holds.globally before answered) (next_local before answered) ?_
    exact fun other _ holds => local_mono (fun own => (holds_exec answered own).1) holds
  crashPending := by
    intro machine pid call pc holds _ _
    exact ⟨holds.globally, trivial, fun _ _ before => before⟩
  crashPerformed := by
    intro machine pid outcome call pc broker reply holds _ running answered
    have before : (declared table).Local machine.world pid (.running call pc) :=
      running ▸ holds.locally pid
    refine ⟨exec_global holds.globally before answered, trivial, ?_⟩
    exact fun other _ holds => local_mono (fun own => (holds_exec answered own).1) holds
  env := by
    intro machine event broker _ _ _
    cases event

section Completion

variable {table : List Triplet} {state : State} {pid : ℕ}

theorem completed_eq {machine : Pool Broker Unit Pc (Except Thrown Logged)}
    (same : machine.observe (flow table) = state.observe (programs table)) (pid : ℕ) :
    Completed (machine.slots pid) = Completed (state.slots pid) := by
  rw [← completed_observe (flow table).op (machine.slots pid), ← Pool.observe_slots, same,
    Pool.observe_slots, completed_observe]

/-- **Once a run has completed, the broker holds what is declared,** and nothing else. -/
theorem holds_iff (ran : Runs table Always (.initial {}) state)
    (done : Completed (state.slots pid) = true) (declaration : Declaration) :
    state.world.Holds declaration ↔ declaration ∈ declarations table := by
  obtain ⟨machine, ran, same⟩ := (implements table).path ran
  have holds : (declared table).Holds machine := by
    refine (declared_valid table).path (ran.mono fun _ _ _ => trivial) ⟨?_, fun _ => trivial⟩
    exact fun declaration held => absurd held Broker.not_holds_empty
  have world : machine.world = state.world := congrArg Pool.world same
  have done : Completed (machine.slots pid) = true := (completed_eq same pid).trans done
  rw [← world]
  refine ⟨holds.globally declaration, fun there => ?_⟩
  have local' := holds.locally pid
  cases slot : machine.slots pid with
  | finished call out =>
      rw [slot] at done local'
      cases out with
      | ok logged => exact local' (of_decide_eq_true done) declaration there
      | error error => cases done
  | _ =>
      rw [slot] at done
      cases done

end Completion

/-! ## Routes -/

/-- Where the messages of a service go. -/
structure Routes (broker : Broker) (service : Triplet) : Prop where
  /-- What is rejected in the main queue waits in the retry queue until its time is over. -/
  rejected : ∀ routingKey, broker.deadLetter service.MAIN routingKey = {service.RETRY}
  expires : ∃ options, broker.queues service.RETRY = some options ∧ options.messageTtl = some 15000
  expired : ∀ routingKey, broker.deadLetter service.RETRY routingKey = {service.MAIN}
  failed : broker.route EXCHANGES.DLQ service.DLQ = {service.DLQ}
  /-- In the last queue nothing expires, and what is rejected goes nowhere. -/
  terminal : ∃ options, broker.queues service.DLQ = some options ∧ options.messageTtl = none ∧
    ∀ routingKey, broker.deadLetter service.DLQ routingKey = ∅

section Routing

variable {table : List Triplet} {broker : Broker} {service : Triplet}

/-- Each exchange routes by the name of the queue. -/
theorem route_eq {exchange : String} (queue : Triplet → String)
    (holds : ∀ declaration, broker.Holds declaration ↔ declaration ∈ declarations table)
    (named : exchange ∈ EXCHANGES.values)
    (bound : ∀ name key, Declaration.binding ⟨name, exchange, key⟩ ∈ declarations table ↔
      ∃ service ∈ table, name = queue service ∧ key = queue service)
    (there : service ∈ table) : broker.route exchange (queue service) = {queue service} := by
  have direct : broker.exchanges exchange = some ⟨"direct", true⟩ :=
    (holds (.exchange exchange ⟨"direct", true⟩)).mpr (exchange_mem named)
  ext name
  rw [Broker.mem_route direct, Finset.mem_singleton]
  have binding := holds (.binding ⟨name, exchange, queue service⟩)
  refine binding.trans ((bound _ _).trans ⟨?_, ?_⟩)
  · rintro ⟨other, _, rfl, same⟩
    exact same.symm
  · rintro rfl
    exact ⟨service, there, rfl, rfl⟩

/-- A queue that dead-letters to an exchange. -/
theorem deadLetter_eq {name exchange key : String} {options : QueueOptions}
    (declared : broker.queues name = some options)
    (toExchange : options.deadLetterExchange = some exchange)
    (withKey : options.deadLetterRoutingKey = some key) (routingKey : String) :
    broker.deadLetter name routingKey = broker.route exchange key := by
  obtain ⟨durable, deadLetterExchange, deadLetterRoutingKey, messageTtl⟩ := options
  subst toExchange
  subst withKey
  simp only [Broker.deadLetter, declared, Option.getD_some]

theorem routes (holds : ∀ declaration, broker.Holds declaration ↔ declaration ∈ declarations table)
    (there : service ∈ table) : Routes broker service := by
  have main : broker.queues service.MAIN = some (mainOptions service.RETRY) :=
    (holds (.queue service.MAIN _)).mpr (mem_of_service there (by simp [Triplet.declarations]))
  have retry : broker.queues service.RETRY = some (retryOptions service.MAIN) :=
    (holds (.queue service.RETRY _)).mpr (mem_of_service there (by simp [Triplet.declarations]))
  have dlq : broker.queues service.DLQ = some { durable := true } :=
    (holds (.queue service.DLQ _)).mpr (mem_of_service there (by simp [Triplet.declarations]))
  refine ⟨fun routingKey => ?_, ⟨_, retry, rfl⟩, fun routingKey => ?_, ?_, ⟨_, dlq, rfl, ?_⟩⟩
  · rw [deadLetter_eq main rfl rfl]
    refine route_eq Triplet.RETRY holds (by decide) ?_ there
    simp [binding_mem, EXCHANGES.DLQ, EXCHANGES.RETRY, EXCHANGES.NOTIFY]
  · rw [deadLetter_eq retry rfl rfl]
    refine route_eq Triplet.MAIN holds (by decide) ?_ there
    simp [binding_mem, EXCHANGES.DLQ, EXCHANGES.RETRY, EXCHANGES.NOTIFY]
  · refine route_eq Triplet.DLQ holds (by decide) ?_ there
    simp [binding_mem, EXCHANGES.DLQ, EXCHANGES.RETRY, EXCHANGES.NOTIFY]
  · intro routingKey
    simp only [Broker.deadLetter, dlq]

end Routing

/-! ## A single run -/

def Triplet.names (service : Triplet) : List String := [service.MAIN, service.RETRY, service.DLQ]

/-- The names of the queues are pairwise distinct. -/
def Distinct (table : List Triplet) : Prop := (table.flatMap Triplet.names).Nodup

instance (table : List Triplet) : Decidable (Distinct table) := by
  unfold Distinct
  infer_instance

section Single

variable {table : List Triplet}

/-- A name belongs to one service. -/
theorem Distinct.service_eq (distinct : Distinct table) {service service' : Triplet}
    (there : service ∈ table) (there' : service' ∈ table) {name : String}
    (named : name ∈ service.names) (named' : name ∈ service'.names) : service = service' := by
  by_contra different
  have apart := (List.nodup_flatMap.mp distinct).2
  have symm : Std.Symm (Function.onFun List.Disjoint Triplet.names) :=
    ⟨fun _ _ disjoint => disjoint.symm⟩
  exact apart.forall there there' different named named'

/-- A queue is declared with the same options always. -/
theorem Distinct.options_eq (distinct : Distinct table) {name : String}
    {options options' : QueueOptions} (there : .queue name options ∈ declarations table)
    (there' : .queue name options' ∈ declarations table) : options = options' := by
  have named : ∀ {options : QueueOptions} {service : Triplet},
      .queue name options ∈ service.declarations → name ∈ service.names := by
    intro options service own
    simp only [Triplet.declarations, List.mem_cons, Declaration.queue.injEq, reduceCtorEq,
      List.not_mem_nil, or_false, false_or] at own
    rcases own with ⟨rfl, _⟩ | ⟨rfl, _⟩ | ⟨rfl, _⟩
    · simp [Triplet.names]
    · simp [Triplet.names]
    · simp [Triplet.names]
  rcases mem_declarations.mp there with ⟨_, _, other⟩ | ⟨service, mine, own⟩
  · cases other
  rcases mem_declarations.mp there' with ⟨_, _, other⟩ | ⟨service', mine', own'⟩
  · cases other
  obtain rfl := distinct.service_eq mine mine' (named own) (named own')
  have apart : service.names.Nodup := (List.nodup_flatMap.mp distinct).1 service mine
  simp only [Triplet.names, List.nodup_cons, List.mem_cons, not_or] at apart
  simp only [Triplet.declarations, List.mem_cons, Declaration.queue.injEq, reduceCtorEq,
    List.not_mem_nil, or_false, false_or] at own own'
  grind

theorem exchange_eq {name : String} {exchange : Exchange}
    (there : .exchange name exchange ∈ declarations table) : exchange = ⟨"direct", true⟩ := by
  rcases mem_declarations.mp there with ⟨_, _, same⟩ | ⟨service, _, own⟩
  · cases same
    rfl
  · simp [Triplet.declarations] at own

/-- What is bound was declared before. -/
def Rooted (seen : List Declaration) : Declaration → Prop
  | .binding binding => (∃ exchange, .exchange binding.exchange exchange ∈ seen) ∧
      ∃ options, .queue binding.queue options ∈ seen
  | _ => True

def Grounded : List Declaration → List Declaration → Prop
  | _, [] => True
  | seen, declaration :: rest => Rooted seen declaration ∧ Grounded (declaration :: seen) rest

/-- A queue is bound right after it is declared. -/
theorem rooted_binding {seen : List Declaration} {queue exchange routingKey : String}
    {options : QueueOptions} (there : .exchange exchange ⟨"direct", true⟩ ∈ seen) :
    Rooted (.queue queue options :: seen) (.binding ⟨queue, exchange, routingKey⟩) :=
  ⟨⟨_, List.mem_cons_of_mem _ there⟩, _, List.mem_cons_self⟩

theorem grounded_services : ∀ (services : List Triplet) (seen : List Declaration),
    (∀ name ∈ EXCHANGES.values, .exchange name ⟨"direct", true⟩ ∈ seen) →
      Grounded seen (services.flatMap Triplet.declarations)
  | [], _, _ => trivial
  | service :: services, seen, exchanges => by
      have dlq := exchanges EXCHANGES.DLQ (by decide)
      have retry := exchanges EXCHANGES.RETRY (by decide)
      have notify := exchanges EXCHANGES.NOTIFY (by decide)
      refine ⟨trivial, rooted_binding dlq, trivial, rooted_binding ?_, trivial, rooted_binding ?_,
        grounded_services services _ fun name named => ?_⟩
      · simp [retry]
      · simp [notify]
      · simp [exchanges name named]

theorem grounded (table : List Triplet) : Grounded [] (declarations table) := by
  refine ⟨trivial, trivial, trivial, grounded_services table _ ?_⟩
  decide

/-- A declaration succeeds if the broker holds what was declared before. -/
theorem ready (distinct : Distinct table) {broker : Broker} {seen : List Declaration}
    {declaration : Declaration}
    (within : ∀ other, broker.Holds other → other ∈ declarations table)
    (held : ∀ other ∈ seen, broker.Holds other) (there : declaration ∈ declarations table)
    (rooted : Rooted seen declaration) : broker.Ready declaration := by
  cases declaration with
  | exchange name exchange =>
      intro other here
      rw [exchange_eq (within _ here), exchange_eq there]
  | queue name options =>
      intro other here
      exact distinct.options_eq (within _ here) there
  | binding binding =>
      obtain ⟨⟨exchange, declared⟩, options, declared'⟩ := rooted
      exact ⟨⟨exchange, held _ declared⟩, options, held _ declared'⟩

/-- All that happens is about one run. -/
def Single (_ : View) (event : Happening) : Prop := event.pid? = some 0

abbrev Machine : Type := Pool Broker Unit Pc (Except Thrown Logged)

/-- The run is the only one. -/
def alone (broker : Broker) (slot : Slot Unit Pc (Except Thrown Logged)) : Machine :=
  ⟨broker, Function.update (fun _ => .free) 0 slot⟩

abbrev Proceeds (table : List Triplet) : Machine → Machine → Prop :=
  Path (Pool.step site (flow table)) fun machine event => Single (machine.observe (flow table)) event

/-- The run gets its reply. -/
theorem proceeds {broker broker' : Broker} {pc : Pc} {value : pc.op.Value}
    (answered : exec broker pc.op .resolved = some (broker', .ok value)) :
    Proceeds table (alone broker (.running () pc))
      (alone broker' (Pool.land site broker' 0 () (Led.next table pc (.ok value))).2) := by
  have running : (alone broker (.running () pc)).slots 0 = .running () pc := by
    simp only [alone, Function.update_self]
  have about : Single ((alone broker (.running () pc)).observe (flow table))
      (.step 0 .resolved) := rfl
  refine Path.single about ?_
  rw [(Pool.Stepped.step running answered).taken]
  simp only [Pool.settle, alone, Function.update_idem,
    Pool.land_world site (fun _ => rfl) fun _ => rfl]
  rfl

/-- All that is left is declared. -/
theorem declares (distinct : Distinct table) : ∀ (rest seen : List Declaration) (broker : Broker),
    Grounded seen rest → rest ⊆ declarations table →
    (∀ declaration, broker.Holds declaration → declaration ∈ declarations table) →
    (∀ declaration ∈ seen, broker.Holds declaration) →
      ∃ broker', Proceeds table
        (alone broker (Pool.land site broker 0 () (Led.declare rest)).2)
        (alone broker' (.running () .closingChannel))
  | [], _, broker, _, _, _, _ => ⟨broker, .refl⟩
  | declaration :: rest, seen, broker, rooted, within, only, held => by
      have there := within List.mem_cons_self
      obtain ⟨broker', succeeds⟩ :=
        Broker.exists_declare (ready distinct only held there rooted.1)
      have answered : exec broker (Pc.declaring declaration rest).op .resolved =
          some (broker', .ok ()) := by
        simp [exec, Pc.op, respond, succeeds]
      have after := Broker.holds_declare succeeds
      have only' : ∀ other, broker'.Holds other → other ∈ declarations table := by
        intro other holds
        rcases (after other).mp holds with already | rfl
        · exact only other already
        · exact there
      have held' : ∀ other ∈ declaration :: seen, broker'.Holds other := by
        intro other before
        rcases List.mem_cons.mp before with rfl | before
        · exact (after _).mpr (.inr rfl)
        · exact (after _).mpr (.inl (held other before))
      obtain ⟨last, ran⟩ := declares distinct rest (declaration :: seen) broker' rooted.2
        (List.subset_of_cons_subset within) only' held'
      exact ⟨last, (proceeds answered).trans ran⟩

/-- A run that nothing disturbs completes. -/
theorem exists_single (distinct : Distinct table) : ∃ state,
    Runs table Single (.initial {}) state ∧ Completed (state.slots 0) = true := by
  have enters : Proceeds table (.initial {}) (alone {} (.running () (.connecting 5))) :=
    have about : Single ((Pool.initial {} : Machine).observe (flow table)) (.call 0 ()) := rfl
    Path.single about rfl
  have connects : Proceeds table (alone {} (.running () (.connecting 5)))
      (alone {} (.running () .creatingChannel)) := proceeds rfl
  have creates : Proceeds table (alone {} (.running () .creatingChannel))
      (alone {} (Pool.land site {} 0 () (Led.declare (declarations table))).2) := proceeds rfl
  obtain ⟨broker, declared⟩ := declares distinct (declarations table) [] {} (grounded table)
    (List.Subset.refl _) (fun _ held => absurd held Broker.not_holds_empty)
    fun _ before => absurd before List.not_mem_nil
  have closes : Proceeds table (alone broker (.running () .closingChannel))
      (alone broker (.running () .closingConnection)) := proceeds rfl
  have completes : Proceeds table (alone broker (.running () .closingConnection))
      (alone broker (.finished () (.ok completed))) := proceeds rfl
  have ran := ((((enters.trans connects).trans creates).trans declared).trans closes).trans completes
  obtain ⟨state, ran, tracking⟩ := Pool.Tracking.traced (implements table) (.initial _) ran
  refine ⟨state, ran, ?_⟩
  rw [← completed_eq tracking.observe_eq]
  simp only [alone, Function.update_self]
  rfl

end Single

/-! ## The topology -/

/-- **The topology loses and misroutes nothing.** Any number of runs of the setup interleave, fail
and crash. Once one has completed, rejected messages of a service go to its retry queue and back
from there, what has failed for good goes to its last queue and stays there, and the broker is as a
single run leaves it. -/
theorem topology_routes {table : List Triplet} (distinct : Distinct table) {state : State} {pid : ℕ}
    (ran : Runs table Always (.initial {}) state) (done : Completed (state.slots pid) = true) :
    (∀ service ∈ table, Routes state.world service) ∧
      (∃ single, Runs table Single (.initial {}) single ∧ Completed (single.slots 0) = true) ∧
        ∀ single, Runs table Single (.initial {}) single → Completed (single.slots 0) = true →
          single.world = state.world := by
  have holds := holds_iff ran done
  refine ⟨fun service there => routes holds there, exists_single distinct, ?_⟩
  intro single ran' done'
  have holds' := holds_iff (ran'.mono fun _ _ _ => trivial) done'
  exact Broker.ext_holds fun declaration => (holds' declaration).trans (holds declaration).symm

namespace Sample

/-- A second service next to the one there is. -/
def twoServices : List Triplet :=
  QUEUES ++ [⟨"analytics_queue", "analytics_queue_retry", "analytics_queue_dlq"⟩]

/-- Two runs side by side. The first is cut short in the queues of the second service. -/
def interrupted : List Happening :=
  [.call 0 (), .step 0 .resolved, .call 1 ()] ++
    (List.replicate 11 [.step 0 .resolved, .step 1 .resolved]).flatten ++
    [.step 0 (.rejected (.error "IllegalOperationError" "Channel closed"))] ++
    List.replicate 8 (.step 1 .resolved)

end Sample

/-- The theorem at two runs for two services, one of which is cut short. -/
theorem topology_routes_interrupted :
    ∃ state ∈ run (step Sample.twoServices) (.initial {}) Sample.interrupted,
      Completed (state.slots 0) = false ∧
        ∀ service ∈ Sample.twoServices, Routes state.world service := by
  obtain ⟨state, ran, failed, done⟩ :
      ∃ state ∈ run (step Sample.twoServices) (.initial {}) Sample.interrupted,
        Completed (state.slots 0) = false ∧ Completed (state.slots 1) = true := by decide +kernel
  exact ⟨state, ran, failed, (topology_routes (by decide) (.of_run ran .always) done).1⟩

end WorkflowHub.RabbitMq
