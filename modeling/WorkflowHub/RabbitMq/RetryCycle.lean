import WorkflowHub.RabbitMq.Cluster

/-!
# The retry cycle

Messages are published to the main queue of a service, and its consumers take them from there. A
message that is rejected waits in the retry queue and comes back after 15 seconds. Once the
topology is set up, no message is lost or copied on its way, each one carries in its headers how
often it has come back, which `getRetryCount` reads, and none gets into the last queue
(`messages_accounted`). So nothing ends the cycle of a message but a consumer that accepts it
(`retries_without_end`).
-/

set_option autoImplicit false

namespace WorkflowHub.RabbitMq

open Processes Amqp

variable {α : Type}

/-! ## `getRetryCount` -/

/-- The headers of a message, with what `x-death` holds if it is an array. -/
structure Headers where
  xDeath : Option (List Death) := none
  deriving DecidableEq, Repr

def getRetryCount (headers : Option Headers) (retryQueueName : String) : ℕ :=
  match headers.bind (·.xDeath) with
  | some xDeath =>
      match xDeath.find? (·.queue = retryQueueName) with
      | some entry => entry.count
      | none => 0
  | none => 0

/-- The headers a consumer gets with a message. -/
def headersOf (message : Message α) : Headers where
  xDeath := if message.deaths = [] then none else some message.deaths

/-! ## Stages of the cycle -/

section Stages

variable {service : Triplet} {server server' : Server α} {waiting : Waiting α}

/-- The deaths of a message that was rejected this often and is in the main queue. -/
def mainDeaths (service : Triplet) : ℕ → List Death
  | 0 => []
  | count + 1 => [⟨service.RETRY, .expired, count + 1⟩, ⟨service.MAIN, .rejected, count + 1⟩]

/-- The deaths of a message that has come back this often and is in the retry queue again. -/
def retryDeaths (service : Triplet) : ℕ → List Death
  | 0 => [⟨service.MAIN, .rejected, 1⟩]
  | count + 1 => [⟨service.MAIN, .rejected, count + 2⟩, ⟨service.RETRY, .expired, count + 1⟩]

theorem recordDeath_main (distinct : service.MAIN ≠ service.RETRY) (count : ℕ) :
    recordDeath (mainDeaths service count) service.MAIN .rejected = retryDeaths service count := by
  cases count with
  | zero => rfl
  | succ count => simp [mainDeaths, retryDeaths, recordDeath, deathCount, distinct.symm]

theorem recordDeath_retry (distinct : service.MAIN ≠ service.RETRY) (count : ℕ) :
    recordDeath (retryDeaths service count) service.RETRY .expired =
      mainDeaths service (count + 1) := by
  cases count with
  | zero => simp [mainDeaths, retryDeaths, recordDeath, deathCount, distinct]
  | succ count => simp [mainDeaths, retryDeaths, recordDeath, deathCount, distinct]

/-- A message that comes back was rejected. -/
theorem not_cycles_mainDeaths (distinct : service.MAIN ≠ service.RETRY) (count : ℕ) :
    cycles (mainDeaths service (count + 1)) service.MAIN = false := by
  let back : Death := ⟨service.RETRY, .expired, count + 1⟩
  let last : Death := ⟨service.MAIN, .rejected, count + 1⟩
  have since : ∀ death ∈ [back], death.queue ≠ last.queue := by
    intro death there
    rw [List.mem_singleton.mp there]
    exact distinct.symm
  have rejected : cycles ([back] ++ last :: []) last.queue = false := not_cycles since rfl
  exact rejected

/-- Where a message is in the cycle of its service. -/
inductive InCycle (service : Triplet) (server : Server α) (waiting : Waiting α) : Prop where
  | main (queue : waiting.queue = service.MAIN)
      (deaths : waiting.message.deaths =
        mainDeaths service (server.rejected waiting.message.number))
      (expired : server.expired waiting.message.number = server.rejected waiting.message.number)
      (rested : ∀ time, (waiting.message.number, time) ∈ server.rejections →
        time + 15000 ≤ server.now)
  | retry {count : ℕ} (queue : waiting.queue = service.RETRY)
      (deaths : waiting.message.deaths = retryDeaths service count)
      (rejected : server.rejected waiting.message.number = count + 1)
      (expired : server.expired waiting.message.number = count)
      (before : ∀ time, (waiting.message.number, time) ∈ server.rejections → time ≤ waiting.since)

/-- What has happened to the message so far. -/
structure SameHistory (number : ℕ) (server server' : Server α) : Prop where
  rejected : server'.rejected number = server.rejected number
  expired : server'.expired number = server.expired number
  rejections : ∀ time, (number, time) ∈ server'.rejections → (number, time) ∈ server.rejections
  now : server.now ≤ server'.now

theorem InCycle.mono (inCycle : InCycle service server waiting)
    (same : SameHistory waiting.message.number server server') :
    InCycle service server' waiting := by
  cases inCycle with
  | main queue deaths expired rested =>
      refine .main queue ?_ ?_ fun time there => ?_
      · rw [deaths, same.rejected]
      · rw [same.expired, expired, same.rejected]
      · exact (rested time (same.rejections time there)).trans same.now
  | retry queue deaths rejected expired before =>
      refine .retry queue deaths (same.rejected.trans rejected) (same.expired.trans expired) ?_
      exact fun time there => before time (same.rejections time there)

variable [DecidableEq α] {broker : Broker} {delivery : Delivery α}

/-- What dies leaves the history of the other messages alone. -/
theorem sameHistory_reject {number : ℕ} (other : number ≠ delivery.taken.message.number) :
    SameHistory number server (server.reject broker delivery) where
  rejected := by
    simp [Server.rejected, Server.reject, Server.die, Server.arrive, Ne.symm other]
  expired := rfl
  rejections time there := by
    rcases List.mem_append.mp there with earlier | last
    · exact earlier
    · cases List.mem_singleton.mp last
      exact absurd rfl other
  now := Nat.le_refl _

theorem sameHistory_expire {number : ℕ} (other : number ≠ waiting.message.number) :
    SameHistory number server (server.expire broker waiting) where
  rejected := rfl
  expired := by
    simp [Server.expired, Server.expire, Server.die, Server.arrive, Ne.symm other]
  rejections _ there := there
  now := Nat.le_refl _

/-- A message of the main queue that is rejected goes on to the retry queue. -/
theorem InCycle.reject (distinct : service.MAIN ≠ service.RETRY)
    (inCycle : InCycle service server delivery.taken) (main : delivery.taken.queue = service.MAIN)
    (past : ∀ entry ∈ server.rejections, entry.2 ≤ server.now) :
    InCycle service (server.reject broker delivery) ⟨service.RETRY, server.now,
      broker.bury delivery.taken.queue .rejected delivery.taken.message⟩ := by
  cases inCycle with
  | main queue deaths expired rested =>
      refine .retry rfl ?_ ?_ expired fun time there => ?_
      · simp only [Broker.bury, main, deaths, recordDeath_main distinct]
      · simp [Server.rejected, Server.reject, Server.die, Server.arrive, Broker.bury]
      · rcases List.mem_append.mp there with earlier | last
        · exact past _ earlier
        · cases List.mem_singleton.mp last
          exact Nat.le_refl _
  | retry queue deaths rejected expired before => exact absurd (main.symm.trans queue) distinct

/-- A message of the retry queue whose time is over comes back to the main queue. -/
theorem InCycle.expire (distinct : service.MAIN ≠ service.RETRY)
    (inCycle : InCycle service server waiting) (retry : waiting.queue = service.RETRY)
    (passed : waiting.since + 15000 ≤ server.now) :
    InCycle service (server.expire broker waiting) ⟨service.MAIN, server.now,
      broker.bury waiting.queue .expired waiting.message⟩ := by
  cases inCycle with
  | main queue deaths expired rested => exact absurd (queue.symm.trans retry) distinct
  | @retry count queue deaths rejected expired before =>
      have rejected' : (server.expire broker waiting).rejected waiting.message.number = count + 1 :=
        rejected
      have expired' : (server.expire broker waiting).expired waiting.message.number = count + 1 := by
        simp only [Server.expired] at expired
        simp [Server.expired, Server.expire, Server.die, Server.arrive, expired]
      refine .main rfl ?_ (expired'.trans rejected'.symm) fun time there => ?_
      · simp only [Broker.bury, retry, deaths, recordDeath_retry distinct]
        rw [rejected']
      · have rested := before time there
        exact (Nat.add_le_add_right rested 15000).trans passed

end Stages

/-! ## A broker that is set up -/

section Brokers

variable {table : List Triplet} {broker : Broker} {service : Triplet}

theorem Distinct.main_ne_retry (distinct : Distinct table) (there : service ∈ table) :
    service.MAIN ≠ service.RETRY := by
  have apart : service.names.Nodup := (List.nodup_flatMap.mp distinct).1 service there
  simp only [Triplet.names, List.nodup_cons, List.mem_cons, not_or] at apart
  exact apart.1.1

theorem afterlife_rejected (routes : Routes broker service) (message : Message α) :
    broker.afterlife service.MAIN .rejected message = {service.RETRY} := by
  rw [Broker.afterlife, routes.rejected]
  exact Finset.filter_true_of_mem fun _ _ expired => by cases expired.1

theorem afterlife_expired (routes : Routes broker service)
    (distinct : service.MAIN ≠ service.RETRY) {message : Message α} {count : ℕ}
    (deaths : message.deaths = retryDeaths service count) :
    broker.afterlife service.RETRY .expired message = {service.MAIN} := by
  have back : (broker.bury service.RETRY .expired message).deaths =
      mainDeaths service (count + 1) := by
    simp only [Broker.bury, deaths, recordDeath_retry distinct]
  rw [Broker.afterlife, routes.expired, back]
  refine Finset.filter_true_of_mem fun target there again => ?_
  rw [Finset.mem_singleton.mp there, not_cycles_mainDeaths distinct] at again
  cases again.2

/-- A main queue holds a message as long as it takes. -/
theorem messageTtl_main (distinct : Distinct table) (there : service ∈ table)
    (within : ∀ declaration, broker.Holds declaration → declaration ∈ declarations table) :
    broker.messageTtl service.MAIN = none := by
  cases declared : broker.queues service.MAIN with
  | none => simp only [Broker.messageTtl, declared, Option.bind_none]
  | some options =>
      have main : .queue service.MAIN (mainOptions service.RETRY) ∈ declarations table :=
        mem_of_service there (by simp [Triplet.declarations])
      have holds : broker.Holds (.queue service.MAIN options) := declared
      rw [Broker.messageTtl, declared, distinct.options_eq (within _ holds) main]
      rfl

theorem messageTtl_retry (routes : Routes broker service) :
    broker.messageTtl service.RETRY = some 15000 := by
  obtain ⟨options, declared, ttl⟩ := routes.expires
  rw [Broker.messageTtl, declared]
  exact ttl

end Brokers

/-! ## Every step -/

/-- What the services do: they publish to the main queues, once these are declared, and consume
them. They reject messages once the topology is set up. -/
def Wired (table : List Triplet) (cluster : Cluster α) : Occurrence α → Prop
  | .connect service => service ∈ table
  | .message (.publish exchange routingKey _) => exchange = "" ∧
      ∃ service ∈ table, routingKey = service.MAIN ∧ (cluster.broker.queues service.MAIN).isSome
  | .message (.deliver _ waiting) => ∃ service ∈ table, waiting.queue = service.MAIN
  | .message (.reject _) => SetUp table cluster.broker
  | _ => True

instance decidableWired (table : List Triplet) (cluster : Cluster α) :
    (event : Occurrence α) → Decidable (Wired table cluster event)
  | .connect service => inferInstanceAs (Decidable (service ∈ table))
  | .message (.publish exchange routingKey _) =>
      inferInstanceAs (Decidable (exchange = "" ∧ ∃ service ∈ table,
        routingKey = service.MAIN ∧ (cluster.broker.queues service.MAIN).isSome))
  | .message (.deliver _ waiting) =>
      inferInstanceAs (Decidable (∃ service ∈ table, waiting.queue = service.MAIN))
  | .message (.reject _) => inferInstanceAs (Decidable (SetUp table cluster.broker))
  | .setup _ | .message (.elapse _) | .message (.acknowledge _) | .message (.disconnect _)
  | .message (.expire _) => isTrue trivial

theorem Wired.connects {table : List Triplet} {cluster : Cluster α} {event : Occurrence α}
    (wired : Wired table cluster event) : Connects table cluster event := by
  cases event with
  | connect service => exact wired
  | _ => trivial

/-- A run of the setup takes nothing back. -/
theorem setup_keeps {table : List Triplet} {setups setups' : State} {event : Happening}
    (taken : RabbitMq.step table setups event = some setups') {declaration : Declaration}
    (held : setups.world.Holds declaration) : setups'.world.Holds declaration := by
  cases Pool.stepped taken with
  | call free started =>
      cases started
      rw [Pool.settle_world, Pool.land_world site (fun _ => rfl) (fun _ => rfl)]
      exact held
  | step running answered =>
      rw [Pool.settle_world, Pool.land_world site (fun _ => rfl) (fun _ => rfl)]
      exact (holds_exec answered declaration).1 held
  | crashPending running => exact held
  | crashPerformed running answered => exact (holds_exec answered declaration).1 held
  | @env event broker moved => cases event

/-- Every message is at some stage of the cycle of a service. -/
structure Cycling (table : List Triplet) (cluster : Cluster α) : Prop where
  following : Following table cluster
  orderly : cluster.server.Orderly
  inCycle : ∀ waiting ∈ cluster.server.pending,
    ∃ service ∈ table, InCycle service cluster.server waiting
  held : ∀ delivery ∈ cluster.server.unacked,
    ∃ service ∈ table, delivery.taken.queue = service.MAIN
  setUp : cluster.server.rejections ≠ [] → SetUp table cluster.broker

namespace Cycling

variable {table : List Triplet} {cluster : Cluster α} {waiting : Waiting α} {delivery : Delivery α}
  {server : Server α}

theorem initial : Cycling table (Cluster.initial : Cluster α) where
  following := following_initial
  orderly := .initial
  inCycle _ there := absurd there (Multiset.notMem_zero _)
  held _ there := absurd there (Multiset.notMem_zero _)
  setUp unused := absurd rfl unused

theorem routes (cycling : Cycling table cluster) (setUp : SetUp table cluster.broker)
    {service : Triplet} (there : service ∈ table) : Routes cluster.broker service :=
  RabbitMq.routes (fun declaration => ⟨cycling.following.within, setUp declaration⟩) there

/-- A message in a queue of a service is in the cycle of that service. -/
theorem of_named (cycling : Cycling table cluster) (distinct : Distinct table)
    (there : waiting ∈ cluster.server.pending) {service : Triplet}
    (listed : service ∈ table) (named : waiting.queue ∈ service.names) :
    InCycle service cluster.server waiting := by
  obtain ⟨service', listed', inCycle⟩ := cycling.inCycle waiting there
  have named' : waiting.queue ∈ service'.names := by
    cases inCycle with
    | main queue => simp [queue, Triplet.names]
    | retry queue => simp [queue, Triplet.names]
  rw [distinct.service_eq listed listed' named named']
  exact inCycle

/-- A message in the hands of a consumer is from a main queue. -/
theorem taken (cycling : Cycling table cluster) (distinct : Distinct table)
    (there : delivery ∈ cluster.server.unacked) : ∃ service ∈ table,
      delivery.taken.queue = service.MAIN ∧ InCycle service cluster.server delivery.taken := by
  obtain ⟨service, mine, main⟩ := cycling.held delivery there
  have pending : delivery.taken ∈ cluster.server.pending :=
    Multiset.mem_add.mpr (.inr (Multiset.mem_map_of_mem _ there))
  exact ⟨service, mine, main, cycling.of_named distinct pending mine (by simp [main, Triplet.names])⟩

/-- A message whose time is over is in a retry queue. -/
theorem overdue (cycling : Cycling table cluster) (distinct : Distinct table)
    (there : waiting ∈ cluster.server.ready)
    (overdue : cluster.server.Overdue cluster.broker waiting) :
    ∃ service ∈ table, waiting.queue = service.RETRY ∧
      InCycle service cluster.server waiting ∧ waiting.since + 15000 ≤ cluster.server.now ∧
        cluster.broker.afterlife waiting.queue .expired waiting.message = {service.MAIN} := by
  obtain ⟨service, mine, inCycle⟩ :=
    cycling.inCycle waiting (Multiset.mem_add.mpr (.inl there))
  obtain ⟨ttl, stands, passed⟩ := overdue
  cases inCycle with
  | main queue deaths expired rested =>
      rw [queue, messageTtl_main distinct mine fun _ => cycling.following.within] at stands
      cases stands
  | retry queue deaths rejected expired before =>
      have died : cluster.server.rejections ≠ [] := by
        intro none
        rw [Server.rejected, none] at rejected
        cases rejected
      have routes := cycling.routes (cycling.setUp died) mine
      rw [queue, messageTtl_retry routes] at stands
      cases stands
      refine ⟨service, mine, queue, .retry queue deaths rejected expired before, passed, ?_⟩
      rw [queue]
      exact afterlife_expired routes (distinct.main_ne_retry mine) deaths

/-- Messages that are still there, and to which nothing new has happened. -/
theorem inCycle_kept (cycling : Cycling table cluster) {kept : Multiset (Waiting α)}
    (there : ∀ waiting ∈ kept, waiting ∈ cluster.server.pending)
    (same : ∀ waiting ∈ kept, SameHistory waiting.message.number cluster.server server) :
    ∀ waiting ∈ kept, ∃ service ∈ table, InCycle service server waiting := by
  intro waiting mine
  obtain ⟨service, listed, before⟩ := cycling.inCycle waiting (there waiting mine)
  exact ⟨service, listed, before.mono (same waiting mine)⟩

/-- Nothing has happened yet to a message that is new. -/
theorem inCycle_publish (cycling : Cycling table cluster) {service : Triplet}
    (listed : service ∈ table) (body : α)
    (reaches : cluster.broker.targets "" service.MAIN = {service.MAIN}) :
    ∀ waiting ∈ (cluster.server.publish cluster.broker "" service.MAIN body).pending,
      ∃ other ∈ table,
        InCycle other (cluster.server.publish cluster.broker "" service.MAIN body) waiting := by
  intro waiting there
  rw [Server.pending_publish _ body reaches] at there
  rcases Multiset.mem_cons.mp there with rfl | there
  · have unknown : ∀ time, (cluster.server.published, time) ∉ cluster.server.rejections :=
      fun time known => absurd (cycling.orderly.rejections _ known).1 (Nat.lt_irrefl _)
    have rejected : cluster.server.rejected cluster.server.published = 0 := by
      refine List.count_eq_zero.mpr fun known => ?_
      obtain ⟨⟨number, time⟩, known, rfl⟩ := List.mem_map.mp known
      exact unknown time known
    have expired : cluster.server.expired cluster.server.published = 0 :=
      List.count_eq_zero.mpr fun known =>
        absurd (cycling.orderly.expirations _ known) (Nat.lt_irrefl _)
    refine ⟨service, listed, .main rfl ?_ (expired.trans rejected.symm) ?_⟩
    · exact (congrArg (mainDeaths service) rejected).symm
    · exact fun time known => absurd known (unknown time)
  · refine cycling.inCycle_kept (fun _ mine => mine) (fun _ _ => ?_) waiting there
    exact ⟨rfl, rfl, fun _ known => known, Nat.le_refl _⟩

/-- A message that dies is in the next stage, and the others are where they were. -/
theorem inCycle_dies (cycling : Cycling table cluster) {dying dead : Waiting α}
    {others : Multiset (Waiting α)} {service : Triplet}
    (pending : cluster.server.pending = dying ::ₘ others)
    (pending' : server.pending = dead ::ₘ others) (listed : service ∈ table)
    (next : InCycle service server dead)
    (same : ∀ number, number ≠ dying.message.number → SameHistory number cluster.server server) :
    ∀ waiting ∈ server.pending, ∃ service ∈ table, InCycle service server waiting := by
  intro waiting there
  rw [pending'] at there
  rcases Multiset.mem_cons.mp there with rfl | there
  · exact ⟨service, listed, next⟩
  · refine cycling.inCycle_kept (fun other mine => ?_) (fun other mine => ?_) waiting there
    · rw [pending]
      exact Multiset.mem_cons_of_mem mine
    · exact same _ (cycling.orderly.number_ne pending mine)

variable [DecidableEq α]

/-- Whatever happens brings each message to one queue. -/
theorem faithful (cycling : Cycling table cluster) (distinct : Distinct table)
    {event : Handling α} (wired : Wired table cluster (.message event))
    (taken : cluster.server.step cluster.broker event = some server) :
    Server.Faithful cluster.broker event := by
  intro queues found
  cases Server.stepped taken with
  | publish exchange routingKey body =>
      obtain ⟨rfl, service, _, rfl, declared⟩ := wired
      cases found
      refine ⟨service.MAIN, ?_⟩
      simp only [Broker.targets, ↓reduceIte, declared]
  | reject there =>
      obtain ⟨service, mine, main, _⟩ := cycling.taken distinct there
      cases found
      refine ⟨service.RETRY, ?_⟩
      rw [main]
      exact afterlife_rejected (cycling.routes wired mine) _
  | expire there overdue =>
      obtain ⟨service, _, _, _, _, reaches⟩ := cycling.overdue distinct there overdue
      cases found
      exact ⟨service.MAIN, reaches⟩
  | _ => cases found

/-- What happens to a message keeps every message in its cycle. -/
theorem message (cycling : Cycling table cluster) (distinct : Distinct table)
    {event : Handling α} (wired : Wired table cluster (.message event))
    (taken : cluster.server.step cluster.broker event = some server) :
    Cycling table { cluster with server } := by
  have faithful := cycling.faithful distinct wired taken
  have orderly := cycling.orderly.step faithful taken
  have unchanged : ∀ number, SameHistory number cluster.server cluster.server :=
    fun _ => ⟨rfl, rfl, fun _ known => known, Nat.le_refl _⟩
  cases Server.stepped taken with
  | elapse milliseconds =>
      refine ⟨cycling.following, orderly, ?_, cycling.held, cycling.setUp⟩
      refine cycling.inCycle_kept (fun _ mine => mine) fun waiting _ => ?_
      exact { unchanged waiting.message.number with now := Nat.le_add_right _ _ }
  | publish exchange routingKey body =>
      obtain ⟨rfl, service, listed, rfl, declared⟩ := wired
      have reaches : cluster.broker.targets "" service.MAIN = {service.MAIN} := by
        simp only [Broker.targets, ↓reduceIte, declared]
      exact ⟨cycling.following, orderly, cycling.inCycle_publish listed body reaches, cycling.held,
        cycling.setUp⟩
  | @deliver consumer waiting there =>
      refine ⟨cycling.following, orderly, ?_, fun delivery mine => ?_, cycling.setUp⟩
      · refine cycling.inCycle_kept (fun other mine => ?_) fun other _ => ?_
        · rw [Server.pending_deliver consumer there] at mine
          exact mine
        · exact { unchanged other.message.number with }
      · rcases Multiset.mem_cons.mp mine with rfl | mine
        · exact wired
        · exact cycling.held delivery mine
  | @acknowledge delivery there =>
      refine ⟨cycling.following, orderly, ?_, fun delivery mine => ?_, cycling.setUp⟩
      · refine cycling.inCycle_kept (fun other mine => ?_) fun other _ => ?_
        · rw [← Server.pending_unacked there]
          exact Multiset.mem_cons_of_mem mine
        · exact { unchanged other.message.number with }
      · exact cycling.held delivery (Multiset.mem_of_mem_erase mine)
  | @reject delivery there =>
      obtain ⟨service, listed, main, before⟩ := cycling.taken distinct there
      have reaches : cluster.broker.afterlife delivery.taken.queue .rejected
          delivery.taken.message = {service.RETRY} := by
        rw [main]
        exact afterlife_rejected (cycling.routes wired listed) _
      obtain ⟨others, pending, pending'⟩ := Server.pending_reject there reaches
      refine ⟨cycling.following, orderly, ?_, fun delivery mine => ?_, fun _ => wired⟩
      · refine cycling.inCycle_dies pending pending' listed ?_ fun _ => sameHistory_reject
        exact before.reject (distinct.main_ne_retry listed) main fun entry known =>
          (cycling.orderly.rejections entry known).2
      · exact cycling.held delivery (Multiset.mem_of_mem_erase mine)
  | disconnect consumer =>
      refine ⟨cycling.following, orderly, ?_, fun delivery mine => ?_, cycling.setUp⟩
      · refine cycling.inCycle_kept (fun other mine => ?_) fun other _ => ?_
        · rw [Server.pending_disconnect] at mine
          exact mine
        · exact { unchanged other.message.number with }
      · exact cycling.held delivery (Multiset.mem_of_mem_filter mine)
  | @expire waiting there overdue =>
      obtain ⟨service, listed, retry, before, passed, reaches⟩ :=
        cycling.overdue distinct there overdue
      obtain ⟨others, pending, pending'⟩ := Server.pending_expire there reaches
      refine ⟨cycling.following, orderly, ?_, cycling.held, cycling.setUp⟩
      refine cycling.inCycle_dies pending pending' listed ?_ fun _ => sameHistory_expire
      exact before.expire (distinct.main_ne_retry listed) retry passed

/-- What anybody does keeps every message in its cycle. -/
theorem step (cycling : Cycling table cluster) (distinct : Distinct table) {event : Occurrence α}
    (wired : Wired table cluster event) {cluster' : Cluster α}
    (taken : cluster.step table event = some cluster') : Cycling table cluster' := by
  have following := cycling.following.step wired.connects taken
  cases event with
  | setup event =>
      obtain ⟨setups, stepped, rfl⟩ := Option.map_eq_some_iff.mp taken
      refine ⟨following, cycling.orderly, cycling.inCycle, cycling.held, fun died => ?_⟩
      exact fun declaration listed => setup_keeps stepped (cycling.setUp died declaration listed)
  | connect service =>
      obtain ⟨broker, succeeds, rfl⟩ := Option.map_eq_some_iff.mp taken
      refine ⟨following, cycling.orderly, cycling.inCycle, cycling.held, fun died => ?_⟩
      exact fun declaration listed =>
        (Broker.holds_declare succeeds _).mpr (.inl (cycling.setUp died declaration listed))
  | message event =>
      obtain ⟨server, stepped, rfl⟩ := Option.map_eq_some_iff.mp taken
      exact cycling.message distinct wired stepped

end Cycling

theorem cycling_of_run [DecidableEq α] {table : List Triplet} (distinct : Distinct table)
    {cluster : Cluster α} (ran : Path (Cluster.step table) (Wired table) .initial cluster) :
    Cycling table cluster :=
  ran.invariant .initial fun _ _ _ wired cycling taken => cycling.step distinct wired taken

/-! ## What the headers say -/

section Headers

variable {service : Triplet} {message : Message α} {count : ℕ}

theorem getRetryCount_main (deaths : message.deaths = mainDeaths service count) :
    getRetryCount (some (headersOf message)) service.RETRY = count := by
  cases count with
  | zero => simp [getRetryCount, headersOf, deaths, mainDeaths]
  | succ count => simp [getRetryCount, headersOf, deaths, mainDeaths]

theorem getRetryCount_retry (distinct : service.MAIN ≠ service.RETRY)
    (deaths : message.deaths = retryDeaths service count) :
    getRetryCount (some (headersOf message)) service.RETRY = count := by
  cases count with
  | zero => simp [getRetryCount, headersOf, deaths, retryDeaths, distinct]
  | succ count => simp [getRetryCount, headersOf, deaths, retryDeaths, distinct]

end Headers

/-- Where all messages are, and what their headers say. -/
structure Accounted (table : List Triplet) (cluster : Cluster α) : Prop where
  /-- Each message that was published is there once: ready, in the hands of a consumer or
  acknowledged. -/
  once : cluster.server.numbers = Multiset.range cluster.server.published
  placed : ∀ waiting ∈ cluster.server.pending,
    ∃ service ∈ table, waiting.queue = service.MAIN ∨ waiting.queue = service.RETRY
  /-- A consumer reads in the headers how often the message was rejected. -/
  counted : ∀ waiting ∈ cluster.server.pending, ∀ service ∈ table, waiting.queue = service.MAIN →
    getRetryCount (some (headersOf waiting.message)) service.RETRY =
      cluster.server.rejected waiting.message.number
  waits : ∀ waiting ∈ cluster.server.pending, ∀ service ∈ table, waiting.queue = service.RETRY →
    getRetryCount (some (headersOf waiting.message)) service.RETRY + 1 =
      cluster.server.rejected waiting.message.number
  /-- After a rejection it takes 15 seconds until the message can be handed out again. -/
  rested : ∀ waiting ∈ cluster.server.pending, ∀ service ∈ table, waiting.queue = service.MAIN →
    ∀ time, (waiting.message.number, time) ∈ cluster.server.rejections →
      time + 15000 ≤ cluster.server.now
  /-- Nothing is put into the last queue. -/
  unused : ∀ waiting ∈ cluster.server.pending, ∀ service ∈ table, waiting.queue ≠ service.DLQ

section Accounting

variable {table : List Triplet} {cluster : Cluster α}

theorem Cycling.accounted (cycling : Cycling table cluster) (distinct : Distinct table) :
    Accounted table cluster where
  once := cycling.orderly.numbers
  placed := by
    intro waiting there
    obtain ⟨service, listed, inCycle⟩ := cycling.inCycle waiting there
    refine ⟨service, listed, ?_⟩
    cases inCycle with
    | main queue => exact .inl queue
    | retry queue => exact .inr queue
  counted := by
    intro waiting there service listed main
    cases cycling.of_named distinct there listed (by simp [main, Triplet.names]) with
    | main _ deaths => exact getRetryCount_main deaths
    | retry retry => exact absurd (main.symm.trans retry) (distinct.main_ne_retry listed)
  waits := by
    intro waiting there service listed retry
    cases cycling.of_named distinct there listed (by simp [retry, Triplet.names]) with
    | main main => exact absurd (main.symm.trans retry) (distinct.main_ne_retry listed)
    | retry _ deaths rejected =>
        rw [getRetryCount_retry (distinct.main_ne_retry listed) deaths, rejected]
  rested := by
    intro waiting there service listed main
    cases cycling.of_named distinct there listed (by simp [main, Triplet.names]) with
    | main _ _ _ rested => exact rested
    | retry retry => exact absurd (main.symm.trans retry) (distinct.main_ne_retry listed)
  unused := by
    intro waiting there service listed last
    have apart : service.names.Nodup := (List.nodup_flatMap.mp distinct).1 service listed
    simp only [Triplet.names, List.nodup_cons, List.mem_cons, List.not_mem_nil, or_false,
      not_or] at apart
    cases cycling.of_named distinct there listed (by simp [last, Triplet.names]) with
    | main main => exact apart.1.2 (main.symm.trans last)
    | retry retry => exact apart.2.1 (retry.symm.trans last)

end Accounting

/-- **All messages are accounted for.** Runs of the setup, clients, servers and consumers
interleave in any order, and consumers accept and reject messages and lose their connections. As
long as nobody rejects a message before the topology is set up, no message is lost or copied, its
headers count its rejections, and none gets into a last queue. -/
theorem messages_accounted [DecidableEq α] {table : List Triplet} (distinct : Distinct table)
    {cluster : Cluster α} (ran : Path (Cluster.step table) (Wired table) .initial cluster) :
    Accounted table cluster :=
  (cycling_of_run distinct ran).accounted distinct

namespace Sample

def completes : List (Occurrence String) :=
  .setup (.call 0 ()) :: List.replicate 13 (.setup (.step 0 .resolved))

/-- A welcome message as it was published. -/
def welcome : Waiting String := ⟨"notification_queue", 0, 0, "welcome", "notification_queue", []⟩

/-- It is rejected once and waits, while the consumer of another one loses its connection. -/
def rejectedOnce : List (Occurrence String) :=
  completes ++ ([.publish "" "notification_queue" "welcome", .deliver 0 welcome,
    .publish "" "notification_queue" "second", .reject ⟨0, welcome⟩,
    .deliver 1 ⟨"notification_queue", 0, 1, "second", "notification_queue", []⟩, .elapse 15000,
    .expire ⟨"notification_queue_retry", 0, 0, "welcome", "notification_queue_retry",
      [⟨"notification_queue", .rejected, 1⟩]⟩,
    .disconnect 1] : List (Handling String)).map .message

end Sample

/-- The theorem at a message that has come back. -/
theorem messages_accounted_once :
    ∃ cluster ∈ run (Cluster.step QUEUES) .initial Sample.rejectedOnce,
      cluster.server.rejected 0 = 1 ∧ cluster.server.published = 2 ∧ Accounted QUEUES cluster := by
  obtain ⟨cluster, ran, rejected, published, wired⟩ :
      ∃ cluster ∈ run (Cluster.step QUEUES) .initial Sample.rejectedOnce,
        cluster.server.rejected 0 = 1 ∧ cluster.server.published = 2 ∧
        Meets (Cluster.step QUEUES) (Wired QUEUES) .initial Sample.rejectedOnce := by
    decide +kernel
  exact ⟨cluster, ran, rejected, published, messages_accounted (by decide) (.of_run ran wired)⟩

/-! ## Nothing ends the cycle -/

section Endless

variable {table : List Triplet} {service : Triplet} {broker : Broker} {server : Server α}
  {waiting : Waiting α} {cluster : Cluster α}

/-- The message is ready in the main queue, and has been rejected this often. -/
structure CameBack (service : Triplet) (number : ℕ) (body : α) (count : ℕ) (server : Server α)
    (waiting : Waiting α) : Prop where
  ready : waiting ∈ server.ready
  main : waiting.queue = service.MAIN
  number_eq : waiting.message.number = number
  body_eq : waiting.message.body = body
  rejected : server.rejected number = count

/-- A consumer reads in the headers how often the message has come back. -/
theorem CameBack.getRetryCount_eq {number count : ℕ} {body : α}
    (cameBack : CameBack service number body count cluster.server waiting)
    (cycling : Cycling table cluster) (distinct : Distinct table) (listed : service ∈ table) :
    getRetryCount (some (headersOf waiting.message)) service.RETRY = count := by
  have pending : waiting ∈ cluster.server.pending := Multiset.mem_add.mpr (.inl cameBack.ready)
  rw [(cycling.accounted distinct).counted waiting pending service listed cameBack.main,
    cameBack.number_eq, cameBack.rejected]

variable [DecidableEq α]

theorem Cluster.path_message {event : Handling α} {server' : Server α}
    (taken : server.step broker event = some server') {setups : State}
    (same : setups.world = broker) (wired : Wired table ⟨setups, server⟩ (.message event)) :
    Path (Cluster.step table) (Wired table) ⟨setups, server⟩ ⟨setups, server'⟩ := by
  subst same
  exact .single wired (congrArg (Option.map fun next => Cluster.mk setups next) taken)

/-- A message that is handed out and rejected is ready in the retry queue. -/
theorem ready_reject {consumer : ℕ}
    (reaches : broker.afterlife waiting.queue .rejected waiting.message = {service.RETRY}) :
    ⟨service.RETRY, server.now, broker.bury waiting.queue .rejected waiting.message⟩ ∈
      ((server.deliver consumer waiting).reject broker ⟨consumer, waiting⟩).ready := by
  rw [Server.reject, Server.die, reaches]
  exact Server.mem_ready_arrive _ _ _

/-- A message whose time is over is ready in the main queue. -/
theorem ready_expire
    (reaches : broker.afterlife waiting.queue .expired waiting.message = {service.MAIN}) :
    ⟨service.MAIN, server.now, broker.bury waiting.queue .expired waiting.message⟩ ∈
      (server.expire broker waiting).ready := by
  rw [Server.expire, Server.die, reaches]
  exact Server.mem_ready_arrive _ _ _

/-- One round: the message is handed out and rejected, waits and expires. -/
theorem Cycling.comes_back (cycling : Cycling table cluster) (distinct : Distinct table)
    (setUp : SetUp table cluster.broker) (listed : service ∈ table) {number count : ℕ} {body : α}
    (cameBack : CameBack service number body count cluster.server waiting) :
    ∃ server waiting', Path (Cluster.step table) (Wired table) cluster { cluster with server } ∧
      CameBack service number body (count + 1) server waiting' := by
  have routes := cycling.routes setUp listed
  have mine : cluster.broker.afterlife waiting.queue .rejected waiting.message =
      {service.RETRY} := by
    rw [cameBack.main]
    exact afterlife_rejected routes _
  -- The servers after each of the four steps.
  let handed := cluster.server.deliver 0 waiting
  let dead := handed.reject cluster.broker ⟨0, waiting⟩
  let late := dead.elapse 15000
  let again : Waiting α := ⟨service.RETRY, cluster.server.now,
    cluster.broker.bury waiting.queue .rejected waiting.message⟩
  have handedOut : cluster.server.step cluster.broker (.deliver 0 waiting) = some handed :=
    if_pos cameBack.ready
  have rejected : handed.step cluster.broker (.reject ⟨0, waiting⟩) = some dead :=
    if_pos (Multiset.mem_cons_self _ _)
  have elapsed : dead.step cluster.broker (.elapse 15000) = some late := rfl
  have waits : again ∈ late.ready := ready_reject mine
  have passed : late.Overdue cluster.broker again :=
    ⟨15000, messageTtl_retry routes, Nat.le_refl _⟩
  have expired : late.step cluster.broker (.expire again) =
      some (late.expire cluster.broker again) := if_pos ⟨waits, passed⟩
  have path : Path (Cluster.step table) (Wired table) cluster { cluster with server := late } :=
    ((Cluster.path_message handedOut rfl ⟨service, listed, cameBack.main⟩).trans
      (Cluster.path_message rejected rfl setUp)).trans (Cluster.path_message elapsed rfl trivial)
  -- It expires into the main queue, as everything that expires does.
  have cycling' : Cycling table { cluster with server := late } :=
    path.invariant cycling fun _ _ _ wired cycling taken => cycling.step distinct wired taken
  obtain ⟨other, listed', retry, _, _, reaches⟩ := cycling'.overdue distinct waits passed
  have same : other = service :=
    distinct.service_eq listed' listed (retry ▸ by simp [Triplet.names] : again.queue ∈ _)
      (by simp [again, Triplet.names])
  subst same
  refine ⟨_, _, path.trans (Cluster.path_message expired rfl trivial), ready_expire reaches, rfl,
    cameBack.number_eq, cameBack.body_eq, ?_⟩
  have before := cameBack.rejected
  simp only [Server.rejected] at before
  simp [Server.rejected, Server.expire, Server.reject, Server.die, Server.arrive, Server.elapse,
    Server.deliver, late, dead, handed, cameBack.number_eq, before]

/-- As many rounds as one likes. -/
theorem Cycling.comes_back_again (cycling : Cycling table cluster) (distinct : Distinct table)
    (setUp : SetUp table cluster.broker) (listed : service ∈ table) {number earlier : ℕ} {body : α}
    (cameBack : CameBack service number body earlier cluster.server waiting) (count : ℕ) :
    ∃ cluster' waiting', Path (Cluster.step table) (Wired table) cluster cluster' ∧
      SetUp table cluster'.broker ∧
        CameBack service number body (earlier + count) cluster'.server waiting' := by
  induction count with
  | zero => exact ⟨cluster, waiting, .refl, setUp, cameBack⟩
  | succ count ih =>
      obtain ⟨cluster', waiting', path, setUp', cameBack'⟩ := ih
      have cycling' : Cycling table cluster' :=
        path.invariant cycling fun _ _ _ wired cycling taken => cycling.step distinct wired taken
      obtain ⟨server, waiting'', round, back⟩ :=
        cycling'.comes_back distinct setUp' listed cameBack'
      exact ⟨_, waiting'', path.trans round, setUp', back⟩

/-- **Retries without end.** Wherever a message is ready in a main queue once the topology is set
up, and however often it has come back: it can be rejected and come back any number of times more,
and its headers say so. Neither the queues nor `getRetryCount` put an end to it. -/
theorem retries_without_end (distinct : Distinct table)
    (ran : Path (Cluster.step table) (Wired table) .initial cluster)
    (setUp : SetUp table cluster.broker) (listed : service ∈ table)
    (ready : waiting ∈ cluster.server.ready) (main : waiting.queue = service.MAIN) (count : ℕ) :
    ∃ cluster' waiting', Path (Cluster.step table) (Wired table) cluster cluster' ∧
      waiting' ∈ cluster'.server.ready ∧ waiting'.queue = service.MAIN ∧
      waiting'.message.number = waiting.message.number ∧
      waiting'.message.body = waiting.message.body ∧
      getRetryCount (some (headersOf waiting'.message)) service.RETRY =
        getRetryCount (some (headersOf waiting.message)) service.RETRY + count := by
  have cycling := cycling_of_run distinct ran
  have cameBack : CameBack service waiting.message.number waiting.message.body
      (cluster.server.rejected waiting.message.number) cluster.server waiting :=
    ⟨ready, main, rfl, rfl, rfl⟩
  obtain ⟨cluster', waiting', path, _, back⟩ :=
    cycling.comes_back_again distinct setUp listed cameBack count
  have cycling' := cycling_of_run distinct (ran.trans path)
  refine ⟨cluster', waiting', path, back.ready, back.main, back.number_eq, back.body_eq, ?_⟩
  rw [back.getRetryCount_eq cycling' distinct listed,
    cameBack.getRetryCount_eq cycling distinct listed]

end Endless

/-- The theorem at a message nobody has taken yet: it can be rejected a thousand times. -/
theorem retries_without_end_welcome :
    ∃ cluster waiting, Path (Cluster.step QUEUES) (Wired QUEUES) .initial cluster ∧
      waiting ∈ cluster.server.ready ∧ waiting.message.body = "welcome" ∧
      getRetryCount (some (headersOf waiting.message)) "notification_queue_retry" = 1000 := by
  let events : List (Occurrence String) :=
    Sample.completes ++ [.message (.publish "" "notification_queue" "welcome")]
  obtain ⟨cluster, ran, setUp, ready, wired⟩ :
      ∃ cluster ∈ run (Cluster.step QUEUES) .initial events,
        SetUp QUEUES cluster.broker ∧ Sample.welcome ∈ cluster.server.ready ∧
        Meets (Cluster.step QUEUES) (Wired QUEUES) .initial events := by
    decide +kernel
  have path := Path.of_run ran wired
  obtain ⟨later, waiting, path', there, _, _, body, count⟩ :=
    retries_without_end (by decide) path setUp (List.mem_singleton.mpr rfl) ready rfl 1000
  exact ⟨later, waiting, path.trans path', there, body, count⟩

end WorkflowHub.RabbitMq
