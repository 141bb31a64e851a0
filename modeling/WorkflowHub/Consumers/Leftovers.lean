import WorkflowHub.Consumers.Accounting
import WorkflowHub.Processes.Executions

/-!
# What a failed delivery leaves behind

One delivery is followed through all outcomes of its operations. When its handler rejects, it
leaves nothing behind exactly if no operation that rejected had been applied all the same, but for
the removal of the key, which has to be applied (`leaves_nothing_iff`). Worlds that differ in
nothing an operation reads (`Similar`) let a redelivery go the same ways.
-/

set_option autoImplicit false

namespace WorkflowHub.Consumers

open Processes

/-- An operation of a handler, with how it ended. -/
abbrev HandlerExchange : Type := Exchange (promises Op Op.Value Thrown) Answer

/-- A delivery is handled while nothing else happens. -/
abbrev Handles (delivery : Delivery) (before : World) (exchanges : List HandlerExchange)
    (out : Except Thrown Unit) (after : World) : Prop :=
  Executes (fun world op answer reply world' => exec world delivery op answer = some (world', reply))
    programs delivery before (programs.enter delivery ()) exchanges out after

def World.elapse (world : World) (milliseconds : ℕ) : World :=
  { world with now := world.now + milliseconds }

/-- Nothing is left of a call: not its key, not its effect, and nothing a redelivery could notice. -/
structure LeavesNothing (delivery : Delivery) (before after : World) : Prop where
  key : ∀ chosen, plan delivery.consumer delivery.data = some chosen →
    ((after.keys.find after.now chosen.key).isSome ↔ (before.keys.find before.now chosen.key).isSome)
  notifications : after.notifications = before.notifications
  taskCount : ∀ userId, taskCount after.counters userId = taskCount before.counters userId
  redelivery : ∀ milliseconds exchanges out,
    (∃ world, Handles delivery (after.elapse milliseconds) exchanges out world) ↔
      ∃ world, Handles delivery (before.elapse milliseconds) exchanges out world

/-- A key that was not there is not taken by a `SET` that rejects, an effect that is rejected has
not been applied, and a `DEL` is applied. -/
def Tidy (before : World) (exchanges : List HandlerExchange) : Prop :=
  ∀ exchange ∈ exchanges,
    match exchange.op with
    | .set key _ _ => exchange.choice.outcome.Clean ∨ (before.keys.find before.now key).isSome
    | .del _ => exchange.choice.outcome.Applied
    | _ => exchange.choice.outcome.Clean

/-! ## Worlds a handler cannot tell apart -/

/-- The operations of a handler find the same in both worlds, now and later. -/
structure Similar (first second : World) : Prop where
  now : second.now = first.now
  keys : ∀ time, first.now ≤ time → ∀ key, second.keys.find time key = first.keys.find time key
  notifications : second.notifications = first.notifications
  counters : second.counters = first.counters

namespace Similar

variable {first second : World}

theorem refl (world : World) : Similar world world :=
  ⟨rfl, fun _ _ _ => rfl, rfl, rfl⟩

theorem symm (similar : Similar first second) : Similar second first where
  now := similar.now.symm
  keys time later key := (similar.keys time (similar.now ▸ later) key).symm
  notifications := similar.notifications.symm
  counters := similar.counters.symm

theorem elapse (similar : Similar first second) (milliseconds : ℕ) :
    Similar (first.elapse milliseconds) (second.elapse milliseconds) where
  now := by rw [World.elapse, World.elapse, similar.now]
  keys time later key := similar.keys time (Nat.le_trans (Nat.le_add_right _ _) later) key
  notifications := similar.notifications
  counters := similar.counters

theorem put (similar : Similar first second) (key : String) (item : Item String) :
    Similar { first with keys := first.keys.put key item }
      { second with keys := second.keys.put key item } where
  now := similar.now
  keys time later other := by
    by_cases same : other = key
    · subst same
      simp only [Keyspace.find_put_self]
    · simp only [Keyspace.find_put_other _ _ same]
      exact similar.keys time later other
  notifications := similar.notifications
  counters := similar.counters

theorem remove (similar : Similar first second) (key : String) :
    Similar { first with keys := first.keys.remove key }
      { second with keys := second.keys.remove key } where
  now := similar.now
  keys time later other := by
    by_cases same : other = key
    · subst same
      simp only [Keyspace.find_remove_self]
    · simp only [Keyspace.find_remove_other _ _ same]
      exact similar.keys time later other
  notifications := similar.notifications
  counters := similar.counters

/-- An operation does the same to both. -/
theorem exec {first' : World} {delivery : Delivery} {op : Op} {answer : Answer}
    {reply : Except Thrown op.Value} (similar : Similar first second)
    (answered : exec first delivery op answer = some (first', reply)) :
    ∃ second', Consumers.exec second delivery op answer = some (second', reply) ∧
      Similar first' second' := by
  cases op with
  | set key value seconds =>
      have found := similar.keys first.now (Nat.le_refl _) key
      simp only [Consumers.exec, similar.now, found] at answered ⊢
      refine respond_related Iff.rfl similar ?_ answered
      cases (first.keys.find first.now key).isNone with
      | true => exact ⟨rfl, (similar.put key _).keys, similar.notifications, similar.counters⟩
      | false => exact ⟨rfl, similar.keys, similar.notifications, similar.counters⟩
  | del key => exact respond_related Iff.rfl similar (similar.remove key) answered
  | createNotification data =>
      simp only [Consumers.exec] at answered ⊢
      cases made : Notification.of? answer.id data with
      | none =>
          simp only [made] at answered
          exact respond_related Iff.rfl similar similar answered
      | some notification =>
          simp only [made] at answered
          refine respond_related (by rw [similar.notifications]) similar ?_ answered
          exact ⟨similar.now, similar.keys, by rw [similar.notifications], similar.counters⟩
  | updateOne userId =>
      refine respond_related Iff.rfl similar ?_ answered
      exact ⟨similar.now, similar.keys, similar.notifications, by rw [similar.counters]⟩

/-- A delivery goes the same ways from both. -/
theorem handles {delivery : Delivery} {exchanges : List HandlerExchange} {out : Except Thrown Unit}
    {after : World} (similar : Similar first second)
    (handles : Handles delivery first exchanges out after) :
    ∃ after', Handles delivery second exchanges out after' := by
  obtain ⟨after', handles, _⟩ := Executes.related (fun similar answered => similar.exec answered)
    handles similar
  exact ⟨after', handles⟩

/-- Similar worlds differ in nothing that a call could have left. -/
theorem leavesNothing (similar : Similar first second) (delivery : Delivery) :
    LeavesNothing delivery first second where
  key chosen _ := by rw [similar.now, similar.keys first.now (Nat.le_refl _)]
  notifications := similar.notifications
  taskCount userId := by rw [similar.counters]
  redelivery milliseconds _ _ :=
    ⟨fun ⟨_, again⟩ => (similar.elapse milliseconds).symm.handles again,
      fun ⟨_, again⟩ => (similar.elapse milliseconds).handles again⟩

end Similar

/-! ## The call that failed -/

section Exec

variable {world world' : World} {delivery : Delivery} {answer : Answer}

/-- An effect that was rejected: it was not applied, or it was and shows. -/
theorem exec_effect_rejected {chosen : Plan} {error : Thrown}
    (planned : plan delivery.consumer delivery.data = some chosen)
    (answered : exec world delivery chosen.effect answer = some (world', .error error)) :
    (world' = world ∧ answer.outcome.Clean) ∨
      (¬ answer.outcome.Clean ∧
        ∀ before after : World, before.notifications = world.notifications →
          before.counters = world.counters → after.notifications = world'.notifications →
          after.counters = world'.counters → ¬ LeavesNothing delivery before after) := by
  rcases effect_cases planned with ⟨data, effect⟩ | ⟨userId, effect⟩
  · obtain ⟨key, _⟩ := chosen
    subst effect
    simp only [exec] at answered
    split at answered
    · rename_i notification _
      rcases respond_cases answered with
        ⟨rfl, error, rejected, _⟩ | ⟨_, rfl, ⟨_, ok⟩ | ⟨error, lost, _⟩⟩
      · exact .inl ⟨rfl, by rw [rejected]; trivial⟩
      · cases ok
      · refine .inr ⟨by rw [lost]; exact id, ?_⟩
        intro before after notifications _ notifications' _ nothing
        have same := nothing.notifications
        rw [notifications, notifications'] at same
        exact absurd (List.append_right_eq_self.mp same) (List.cons_ne_nil _ _)
    · rcases respond_cases answered with ⟨rfl, error, rejected, _⟩ | ⟨impossible, _⟩
      · exact .inl ⟨rfl, by rw [rejected]; trivial⟩
      · exact impossible.elim
  · obtain ⟨key, _⟩ := chosen
    subst effect
    rcases respond_cases answered with ⟨rfl, error, rejected, _⟩ | ⟨_, rfl, ⟨_, ok⟩ | ⟨error, lost, _⟩⟩
    · exact .inl ⟨rfl, by rw [rejected]; trivial⟩
    · cases ok
    · refine .inr ⟨by rw [lost]; exact id, ?_⟩
      intro before after _ counters _ counters' nothing
      have same := nothing.taskCount userId
      rw [counters, counters'] at same
      simp only [taskCount_increment, ↓reduceIte] at same
      omega

end Exec

/-- A key that is taken shows. -/
theorem not_leavesNothing_of_key {delivery : Delivery} {before after : World} {chosen : Plan}
    {item : Item String} (planned : plan delivery.consumer delivery.data = some chosen)
    (absent : before.keys.find before.now chosen.key = none)
    (taken : after.keys.find after.now chosen.key = some item) :
    ¬ LeavesNothing delivery before after := by
  intro nothing
  have same := nothing.key chosen planned
  rw [absent, taken] at same
  simp at same

/-- The key that a `SET` has just stored is there. -/
theorem find_put_fresh (keys : Keyspace String) (now : ℕ) (key value : String) (seconds : ℕ) :
    (keys.put key ⟨value, some (now + seconds * 1000)⟩).find now key =
      some ⟨value, some (now + seconds * 1000)⟩ := by
  rw [Keyspace.find_put_self, if_neg]
  rintro ⟨time, expires, past⟩
  cases expires
  omega

theorem tidy_set {before : World} {key value : String} {seconds : ℕ} {answer : Answer}
    {reply : Except Thrown Bool} {rest : List HandlerExchange} :
    Tidy before (⟨.set key value seconds, answer, reply⟩ :: rest) ↔
      (answer.outcome.Clean ∨ (before.keys.find before.now key).isSome) ∧ Tidy before rest :=
  List.forall_mem_cons

/-- The effect of a plan is neither a `SET` nor a `DEL`, so of it only that it is clean matters. -/
theorem tidy_effect {delivery : Delivery} {chosen : Plan} {before : World} {answer : Answer}
    {reply : Except Thrown chosen.effect.Value} {rest : List HandlerExchange}
    (planned : plan delivery.consumer delivery.data = some chosen) :
    Tidy before (⟨chosen.effect, answer, reply⟩ :: rest) ↔ answer.outcome.Clean ∧ Tidy before rest := by
  rcases effect_cases planned with ⟨data, effect⟩ | ⟨userId, effect⟩
  · simp only [Tidy, List.forall_mem_cons, effect]
  · simp only [Tidy, List.forall_mem_cons, effect]

/-- A key that was not there, and was taken and given back. -/
theorem similar_of_taken {before : World} {key : String} {item : Item String}
    (absent : before.keys.find before.now key = none) :
    Similar before { before with keys := (before.keys.put key item).remove key } where
  now := rfl
  keys time later other := by
    by_cases same : other = key
    · subst same
      rw [Keyspace.find_remove_self]
      cases found : before.keys.find time other with
      | none => rfl
      | some there => cases absent.symm.trans (Keyspace.find_mono found later)
    · rw [Keyspace.find_remove_other _ _ same, Keyspace.find_put_other _ _ same]
  notifications := rfl
  counters := rfl

/-- A handler that has taken the key and rejects. -/
theorem leavesNothing_iff_of_taken {delivery : Delivery} {chosen : Plan} {before after : World}
    {exchanges : List HandlerExchange} {item : Item String} {thrown : Thrown}
    (planned : plan delivery.consumer delivery.data = some chosen)
    (absent : before.keys.find before.now chosen.key = none)
    (taken : (before.keys.put chosen.key item).find before.now chosen.key = some item)
    (executes : Executes
      (fun world op answer reply world' => exec world delivery op answer = some (world', reply)) flow
      delivery { before with keys := before.keys.put chosen.key item }
      ((), .running (.processing chosen)) exchanges (.error thrown) after) :
    LeavesNothing delivery before after ↔ Tidy before exchanges := by
  obtain ⟨answer, reply, world, _, _, rfl, affected, executes⟩ := executes.of_running
  cases reply with
  | ok _ =>
      obtain ⟨_, never, _⟩ := executes.of_finished
      cases never
  | error error =>
      obtain ⟨removal, reply, world', _, rest, rfl, removed, executes⟩ := executes.of_running
      obtain ⟨rfl, rfl⟩ : rest = [] ∧ after = world' := by
        cases reply with
        | ok _ => exact ⟨executes.of_finished.1, executes.of_finished.2.2⟩
        | error _ => exact ⟨executes.of_finished.1, executes.of_finished.2.2⟩
      refine Iff.trans ?_ ((tidy_effect planned).trans
        (and_congr_right fun _ => List.forall_mem_singleton)).symm
      rcases exec_effect_rejected planned affected with ⟨rfl, clean⟩ | ⟨unclean, shows⟩
      · rcases respond_cases removed with ⟨rfl, _, rejected, _⟩ | ⟨_, rfl, applied⟩
        · refine iff_of_false (not_leavesNothing_of_key planned absent taken) fun tidy => ?_
          have applied : removal.outcome.Applied := tidy.2
          rw [rejected] at applied
          exact applied
        · refine iff_of_true (Similar.leavesNothing ?_ delivery) ⟨clean, ?_⟩
          · exact similar_of_taken absent
          · show removal.outcome.Applied
            rcases applied with ⟨resolved, _⟩ | ⟨_, lost, _⟩
            · rw [resolved]
              trivial
            · rw [lost]
              trivial
      · refine iff_of_false (shows before after rfl rfl ?_ ?_) fun tidy => unclean tidy.1
        · rcases respond_cases removed with ⟨rfl, _⟩ | ⟨_, rfl, _⟩
          · rfl
          · rfl
        · rcases respond_cases removed with ⟨rfl, _⟩ | ⟨_, rfl, _⟩
          · rfl
          · rfl

/-- **What a failed delivery leaves.** A handler that rejects leaves its key, its effect and all a
redelivery finds as they were, exactly if its operations ended tidily. -/
theorem leaves_nothing_iff {delivery : Delivery} {before after : World}
    {exchanges : List HandlerExchange} {thrown : Thrown}
    (handles : Handles delivery before exchanges (.error thrown) after) :
    LeavesNothing delivery before after ↔ Tidy before exchanges := by
  have executes := implements.executes handles
  cases planned : plan delivery.consumer delivery.data with
  | none =>
      simp only [flow, Led.enter, planned] at executes
      cases executes
  | some chosen =>
      simp only [flow, Led.enter, planned] at executes
      obtain ⟨answer, (reply : Except Thrown Bool), world, _, rest, rfl, answered, executes⟩ :=
        executes.of_running
      cases reply with
      | error error =>
          obtain ⟨rfl, -, rfl⟩ := executes.of_finished
          refine Iff.trans ?_ tidy_set.symm
          rcases respond_cases answered with ⟨rfl, _, rejected, _⟩ | ⟨_, stored, ⟨_, ok⟩ | ⟨_, lost, _⟩⟩
          · refine iff_of_true ((Similar.refl _).leavesNothing _)
              ⟨.inl ?_, fun _ never => by cases never⟩
            rw [rejected]
            trivial
          · cases ok
          · cases found : before.keys.find before.now chosen.key with
            | some item =>
                rw [found] at stored
                rw [show after = before from stored]
                exact iff_of_true ((Similar.refl _).leavesNothing _)
                  ⟨.inr rfl, fun _ never => by cases never⟩
            | none =>
                rw [found] at stored
                subst stored
                refine iff_of_false (not_leavesNothing_of_key planned found (find_put_fresh ..)) ?_
                rintro ⟨clean | there, _⟩
                · rw [lost] at clean
                  exact clean
                · cases there
      | ok free =>
          obtain ⟨_, stored, rfl, resolved⟩ := respond_ok answered
          cases found : before.keys.find before.now chosen.key with
          | some item =>
              rw [found] at executes
              obtain ⟨_, never, _⟩ := executes.of_finished
              cases never
          | none =>
              rw [found] at executes stored
              subst stored
              have clean : answer.outcome.Clean := by
                rw [resolved]
                trivial
              have tidy := leavesNothing_iff_of_taken planned found (find_put_fresh ..) executes
              exact tidy.trans ⟨fun rest => tidy_set.mpr ⟨.inl clean, rest⟩,
                fun all => (tidy_set.mp all).2⟩

namespace Sample

def timeout : Thrown := .error "Error" "timeout"

def delivery (consumer : Consumer) : Delivery := ⟨consumer, 0, event⟩

/-- The analytics service takes the key, the increment ends as given, and the key is removed. -/
def undone (outcome : Outcome) : List HandlerExchange :=
  [⟨.set "analytics:event:65f0a1b2c3d4e5f6a7b8c9d0" "processed" keySeconds,
      ⟨.resolved, notificationId⟩, .ok true⟩,
    ⟨.updateOne "65f0a1b2c3d4e5f6a7b8c9aa", ⟨outcome, notificationId⟩, .error timeout⟩,
    ⟨.del "analytics:event:65f0a1b2c3d4e5f6a7b8c9d0", ⟨.resolved, notificationId⟩, .ok ()⟩]

end Sample

/-- The theorem at an increment that was rejected and not applied. -/
theorem leaves_nothing_iff_undone :
    ∃ after, Handles (Sample.delivery .analytics) {} (Sample.undone (.rejected Sample.timeout))
        (.error Sample.timeout) after ∧
      LeavesNothing (Sample.delivery .analytics) {} after := by
  have handles : Handles (Sample.delivery .analytics) {}
      (Sample.undone (.rejected Sample.timeout)) (.error Sample.timeout) _ :=
    .running () rfl (.running () rfl (.running () rfl .finished))
  refine ⟨_, handles, (leaves_nothing_iff handles).mpr ?_⟩
  exact tidy_set.mpr ⟨.inl trivial, List.forall_mem_cons.mpr
    ⟨trivial, List.forall_mem_singleton.mpr trivial⟩⟩

/-- **A counter that is off by one.** The increment is rejected although it was applied, the
handler removes the key and rejects, and the increment stays. -/
theorem applied_increment_stays :
    ∃ after, Handles (Sample.delivery .analytics) {} (Sample.undone (.rejectedApplied Sample.timeout))
        (.error Sample.timeout) after ∧
      ¬ LeavesNothing (Sample.delivery .analytics) {} after := by
  have handles : Handles (Sample.delivery .analytics) {}
      (Sample.undone (.rejectedApplied Sample.timeout)) (.error Sample.timeout) _ :=
    .running () rfl (.running () rfl (.running () rfl .finished))
  refine ⟨_, handles, fun nothing => ?_⟩
  exact absurd (nothing.taskCount "65f0a1b2c3d4e5f6a7b8c9aa") (by decide)

end WorkflowHub.Consumers
