import WorkflowHub.NotificationQueue.ControlFlow
import WorkflowHub.Processes.Assertions
import Mathlib.Data.List.Perm.Basic

/-!
# One notification for each saga message

A `notification.sendSaga` message is in the queue, or it is being handled, or its
notification was created: one of the three, as long as no message goes back to the queue that
was handled or is being handled (`UnhandledRequeued`). Then it leads to at most one
notification (`created_at_most_once`). Messages are never acknowledged, so a restart of the
consumer puts the ones it has handled back, and they are handled again
(`redelivery_creates_again`).
-/

set_option autoImplicit false

namespace WorkflowHub.NotificationQueue

open Processes Consumers

/-- A `notification.sendSaga` message. -/
def Message.Sends (message : Message) : Prop :=
  match message.request with
  | .sendSaga _ => True
  | .deleteSaga _ => False

instance (message : Message) : Decidable message.Sends := by
  unfold Message.Sends
  split <;> infer_instance

namespace World

/-- The messages that are being handled. -/
def inHand (world : World) : List Message := world.handling.map (·.2.message)

/-- The messages that were handed to a consumer and not acknowledged. -/
def handedOut (world : World) : List Message := world.unacked.map (·.message)

end World

/-- The connection of a consumer is lost only while no `notification.sendSaga` message it has
not acknowledged is being handled or has been handled with effect. -/
def UnhandledRequeued (state : View) : Happening → Prop
  | .env (.disconnect consumer) =>
      ∀ delivery ∈ state.world.unacked, delivery.consumer = consumer → delivery.message.Sends →
        delivery.message ∉ state.world.inHand ∧ delivery.message ∉ state.world.created
  | _ => True

instance (state : View) (event : Happening) : Decidable (UnhandledRequeued state event) := by
  unfold UnhandledRequeued
  split <;> infer_instance

/-! ## Counting in parts of a list -/

section Counting

variable {Entry Item : Type} [DecidableEq Item] (kept : Entry → Prop) [DecidablePred kept]

/-- The entries that are kept and those that are not make up all of them. -/
theorem count_parts (entries : List Entry) (part : Entry → Item) (item : Item) :
    ((entries.filter kept).map part).count item +
      ((entries.filter (¬ kept ·)).map part).count item = (entries.map part).count item := by
  induction entries with
  | nil => rfl
  | cons entry entries ih =>
      by_cases keeps : kept entry
      · simp only [List.filter_cons, keeps, decide_true, not_true, decide_false, ↓reduceIte,
          Bool.false_eq_true, List.map_cons, List.count_cons]
        omega
      · simp only [List.filter_cons, keeps, decide_false, not_false_eq_true, decide_true,
          ↓reduceIte, Bool.false_eq_true, List.map_cons, List.count_cons]
        omega

end Counting

/-! ## Where a message is -/

/-- A message is in at most one place: in the queue or unacknowledged, and in the queue, in
hand or done with. -/
structure Placed (message : Message) (world : World) : Prop where
  delivered : world.ready.count message + world.handedOut.count message ≤ 1
  handled : message.Sends →
    world.ready.count message + world.inHand.count message + world.created.count message ≤ 1
  unpublished : world.published.length ≤ message.number →
    world.ready.count message + world.handedOut.count message + world.inHand.count message +
      world.created.count message = 0

namespace Placed

variable {world : World} {message : Message} {pid : ℕ} {delivery : Delivery}

theorem deliver (placed : Placed message world) (waiting : delivery.message ∈ world.ready) :
    Placed message (world.deliver pid delivery) := by
  obtain ⟨delivered, handled, unpublished⟩ := placed
  have ready : world.ready.count message =
      (world.ready.erase delivery.message).count message + [delivery.message].count message := by
    rw [(List.perm_cons_erase waiting).count_eq message, List.count_cons, List.count_singleton]
  have handedOut : (world.deliver pid delivery).handedOut.count message =
      world.handedOut.count message + [delivery.message].count message := by
    simp only [World.deliver, World.handedOut, List.map_append, List.map_singleton,
      List.count_append]
  have inHand : (world.deliver pid delivery).inHand.count message =
      world.inHand.count message + [delivery.message].count message := by
    simp only [World.deliver, World.inHand, List.map_append, List.map_singleton,
      List.count_append]
  constructor
  case delivered =>
    rw [handedOut]
    simp only [World.deliver]
    omega
  case handled =>
    intro sends
    have before := handled sends
    rw [inHand]
    simp only [World.deliver]
    omega
  case unpublished =>
    intro later
    have before := unpublished later
    rw [handedOut, inHand]
    simp only [World.deliver]
    omega

/-- A call that ends has had its message in hand. -/
theorem inHand_leave (message : Message) (mine : (pid, delivery) ∈ world.handling) :
    (world.leave pid).inHand.count message + [delivery.message].count message ≤
      world.inHand.count message := by
  have parts := count_parts (fun entry => entry.1 ≠ pid) world.handling
    (·.2.message) message
  have ended : [delivery.message].Sublist
      ((world.handling.filter (¬ ·.1 ≠ pid)).map (·.2.message)) := by
    rw [List.singleton_sublist]
    refine List.mem_map.mpr ⟨(pid, delivery), List.mem_filter.mpr ⟨mine, ?_⟩, rfl⟩
    simp only [ne_eq, not_true_eq_false, not_false_eq_true, decide_true]
  have counted := ended.count_le message
  simp only [World.leave, World.inHand] at parts ⊢
  omega

theorem leave (placed : Placed message world) (mine : (pid, delivery) ∈ world.handling) :
    Placed message (world.leave pid) := by
  obtain ⟨delivered, handled, unpublished⟩ := placed
  have inHand := inHand_leave message mine
  refine ⟨delivered, fun sends => ?_, fun later => ?_⟩
  · have before := handled sends
    simp only [World.leave] at inHand ⊢
    omega
  · have before := unpublished later
    simp only [World.leave] at inHand ⊢
    simp only [World.handedOut] at before ⊢
    omega

/-- A call that ends after it has created the notification of its message. -/
theorem create (placed : Placed message world) (mine : (pid, delivery) ∈ world.handling)
    (notifications : List Notification) :
    Placed message ({ world with
      notifications := notifications
      created := world.created ++ [delivery.message] }.leave pid) := by
  obtain ⟨delivered, handled, unpublished⟩ := placed
  have inHand := inHand_leave message mine
  have created : (world.created ++ [delivery.message]).count message =
      world.created.count message + [delivery.message].count message := List.count_append
  refine ⟨delivered, fun sends => ?_, fun later => ?_⟩
  · have before := handled sends
    simp only [World.leave, World.inHand] at inHand before ⊢
    omega
  · have before := unpublished later
    simp only [World.leave, World.inHand, World.handedOut] at inHand before ⊢
    omega

theorem publish (placed : Placed message world) (request : Request) :
    Placed message (world.publish request) := by
  obtain ⟨delivered, handled, unpublished⟩ := placed
  have ready : (world.publish request).ready.count message = world.ready.count message +
      [(⟨world.published.length, request⟩ : Message)].count message := List.count_append
  have published : (world.publish request).published.length = world.published.length + 1 :=
    List.length_append
  have handedOut : (world.publish request).handedOut = world.handedOut := rfl
  have inHand : (world.publish request).inHand = world.inHand := rfl
  have created : (world.publish request).created = world.created := rfl
  by_cases mine : (⟨world.published.length, request⟩ : Message) = message
  · -- Nothing was known of the message before.
    have number : message.number = world.published.length := by rw [← mine]
    have before := unpublished (Nat.le_of_eq number.symm)
    have one : [(⟨world.published.length, request⟩ : Message)].count message = 1 := by
      rw [mine, List.count_singleton_self]
    constructor
    case delivered =>
      rw [ready, handedOut]
      omega
    case handled =>
      intro _
      rw [ready, inHand, created]
      omega
    case unpublished =>
      rw [published]
      omega
  · have none : [(⟨world.published.length, request⟩ : Message)].count message = 0 :=
      List.count_eq_zero.mpr fun there => mine (List.mem_singleton.mp there).symm
    constructor
    case delivered =>
      rw [ready, handedOut]
      omega
    case handled =>
      intro sends
      have before := handled sends
      rw [ready, inHand, created]
      omega
    case unpublished =>
      intro later
      have before := unpublished (by omega)
      rw [ready, handedOut, inHand, created]
      omega

/-- Messages that are neither in hand nor done with go back to the queue. -/
theorem requeue (placed : Placed message world) {consumer : ℕ}
    (unhandled : ∀ delivery ∈ world.unacked, delivery.consumer = consumer →
      delivery.message.Sends →
        delivery.message ∉ world.inHand ∧ delivery.message ∉ world.created) :
    Placed message (world.requeue consumer) := by
  obtain ⟨delivered, handled, unpublished⟩ := placed
  let back := (world.unacked.filter (·.consumer = consumer)).map (·.message)
  have ready : (world.requeue consumer).ready.count message =
      world.ready.count message + back.count message := List.count_append
  have handedOut : back.count message + (world.requeue consumer).handedOut.count message =
      world.handedOut.count message :=
    count_parts (fun delivery : Delivery => delivery.consumer = consumer) world.unacked
      (·.message) message
  have inHand : (world.requeue consumer).inHand = world.inHand := rfl
  have created : (world.requeue consumer).created = world.created := rfl
  constructor
  case delivered =>
    rw [ready]
    omega
  case handled =>
    intro sends
    have before := handled sends
    rw [ready, inHand, created]
    by_cases returns : message ∈ back
    · obtain ⟨delivery, found, rfl⟩ := List.mem_map.mp returns
      obtain ⟨there, lost⟩ := List.mem_filter.mp found
      obtain ⟨idle, pending⟩ := unhandled delivery there (of_decide_eq_true lost) sends
      rw [List.count_eq_zero.mpr idle, List.count_eq_zero.mpr pending]
      omega
    · rw [List.count_eq_zero.mpr returns]
      omega
  case unpublished =>
    intro later
    have before := unpublished later
    rw [ready, inHand, created]
    omega

end Placed

/-! ## Every step -/

/-- Where a message is, and that a call has its own message in hand. -/
def placement (message : Message) : Assertions World Delivery Pc (Except Thrown Reply) where
  Global := Placed message
  Local world pid slot :=
    match slot with
    | .running delivery _ => (pid, delivery) ∈ world.handling
    | _ => True

section Owed

variable {message : Message} {pool : Pool World Delivery Pc (Except Thrown Reply)} {pid : ℕ}
  {world : World}

/-- A call that still has its message in hand still knows that it has. -/
theorem local_mono {world' : World} {slot : Slot Delivery Pc (Except Thrown Reply)}
    (kept : ∀ delivery, (pid, delivery) ∈ world.handling → (pid, delivery) ∈ world'.handling)
    (holds : (placement message).Local world pid slot) :
    (placement message).Local world' pid slot := by
  cases slot with
  | running delivery pc => exact kept delivery holds
  | _ => trivial

/-- What a call owes that ends, in one way or the other. -/
theorem owed_ended {slot : Slot Delivery Pc (Except Thrown Reply)}
    (placed : Placed message (world.leave pid)) (handling : world.handling = pool.world.handling)
    (ended : slot.isRunning = false) :
    (placement message).Owed pool pid (world.leave pid, slot) where
  globally := placed
  locally := by
    cases slot with
    | running delivery pc => cases ended
    | _ => trivial
  others := by
    intro other different holds
    refine local_mono (fun delivery there => ?_) holds
    rw [← handling] at there
    exact List.mem_filter.mpr ⟨there, decide_eq_true different⟩

/-- Whatever an operation does, the call ends after it. -/
theorem exec_placed {delivery : Delivery} {op : Op} {answer : Answer} {world' : World}
    {reply : Except Thrown op.Value} (placed : Placed message world)
    (mine : (pid, delivery) ∈ world.handling)
    (answered : exec world delivery op answer = some (world', reply)) :
    Placed message (world'.leave pid) ∧ world'.handling = world.handling := by
  cases op with
  | create data =>
      simp only [exec] at answered
      split at answered
      · rcases respond_cases answered with ⟨rfl, _⟩ | ⟨_, rfl, _⟩
        · exact ⟨placed.leave mine, rfl⟩
        · exact ⟨placed.create mine _, rfl⟩
      · rcases respond_cases answered with ⟨rfl, _⟩ | ⟨never, _⟩
        · exact ⟨placed.leave mine, rfl⟩
        · exact never.elim
  | findByIdAndDelete notificationId =>
      rcases respond_cases answered with ⟨rfl, _⟩ | ⟨_, rfl, _⟩
      · exact ⟨placed.leave mine, rfl⟩
      · refine ⟨?_, rfl⟩
        obtain ⟨delivered, handled, unpublished⟩ := placed.leave mine
        exact ⟨delivered, handled, unpublished⟩

end Owed

theorem placement_valid (message : Message) :
    (placement message).Valid site flow
      fun pool event => UnhandledRequeued (pool.observe flow) event where
  call := by
    intro pool pid delivery world holds _ _ started
    simp only [site, Option.ite_none_right_eq_some, Option.some.injEq] at started
    obtain ⟨waiting, rfl⟩ := started
    obtain ⟨pc, enters⟩ : ∃ pc, Led.enter delivery.message.request = ((), .running pc) := by
      cases delivery.message.request with
      | sendSaga data => exact ⟨_, rfl⟩
      | deleteSaga notificationId => exact ⟨_, rfl⟩
    simp only [flow, enters, Pool.land_running]
    constructor
    case globally => exact holds.globally.deliver waiting
    case locally => exact List.mem_append_right _ (List.mem_singleton_self _)
    case others =>
      intro other _ before
      exact local_mono (fun _ there => List.mem_append_left _ there) before
  step := by
    intro pool pid choice delivery pc world reply holds _ running answered
    have mine : (pid, delivery) ∈ pool.world.handling := by
      simpa only [placement, running] using holds.locally pid
    obtain ⟨placed, handling⟩ := exec_placed holds.globally mine answered
    obtain ⟨out, ends⟩ := Led.next_finished pc reply
    simp only [flow, ends, Pool.land_finished]
    exact owed_ended placed handling rfl
  crashPending := by
    intro pool pid delivery pc holds _ running
    have mine : (pid, delivery) ∈ pool.world.handling := by
      simpa only [placement, running] using holds.locally pid
    exact owed_ended (holds.globally.leave mine) rfl rfl
  crashPerformed := by
    intro pool pid choice delivery pc world reply holds _ running answered
    have mine : (pid, delivery) ∈ pool.world.handling := by
      simpa only [placement, running] using holds.locally pid
    obtain ⟨placed, handling⟩ := exec_placed holds.globally mine answered
    exact owed_ended placed handling rfl
  env := by
    intro pool event world holds allowed moved
    cases event with
    | publish request =>
        cases moved
        exact ⟨holds.globally.publish request, fun _ before => local_mono (fun _ there => there) before⟩
    | disconnect consumer =>
        cases moved
        exact ⟨holds.globally.requeue allowed, fun _ before => local_mono (fun _ there => there) before⟩

/-- **A message leads to at most one notification,** if no message is put back into the queue
that is being handled or was handled with effect. -/
theorem created_at_most_once {state : State} (ran : Runs UnhandledRequeued (.initial {}) state)
    (number : ℕ) (data : EventPayload) :
    state.world.created.count ⟨number, .sendSaga data⟩ ≤ 1 := by
  obtain ⟨machine, ran, same⟩ := implements.path ran
  have holds : (placement ⟨number, .sendSaga data⟩).Holds machine := by
    refine (placement_valid _).path ran ⟨⟨?_, fun _ => ?_, fun _ => ?_⟩, fun pid => trivial⟩
    · exact Nat.zero_le 1
    · exact Nat.zero_le 1
    · rfl
  have handled := holds.globally.handled trivial
  rw [← show machine.world = state.world from congrArg Pool.world same]
  omega

/-! ## A consumer that restarts -/

namespace Sample

def first : ObjectId := ⟨"65f0a1b2c3d4e5f6a7b8cb00", rfl⟩

def second : ObjectId := ⟨"65f0a1b2c3d4e5f6a7b8cb01", rfl⟩

/-- What the saga of a registration sends. -/
def data : EventPayload where
  userId := some "65f0a1b2c3d4e5f6a7b8c9aa"
  taskId := some "65f0a1b2c3d4e5f6a7b8c9d0"
  title := some "Welcome to WorkflowHub!"
  message := some "Hello Ada, your account is ready."
  type := some "EMAIL"

def message : Message := ⟨0, .sendSaga data⟩

/-- The message is handed to the consumer. -/
def delivers (pid consumer : ℕ) : Happening := .call pid ⟨consumer, message⟩

def resolves (pid : ℕ) (id : ObjectId) : Happening := .step pid ⟨.resolved, id⟩

/-- A consumer restarts before it has made the notification, and another one makes it. -/
def redelivered : List Happening :=
  [.env (.publish message.request), delivers 0 0, .crash 0 none, .env (.disconnect 0),
    delivers 1 1, resolves 1 first, .env (.disconnect 0)]

/-- A consumer makes the notification, restarts and gets the message again. -/
def restarted : List Happening :=
  [.env (.publish message.request), delivers 0 0, resolves 0 first, .env (.disconnect 0),
    delivers 1 0, resolves 1 second]

end Sample

/-- The theorem at a message that is delivered twice. -/
theorem created_at_most_once_redelivered :
    ∃ state ∈ run step (.initial {}) Sample.redelivered,
      state.world.created = [Sample.message] ∧
        state.world.created.count Sample.message ≤ 1 := by
  obtain ⟨state, ran, once, unhandled⟩ :
      ∃ state ∈ run step (.initial {}) Sample.redelivered,
        state.world.created = [Sample.message] ∧
        Meets step (fun state event => UnhandledRequeued (state.observe programs) event)
          (.initial {}) Sample.redelivered := by decide +kernel
  exact ⟨state, ran, once, created_at_most_once (.of_run ran unhandled) 0 Sample.data⟩

/-- **Two notifications for one message,** after a restart of the consumer that has handled
it. The message was published once, nothing is rejected and no call is running when the
consumer restarts. -/
theorem redelivery_creates_again :
    ∃ state ∈ run step (.initial {}) Sample.restarted,
      state.world.published = [.sendSaga Sample.data] ∧
        state.world.notifications.map (·.id) = [Sample.first, Sample.second] ∧
          ¬ state.world.created.count ⟨0, .sendSaga Sample.data⟩ ≤ 1 := by
  decide +kernel

end WorkflowHub.NotificationQueue
