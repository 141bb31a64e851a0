import WorkflowHub.Consumers.System

/-!
# Program points of the consumers

Both handlers go through the same three points: they await the key, then their effect, and
when the effect was rejected the removal of the key. `implements` says that this table
describes both of them.
-/

set_option autoImplicit false

namespace WorkflowHub.Consumers

open Processes

inductive Pc where
  | acquiring (plan : Plan)
  | processing (plan : Plan)
  | clearing (plan : Plan) (error : Thrown)

namespace Pc

def op : Pc → Op
  | acquiring plan => .set plan.key "processed" keySeconds
  | processing plan => plan.effect
  | clearing plan _ => .del plan.key

def plan : Pc → Plan
  | acquiring plan => plan
  | processing plan => plan
  | clearing plan _ => plan

/-- The delivery has taken the key and not given it back. -/
def Holding : Pc → Prop
  | acquiring _ => False
  | processing _ => True
  | clearing _ _ => True

end Pc

abbrev Led : Type := Unit × Target Pc (Except Thrown Unit)

namespace Led

def enter (delivery : Delivery) : Led :=
  match Consumers.plan delivery.consumer delivery.data with
  | some plan => ((), .running (.acquiring plan))
  | none => ((), .finished (.ok ()))

def next : (pc : Pc) → Except Thrown pc.op.Value → Led
  | .acquiring plan, .ok true => ((), .running (.processing plan))
  | .acquiring _, .ok false => ((), .finished (.ok ()))
  | .acquiring _, .error error => ((), .finished (.error error))
  | .processing _, .ok _ => ((), .finished (.ok ()))
  | .processing plan, .error error => ((), .running (.clearing plan error))
  | .clearing _ error, .ok _ => ((), .finished (.error error))
  | .clearing _ _, .error error => ((), .finished (.error error))

end Led

/-- The table of program points. -/
def flow : Flow (promises Op Op.Value Thrown) Unit Delivery Pc (Except Thrown Unit) where
  op _ pc := pc.op
  enter delivery _ := Led.enter delivery
  next _ pc reply _ := Led.next pc reply

theorem tracks_notification (offset : ℕ) (data : EventPayload) :
    Tracks flow ⟨.notification, offset, data⟩ (Led.enter ⟨.notification, offset, data⟩)
      ((NotificationService.handleTaskCreated data).run ()) := by
  refine Tracks.await fun (reply : Except Thrown Bool) _ => ?_
  cases reply with
  | error error => exact .done
  | ok acquired =>
      cases acquired with
      | false => exact .done
      | true =>
          refine Tracks.await fun reply _ => ?_
          cases reply with
          | ok _ => exact .done
          | error error =>
              refine Tracks.await fun reply _ => ?_
              cases reply with
              | ok _ => exact .done
              | error error => exact .done

theorem tracks_analytics (offset : ℕ) (data : EventPayload) :
    Tracks flow ⟨.analytics, offset, data⟩ (Led.enter ⟨.analytics, offset, data⟩)
      ((AnalyticsService.handleTaskCreated data).run ()) := by
  cases user : data.userId with
  | none =>
      simp only [Led.enter, plan, AnalyticsService.handleTaskCreated, user]
      exact .done
  | some userId =>
      cases task : jsOr data.taskId data.eventId with
      | none =>
          simp only [Led.enter, plan, AnalyticsService.handleTaskCreated, user, task]
          exact .done
      | some taskId =>
          by_cases absent : userId = "" ∨ taskId = ""
          · simp only [Led.enter, plan, AnalyticsService.handleTaskCreated, user, task,
              if_pos absent]
            exact .done
          · simp only [Led.enter, plan, AnalyticsService.handleTaskCreated, user, task,
              if_neg absent]
            refine Tracks.await fun (reply : Except Thrown Bool) _ => ?_
            cases reply with
            | error error => exact .done
            | ok acquired =>
                cases acquired with
                | false => exact .done
                | true =>
                    refine Tracks.await fun reply _ => ?_
                    cases reply with
                    | ok _ => exact .done
                    | error error =>
                        refine Tracks.await fun reply _ => ?_
                        cases reply with
                        | ok _ => exact .done
                        | error error => exact .done

/-- **The table of program points describes both handlers.** -/
theorem implements : Implements flow fun delivery => (program delivery).run := by
  intro delivery fields
  obtain ⟨consumer, offset, data⟩ := delivery
  cases consumer with
  | notification => exact tracks_notification offset data
  | analytics => exact tracks_analytics offset data

end WorkflowHub.Consumers
