import WorkflowHub.Throttling.System

/-!
# Program points of the guard

A request that is metered awaits `INCR`, then `TTL`, and then `EXPIRE` if its key had no time
of expiry. `implements` says that the table describes the guard.
-/

set_option autoImplicit false

namespace WorkflowHub.Throttling

open Processes

inductive Pc where
  | incrementing
  | reading (currentRequests : ℕ)
  | expiring (currentRequests : ℕ)

namespace Pc

def op (call : Call) : Pc → Op
  | incrementing => .incr call.key
  | reading _ => .ttl call.key
  | expiring _ => .expire call.key call.options.ttl

@[simp] theorem key_op (call : Call) (pc : Pc) : (pc.op call).key = call.key := by
  cases pc with
  | _ => rfl

/-- The count a request has reached, when it knows. -/
def currentRequests : Pc → Option ℕ
  | incrementing => none
  | reading currentRequests => some currentRequests
  | expiring currentRequests => some currentRequests

end Pc

abbrev Led : Type := Unit × Target Pc (Except Thrown Bool)

namespace Led

def enter (call : Call) : Led :=
  if call.context.type = .http then ((), .running .incrementing) else ((), .finished (.ok true))

/-- The request is admitted up to the limit. -/
def verdict (call : Call) (currentRequests : ℕ) : Led :=
  if (currentRequests : ℤ) > call.options.limit then ((), .finished (.error tooManyRequests))
  else ((), .finished (.ok true))

/-- A command has failed. -/
def failOpen (error : Thrown) : Led :=
  if error.isHttpException then ((), .finished (.error error)) else ((), .finished (.ok true))

def next (call : Call) : (pc : Pc) → Except Thrown (pc.op call).Value → Led
  | .incrementing, .ok currentRequests => ((), .running (.reading currentRequests))
  | .reading currentRequests, .ok (ttl : ℤ) =>
      if ttl = -1 then ((), .running (.expiring currentRequests)) else verdict call currentRequests
  | .expiring currentRequests, .ok _ => verdict call currentRequests
  | .incrementing, .error error => failOpen error
  | .reading _, .error error => failOpen error
  | .expiring _, .error error => failOpen error

end Led

/-- The table of program points. -/
def flow : Flow (promises Op Op.Value Thrown) Unit Call Pc (Except Thrown Bool) where
  op call pc := pc.op call
  enter call _ := Led.enter call
  next call pc reply _ := Led.next call pc reply

/-- Where a request goes when its command resolves: after `INCR` it knows its count, and with
the count it has it goes to the verdict, or to `EXPIRE`. -/
theorem next_resolved {world world' : World} {pid : ℕ} {call : Call} {pc : Pc}
    {reply : Except Thrown (pc.op call).Value}
    (answered : exec world pid (pc.op call) .resolved = some (world', reply)) :
    (world' = world.increment pid call.key ∧ Led.next call pc reply =
      ((), .running (.reading (world.keys.incremented world.now call.key).value))) ∨
    ∃ count ∈ pc.currentRequests, Led.next call pc reply = Led.verdict call count ∨
      Led.next call pc reply = ((), .running (.expiring count)) := by
  cases pc with
  | incrementing =>
      cases answered
      exact .inl ⟨rfl, rfl⟩
  | reading currentRequests =>
      cases answered
      refine .inr ⟨currentRequests, rfl, ?_⟩
      by_cases unset : world.keys.ttl world.now call.key = -1
      · exact .inr (if_pos unset)
      · exact .inl (if_neg unset)
  | expiring currentRequests =>
      cases answered
      exact .inr ⟨currentRequests, rfl, .inl rfl⟩

/-- What is left of the guard once the key has a time of expiry. -/
def verdictRest (call : Call) (currentRequests : ℕ) : Method Bool := do
  try
    if (currentRequests : ℤ) > call.options.limit then
      throw tooManyRequests
  catch error =>
    if error.isHttpException then
      throw error
  return true

theorem tracks_verdictRest (call : Call) (currentRequests : ℕ) :
    Tracks flow call (Led.verdict call currentRequests)
      ((verdictRest call currentRequests).run ()) := by
  by_cases exceeds : (currentRequests : ℤ) > call.options.limit
  · simp only [Led.verdict, verdictRest, exceeds, ↓reduceIte]
    exact .done
  · simp only [Led.verdict, verdictRest, exceeds, ↓reduceIte]
    exact .done

theorem tracks_metered {call : Call} (http : call.context.type = .http) :
    Tracks flow call ((), .running .incrementing)
      ((canActivate call.config call.context).run ()) := by
  simp only [canActivate, http, ne_eq, not_true_eq_false, ↓reduceIte]
  refine Tracks.await fun (reply : Except Thrown ℕ) _ => ?_
  cases reply with
  | error error => cases error <;> exact .done
  | ok currentRequests =>
      refine Tracks.await fun (reply : Except Thrown ℤ) _ => ?_
      cases reply with
      | error error => cases error <;> exact .done
      | ok ttl =>
          by_cases unset : ttl = -1
          · subst unset
            refine Tracks.await fun (reply : Except Thrown ℕ) _ => ?_
            cases reply with
            | error error => cases error <;> exact .done
            | ok applied => exact tracks_verdictRest call currentRequests
          · simp only [flow, Led.next, Resumption.bind, ExceptT.bindCont, unset, ↓reduceIte]
            exact tracks_verdictRest call currentRequests

/-- **The table of program points describes the guard.** -/
theorem implements : Implements flow fun call => (canActivate call.config call.context).run := by
  intro call _
  by_cases http : call.context.type = .http
  · simp only [flow, Led.enter, http, ↓reduceIte]
    exact tracks_metered http
  · simp only [flow, Led.enter, http, ↓reduceIte, canActivate, ne_eq, not_false_eq_true]
    exact .done

end WorkflowHub.Throttling
