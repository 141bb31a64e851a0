import WorkflowHub.Processes.Tracking

/-!
# What an observer sees of two runs

An observer sees some of the steps of a run. `Shows` is a run together with all that an observer
sees of it. Two runs that show the same may differ in everything the observer does not see, and
noninterference says that they end in states that agree on what the observer cares for.

`Unwinding.related` is the proof rule: a relation between the states of the two runs that a step
nobody sees keeps, on either side, and that two steps keep together which look the same.
`Tracking.shows` carries what programs show over to the table that tracks them, and
`Tracking.shown` back.
-/

set_option autoImplicit false

namespace WorkflowHub.Processes

section Runs

variable {State Event Obs : Type*} {step : State → Event → Option State}
  {C : State → Event → Prop} {sees : State → Event → Option Obs}

/-- A run under `C` of which an observer sees what is in the list, in this order. `sees` says what
the observer sees of a step, if anything. -/
inductive Shows (step : State → Event → Option State) (C : State → Event → Prop)
    (sees : State → Event → Option Obs) : State → List Obs → State → Prop where
  | refl {state : State} : Shows step C sees state [] state
  | unseen {before between after : State} {event : Event} {seen : List Obs}
      (allowed : C before event) (taken : step before event = some between)
      (hidden : sees before event = none) (rest : Shows step C sees between seen after) :
      Shows step C sees before seen after
  | seen {before between after : State} {event : Event} {obs : Obs} {seen : List Obs}
      (allowed : C before event) (taken : step before event = some between)
      (shown : sees before event = some obs) (rest : Shows step C sees between seen after) :
      Shows step C sees before (obs :: seen) after

namespace Shows

/-- A run that goes on. -/
theorem trans {first middle last : State} {seen seen' : List Obs}
    (shows : Shows step C sees first seen middle) (shows' : Shows step C sees middle seen' last) :
    Shows step C sees first (seen ++ seen') last := by
  induction shows with
  | refl => exact shows'
  | unseen allowed taken hidden _ ih => exact .unseen allowed taken hidden (ih shows')
  | seen allowed taken shown _ ih => exact .seen allowed taken shown (ih shows')

/-- A system that keeps up with every step and looks the same shows the same. -/
theorem simulated {State' : Type*} {step' : State' → Event → Option State'}
    {C' : State' → Event → Prop} {sees' : State' → Event → Option Obs} {R : State → State' → Prop}
    (allows : ∀ {state state' event}, R state state' → C state event → C' state' event)
    (looks : ∀ {state state'} event, R state state' → sees' state' event = sees state event)
    (follows : ∀ {state state' event after}, R state state' → step state event = some after →
      ∃ after', step' state' event = some after' ∧ R after after')
    {first last : State} {seen : List Obs} (shows : Shows step C sees first seen last) :
    ∀ {first' : State'}, R first first' →
      ∃ last', Shows step' C' sees' first' seen last' ∧ R last last' := by
  induction shows with
  | refl => exact fun related => ⟨_, .refl, related⟩
  | unseen allowed taken hidden _ ih =>
      intro first' related
      obtain ⟨between', taken', related'⟩ := follows related taken
      obtain ⟨last', rest, final⟩ := ih related'
      exact ⟨last', .unseen (allows related allowed) taken' ((looks _ related).trans hidden) rest,
        final⟩
  | seen allowed taken shown _ ih =>
      intro first' related
      obtain ⟨between', taken', related'⟩ := follows related taken
      obtain ⟨last', rest, final⟩ := ih related'
      exact ⟨last', .seen (allows related allowed) taken' ((looks _ related).trans shown) rest,
        final⟩

theorem path {first last : State} {seen : List Obs} (shows : Shows step C sees first seen last) :
    Path step C first last := by
  induction shows with
  | refl => exact .refl
  | unseen allowed taken _ _ ih => exact .head ⟨_, allowed, taken⟩ ih
  | seen allowed taken _ _ ih => exact .head ⟨_, allowed, taken⟩ ih

end Shows

/-- What the run over a list of events shows. -/
def trace (step : State → Event → Option State) (sees : State → Event → Option Obs) :
    State → List Event → List Obs
  | _, [] => []
  | state, event :: events =>
      match step state event with
      | none => []
      | some next => (sees state event).toList ++ trace step sees next events

/-- A run over a list of events shows its trace. -/
theorem Shows.of_run {events : List Event} : ∀ {first last : State},
    run step first events = some last → Meets step C first events →
      Shows step C sees first (trace step sees first events) last := by
  induction events with
  | nil =>
      intro first last ran _
      cases ran
      exact .refl
  | cons event events ih =>
      intro first last ran meets
      simp only [run, Option.bind_eq_some_iff] at ran
      obtain ⟨next, taken, rest⟩ := ran
      have shows := ih rest (meets.2 next taken)
      simp only [trace, taken]
      cases sight : sees first event with
      | none => exact .unseen meets.1 taken sight shows
      | some obs => exact .seen meets.1 taken sight shows

/-- What is to be shown of a relation between the states of two runs that show the same. -/
structure Unwinding (step : State → Event → Option State) (C : State → Event → Prop)
    (sees : State → Event → Option Obs) (R : State → State → Prop) : Prop where
  symm : ∀ {first second : State}, R first second → R second first
  unseen : ∀ {first second after : State} {event : Event}, R first second → C first event →
    sees first event = none → step first event = some after → R after second
  seen : ∀ {first second after after' : State} {event event' : Event} {obs : Obs},
    R first second → C first event → C second event' → sees first event = some obs →
    sees second event' = some obs → step first event = some after →
    step second event' = some after' → R after after'

namespace Unwinding

variable {R : State → State → Prop} {first second last : State}

/-- The relation outlasts a run that shows nothing. -/
theorem of_nil (unwinding : Unwinding step C sees R) {seen : List Obs}
    (shows : Shows step C sees second seen last) (nothing : seen = []) (related : R first second) :
    R first last := by
  induction shows with
  | refl => exact related
  | unseen allowed taken hidden _ ih =>
      exact ih nothing (unwinding.symm (unwinding.unseen (unwinding.symm related) allowed hidden taken))
  | seen => cases nothing

/-- Before the first thing a run shows, the relation outlasts what it does not show. -/
theorem of_cons (unwinding : Unwinding step C sees R) {obs : Obs} {seen all : List Obs}
    (shows : Shows step C sees second all last) (begins : all = obs :: seen)
    (related : R first second) :
    ∃ before event after, R first before ∧ C before event ∧ sees before event = some obs ∧
      step before event = some after ∧ Shows step C sees after seen last := by
  induction shows with
  | refl => cases begins
  | unseen allowed taken hidden _ ih =>
      exact ih begins
        (unwinding.symm (unwinding.unseen (unwinding.symm related) allowed hidden taken))
  | seen allowed taken shown rest _ =>
      cases begins
      exact ⟨_, _, _, related, allowed, shown, taken, rest⟩

/-- **Two runs that show the same and start in related states end in related states.** -/
theorem related (unwinding : Unwinding step C sees R) {last' : State} {seen : List Obs}
    (shows : Shows step C sees first seen last) :
    ∀ {second : State}, Shows step C sees second seen last' → R first second → R last last' := by
  induction shows with
  | refl => exact fun shows' start => unwinding.of_nil shows' rfl start
  | unseen allowed taken hidden _ ih =>
      exact fun shows' start => ih shows' (unwinding.unseen start allowed hidden taken)
  | seen allowed taken shown _ ih =>
      intro second shows' start
      obtain ⟨before, event, after, related, allowed', shown', taken', rest'⟩ :=
        unwinding.of_cons shows' rfl start
      exact ih rest' (unwinding.seen related allowed allowed' shown shown' taken taken')

end Unwinding

end Runs

/-! ## Pools -/

namespace Pool

variable {S : Signature} {σ World Call Pc Out Choice Env Obs : Type}

/-- The call an event is about. -/
def caller (pool : Pool World Call Pc Out) : Event Call Choice Env → Option Call
  | .call _ call => some call
  | .step pid _ => (pool.slots pid).call?
  | .crash pid _ => (pool.slots pid).call?
  | .env _ => none

@[simp] theorem caller_observe (flow : Flow S σ Call Pc Out) (pool : Pool World Call Pc Out)
    (event : Event Call Choice Env) : (pool.observe flow).caller event = pool.caller event := by
  cases event with
  | call pid call => rfl
  | step pid choice => exact Slot.call?_observe
  | crash pid performed => exact Slot.call?_observe
  | env event => rfl

/-- A step of a call leaves its entry to that call, and it was its own or free. -/
theorem step_caller {site : Site S σ World Call Out Choice Env} {flow : Flow S σ Call Pc Out}
    {pool pool' : Pool World Call Pc Out} {event : Event Call Choice Env} {pid : ℕ}
    (taken : step site flow pool event = some pool') (mine : pid ∈ event.pid?) :
    ∃ call, pool.caller event = some call ∧ (pool'.slots pid).call? = some call ∧
      ∀ call' ∈ (pool.slots pid).call?, call' = call := by
  have landed : ∀ {world : World} {call : Call} (led : σ × Target Pc Out),
      ((settle pool.slots pid (land site world pid call led)).slots pid).call? = some call := by
    intro world call led
    obtain ⟨fields, target⟩ := led
    rw [settle_self]
    cases target with
    | running pc => rfl
    | finished out => rfl
  cases stepped taken with
  | @call pid' call world free started =>
      cases mine
      exact ⟨call, rfl, landed _, fun call' found => by rw [free] at found; cases found⟩
  | @step pid' choice call pc world reply running answered =>
      cases mine
      refine ⟨call, by simp only [caller, running]; rfl, landed _, fun call' found => ?_⟩
      rw [running] at found
      cases found
      rfl
  | @crashPending pid' call pc running =>
      cases mine
      refine ⟨call, by simp only [caller, running]; rfl, by rw [settle_self]; rfl,
        fun call' found => ?_⟩
      rw [running] at found
      cases found
      rfl
  | @crashPerformed pid' choice call pc world reply running answered =>
      cases mine
      refine ⟨call, by simp only [caller, running]; rfl, by rw [settle_self]; rfl,
        fun call' found => ?_⟩
      rw [running] at found
      cases found
      rfl
  | env moved => cases mine

/-- Every call there is was allowed to start. -/
theorem asked {site : Site S σ World Call Out Choice Env} {flow : Flow S σ Call Pc Out}
    {C : Pool World Call Pc Out → Event Call Choice Env → Prop} {Q : Call → Prop}
    (allows : ∀ {pool pid call}, C pool (.call pid call) → Q call) {world : World}
    {pool : Pool World Call Pc Out} (ran : Path (step site flow) C (initial world) pool) :
    ∀ pid, ∀ call ∈ (pool.slots pid).call?, Q call := by
  refine Path.invariant (P := fun pool => ∀ pid, ∀ call ∈ (pool.slots pid).call?, Q call) ran
    (fun pid call found => by cases found) ?_
  intro before event after allowed asked taken pid call found
  by_cases mine : pid ∈ event.pid?
  · obtain ⟨call', about, entry, _⟩ := step_caller taken mine
    obtain rfl : call' = call := Option.some.inj (entry.symm.trans found)
    cases event with
    | call pid' call =>
        cases about
        exact allows allowed
    | step pid' choice =>
        cases mine
        exact asked pid call' about
    | crash pid' performed =>
        cases mine
        exact asked pid call' about
    | env event => cases mine
  · rw [step_other taken mine] at found
    exact asked pid call found

namespace Tracking

variable {flow : Flow S σ Call Pc Out} {site : Site S σ World Call Out Choice Env}
  {body : Call → Async S σ Out} {C : Pool World Call S.Op Out → Event Call Choice Env → Prop}
  {sees : Pool World Call S.Op Out → Event Call Choice Env → Option Obs}
  {machine : Pool World Call Pc Out} {code : Pool World Call (Suspended S σ Out) Out}

/-- What a run of the programs shows, a run of the flow shows. -/
theorem shows (implements : Implements flow body) (tracking : Tracking flow machine code)
    {seen : List Obs} {code' : Pool World Call (Suspended S σ Out) Out}
    (shows : Shows (Pool.step site (Flow.ofPrograms body))
      (fun pool event => C (pool.observe (Flow.ofPrograms body)) event)
      (fun pool event => sees (pool.observe (Flow.ofPrograms body)) event) code seen code') :
    ∃ machine', Shows (Pool.step site flow) (fun pool event => C (pool.observe flow) event)
      (fun pool event => sees (pool.observe flow) event) machine seen machine' ∧
      Tracking flow machine' code' := by
  refine shows.simulated (R := fun code machine => Tracking flow machine code) ?_ ?_ ?_ tracking
  · intro code machine event tracking allowed
    rwa [show machine.observe flow = _ from tracking.observe_eq]
  · intro code machine event tracking
    rw [show machine.observe flow = _ from tracking.observe_eq]
  · exact fun tracking taken => tracking.step implements taken

/-- What a run of the flow shows, a run of the programs shows. -/
theorem shown (implements : Implements flow body) (tracking : Tracking flow machine code)
    {seen : List Obs} {machine' : Pool World Call Pc Out}
    (shows : Shows (Pool.step site flow) (fun pool event => C (pool.observe flow) event)
      (fun pool event => sees (pool.observe flow) event) machine seen machine') :
    ∃ code', Shows (Pool.step site (Flow.ofPrograms body))
      (fun pool event => C (pool.observe (Flow.ofPrograms body)) event)
      (fun pool event => sees (pool.observe (Flow.ofPrograms body)) event) code seen code' ∧
      Tracking flow machine' code' := by
  refine shows.simulated (R := Tracking flow) ?_ ?_ ?_ tracking
  · intro machine code event tracking allowed
    rwa [← show machine.observe flow = _ from tracking.observe_eq]
  · intro machine code event tracking
    rw [← show machine.observe flow = _ from tracking.observe_eq]
  · exact fun tracking taken => tracking.taken implements taken

end Tracking

end Pool

end WorkflowHub.Processes
