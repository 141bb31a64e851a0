import WorkflowHub.Processes.Noninterference
import WorkflowHub.Throttling.RateCap

/-!
# Anonymous callers

A caller without a token sends any number of requests to a route from one address, and chooses
their headers. Under one key, as many of them are admitted in a window as the limit allows
(`admitted_le`).
-/

set_option autoImplicit false

namespace WorkflowHub.Throttling

open Processes FixedWindow

/-! ## The requests of a caller -/

/-- A route, with its limit and its seconds. -/
structure Route where
  path : String
  path_ne : path ≠ ""
  limit : ℤ
  ttl : ℕ
  positive : 0 < ttl

def Route.options (route : Route) : ThrottleOptions := ⟨route.limit, route.ttl⟩

/-- Where the requests of a caller come from, as far as the caller has no choice. -/
structure Client where
  ip : Option String
  remoteAddress : Option String
  deriving DecidableEq, Repr

/-- What the client is called who sends this header. -/
def Client.identifier (client : Client) (forwardedFor : Option String) : String :=
  getClientIdentifier
    { forwardedFor := forwardedFor, ip := client.ip, remoteAddress := client.remoteAddress }

/-- A request without a user. The header is one of those the caller chooses from. -/
structure Anonymous (route : Route) (client : Client) (choices : Option String → Prop)
    (call : Call) : Prop where
  http : call.context.type = .http
  options : call.options = route.options
  userId : call.context.request.userId = none
  forwardedFor : choices call.context.request.forwardedFor
  ip : call.context.request.ip = client.ip
  remoteAddress : call.context.request.remoteAddress = client.remoteAddress
  routePath : call.context.request.routePath = some route.path

/-- The key of such a request. -/
def Route.key (route : Route) (client : Client) (forwardedFor : Option String) : String :=
  "throttle:" ++ route.path ++ ":" ++ client.identifier forwardedFor

/-- The call without the header. -/
def Call.withoutHeaders (call : Call) : Call :=
  { call with
    context :=
      { call.context with request := { call.context.request with forwardedFor := none } } }

/-- The request waits for its `INCR`. -/
def Incrementing : Slot Call Op (Except Thrown Bool) → Bool
  | .running _ (.incr _) => true
  | _ => false

/-- The requests are those of the caller and are counted in the window that begins at `begin`, and
Redis does not fail. -/
def Arriving (route : Route) (client : Client) (choices : Option String → Prop) (begin : ℕ)
    (view : View) : Happening → Prop
  | .call _ call => Anonymous route client choices call
  | .step pid outcome => outcome = .resolved ∧
      (Incrementing (view.slots pid) = true → view.world.now ≤ begin + route.ttl * 1000)
  | .crash pid _ =>
      Incrementing (view.slots pid) = true → view.world.now ≤ begin + route.ttl * 1000
  | .env _ => True

/-- Nothing is counted yet under any key the caller may be counted under. -/
def Unused (route : Route) (client : Client) (choices : Option String → Prop) (world : World) :
    Prop :=
  ∀ forwardedFor, choices forwardedFor → world.keys (route.key client forwardedFor) = none ∧
    world.lifetimes (route.key client forwardedFor) = []

/-- What two runs have in common that differ only in headers: all that happens to the requests,
and when. -/
def unheaded (view : View) : Happening → Option (ℕ × Happening)
  | .call pid call => some (view.world.now, .call pid call.withoutHeaders)
  | .env _ => none
  | event => some (view.world.now, event)

/-- The limit of the route caps the requests of the caller, whatever headers they have. -/
structure Unevadable (route : Route) (client : Client) (choices : Option String → Prop) : Prop where
  /-- Of the requests in a window as many are admitted as the limit allows. -/
  capped : ∀ {world : World} {state : State}, Unused route client choices world →
    Runs (Arriving route client choices world.now) (.initial world) state →
      ∀ pids : List ℕ, pids.Nodup → (∀ pid ∈ pids, Admitted (state.slots pid) = true) →
        (pids.length : ℤ) ≤ max 0 route.limit
  /-- In two runs that differ only in headers, the same requests are admitted. -/
  alike : ∀ {world : World} {seen : List (ℕ × Happening)} {state state' : State},
    Unused route client choices world →
    Shows step (fun state event =>
        Arriving route client choices world.now (state.observe programs) event)
      (fun state event => unheaded (state.observe programs) event) (.initial world) seen state →
    Shows step (fun state event =>
        Arriving route client choices world.now (state.observe programs) event)
      (fun state event => unheaded (state.observe programs) event) (.initial world) seen state' →
      ∀ pid, Admitted (state.slots pid) = Admitted (state'.slots pid)

/-! ## The key of a request -/

section Keys

variable {route : Route} {client : Client} {choices : Option String → Prop} {call : Call}

theorem Anonymous.key (anonymous : Anonymous route client choices call) :
    call.key = route.key client call.context.request.forwardedFor := by
  have path : interpolated (jsOr call.context.request.routePath (some call.context.request.url)) =
      route.path := by
    rw [anonymous.routePath, jsOr_of_truthy (truthy_some.mpr route.path_ne)]
    rfl
  have identifier : getClientIdentifier call.context.request =
      client.identifier call.context.request.forwardedFor := by
    simp only [Client.identifier, getClientIdentifier, anonymous.userId, anonymous.ip,
      anonymous.remoteAddress]
  simp only [Call.key, redisKey, Route.key, path, identifier]

theorem Route.key_eq_iff {first second : Option String} :
    route.key client first = route.key client second ↔
      client.identifier first = client.identifier second := by
  simp only [Route.key]
  exact String.append_right_inj _

end Keys

/-! ## Limits below one -/

/-- Who has been counted is at least the first, and a request above its limit is not admitted. -/
def turnedDown : Assertions World Call Pc (Except Thrown Bool) where
  Global _ := True
  Local _ _ slot :=
    match slot with
    | .running _ pc => ∀ count ∈ pc.currentRequests, 1 ≤ count
    | .finished call out => call.context.type = .http → call.options.limit < 1 → rejects out = true
    | _ => True

section Limits

variable {C : View → Happening → Prop} {world : World} {pid : ℕ} {call : Call}

theorem verdict_turnedDown {currentRequests : ℕ} (counted : 1 ≤ currentRequests) :
    turnedDown.Local world pid
      (Pool.land site world pid call (Led.verdict call currentRequests)).2 := by
  by_cases exceeds : (currentRequests : ℤ) > call.options.limit
  · simp only [Led.verdict, exceeds, ↓reduceIte]
    exact fun _ _ => rfl
  · simp only [Led.verdict, exceeds, ↓reduceIte]
    intro _ low
    omega

theorem turnedDown_valid
    (resolves : ∀ {view pid outcome}, C view (.step pid outcome) → outcome = .resolved) :
    turnedDown.Valid site flow fun machine event => C (machine.observe flow) event where
  call := by
    intro machine pid call world holds _ _ started
    cases started
    refine .of_world (Pool.land_world _ (fun _ => rfl) (fun _ => rfl) _) trivial ?_
      fun _ _ before => before
    by_cases http : call.context.type = .http
    · simp only [flow, Led.enter, http, ↓reduceIte]
      exact fun count found => by cases found
    · simp only [flow, Led.enter, http, ↓reduceIte]
      exact fun same => absurd same http
  step := by
    intro machine pid outcome call pc world reply holds allowed running answered
    have counted : ∀ count ∈ pc.currentRequests, 1 ≤ count := by
      simpa only [turnedDown, running] using holds.locally pid
    obtain rfl := resolves allowed
    refine .of_world (Pool.land_world _ (fun _ => rfl) (fun _ => rfl) _) trivial ?_
      fun _ _ before => before
    simp only [flow]
    rcases next_resolved answered with ⟨_, goes⟩ | ⟨count, known, goes | goes⟩
    · rw [goes]
      rintro count ⟨⟩
      exact Keyspace.incremented_pos ..
    · rw [goes]
      exact verdict_turnedDown (counted count known)
    · rw [goes]
      rintro _ ⟨⟩
      exact counted count known
  crashPending := by
    intro machine pid call pc holds _ _
    exact ⟨trivial, trivial, fun _ _ before => before⟩
  crashPerformed := by
    intro machine pid outcome call pc world reply holds _ _ _
    exact ⟨trivial, trivial, fun _ _ before => before⟩
  env := by
    intro machine event world holds _ _
    exact ⟨trivial, fun _ before => before⟩

end Limits

/-! ## One window -/

/-- All lifetimes of the key were born in the window, and who knows its count is counted under
the key. -/
def window (key : String) (begin span : ℕ) : Assertions World Call Pc (Except Thrown Bool) where
  Global world := begin ≤ world.now ∧
    ∀ lifetime ∈ world.lifetimes key, begin ≤ lifetime.born ∧ lifetime.born ≤ begin + span
  Local world pid slot :=
    match slot with
    | .running call pc => call.key = key ∧
        ∀ count ∈ pc.currentRequests, ∃ increment ∈ world.increments key, increment.who = pid
    | .finished _ out => out = .ok true → ∃ increment ∈ world.increments key, increment.who = pid
    | _ => True

section Windows

variable {world world' : World} {key : String} {begin span pid : ℕ} {call : Call} {pc : Pc}
  {outcome : Outcome}

/-- An `INCR` adds an increment of the request. -/
theorem increments_after (world : World) (pid : ℕ) (key : String) : ∃ increment,
    (world.increment pid key).increments key = increment :: world.increments key ∧
      increment.who = pid := by
  simp only [World.increments, increment_lifetimes, World.lifetimesAfter]
  split
  · cases world.lifetimes key with
    | nil => exact ⟨_, rfl, rfl⟩
    | cons latest earlier => exact ⟨_, rfl, rfl⟩
  · exact ⟨_, rfl, rfl⟩

/-- A lifetime after an `INCR` was there, as far as its birth goes, or is born now. -/
theorem born_after {lifetime : Lifetime ℕ ℕ}
    (found : lifetime ∈ (world.increment pid key).lifetimes key) :
    lifetime.born = world.now ∨ ∃ before ∈ world.lifetimes key, lifetime.born = before.born := by
  simp only [increment_lifetimes, World.lifetimesAfter] at found
  split at found
  · cases earlier : world.lifetimes key with
    | nil =>
        rw [earlier] at found
        exact .inl (congrArg _ (List.mem_singleton.mp found))
    | cons latest earlier' =>
        rw [earlier] at found
        rcases List.mem_cons.mp found with rfl | found
        · exact .inr ⟨latest, List.mem_cons_self, rfl⟩
        · exact .inr ⟨lifetime, List.mem_cons_of_mem _ found, rfl⟩
  · rcases List.mem_cons.mp found with rfl | found
    · exact .inl rfl
    · exact .inr ⟨lifetime, found, rfl⟩

/-- A command in the window keeps its lifetimes there, and no increment is forgotten. -/
theorem exec_window {reply : Except Thrown (pc.op call).Value}
    (holds : (window key begin span).Global world) (mine : call.key = key)
    (early : pc = .incrementing → world.now ≤ begin + span)
    (answered : exec world pid (pc.op call) outcome = some (world', reply)) :
    (window key begin span).Global world' ∧ world.increments key ⊆ world'.increments key := by
  subst mine
  cases pc with
  | incrementing =>
      rcases respond_cases answered with ⟨rfl, _⟩ | ⟨_, rfl, _⟩
      · exact ⟨holds, List.Subset.refl _⟩
      · refine ⟨⟨holds.1, ?_⟩, ?_⟩
        · intro lifetime found
          rcases born_after found with now | ⟨before, there, same⟩
          · rw [now]
            exact ⟨holds.1, early rfl⟩
          · rw [same]
            exact holds.2 before there
        · obtain ⟨increment, after, _⟩ := increments_after world pid call.key
          rw [after]
          exact List.subset_cons_self _ _
  | reading currentRequests =>
      rcases respond_cases answered with ⟨rfl, _⟩ | ⟨_, rfl, _⟩
      · exact ⟨holds, List.Subset.refl _⟩
      · exact ⟨holds, List.Subset.refl _⟩
  | expiring currentRequests =>
      rcases respond_cases answered with ⟨rfl, _⟩ | ⟨_, rfl, _⟩
      · exact ⟨holds, List.Subset.refl _⟩
      · exact ⟨holds, List.Subset.refl _⟩

/-- What is not forgotten stays known. -/
theorem window_mono {slot : Slot Call Pc (Except Thrown Bool)}
    (grows : world.increments key ⊆ world'.increments key)
    (holds : (window key begin span).Local world pid slot) :
    (window key begin span).Local world' pid slot := by
  cases slot with
  | running call pc =>
      refine ⟨holds.1, fun count known => ?_⟩
      obtain ⟨increment, found, mine⟩ := holds.2 count known
      exact ⟨increment, grows found, mine⟩
  | finished call out =>
      intro admitted
      obtain ⟨increment, found, mine⟩ := holds admitted
      exact ⟨increment, grows found, mine⟩
  | _ => trivial

theorem verdict_window {currentRequests : ℕ}
    (counted : ∃ increment ∈ world.increments key, increment.who = pid) :
    (window key begin span).Local world pid
      (Pool.land site world pid call (Led.verdict call currentRequests)).2 := by
  unfold Led.verdict
  split
  · exact fun _ => counted
  · exact fun _ => counted

end Windows

section Caller

variable {route : Route} {client : Client} {choices : Option String → Prop} {key : String}
  {begin : ℕ}

/-- An entry that waits for its `INCR`. -/
theorem incrementing_of_running {machine : Pool World Call Pc (Except Thrown Bool)} {pid : ℕ}
    {call : Call} {pc : Pc} (running : machine.slots pid = .running call pc)
    (same : pc = .incrementing) : Incrementing ((machine.observe flow).slots pid) = true := by
  rw [Pool.observe_slots, running, same]
  rfl

theorem window_valid
    (one : ∀ forwardedFor, choices forwardedFor → route.key client forwardedFor = key) :
    (window key begin (route.ttl * 1000)).Valid site flow
      fun machine event => Arriving route client choices begin (machine.observe flow) event where
  call := by
    intro machine pid call world holds anonymous _ started
    cases started
    have mine : call.key = key := anonymous.key.trans (one _ anonymous.forwardedFor)
    refine .of_world (Pool.land_world _ (fun _ => rfl) (fun _ => rfl) _) holds.globally ?_
      fun _ _ before => before
    simp only [flow, Led.enter, anonymous.http, ↓reduceIte]
    exact ⟨mine, fun count found => by cases found⟩
  step := by
    intro machine pid outcome call pc world reply holds arriving running answered
    have before : (window key begin (route.ttl * 1000)).Local machine.world pid
        (.running call pc) := running ▸ holds.locally pid
    obtain ⟨mine, known⟩ := before
    obtain ⟨rfl, early⟩ := arriving
    obtain ⟨globally, grows⟩ := exec_window holds.globally mine
      (fun same => early (incrementing_of_running running same)) answered
    refine .of_world (Pool.land_world _ (fun _ => rfl) (fun _ => rfl) _) globally ?_
      fun other _ holds => window_mono grows holds
    subst mine
    have still : ∀ count ∈ pc.currentRequests,
        ∃ increment ∈ world.increments call.key, increment.who = pid := by
      intro count found
      obtain ⟨increment, there, own⟩ := known count found
      exact ⟨increment, grows there, own⟩
    simp only [flow]
    rcases next_resolved answered with ⟨rfl, goes⟩ | ⟨count, counted, goes | goes⟩
    · rw [goes]
      refine ⟨rfl, fun _ _ => ?_⟩
      obtain ⟨increment, after, own⟩ := increments_after machine.world pid call.key
      exact ⟨increment, after ▸ List.mem_cons_self, own⟩
    · rw [goes]
      exact verdict_window (still count counted)
    · rw [goes]
      exact ⟨rfl, fun _ _ => still count counted⟩
  crashPending := by
    intro machine pid call pc holds _ _
    exact ⟨holds.globally, trivial, fun _ _ before => before⟩
  crashPerformed := by
    intro machine pid outcome call pc world reply holds early running answered
    have before : (window key begin (route.ttl * 1000)).Local machine.world pid
        (.running call pc) := running ▸ holds.locally pid
    obtain ⟨globally, grows⟩ := exec_window holds.globally before.1
      (fun same => early (incrementing_of_running running same)) answered
    exact ⟨globally, trivial, fun other _ holds => window_mono grows holds⟩
  env := by
    intro machine event world holds _ moved
    cases event with
    | elapse milliseconds =>
        cases moved
        exact ⟨⟨holds.globally.1.trans (Nat.le_add_right _ _), holds.globally.2⟩,
          fun _ before => window_mono (List.Subset.refl _) before⟩

variable {world : World}

/-- The request of a caller goes by the options of the route. -/
theorem metered_of_arriving {limit : ℕ} (limited : route.limit = limit) {view : View}
    {event : Happening} (arriving : Arriving route client choices begin view event) :
    Metered key ⟨limit, route.ttl⟩ view event := by
  cases event with
  | call pid call =>
      intro _ _
      rw [arriving.options, Route.options, limited]
  | step pid outcome => exact arriving.1
  | crash pid performed => trivial
  | env event => trivial

/-- Under one key, as many are admitted in the window as the limit allows. -/
theorem admitted_le {limit : ℕ} (limited : route.limit = limit)
    (one : ∀ forwardedFor, choices forwardedFor → route.key client forwardedFor = key)
    (absent : world.keys key = none) (unborn : world.lifetimes key = [])
    {machine : Pool World Call Pc (Except Thrown Bool)}
    (ran : Path (Pool.step site flow)
      (fun machine event => Arriving route client choices world.now (machine.observe flow) event)
      (.initial world) machine) {pids : List ℕ} (distinct : pids.Nodup)
    (admitted : ∀ pid ∈ pids, Admitted (machine.slots pid) = true) : pids.length ≤ limit := by
  have none : world.increments key = [] := by simp [World.increments, unborn]
  have rated : (rate key limit route.ttl).Holds machine := by
    refine (rate_valid key route.positive).path
      (ran.mono fun machine event => metered_of_arriving limited) ⟨⟨?_, ?_, ?_⟩, fun pid => ?_⟩
    · rw [Pool.initial, unborn]
      exact .nil
    · rw [Pool.initial, unborn, absent]
      exact .absent
    · rw [Pool.initial, none]
      exact List.nodup_nil
    · intro increment found
      rw [Pool.initial, none] at found
      cases found
  have windowed : (window key world.now (route.ttl * 1000)).Holds machine := by
    refine (window_valid one).path ran ⟨⟨Nat.le_refl _, fun lifetime found => ?_⟩, fun _ => trivial⟩
    rw [Pool.initial, unborn] at found
    cases found
  let counted := (machine.world.increments key).filter (·.count ≤ limit)
  have all : pids ⊆ counted.map (·.who) := by
    intro pid there
    have allowed := admitted pid there
    have known := windowed.locally pid
    cases slot : machine.slots pid with
    | finished call out =>
        rw [slot] at allowed known
        cases out with
        | ok allowed' =>
            obtain rfl : allowed' = true := allowed
            obtain ⟨increment, found, rfl⟩ := known rfl
            have within := count_le_of_admitted rated found (by rw [slot]; rfl)
            exact List.mem_map_of_mem (List.mem_filter.mpr ⟨found, decide_eq_true within⟩)
        | error error => cases allowed
    | _ =>
        rw [slot] at allowed
        cases allowed
  calc pids.length
      ≤ (counted.map (·.who)).length := List.Nodup.length_le_of_subset distinct all
    _ = (machine.world.increments key).countP (·.count ≤ limit) := by
        rw [List.length_map, List.countP_eq_length_filter]
    _ ≤ limit := rated.globally.sound.countP_window_le windowed.globally.2 limit

end Caller

end WorkflowHub.Throttling
