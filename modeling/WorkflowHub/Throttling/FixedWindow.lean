import Mathlib.Algebra.Order.Monoid.Unbundled.Basic

/-!
# Counters that start over

A counter is incremented by many, and each increment is told the count it has reached. From
time to time the counter starts over. A lifetime of it is what lies between two starts: when
it was born, and its increments, the latest first.

`Sound span now` holds of a history (its lifetimes, the latest first) when every lifetime
counts from one on, and was born more than `span` after the one before it. `Sound.start` and
`Sound.goOn` are its rules. Among the increments of a lifetime as many as a limit allows have
reached no more than the limit (`countP_count_le`), and in an interval of length `span` at most
twice as many (`Sound.countP_interval_le`): it meets no more than two lifetimes.
-/

set_option autoImplicit false

namespace WorkflowHub.FixedWindow

variable {Who Time : Type*}

/-- An increment: by whom, when, and the count it has reached. -/
structure Increment (Who Time : Type*) where
  who : Who
  time : Time
  count : ℕ
  deriving DecidableEq, Repr

structure Lifetime (Who Time : Type*) where
  born : Time
  increments : List (Increment Who Time)
  deriving DecidableEq, Repr

/-- All increments of a history. -/
def increments (history : List (Lifetime Who Time)) : List (Increment Who Time) :=
  history.flatMap (·.increments)

@[simp] theorem increments_nil : increments ([] : List (Lifetime Who Time)) = [] := rfl

@[simp] theorem increments_cons (latest : Lifetime Who Time) (earlier : List (Lifetime Who Time)) :
    increments (latest :: earlier) = latest.increments ++ increments earlier := rfl

/-- The counter is incremented and starts over. -/
def start (who : Who) (time : Time) (history : List (Lifetime Who Time)) :
    List (Lifetime Who Time) :=
  ⟨time, [⟨who, time, 1⟩]⟩ :: history

/-- The counter is incremented and does not start over, unless it was never incremented. -/
def goOn (who : Who) (time : Time) : List (Lifetime Who Time) → List (Lifetime Who Time)
  | [] => start who time []
  | latest :: earlier =>
      { latest with
        increments := ⟨who, time, latest.increments.length + 1⟩ :: latest.increments } :: earlier

/-! ## Counting within a lifetime -/

/-- The increments, the latest first, are counted from one on. -/
def Counted : List (Increment Who Time) → Prop
  | [] => True
  | increment :: earlier => increment.count = earlier.length + 1 ∧ Counted earlier

/-- As many as the limit allows have reached no more than the limit. -/
theorem countP_count_le {increments : List (Increment Who Time)} (counted : Counted increments)
    (limit : ℕ) : increments.countP (·.count ≤ limit) = min increments.length limit := by
  induction increments with
  | nil => simp
  | cons increment earlier ih =>
      obtain ⟨count, counted⟩ := counted
      rw [List.countP_cons, ih counted, count, List.length_cons]
      by_cases within : earlier.length + 1 ≤ limit
      · simp only [within, decide_true, ↓reduceIte]
        omega
      · simp only [within, decide_false, Bool.false_eq_true, ↓reduceIte]
        omega

/-! ## Histories -/

variable [LinearOrder Time] {now : Time}

/-- A lifetime counts from one on, and was born with its first increment. -/
structure Lifetime.Sound (now : Time) (lifetime : Lifetime Who Time) : Prop where
  counted : Counted lifetime.increments
  first : lifetime.increments.getLast?.map (·.time) = some lifetime.born
  within : ∀ increment ∈ lifetime.increments, lifetime.born ≤ increment.time ∧ increment.time ≤ now

theorem Lifetime.Sound.born_le {lifetime : Lifetime Who Time} (sound : lifetime.Sound now) :
    lifetime.born ≤ now := by
  obtain ⟨increment, last, born⟩ := Option.map_eq_some_iff.mp sound.first
  rw [← born]
  exact (sound.within increment (List.mem_of_getLast? last)).2

variable [Add Time] {span : Time}

/-- `newer` was born after `older` had ended, and more than `span` after it was born. -/
structure Follows (span : Time) (newer older : Lifetime Who Time) : Prop where
  spaced : older.born + span < newer.born
  past : ∀ increment ∈ older.increments, increment.time ≤ newer.born

structure Sound (span now : Time) (history : List (Lifetime Who Time)) : Prop where
  lifetimes : ∀ lifetime ∈ history, lifetime.Sound now
  spaced : history.Pairwise (Follows span)

namespace Sound

variable {who : Who} {latest : Lifetime Who Time} {earlier history : List (Lifetime Who Time)}

theorem nil : Sound span now ([] : List (Lifetime Who Time)) where
  lifetimes := by simp
  spaced := .nil

theorem later {now' : Time} (sound : Sound span now history) (le : now ≤ now') :
    Sound span now' history where
  lifetimes lifetime found :=
    have ⟨counted, first, within⟩ := sound.lifetimes lifetime found
    ⟨counted, first, fun increment there =>
      ⟨(within increment there).1, (within increment there).2.trans le⟩⟩
  spaced := sound.spaced

/-- A counter whose last lifetime is old enough may start over. -/
theorem start (sound : Sound span now history)
    (ended : ∀ latest ∈ history.head?, latest.born + span < now) :
    Sound span now (start who now history) where
  lifetimes := by
    intro lifetime found
    rcases List.mem_cons.mp found with rfl | found
    · refine ⟨⟨rfl, trivial⟩, rfl, fun increment there => ?_⟩
      rw [List.mem_singleton.mp there]
      exact ⟨le_rfl, le_rfl⟩
    · exact sound.lifetimes lifetime found
  spaced := by
    refine List.pairwise_cons.mpr ⟨fun older found => ⟨?_, ?_⟩, sound.spaced⟩
    · cases history with
      | nil => cases found
      | cons latest earlier =>
          have latestEnded : latest.born + span < now := ended latest rfl
          rcases List.mem_cons.mp found with rfl | found
          · exact latestEnded
          · have spaced := (List.rel_of_pairwise_cons sound.spaced found).spaced
            have born := (sound.lifetimes latest List.mem_cons_self).born_le
            exact spaced.trans_le born
    · intro increment there
      exact ((sound.lifetimes older found).within increment there).2

/-- The lifetime of a counter goes on. -/
theorem goOn (sound : Sound span now (latest :: earlier)) :
    Sound span now (goOn who now (latest :: earlier)) where
  lifetimes := by
    intro lifetime found
    rcases List.mem_cons.mp found with rfl | found
    · have born := (sound.lifetimes latest List.mem_cons_self).born_le
      obtain ⟨counted, first, within⟩ := sound.lifetimes latest List.mem_cons_self
      refine ⟨⟨rfl, counted⟩, ?_, fun increment there => ?_⟩
      · cases increments : latest.increments with
        | nil =>
            rw [increments] at first
            cases first
        | cons last before =>
            rw [increments] at first
            rw [List.getLast?_cons_cons]
            exact first
      · rcases List.mem_cons.mp there with rfl | there
        · exact ⟨born, le_rfl⟩
        · exact within increment there
    · exact sound.lifetimes lifetime (List.mem_cons_of_mem _ found)
  spaced := by
    obtain ⟨follows, spaced⟩ := List.pairwise_cons.mp sound.spaced
    exact List.pairwise_cons.mpr
      ⟨fun older found => ⟨(follows older found).spaced, (follows older found).past⟩, spaced⟩

/-- **A lifetime that is not old enough is the last one.** -/
theorem head_of_young (sound : Sound span now history) {lifetime : Lifetime Who Time}
    (found : lifetime ∈ history) (young : now ≤ lifetime.born + span) :
    history.head? = some lifetime := by
  cases history with
  | nil => cases found
  | cons latest earlier =>
      rcases List.mem_cons.mp found with rfl | found
      · rfl
      · have spaced := (List.rel_of_pairwise_cons sound.spaced found).spaced
        have born := (sound.lifetimes latest List.mem_cons_self).born_le
        exact absurd (spaced.trans_le (born.trans young)) (lt_irrefl _)

end Sound

/-! ## Counting in an interval -/

section Interval

/-- The increment lies in the interval of length `span` from `begin` on. -/
def Increment.In (begin span : Time) (increment : Increment Who Time) : Prop :=
  begin ≤ increment.time ∧ increment.time ≤ begin + span

instance (begin span : Time) (increment : Increment Who Time) :
    Decidable (increment.In begin span) := by
  unfold Increment.In
  infer_instance

theorem countP_outside {increments : List (Increment Who Time)} (limit : ℕ) {begin : Time}
    (outside : ∀ increment ∈ increments, ¬ increment.In begin span) :
    increments.countP (fun increment => increment.count ≤ limit ∧ increment.In begin span) = 0 :=
  List.countP_eq_zero.mpr fun increment found holds =>
    outside increment found (of_decide_eq_true holds).2

theorem countP_le_limit {increments : List (Increment Who Time)} (counted : Counted increments)
    (limit : ℕ) (begin span : Time) :
    increments.countP (fun increment => increment.count ≤ limit ∧ increment.In begin span) ≤
      limit := by
  have fewer : increments.countP
      (fun increment => increment.count ≤ limit ∧ increment.In begin span) ≤
        increments.countP (·.count ≤ limit) :=
    List.countP_mono_left fun increment _ holds =>
      decide_eq_true (of_decide_eq_true holds).1
  rw [countP_count_le counted] at fewer
  exact fewer.trans (min_le_right _ _)

variable [AddRightReflectLT Time] {history : List (Lifetime Who Time)}

/-- What lies before a lifetime that meets the interval, other than the one right before it,
does not meet it. -/
theorem Follows.outside {newest newer older : Lifetime Who Time} {begin : Time}
    (follows : Follows span newest newer) (follows' : Follows span newer older)
    (meets : ∃ increment ∈ newest.increments, newest.born ≤ increment.time ∧ increment.In begin span) :
    ∀ increment ∈ older.increments, ¬ increment.In begin span := by
  obtain ⟨increment, _, born, _, before⟩ := meets
  have early : newer.born < begin :=
    lt_of_add_lt_add_right (follows.spaced.trans_le (born.trans before))
  intro increment' found within
  exact absurd (within.1.trans (follows'.past increment' found)) (not_le_of_gt early)

/-- **In an interval of length `span` at most twice as many increments as the limit allows
have reached no more than the limit.** -/
theorem Sound.countP_interval_le (sound : Sound span now history) (limit : ℕ) (begin : Time) :
    (increments history).countP (fun increment => increment.count ≤ limit ∧
      increment.In begin span) ≤ 2 * limit := by
  induction history with
  | nil => simp
  | cons newest rest ih =>
      obtain ⟨follows, spaced⟩ := List.pairwise_cons.mp sound.spaced
      have lifetimes : ∀ lifetime ∈ rest, lifetime.Sound now :=
        fun lifetime found => sound.lifetimes lifetime (List.mem_cons_of_mem _ found)
      have newestSound := sound.lifetimes newest List.mem_cons_self
      rw [increments_cons, List.countP_append]
      by_cases meets : ∃ increment ∈ newest.increments, increment.In begin span
      · have meets : ∃ increment ∈ newest.increments,
            newest.born ≤ increment.time ∧ increment.In begin span := by
          obtain ⟨increment, found, within⟩ := meets
          exact ⟨increment, found, (newestSound.within increment found).1, within⟩
        cases rest with
        | nil =>
            have few := countP_le_limit newestSound.counted limit begin span
            simp only [increments_nil, List.countP_nil]
            omega
        | cons newer older =>
            have few := countP_le_limit newestSound.counted limit begin span
            have few' := countP_le_limit
              (lifetimes newer List.mem_cons_self).counted limit begin span
            have outside : ∀ increment ∈ increments older, ¬ increment.In begin span := by
              intro increment found
              obtain ⟨lifetime, there, found⟩ := List.mem_flatMap.mp found
              exact (follows newer List.mem_cons_self).outside
                (List.rel_of_pairwise_cons spaced there) meets increment found
            rw [increments_cons, List.countP_append, countP_outside limit outside]
            omega
      · rw [countP_outside limit fun increment found within => meets ⟨increment, found, within⟩]
        have rest := ih ⟨lifetimes, spaced⟩
        omega

end Interval

section Window

variable [AddRightMono Time] {history : List (Lifetime Who Time)} {begin : Time}

/-- Lifetimes that were all born in an interval of length `span` are one lifetime. -/
theorem Sound.length_le_one (sound : Sound span now history)
    (within : ∀ lifetime ∈ history, begin ≤ lifetime.born ∧ lifetime.born ≤ begin + span) :
    history.length ≤ 1 := by
  rcases history with _ | ⟨newer, _ | ⟨older, rest⟩⟩
  · exact Nat.zero_le 1
  · exact Nat.le_refl 1
  · have spaced := (List.rel_of_pairwise_cons sound.spaced List.mem_cons_self).spaced
    have early := (within older (List.mem_cons_of_mem _ List.mem_cons_self)).1
    have late := (within newer List.mem_cons_self).2
    exact absurd (spaced.trans_le late) (not_lt_of_ge (add_le_add_left early span))

/-- **Of the increments since then as many as the limit allows have reached no more than the
limit,** if all lifetimes were born in an interval of length `span`. -/
theorem Sound.countP_window_le (sound : Sound span now history)
    (within : ∀ lifetime ∈ history, begin ≤ lifetime.born ∧ lifetime.born ≤ begin + span)
    (limit : ℕ) : (increments history).countP (·.count ≤ limit) ≤ limit := by
  have short := sound.length_le_one within
  rcases history with _ | ⟨latest, _ | ⟨older, rest⟩⟩
  · exact Nat.zero_le limit
  · rw [increments_cons, increments_nil, List.append_nil,
      countP_count_le (sound.lifetimes latest List.mem_cons_self).counted]
    exact min_le_right _ _
  · simp only [List.length_cons] at short
    omega

end Window

end WorkflowHub.FixedWindow
