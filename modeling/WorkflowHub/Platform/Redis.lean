import Mathlib.Data.Int.Notation
import Mathlib.Data.Nat.Notation

/-!
# Keys that expire

The part of Redis the services use: keys with a value and possibly a time of expiry.
Times are in milliseconds. A key is gone once the clock is past its time of expiry,
whether or not Redis has removed it already (`Keyspace.find`).
-/

set_option autoImplicit false

namespace WorkflowHub

/-- What is stored under a key. -/
structure Item (Value : Type) where
  value : Value
  expireAt : Option ℕ
  deriving DecidableEq, Repr

namespace Item

variable {Value : Type}

def Expired (now : ℕ) (item : Item Value) : Prop :=
  ∃ time ∈ item.expireAt, time < now

instance (now : ℕ) (item : Item Value) : Decidable (item.Expired now) := by
  unfold Expired
  infer_instance

/-- What has expired stays expired. -/
theorem Expired.mono {now later : ℕ} {item : Item Value} (expired : item.Expired now)
    (le : now ≤ later) : item.Expired later := by
  obtain ⟨time, found, past⟩ := expired
  exact ⟨time, found, Nat.lt_of_lt_of_le past le⟩

end Item

/-- The keys of a Redis. -/
def Keyspace (Value : Type) : Type := String → Option (Item Value)

namespace Keyspace

variable {Value : Type}

/-- No keys at all. -/
def empty : Keyspace Value := fun _ => none

/-- The key as a command at time `now` finds it. -/
def find (keys : Keyspace Value) (now : ℕ) (key : String) : Option (Item Value) :=
  match keys key with
  | some item => if item.Expired now then none else some item
  | none => none

def put (keys : Keyspace Value) (key : String) (item : Item Value) : Keyspace Value :=
  fun other => if other = key then some item else keys other

def remove (keys : Keyspace Value) (key : String) : Keyspace Value :=
  fun other => if other = key then none else keys other

@[simp] theorem find_empty (now : ℕ) (key : String) :
    (empty : Keyspace Value).find now key = none := rfl

theorem find_put_self (keys : Keyspace Value) (now : ℕ) (key : String) (item : Item Value) :
    (keys.put key item).find now key = if item.Expired now then none else some item := by
  simp only [find, put, ↓reduceIte]

theorem find_put_other (keys : Keyspace Value) (now : ℕ) {key other : String}
    (different : other ≠ key) (item : Item Value) :
    (keys.put key item).find now other = keys.find now other := by
  simp only [find, put, different, ↓reduceIte]

@[simp] theorem find_remove_self (keys : Keyspace Value) (now : ℕ) (key : String) :
    (keys.remove key).find now key = none := by
  simp only [find, remove, ↓reduceIte]

theorem find_remove_other (keys : Keyspace Value) (now : ℕ) {key other : String}
    (different : other ≠ key) :
    (keys.remove key).find now other = keys.find now other := by
  simp only [find, remove, different, ↓reduceIte]

/-- A key that is not found and has not expired is not there. -/
theorem eq_none_of_find {keys : Keyspace Value} {now : ℕ} {key : String}
    (absent : keys.find now key = none) (fresh : ∀ item ∈ keys key, ¬ item.Expired now) :
    keys key = none := by
  match stored : keys key with
  | none => rfl
  | some item =>
      simp only [find, stored, fresh item (by rw [stored]; rfl), ↓reduceIte] at absent
      cases absent

/-- A key that is found later was there before. -/
theorem find_mono {keys : Keyspace Value} {now later : ℕ} {key : String} {item : Item Value}
    (found : keys.find later key = some item) (le : now ≤ later) :
    keys.find now key = some item := by
  simp only [find] at found ⊢
  match stored : keys key with
  | none =>
      rw [stored] at found
      cases found
  | some item' =>
      simp only [stored, Option.ite_none_left_eq_some, Option.some.injEq] at found ⊢
      exact ⟨fun expired => found.1 (expired.mono le), found.2⟩

/-! ## Commands on counters -/

/-- What `INCR` stores. It keeps the time of expiry of a key that is there. -/
def incremented (keys : Keyspace ℕ) (now : ℕ) (key : String) : Item ℕ :=
  match keys.find now key with
  | some item => { item with value := item.value + 1 }
  | none => ⟨1, none⟩

theorem incremented_pos (keys : Keyspace ℕ) (now : ℕ) (key : String) :
    1 ≤ (keys.incremented now key).value := by
  unfold incremented
  split
  · exact Nat.le_add_left _ _
  · exact Nat.le_refl 1

/-- The reply to `TTL`, in seconds, rounded. -/
def ttl (keys : Keyspace Value) (now : ℕ) (key : String) : ℤ :=
  match keys.find now key with
  | none => -2
  | some ⟨_, none⟩ => -1
  | some ⟨_, some time⟩ => ((time - now + 500) / 1000 : ℕ)

/-- The effect of `EXPIRE`. A time of expiry that is not in the future removes the key. -/
def expire (keys : Keyspace Value) (now : ℕ) (key : String) (seconds : ℤ) : Keyspace Value :=
  match keys.find now key with
  | none => keys
  | some item =>
      if seconds ≤ 0 then keys.remove key
      else keys.put key { item with expireAt := some (now + seconds.toNat * 1000) }

@[simp] theorem put_self (keys : Keyspace Value) (key : String) (item : Item Value) :
    keys.put key item key = some item := by
  simp only [put, ↓reduceIte]

theorem put_other (keys : Keyspace Value) {key other : String} (different : other ≠ key)
    (item : Item Value) : keys.put key item other = keys other := by
  simp only [put, different, ↓reduceIte]

/-- A key without a time of expiry is found. -/
theorem find_put_lasting (keys : Keyspace Value) (now : ℕ) (key : String) (value : Value) :
    (keys.put key ⟨value, none⟩).find now key = some ⟨value, none⟩ := by
  rw [find_put_self, if_neg]
  rintro ⟨time, found, _⟩
  cases found

theorem incremented_put (keys : Keyspace ℕ) (now : ℕ) (key : String) (value : ℕ) :
    (keys.put key ⟨value, none⟩).incremented now key = ⟨value + 1, none⟩ := by
  simp only [incremented, find_put_lasting]

theorem ttl_put (keys : Keyspace Value) (now : ℕ) (key : String) (value : Value) :
    (keys.put key ⟨value, none⟩).ttl now key = -1 := by
  simp only [ttl, find_put_lasting]

/-- What is found is stored, and has not expired. -/
theorem find_eq_some {keys : Keyspace Value} {now : ℕ} {key : String} {item : Item Value} :
    keys.find now key = some item ↔ keys key = some item ∧ ¬ item.Expired now := by
  simp only [find]
  cases stored : keys key with
  | none => simp
  | some item' =>
      simp only [Option.ite_none_left_eq_some, Option.some.injEq]
      constructor
      · rintro ⟨fresh, rfl⟩
        exact ⟨rfl, fresh⟩
      · rintro ⟨rfl, fresh⟩
        exact ⟨fresh, rfl⟩

/-- What is not found is not stored, or has expired. -/
theorem find_eq_none {keys : Keyspace Value} {now : ℕ} {key : String} :
    keys.find now key = none ↔ ∀ item, keys key = some item → item.Expired now := by
  simp only [find]
  cases stored : keys key with
  | none => simp
  | some item => simp

theorem expire_other (keys : Keyspace Value) (now : ℕ) {key other : String}
    (different : other ≠ key) (seconds : ℤ) : keys.expire now key seconds other = keys other := by
  cases found : keys.find now key with
  | none => simp only [expire, found]
  | some item =>
      simp only [expire, found]
      split
      · simp only [remove, different, ↓reduceIte]
      · exact put_other _ different _

/-! ### One key -/

section Alike

variable {keys keys' : Keyspace Value} {counts counts' : Keyspace ℕ} {key : String} (now : ℕ)

/-- What a command finds under a key depends on that key alone, and so do its effects. -/
theorem find_congr (same : keys key = keys' key) : keys.find now key = keys'.find now key := by
  simp only [find, same]

theorem incremented_congr (same : counts key = counts' key) :
    counts.incremented now key = counts'.incremented now key := by
  simp only [incremented, find_congr now same]

theorem ttl_congr (same : keys key = keys' key) : keys.ttl now key = keys'.ttl now key := by
  simp only [ttl, find_congr now same]

theorem expire_congr (same : keys key = keys' key) (seconds : ℤ) :
    keys.expire now key seconds key = keys'.expire now key seconds key := by
  have alike := find_congr now same
  cases found : keys.find now key with
  | none =>
      rw [found] at alike
      simp only [expire, found, ← alike, same]
  | some item =>
      rw [found] at alike
      simp only [expire, found, ← alike]
      split
      · simp only [remove, ↓reduceIte]
      · simp only [put_self]

end Alike

/-- `EXPIRE` with a time in the future: a key that is there gets it. -/
theorem expire_self (keys : Keyspace Value) (now : ℕ) (key : String) {seconds : ℕ}
    (positive : 0 < seconds) :
    keys.expire now key seconds key = keys key ∨ ∃ item, keys key = some item ∧
      keys.expire now key seconds key =
        some { item with expireAt := some (now + seconds * 1000) } := by
  cases found : keys.find now key with
  | none => exact .inl (by simp only [expire, found])
  | some item =>
      have future : ¬ (seconds : ℤ) ≤ 0 := by omega
      refine .inr ⟨item, (find_eq_some.mp found).1, ?_⟩
      simp only [expire, found, future, ↓reduceIte, put_self, Int.toNat_natCast]

end Keyspace

end WorkflowHub
