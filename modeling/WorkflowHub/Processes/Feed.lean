import Mathlib.Data.Fintype.Basic
import WorkflowHub.Processes.Paths

/-!
# A feed and its readers

What an outbox and its consumers are for, without saying how they do it. Items are *posted*, each
once. A posted item is *published*, perhaps again and again. Each group of readers *handles* what
was published, in an order of its own, and nothing twice.

A feed is `Orderly` when it looks like that, and from one feed one can come to every orderly one that
continues it (`path_of_continues`). To show that a system behaves like a feed it is therefore enough
that each of its states looks like an orderly feed, and that it never takes back what it has done.
-/

set_option autoImplicit false

namespace WorkflowHub.Processes

/-- What was posted, published and handled so far, each in its order. -/
@[ext]
structure Feed (Item Group : Type*) where
  posted : List Item := []
  published : List Item := []
  handled : Group → List Item := fun _ => []

namespace Feed

variable {Item Group : Type*}

inductive Move (Item Group : Type*) where
  | post (item : Item)
  | publish (item : Item)
  | handle (group : Group) (item : Item)
  deriving DecidableEq

/-- Nothing was posted twice, and nothing was handled twice by one group; only what was posted is
published, and only what was published is handled. -/
structure Orderly (feed : Feed Item Group) : Prop where
  posted : feed.posted.Nodup
  published : feed.published ⊆ feed.posted
  once : ∀ group, (feed.handled group).Nodup
  handled : ∀ group, feed.handled group ⊆ feed.published

/-- The second feed has all of the first, and perhaps more behind it. -/
structure Continues (feed feed' : Feed Item Group) : Prop where
  posted : feed.posted <+: feed'.posted
  published : feed.published <+: feed'.published
  handled : ∀ group, feed.handled group <+: feed'.handled group

namespace Continues

variable {feed feed' feed'' : Feed Item Group}

theorem refl (feed : Feed Item Group) : Continues feed feed :=
  ⟨List.prefix_rfl, List.prefix_rfl, fun _ => List.prefix_rfl⟩

theorem trans (first : Continues feed feed') (second : Continues feed' feed'') :
    Continues feed feed'' where
  posted := first.posted.trans second.posted
  published := first.published.trans second.published
  handled group := (first.handled group).trans (second.handled group)

end Continues

/-- A group has handled no more items of a kind than were posted. -/
theorem Orderly.count_le {feed : Feed Item Group} (orderly : Orderly feed) (kind : Item → Bool)
    (group : Group) :
    ((feed.handled group).filter kind).length ≤ (feed.posted.filter kind).length := by
  have subset : (feed.handled group).filter kind ⊆ feed.posted.filter kind :=
    List.filter_subset _ (List.Subset.trans (orderly.handled group) orderly.published)
  exact (List.subperm_of_subset ((orderly.once group).filter _) subset).length_le

/-! ## Moves -/

variable [DecidableEq Item] [DecidableEq Group]

def step (feed : Feed Item Group) : Move Item Group → Option (Feed Item Group)
  | .post item =>
      if item ∈ feed.posted then none
      else some { feed with posted := feed.posted ++ [item] }
  | .publish item =>
      if item ∈ feed.posted then some { feed with published := feed.published ++ [item] } else none
  | .handle group item =>
      if item ∈ feed.published ∧ item ∉ feed.handled group then
        some { feed with
          handled := Function.update feed.handled group (feed.handled group ++ [item]) }
      else none

/-! ## Which feeds one can come to -/

section Paths

variable {feed : Feed Item Group}

/-- Several items are posted one after the other. -/
theorem path_post (items : List Item) : ∀ (feed : Feed Item Group),
    (feed.posted ++ items).Nodup →
      Path step Always feed { feed with posted := feed.posted ++ items } := by
  induction items with
  | nil =>
      intro feed _
      rw [List.append_nil]
  | cons item items ih =>
      intro feed nodup
      have new : item ∉ feed.posted := by
        intro there
        exact (List.nodup_append.mp nodup).2.2 item there item List.mem_cons_self rfl
      have taken : feed.step (.post item) = some { feed with posted := feed.posted ++ [item] } :=
        if_neg new
      rw [List.append_cons] at nodup ⊢
      exact .trans (Path.single trivial taken) (ih _ nodup)

theorem path_publish (items : List Item) : ∀ (feed : Feed Item Group),
    items ⊆ feed.posted →
      Path step Always feed { feed with published := feed.published ++ items } := by
  induction items with
  | nil =>
      intro feed _
      rw [List.append_nil]
  | cons item items ih =>
      intro feed posted
      have taken : feed.step (.publish item) =
          some { feed with published := feed.published ++ [item] } :=
        if_pos (posted List.mem_cons_self)
      rw [List.append_cons]
      exact .trans (Path.single trivial taken)
        (ih { feed with published := feed.published ++ [item] }
          fun other there => posted (List.mem_cons_of_mem _ there))

theorem path_handle (group : Group) (items : List Item) : ∀ (feed : Feed Item Group),
    items ⊆ feed.published → (feed.handled group ++ items).Nodup →
      Path step Always feed { feed with
        handled := Function.update feed.handled group (feed.handled group ++ items) } := by
  induction items with
  | nil =>
      intro feed _ _
      rw [List.append_nil, Function.update_eq_self]
  | cons item items ih =>
      intro feed published nodup
      let next : Feed Item Group := { feed with
        handled := Function.update feed.handled group (feed.handled group ++ [item]) }
      have new : item ∉ feed.handled group := by
        intro there
        exact (List.nodup_append.mp nodup).2.2 item there item List.mem_cons_self rfl
      have taken : feed.step (.handle group item) = some next :=
        if_pos ⟨published List.mem_cons_self, new⟩
      have handled : next.handled group = feed.handled group ++ [item] := Function.update_self _ _ _
      have rest := ih next (fun other there => published (List.mem_cons_of_mem _ there))
      rw [handled, ← List.append_cons] at rest
      refine .trans (Path.single trivial taken) ?_
      simpa only [next, Function.update_idem] using rest nodup

/-- Each of several groups handles what it has left. -/
theorem path_handle_groups (next : Group → List Item) (groups : List Group) :
    ∀ (feed : Feed Item Group), (∀ group ∈ groups, feed.handled group <+: next group) →
      (∀ group ∈ groups, (next group).Nodup ∧ next group ⊆ feed.published) →
      Path step Always feed { feed with
        handled := fun group => if group ∈ groups then next group else feed.handled group } := by
  induction groups with
  | nil => exact fun _ _ _ => .refl
  | cons group groups ih =>
      intro feed continues orderly
      obtain ⟨items, whole⟩ := continues group List.mem_cons_self
      obtain ⟨nodup, published⟩ := orderly group List.mem_cons_self
      have handles := path_handle group items feed
        (fun item there => published (whole ▸ List.mem_append_right _ there)) (whole ▸ nodup)
      rw [whole] at handles
      refine handles.trans ?_
      have rest := ih
        { feed with handled := Function.update feed.handled group (next group) }
        (fun other there => ?_) fun other there => orderly other (List.mem_cons_of_mem _ there)
      · have same : ∀ other, (if other ∈ groups then next other
            else Function.update feed.handled group (next group) other) =
              if other ∈ group :: groups then next other else feed.handled other := by
          intro other
          by_cases mine : other = group
          · subst mine
            simp
          · simp [mine]
        simpa only [same] using rest
      · by_cases mine : other = group
        · subst mine
          simp only [Function.update_self, List.prefix_rfl]
        · simp only [Function.update_of_ne mine]
          exact continues other (List.mem_cons_of_mem _ there)

/-- **From a feed one can come to every orderly feed that continues it.** -/
theorem path_of_continues [Fintype Group] {feed' : Feed Item Group} (orderly : Orderly feed')
    (continues : Continues feed feed') : Path step Always feed feed' := by
  obtain ⟨posted, published, handled⟩ := feed'
  obtain ⟨⟨newer, rfl⟩, ⟨again, rfl⟩, continues⟩ := continues
  have posts := path_post newer feed orderly.posted
  have publishes := path_publish again
    { feed with posted := feed.posted ++ newer } fun item there =>
      orderly.published (List.mem_append_right _ there)
  have handles := path_handle_groups handled Finset.univ.toList
    { feed with
      posted := feed.posted ++ newer
      published := feed.published ++ again }
    (fun group _ => continues group) fun group _ => ⟨orderly.once group, orderly.handled group⟩
  simp only [Finset.mem_toList, Finset.mem_univ, ↓reduceIte] at handles
  exact (posts.trans publishes).trans handles

end Paths

end Feed

end WorkflowHub.Processes
