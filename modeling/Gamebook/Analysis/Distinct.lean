/-!
# First occurrences

Several analyses meet the same thing on different ways and report it once, where they met it first.
`firstBy key` keeps of the items with one key the first.  It is a sublist with distinct keys, and no
key is lost.
-/

namespace Gamebook.Analysis

variable {α β : Type} [DecidableEq β]

/-- The items whose key is neither among the keys `seen` nor the key of an earlier item. -/
def firstByFrom (key : α → β) (seen : List β) : List α → List α
  | [] => []
  | a :: rest =>
    if key a ∈ seen then firstByFrom key seen rest
    else a :: firstByFrom key (key a :: seen) rest

/-- Of the items with one key, the first. -/
def firstBy (key : α → β) (items : List α) : List α := firstByFrom key [] items

@[simp] theorem firstByFrom_nil (key : α → β) (seen : List β) : firstByFrom key seen [] = [] := rfl

theorem firstByFrom_sublist (key : α → β) :
    ∀ (seen : List β) (items : List α), (firstByFrom key seen items).Sublist items
  | _, [] => .slnil
  | seen, a :: rest => by
    rw [firstByFrom]
    split
    · exact (firstByFrom_sublist key seen rest).cons _
    · exact (firstByFrom_sublist key (key a :: seen) rest).cons_cons _

/-- **What is kept is kept in order.** -/
theorem firstBy_sublist (key : α → β) (items : List α) : (firstBy key items).Sublist items :=
  firstByFrom_sublist key [] items

theorem key_notMem_of_mem_firstByFrom {key : α → β} {a : α} :
    ∀ {seen : List β} {items : List α}, a ∈ firstByFrom key seen items → key a ∉ seen
  | seen, [], h => by simp at h
  | seen, b :: rest, h => by
    rw [firstByFrom] at h
    split at h
    · exact key_notMem_of_mem_firstByFrom h
    · next fresh =>
      rcases List.mem_cons.1 h with h | h
      · exact h ▸ fresh
      · exact fun member => key_notMem_of_mem_firstByFrom h (List.mem_cons_of_mem _ member)

theorem pairwise_firstByFrom (key : α → β) :
    ∀ (seen : List β) (items : List α),
      (firstByFrom key seen items).Pairwise fun a b => key a ≠ key b
  | _, [] => .nil
  | seen, a :: rest => by
    rw [firstByFrom]
    split
    · exact pairwise_firstByFrom key seen rest
    · refine List.pairwise_cons.2 ⟨fun b member same => ?_, pairwise_firstByFrom key _ rest⟩
      exact key_notMem_of_mem_firstByFrom member (same ▸ List.mem_cons_self)

/-- **No key is kept twice.** -/
theorem pairwise_firstBy (key : α → β) (items : List α) :
    (firstBy key items).Pairwise fun a b => key a ≠ key b :=
  pairwise_firstByFrom key [] items

theorem exists_mem_firstByFrom {key : α → β} {a : α} :
    ∀ {seen : List β} {items : List α}, a ∈ items → key a ∉ seen →
      ∃ b ∈ firstByFrom key seen items, key b = key a
  | seen, b :: rest, member, fresh => by
    rw [firstByFrom]
    split
    · next old =>
      rcases List.mem_cons.1 member with same | member
      · exact absurd (same ▸ old) fresh
      · exact exists_mem_firstByFrom member fresh
    · by_cases same : key b = key a
      · exact ⟨b, List.mem_cons_self, same⟩
      · rcases List.mem_cons.1 member with rfl | member
        · exact absurd rfl same
        · have still : key a ∉ key b :: seen := fun h =>
            (List.mem_cons.1 h).elim (fun h => same h.symm) fresh
          obtain ⟨c, kept, equal⟩ := exists_mem_firstByFrom member still
          exact ⟨c, List.mem_cons_of_mem _ kept, equal⟩

/-- **No key is lost.** -/
theorem exists_mem_firstBy {key : α → β} {a : α} {items : List α} (member : a ∈ items) :
    ∃ b ∈ firstBy key items, key b = key a :=
  exists_mem_firstByFrom member (List.not_mem_nil)

/-- The keys of the items that are kept are the keys of all. -/
theorem mem_map_firstBy {key : α → β} {items : List α} {b : β} :
    b ∈ (firstBy key items).map key ↔ b ∈ items.map key := by
  constructor
  · intro h
    obtain ⟨a, member, rfl⟩ := List.mem_map.1 h
    exact List.mem_map_of_mem ((firstBy_sublist key items).subset member)
  · intro h
    obtain ⟨a, member, rfl⟩ := List.mem_map.1 h
    obtain ⟨a', kept, same⟩ : ∃ a' ∈ firstBy key items, key a' = key a := exists_mem_firstBy member
    exact same ▸ List.mem_map_of_mem kept

theorem firstByFrom_eq_self {key : α → β} :
    ∀ {seen : List β} {items : List α}, (items.Pairwise fun a b => key a ≠ key b) →
      (∀ a ∈ items, key a ∉ seen) → firstByFrom key seen items = items
  | _, [], _, _ => rfl
  | seen, a :: rest, distinct, fresh => by
    obtain ⟨first, distinct⟩ := List.pairwise_cons.1 distinct
    obtain ⟨here, fresh⟩ := List.forall_mem_cons.1 fresh
    rw [firstByFrom, if_neg here, firstByFrom_eq_self distinct fun b member => ?_]
    rw [List.mem_cons, not_or]
    exact ⟨Ne.symm (first b member), fresh b member⟩

/-- Items of different keys are all kept. -/
theorem firstBy_eq_self {key : α → β} {items : List α}
    (distinct : items.Pairwise fun a b => key a ≠ key b) : firstBy key items = items :=
  firstByFrom_eq_self distinct fun _ _ => List.not_mem_nil

/-- Where no two items share a key, every item is kept. -/
theorem mem_firstBy_iff {key : α → β} {items : List α}
    (distinguishes : ∀ a ∈ items, ∀ b ∈ items, key a = key b → a = b) {a : α} :
    a ∈ firstBy key items ↔ a ∈ items := by
  constructor
  · intro kept
    exact (firstBy_sublist key items).subset kept
  · intro member
    obtain ⟨b, kept, same⟩ : ∃ b ∈ firstBy key items, key b = key a := exists_mem_firstBy member
    have there : b ∈ items := (firstBy_sublist key items).subset kept
    rw [← distinguishes b there a member same]
    exact kept

end Gamebook.Analysis
