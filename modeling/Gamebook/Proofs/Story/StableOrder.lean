import Mathlib.Data.List.Pairwise
import Mathlib.Data.List.Perm.Basic

/-!
# The stable order of a list by a key

Where items are listed by a key, those of one key are left in the order in which they stand.  The order
that results is determined by that: it is in the order of the keys, and under every key it holds the
items that the list holds under it, in the same order (`eq_sortedBy`).

## Why an item can be exchanged

The order looks at nothing but keys, so an item that is exchanged for another of the same key is
exchanged where it stands (`sortedBy_exchange`).  What the order is does not say where the item stands,
as it may occur in the list more than once.  So both lists are sorted at the same time: the list of their
items side by side, in which all pairs but one hold an item twice.
-/

namespace Gamebook

variable {α β : Type} (key : α → String)

/-- The items in the order of their keys, those of one key in the order in which they stand. -/
def sortedBy (items : List α) : List α := items.mergeSort fun a b => key a ≤ key b

theorem sortedBy_perm (items : List α) : (sortedBy key items).Perm items :=
  List.mergeSort_perm _ _

theorem keyLe_trans (a b c : α) (h : decide (key a ≤ key b) = true)
    (h' : decide (key b ≤ key c) = true) : decide (key a ≤ key c) = true :=
  decide_eq_true (String.le_trans (of_decide_eq_true h) (of_decide_eq_true h'))

theorem keyLe_total (a b : α) : (decide (key a ≤ key b) || decide (key b ≤ key a)) = true := by
  rw [Bool.or_eq_true, decide_eq_true_eq, decide_eq_true_eq]
  exact String.le_total _ _

theorem pairwise_sortedBy (items : List α) :
    (sortedBy key items).Pairwise fun a b => key a ≤ key b :=
  (List.pairwise_mergeSort (keyLe_trans key) (keyLe_total key) items).imp of_decide_eq_true

/-- **The items of one key keep their order.** -/
theorem filter_sortedBy (items : List α) (name : String) :
    ((sortedBy key items).filter fun a => key a = name) = items.filter fun a => key a = name := by
  have alike : (items.filter fun a => key a = name).Pairwise
      fun a b => decide (key a ≤ key b) = true := by
    refine List.pairwise_of_forall_mem_list fun a member b member' => decide_eq_true ?_
    have same : key a = key b := (of_decide_eq_true (List.mem_filter.1 member).2).trans
      (of_decide_eq_true (List.mem_filter.1 member').2).symm
    exact same ▸ String.le_refl _
  have kept : (items.filter fun a => key a = name).Sublist (sortedBy key items) :=
    List.sublist_mergeSort (keyLe_trans key) (keyLe_total key) alike List.filter_sublist
  have inside := kept.filter fun a => decide (key a = name)
  rw [List.filter_filter] at inside
  simp only [Bool.and_self] at inside
  refine (inside.eq_of_length ?_).symm
  exact ((sortedBy_perm key items).filter _).length_eq.symm

/-! ### What makes a list the stable order of another -/

variable {key}

/-- Two lists in the order of their keys with the same items under every key are the same. -/
theorem eq_of_filter_eq :
    ∀ {items others : List α}, (items.Pairwise fun a b => key a ≤ key b) →
      (others.Pairwise fun a b => key a ≤ key b) →
      (∀ name, (items.filter fun a => key a = name) = others.filter fun a => key a = name) →
      items = others
  | [], others, _, _, same => by
    refine (List.eq_nil_iff_forall_not_mem.2 fun b member => ?_).symm
    have found : b ∈ others.filter fun c => key c = key b := List.mem_filter.2 ⟨member, by simp⟩
    rw [← same (key b)] at found
    exact List.not_mem_nil found
  | a :: items, [], _, _, same => by
    have found : a ∈ (a :: items).filter fun b => key b = key a := by simp
    rw [same] at found
    exact absurd found List.not_mem_nil
  | a :: items, b :: others, sorted, sorted', same => by
    have mem_iff : ∀ c, c ∈ a :: items ↔ c ∈ b :: others := by
      intro c
      have h := congrArg (c ∈ ·) (same (key c))
      simpa [List.mem_filter] using h
    obtain ⟨first, later⟩ := List.pairwise_cons.1 sorted
    obtain ⟨first', later'⟩ := List.pairwise_cons.1 sorted'
    have below : key a ≤ key b := by
      rcases List.mem_cons.1 ((mem_iff b).2 List.mem_cons_self) with same | member
      · exact same ▸ String.le_refl _
      · exact first b member
    have above : key b ≤ key a := by
      rcases List.mem_cons.1 ((mem_iff a).1 List.mem_cons_self) with same | member
      · exact same ▸ String.le_refl _
      · exact first' a member
    have keys : key a = key b := String.le_antisymm below above
    -- the first items have one key, and under it they are the first
    have heads := same (key a)
    rw [List.filter_cons_of_pos (by simp), List.filter_cons_of_pos (by simp [keys])] at heads
    obtain ⟨rfl, -⟩ := List.cons.inj heads
    rw [eq_of_filter_eq later later' fun name => ?_]
    have rests := same name
    by_cases here : key a = name
    · rw [List.filter_cons_of_pos (by simp [here]),
        List.filter_cons_of_pos (by simp [here])] at rests
      exact (List.cons.inj rests).2
    · rwa [List.filter_cons_of_neg (by simp [here]),
        List.filter_cons_of_neg (by simp [here])] at rests

/-- **What makes a list the stable order of another.** -/
theorem eq_sortedBy {items others : List α} (sorted : items.Pairwise fun a b => key a ≤ key b)
    (same : ∀ name, (items.filter fun a => key a = name) = others.filter fun a => key a = name) :
    items = sortedBy key others :=
  eq_of_filter_eq sorted (pairwise_sortedBy key others) fun name => by
    rw [filter_sortedBy, same]

/-! ### Exchanging an item -/

/-- What is done to every item without a change to its key can be done before or after sorting. -/
theorem map_sortedBy {items : List α} {f : α → β} {key' : β → String}
    (same : ∀ a ∈ items, key' (f a) = key a) :
    (sortedBy key items).map f = sortedBy key' (items.map f) := by
  refine List.map_mergeSort fun a member b member' => ?_
  rw [same a member, same b member']

/-- Every item beside itself. -/
def doubled (items : List α) : List (α × α) := items.map fun a => (a, a)

@[simp] theorem map_fst_doubled (items : List α) : (doubled items).map Prod.fst = items := by
  rw [doubled, List.map_map]
  exact List.map_id items

@[simp] theorem map_snd_doubled (items : List α) : (doubled items).map Prod.snd = items := by
  rw [doubled, List.map_map]
  exact List.map_id items

theorem eq_of_mem_doubled {items : List α} {p : α × α} (member : p ∈ doubled items) : p.1 = p.2 := by
  obtain ⟨a, -, rfl⟩ := List.mem_map.1 member
  rfl

/-- Two lists that differ in one item, side by side. -/
def sideBySide (a b : α) (before after : List α) : List (α × α) :=
  doubled before ++ (a, b) :: doubled after

@[simp] theorem map_fst_sideBySide (a b : α) (before after : List α) :
    (sideBySide a b before after).map Prod.fst = before ++ a :: after := by
  rw [sideBySide, List.map_append, List.map_cons, map_fst_doubled, map_fst_doubled]

@[simp] theorem map_snd_sideBySide (a b : α) (before after : List α) :
    (sideBySide a b before after).map Prod.snd = before ++ b :: after := by
  rw [sideBySide, List.map_append, List.map_cons, map_snd_doubled, map_snd_doubled]

/-- In whatever order they are put, the lists side by side differ in one item. -/
theorem exists_split_of_perm_sideBySide {a b : α} {before after : List α} {pairs : List (α × α)}
    (perm : pairs.Perm (sideBySide a b before after)) :
    ∃ front back, pairs = front ++ (a, b) :: back ∧
      front.map Prod.snd = front.map Prod.fst ∧ back.map Prod.snd = back.map Prod.fst := by
  obtain ⟨front, back, split⟩ := List.append_of_mem (perm.mem_iff.2 (List.mem_append_right _
    (List.mem_cons_self : (a, b) ∈ (a, b) :: doubled after)))
  have others : (front ++ back).Perm (doubled before ++ doubled after) := by
    rw [split] at perm
    exact (List.perm_middle.symm.trans (perm.trans List.perm_middle)).cons_inv
  have alike : ∀ p ∈ front ++ back, p.1 = p.2 := by
    intro p member
    rcases List.mem_append.1 (others.mem_iff.1 member) with member | member
    · exact eq_of_mem_doubled member
    · exact eq_of_mem_doubled member
  refine ⟨front, back, split, ?_, ?_⟩
  · exact List.map_congr_left fun p member => (alike p (List.mem_append_left _ member)).symm
  · exact List.map_congr_left fun p member => (alike p (List.mem_append_right _ member)).symm

/-- **An item exchanged for one of the same key is exchanged where it stands.** -/
theorem sortedBy_exchange {a b : α} (same : key a = key b) (before after : List α) :
    ∃ front back, sortedBy key (before ++ a :: after) = front ++ a :: back ∧
      sortedBy key (before ++ b :: after) = front ++ b :: back := by
  -- both lists are sorted side by side, by the key that the items of a pair share
  have keys : ∀ p ∈ sideBySide a b before after, key p.2 = key p.1 := by
    intro p member
    rcases List.mem_append.1 member with member | member
    · rw [eq_of_mem_doubled member]
    · rcases List.mem_cons.1 member with rfl | member
      · exact same.symm
      · rw [eq_of_mem_doubled member]
  obtain ⟨front, back, split, front_eq, back_eq⟩ := exists_split_of_perm_sideBySide
    (sortedBy_perm (fun p => key p.1) (sideBySide a b before after))
  have firsts : (sortedBy (fun p => key p.1) (sideBySide a b before after)).map Prod.fst =
      sortedBy key ((sideBySide a b before after).map Prod.fst) := map_sortedBy fun _ _ => rfl
  have seconds : (sortedBy (fun p => key p.1) (sideBySide a b before after)).map Prod.snd =
      sortedBy key ((sideBySide a b before after).map Prod.snd) := map_sortedBy keys
  rw [split, List.map_append, List.map_cons, map_fst_sideBySide] at firsts
  rw [split, List.map_append, List.map_cons, map_snd_sideBySide, front_eq, back_eq] at seconds
  exact ⟨front.map Prod.fst, back.map Prod.fst, firsts.symm, seconds.symm⟩

end Gamebook
