import Gamebook.Analysis.Distinct
import Gamebook.Analysis.Fault
import Gamebook.Proofs.Story.History
import Mathlib.Data.Finset.Card
import Mathlib.Data.List.Nodup

/-!
# What is told or offered twice

Two findings are about equal things, and neither compares them in pairs.  A text that is told again is
found by keeping the texts that were told so far, and two choices with the same target by counting the
targets.  This file says what they come to in terms of pairs.

## Texts

The search for texts goes through all variants, whatever their group, with a list of texts as its memory.
`Knows` is what it keeps: the texts in the list are those of the variants that it has gone through.  So a
variant is listed exactly if one before it has its text.  The variants that are not listed are the first
ones of each text (`repeatingText_eq_and_firstBy_eq`), and of those it is known that no two have the same
text and that no text is missing.

## Targets

Of the labels of a variant no two are equal, so its targets are as many as its labels.  They are fewer when
they are counted without repetition exactly if the table of its choices is not injective
(`repeatsTarget_iff`).
-/

namespace Gamebook.Analysis

open Gamebook.Story

/-! ### Texts that are told again -/

/-- The variant stands at its place, and one that stands before it in the list has its text. -/
def ToldBefore (nodes : List Node) (placed : Node × Nat) : Prop :=
  ∃ earlier ∈ nodes.take placed.2, earlier.text = placed.1.text

instance (nodes : List Node) (placed : Node × Nat) : Decidable (ToldBefore nodes placed) :=
  inferInstanceAs (Decidable (∃ earlier ∈ _, _))

/-- The variants whose text an earlier one has, in the order of the list. -/
def toldAgain (nodes : List Node) : List Node :=
  (nodes.zipIdx.filter fun placed => ToldBefore nodes placed).map (·.1)

/-- The variants whose text no earlier one has, in the order of the list. -/
def toldFirst (nodes : List Node) : List Node :=
  (nodes.zipIdx.filter fun placed => ¬ ToldBefore nodes placed).map (·.1)

/-- The texts that were seen are those of the variants gone through. -/
def Knows (seen : List String) (before : List Node) : Prop :=
  ∀ text, text ∈ seen ↔ ∃ earlier ∈ before, earlier.text = text

theorem knows_nil : Knows [] [] := fun text => by simp

theorem Knows.concat {seen : List String} {before : List Node} (knows : Knows seen before)
    (node : Node) : Knows (node.text :: seen) (before ++ [node]) := by
  intro text
  rw [List.mem_cons, knows text]
  simp only [List.mem_append, List.mem_singleton, or_and_right, exists_or, exists_eq_left]
  rw [or_comm, eq_comm]

/-- A text that was seen need not be taken up again. -/
theorem Knows.concat_of_mem {seen : List String} {before : List Node} {node : Node}
    (knows : Knows seen before) (old : node.text ∈ seen) : Knows seen (before ++ [node]) := by
  intro text
  rw [← knows.concat node text, List.mem_cons]
  constructor
  · exact .inr
  · rintro (rfl | member)
    · exact old
    · exact member

theorem Knows.toldBefore_iff {seen : List String} {before : List Node} (knows : Knows seen before)
    (node : Node) (rest : List Node) :
    ToldBefore (before ++ node :: rest) (node, before.length) ↔ node.text ∈ seen := by
  rw [ToldBefore, List.take_left, knows]

/-- **What the search lists and what it leaves out**, where it has gone through the variants before. -/
theorem repeatingText_eq_and_firstBy_eq {rest before : List Node} {seen : List String}
    (knows : Knows seen before) :
    repeatingText seen rest =
        ((rest.zipIdx before.length).filter fun placed => ToldBefore (before ++ rest) placed).map
          (·.1) ∧
      firstByFrom (·.text) seen rest =
        ((rest.zipIdx before.length).filter fun placed => ¬ ToldBefore (before ++ rest) placed).map
          (·.1) := by
  induction rest generalizing before seen with
  | nil => exact ⟨rfl, rfl⟩
  | cons node rest ih =>
    have here := knows.toldBefore_iff node rest
    have all : before ++ [node] ++ rest = before ++ node :: rest := by
      rw [List.append_assoc, List.singleton_append]
    have place : (before ++ [node]).length = before.length + 1 := List.length_append
    rw [List.zipIdx_cons, repeatingText, firstByFrom]
    by_cases old : node.text ∈ seen
    · obtain ⟨again, first⟩ := ih (knows.concat_of_mem old)
      rw [all, place] at again first
      have told := here.2 old
      rw [if_pos old, if_pos old, List.filter_cons_of_pos (by simpa using told),
        List.filter_cons_of_neg (by simpa using told), List.map_cons, again, first]
      exact ⟨rfl, rfl⟩
    · obtain ⟨again, first⟩ := ih (knows.concat node)
      rw [all, place] at again first
      have fresh := mt here.1 old
      rw [if_neg old, if_neg old, List.filter_cons_of_neg (by simpa using fresh),
        List.filter_cons_of_pos (by simpa using fresh), List.map_cons, again, first]
      exact ⟨rfl, rfl⟩

theorem repeatingText_nil_eq (nodes : List Node) : repeatingText [] nodes = toldAgain nodes :=
  (repeatingText_eq_and_firstBy_eq knows_nil).1

theorem toldFirst_eq (nodes : List Node) : toldFirst nodes = firstBy (·.text) nodes :=
  (repeatingText_eq_and_firstBy_eq knows_nil).2.symm

/-- **As many items are kept as there are keys.** -/
theorem length_firstBy {α β : Type} [DecidableEq β] (key : α → β) (items : List α) :
    (firstBy key items).length = (items.map key).toFinset.card := by
  have same : (items.map key).toFinset = ((firstBy key items).map key).toFinset := by
    ext b
    rw [List.mem_toFinset, List.mem_toFinset, mem_map_firstBy]
  have distinct : ((firstBy key items).map key).Nodup := List.pairwise_map.2 (pairwise_firstBy _ _)
  rw [same, List.toFinset_card_of_nodup distinct, List.length_map]

/-! ### Targets that are offered twice -/

/-- Two choices under different labels lead to the group of one name. -/
def OffersTwice (node : Node) : Prop :=
  ∃ label other target, label ≠ other ∧ node.choices.find? label = some target ∧
    node.choices.find? other = some target

theorem nodup_eraseDups {α : Type} [DecidableEq α] : ∀ items : List α, items.eraseDups.Nodup
  | [] => List.nodup_nil
  | a :: items => by
    rw [List.eraseDups_cons, List.nodup_cons]
    refine ⟨?_, nodup_eraseDups _⟩
    simp
termination_by items => items.length
decreasing_by exact Nat.lt_succ_of_le (List.length_filter_le _ _)

/-- Without its repetitions a list is as long as before exactly if it has none. -/
theorem length_eraseDups_eq_iff {α : Type} [DecidableEq α] {items : List α} :
    items.eraseDups.length = items.length ↔ items.Nodup := by
  have same : items.eraseDups.toFinset = items.toFinset := by
    ext a
    rw [List.mem_toFinset, List.mem_toFinset, List.mem_eraseDups]
  rw [← List.toFinset_card_of_nodup (nodup_eraseDups items), same]
  exact Multiset.toFinset_card_eq_card_iff_nodup (m := (items : Multiset α))

/-- **Counting the targets** finds the variants that offer one twice. -/
theorem repeatsTarget_iff {node : Node} : repeatsTarget node = true ↔ OffersTwice node := by
  have labels : node.choices.entries.Nodup :=
    List.Nodup.of_map Prod.fst (NameTable.nodup_names node.choices)
  rw [repeatsTarget, bne_iff_ne, Ne, length_eraseDups_eq_iff, Node.targets, NameTable.values,
    List.nodup_map_iff_inj_on labels]
  constructor
  · intro collide
    push Not at collide
    obtain ⟨choice, member, other, member', same, apart⟩ := collide
    refine ⟨choice.1, other.1, choice.2, fun equal => apart (Prod.ext equal same), ?_, ?_⟩
    · exact NameTable.find?_eq_some_iff.2 member
    · rw [same]
      exact NameTable.find?_eq_some_iff.2 member'
  · rintro ⟨label, other, target, apart, found, found'⟩ injective
    have equal := injective (label, target) (NameTable.find?_eq_some_iff.1 found) (other, target)
      (NameTable.find?_eq_some_iff.1 found') rfl
    exact apart (congrArg Prod.fst equal)

instance (node : Node) : Decidable (OffersTwice node) := decidable_of_iff _ repeatsTarget_iff

/-- The variants of a graph in their order, each with the group that it belongs to. -/
def members (graph : Graph) : List (Group × Node) :=
  graph.groups.flatMap fun group => group.variants.map fun node => (group, node)

theorem map_snd_members (graph : Graph) : (members graph).map (·.2) = graph.nodes := by
  rw [members, Graph.nodes, List.map_flatMap]
  simp only [List.map_map, Function.comp_def, List.map_id']

theorem variantsWhere_eq (graph : Graph) (keep : Group → Node → Bool) :
    variantsWhere graph keep =
      ((members graph).filter fun member => keep member.1 member.2).map (·.2) := by
  rw [variantsWhere, members, List.filter_flatMap, List.map_flatMap]
  simp only [List.filter_map, List.map_map, Function.comp_def, List.map_id']

/-! ### What is found -/

/-- **What is told or offered twice is found, and nothing else.**

A variant is listed for its text exactly if one that stands before it in the graph, in whatever group, has
the same text.  So of the variants that are not listed no two have the same text, every text is that of one
of them, and they are as many as there are texts.

A variant is listed for its choices exactly if it belongs to a group that does not end the story and has
two labels with the same target.  Both lists are in the order of the graph. -/
theorem duplicates_exact (graph : Graph) :
    Fault.find graph .duplicateNodes = toldAgain graph.nodes ∧
      (toldFirst graph.nodes).Pairwise (fun node other => node.text ≠ other.text) ∧
      (∀ node ∈ graph.nodes, ∃ first ∈ toldFirst graph.nodes, first.text = node.text) ∧
      (toldFirst graph.nodes).length = (graph.nodes.map (·.text)).toFinset.card ∧
      (members graph).map (·.2) = graph.nodes ∧
      Fault.find graph .duplicateChoices =
        ((members graph).filter fun member =>
          member.1.isEnding = false ∧ OffersTwice member.2).map (·.2) := by
  refine ⟨repeatingText_nil_eq _, ?_, ?_, ?_, map_snd_members _, ?_⟩
  · rw [toldFirst_eq]
    exact pairwise_firstBy _ _
  · intro node member
    rw [toldFirst_eq]
    exact exists_mem_firstBy member
  · rw [toldFirst_eq]
    exact length_firstBy _ _
  · rw [Fault.find, variantsWhere_eq]
    congr 2
    funext member
    rw [Bool.eq_iff_iff, Bool.and_eq_true, Bool.not_eq_true', repeatsTarget_iff, decide_eq_true_iff]

end Gamebook.Analysis
