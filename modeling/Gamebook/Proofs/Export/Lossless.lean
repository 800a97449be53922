import Gamebook.Export.Document
import Gamebook.Proofs.Json.Unambiguous
import Mathlib.Data.List.Forall2

/-!
# What a story document tells

The text of a story document tells the story: two stories with one document have the same groups,
which start and end the story and may be entered again alike, and whose variants are the same to a
reader.  What it does not tell is where the variants came from, and whether an empty style value was
declared or none.

The text tells the value (`Json.render_injective`), since there are no numbers in it, and the value
is taken apart as it was made.  The one part that is not made member by member is the style: a style
value that is not there leaves no gap, so the members that are there have to say by their names for
which concern they are (`mem_styleMembers_iff`).
-/

namespace Gamebook

theorem NameTable.entries_inj {α : Type} {s t : NameTable α} : s.entries = t.entries ↔ s = t := by
  cases s
  cases t
  rw [NameTable.mk.injEq]

namespace Export

open Gamebook.Json Gamebook.Story

/-! ### Lists made alike -/

theorem map_eq_map_iff_forall₂ {α β γ : Type} {f : α → γ} {g : β → γ} {as : List α} {bs : List β} :
    as.map f = bs.map g ↔ List.Forall₂ (fun a b => f a = g b) as bs := by
  rw [← List.forall₂_eq_eq_eq, List.forall₂_map_left_iff, List.forall₂_map_right_iff]

/-! ### Values without numbers -/

theorem numberFree_stringObject (pairs : List (String × String)) :
    (Value.stringObject pairs).numberFree = true := by
  rw [Value.stringObject, Value.numberFree_object_iff, List.forall_mem_map]
  exact fun _ _ => rfl

theorem numberFree_variantValue (node : Node) : (variantValue node).numberFree = true := by
  rw [variantValue, Value.numberFree_object_iff, List.forall_mem_cons, List.forall_mem_cons]
  refine ⟨numberFree_stringObject _, rfl, fun member styled => ?_⟩
  obtain ⟨concern, -, made⟩ := List.mem_filterMap.1 styled
  obtain ⟨value, -, rfl⟩ := Option.map_eq_some_iff.1 made
  rfl

theorem numberFree_groupValue (group : Group) : (groupValue group).numberFree = true := by
  have variants : (Value.array (group.variants.map variantValue)).numberFree = true := by
    rw [Value.numberFree_array_iff, List.forall_mem_map]
    exact fun node _ => numberFree_variantValue node
  rw [groupValue, Value.numberFree_object_iff, List.forall_mem_cons, List.forall_mem_cons,
    List.forall_mem_cons, List.forall_mem_singleton]
  exact ⟨rfl, rfl, rfl, variants⟩

/-- There is no number in a story document. -/
theorem numberFree_document (graph : Graph) : (document graph).numberFree = true := by
  rw [document, Value.numberFree_object_iff, List.forall_mem_map]
  exact fun group _ => numberFree_groupValue group

/-! ### Values of different variants and groups -/

theorem stringObject_inj {pairs pairs' : List (String × String)} :
    Value.stringObject pairs = Value.stringObject pairs' ↔ pairs = pairs' := by
  have injective : Function.Injective fun pair : String × String => (pair.1, Value.string pair.2) := by
    rintro ⟨name, text⟩ ⟨name', text'⟩ same
    simpa using same
  rw [Value.stringObject, Value.stringObject, Value.object.injEq, injective.list_map.eq_iff]

theorem concernKey_injective : Function.Injective concernKey := by
  intro concern concern' same
  cases concern <;> cases concern' <;> first | rfl | exact absurd same (by decide)

theorem mem_styleMembers_iff {style : Style} {concern : Concern} {text : String} :
    (concernKey concern, Value.string text) ∈ styleMembers style ↔
      style.declared? concern = some text := by
  rw [styleMembers, List.mem_filterMap]
  constructor
  · rintro ⟨other, -, made⟩
    obtain ⟨value, declared, same⟩ := Option.map_eq_some_iff.1 made
    obtain ⟨keys, values⟩ := Prod.mk.inj same
    rw [← concernKey_injective keys, declared, Value.string.inj values]
  · exact fun declared => ⟨concern, concern.mem_all, by rw [declared, Option.map_some]⟩

/-- **The style members tell the style values** that are not empty. -/
theorem styleMembers_eq_iff {style style' : Style} :
    styleMembers style = styleMembers style' ↔
      ∀ concern, style.declared? concern = style'.declared? concern := by
  constructor
  · intro same concern
    refine Option.ext fun text => ?_
    rw [← mem_styleMembers_iff, ← mem_styleMembers_iff, same]
  · intro same
    rw [styleMembers, styleMembers]
    exact List.filterMap_congr fun concern _ => by rw [same]

/-- Two variants are the same to a reader, who does not see an empty style value. -/
structure ReadsLike (node other : Node) : Prop where
  text_eq : node.text = other.text
  choices_eq : node.choices = other.choices
  declared?_eq : ∀ concern, node.style.declared? concern = other.style.declared? concern

theorem variantValue_eq_iff {node other : Node} :
    variantValue node = variantValue other ↔ ReadsLike node other := by
  rw [variantValue, variantValue, Value.object.injEq, List.cons.injEq, List.cons.injEq,
    styleMembers_eq_iff, Prod.mk.injEq, Prod.mk.injEq, stringObject_inj, NameTable.entries_inj,
    Value.string.injEq]
  exact ⟨fun ⟨⟨_, choices⟩, ⟨_, text⟩, style⟩ => ⟨text, choices, style⟩,
    fun same => ⟨⟨rfl, same.choices_eq⟩, ⟨rfl, same.text_eq⟩, same.declared?_eq⟩⟩

/-- Two groups start and end the story and may be entered again alike, and have variants in one
order that are the same to a reader. -/
structure PlaysLike (group other : Group) : Prop where
  name_eq : group.name = other.name
  isStart_eq : group.isStart = other.isStart
  isEnding_eq : group.isEnding = other.isEnding
  revisit_eq : group.revisit = other.revisit
  variants : List.Forall₂ ReadsLike group.variants other.variants

theorem groupValue_eq_iff {group other : Group} :
    group.name = other.name ∧ groupValue group = groupValue other ↔ PlaysLike group other := by
  have variants : group.variants.map variantValue = other.variants.map variantValue ↔
      List.Forall₂ ReadsLike group.variants other.variants := by
    rw [map_eq_map_iff_forall₂]
    simp only [variantValue_eq_iff]
  simp only [groupValue, Value.object.injEq, List.cons.injEq, Prod.mk.injEq, Value.boolean.injEq,
    Value.array.injEq, true_and, and_true, variants]
  exact ⟨fun ⟨name, start, ending, revisit, variants⟩ => ⟨name, start, ending, revisit, variants⟩,
    fun same => ⟨same.name_eq, same.isStart_eq, same.isEnding_eq, same.revisit_eq, same.variants⟩⟩

/-! ### Stories -/

theorem document_eq_iff {graph other : Graph} :
    document graph = document other ↔ List.Forall₂ PlaysLike graph.groups other.groups := by
  rw [document, document, Value.object.injEq, map_eq_map_iff_forall₂]
  simp only [Prod.mk.injEq, groupValue_eq_iff]

/-- **A story document tells its story and nothing else.**  Two stories have one text as their
document exactly if they have the same groups in the same order, each playing like the other. -/
theorem renderDocument_eq_iff (history history' : List Graph.Insertion) :
    renderDocument (.ofInsertions history) = renderDocument (.ofInsertions history') ↔
      List.Forall₂ PlaysLike (Graph.ofInsertions history).groups
        (Graph.ofInsertions history').groups := by
  rw [← document_eq_iff]
  constructor
  · exact render_injective (numberFree_document _) (numberFree_document _)
  · exact congrArg Json.render

end Export

end Gamebook
