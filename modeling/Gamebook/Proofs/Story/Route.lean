import Gamebook.Proofs.Story.History
import Mathlib.Data.List.Chain
import Mathlib.Data.List.Nodup
import Mathlib.Data.List.Perm.Subperm
import Mathlib.Logic.Relation

/-!
# Ways through a graph

The searches of this library go from variant to variant, and each of them has an order of its own.
What they find does not depend on that order, and hardly on the variants: a choice leads to a group,
whichever of its variants is shown.  So what a search finds is said with relations between the names
of groups, and this file is about those.

* `Graph.Links` is one choice: some variant of the one group names the other, and that one exists.
* `Graph.Passes` is one choice that a reader can take: the story does not end in the first group.
* `Graph.Reached` is what a reader can come to: the least set of groups with every start group and
  with every group that is passed to from one of the set.

## Ways made simple

A way may go round as often as it likes, but a search that follows it does not.  Two lemmas cut a way
down: `exists_nodup_chain` leaves out the detours, so that no group is met twice, and `exists_first`
stops where the way first comes to a group of some kind.
-/

namespace Gamebook.Story

/-! ### Ways of any relation -/

section Ways

variable {α : Type} {r : α → α → Prop}

/-- **A way without detours.**  Where one thing is connected to another, a chain leads there on which
nothing occurs twice. -/
theorem exists_nodup_chain {a b : α} (h : Relation.ReflTransGen r a b) :
    ∃ way : List α, (way ++ [b]).IsChain r ∧ (way ++ [b]).Nodup ∧ (way ++ [b]).head? = some a := by
  induction h using Relation.ReflTransGen.head_induction_on with
  | refl => exact ⟨[], List.isChain_singleton _, List.nodup_singleton _, rfl⟩
  | @head a c step _ ih =>
    obtain ⟨way, chain, distinct, first⟩ := ih
    by_cases member : a ∈ way ++ [b]
    · -- the way comes back to where it starts: what lies before is the detour
      by_cases last : a = b
      · subst last
        exact ⟨[], List.isChain_singleton _, List.nodup_singleton _, rfl⟩
      · have inside : a ∈ way := by
          rcases List.mem_append.1 member with h | h
          · exact h
          · exact absurd (List.mem_singleton.1 h) last
        obtain ⟨detour, rest, rfl⟩ := List.append_of_mem inside
        rw [List.append_assoc, List.cons_append] at chain distinct
        exact ⟨a :: rest, chain.right_of_append, (List.nodup_append.1 distinct).2.1, rfl⟩
    · refine ⟨a :: way, ?_, ?_, rfl⟩
      · rw [List.cons_append, List.isChain_cons]
        refine ⟨fun next h => ?_, chain⟩
        rw [first, Option.mem_some_iff] at h
        exact h ▸ step
      · rw [List.cons_append, List.nodup_cons]
        exact ⟨member, distinct⟩

/-- A chain connects its first item to its last, through the items before the last only. -/
theorem reflTransGen_of_isChain {P : α → Prop} {b : α} :
    ∀ {way : List α} {a : α}, (way ++ [b]).IsChain r → (way ++ [b]).head? = some a →
      (∀ x ∈ way, P x) → Relation.ReflTransGen (fun x y => P x ∧ r x y) a b
  | [], a, _, first, _ => by
    rw [List.nil_append, List.head?_singleton, Option.some.injEq] at first
    rw [first]
  | x :: way, a, chain, first, all => by
    rw [List.cons_append, List.head?_cons, Option.some.injEq] at first
    subst first
    rw [List.cons_append, List.isChain_cons] at chain
    obtain ⟨step, chain⟩ := chain
    cases hc : (way ++ [b]).head? with
    | none => exact absurd (List.head?_eq_none_iff.1 hc) (by simp)
    | some c =>
      have rest := reflTransGen_of_isChain chain hc fun y member =>
        all y (List.mem_cons_of_mem _ member)
      exact .head ⟨all x List.mem_cons_self, step c hc⟩ rest

/-- Every item of a chain but the last is related to one after it. -/
theorem exists_rel_of_mem_isChain {b : α} :
    ∀ {way : List α}, (way ++ [b]).IsChain r → ∀ x ∈ way, ∃ y, r x y
  | [], _, x, member => absurd member List.not_mem_nil
  | a :: way, chain, x, member => by
    rw [List.cons_append, List.isChain_cons] at chain
    obtain ⟨step, chain⟩ := chain
    rcases List.mem_cons.1 member with rfl | member
    · cases hc : (way ++ [b]).head? with
      | none => exact absurd (List.head?_eq_none_iff.1 hc) (by simp)
      | some c => exact ⟨c, step c hc⟩
    · exact exists_rel_of_mem_isChain chain x member

/-- **The first of a kind.**  A way to something of a kind passes through something of that kind for the
first time, and up to there through nothing of it. -/
theorem exists_first {P : α → Prop} {a b : α} (h : Relation.ReflTransGen r a b) (kind : P b) :
    ∃ c, P c ∧ Relation.ReflTransGen r a c ∧
      Relation.ReflTransGen (fun x y => ¬ P x ∧ r x y) a c := by
  induction h using Relation.ReflTransGen.head_induction_on with
  | refl => exact ⟨b, kind, .refl, .refl⟩
  | @head a c step _ ih =>
    by_cases here : P a
    · exact ⟨a, here, .refl, .refl⟩
    · obtain ⟨d, there, way, before⟩ := ih
      exact ⟨d, there, .head step way, .head ⟨here, step⟩ before⟩

end Ways

namespace Graph

/-! ### What is asked of a name -/

/-- The group of that name exists and the story may start there. -/
def startsAt (graph : Graph) (name : String) : Bool := (graph.find? name).any (·.isStart)

/-- The group of that name exists and may be entered again. -/
def mayReturnTo (graph : Graph) (name : String) : Bool := (graph.find? name).any (·.revisit)

/-- Some variant of the group has a choice that names the other group, and that one exists. -/
def Links (graph : Graph) (name next : String) : Prop :=
  graph.contains next = true ∧
    ∃ group, graph.find? name = some group ∧ ∃ node ∈ group.variants, next ∈ node.targets

/-- A reader can go on from the group to the other: a choice links them, and the story does not end in
the first. -/
def Passes (graph : Graph) (name next : String) : Prop :=
  graph.isEnding name = false ∧ graph.Links name next

/-- A reader can come to the group of that name. -/
inductive Reached (graph : Graph) : String → Prop where
  /-- The story may start there. -/
  | start {name : String} : graph.startsAt name = true → Reached graph name
  /-- A reader can go on to it from a group that a reader can come to. -/
  | next {name next : String} : Reached graph name → graph.Passes name next → Reached graph next

/-- A chain of choices through groups that exist leads from the group to an ending. -/
def CanEnd (graph : Graph) (name : String) : Prop :=
  ∃ ending, graph.isEnding ending = true ∧ Relation.ReflTransGen graph.Links name ending

variable {graph : Graph}

theorem startsAt_iff {name : String} :
    graph.startsAt name = true ↔ ∃ group, graph.find? name = some group ∧ group.isStart = true := by
  rw [startsAt, Option.any_eq_true]

theorem isEnding_iff {name : String} :
    graph.isEnding name = true ↔ ∃ group, graph.find? name = some group ∧ group.isEnding = true := by
  rw [isEnding, Option.any_eq_true]

theorem isEnding_of_find? {name : String} {group : Group} (found : graph.find? name = some group) :
    graph.isEnding name = group.isEnding := by
  rw [isEnding, found, Option.any_some]

theorem mayReturnTo_of_find? {name : String} {group : Group}
    (found : graph.find? name = some group) : graph.mayReturnTo name = group.revisit := by
  rw [mayReturnTo, found, Option.any_some]

theorem contains_iff {name : String} :
    graph.contains name = true ↔ ∃ group, graph.find? name = some group := by
  rw [contains, Option.isSome_iff_exists]

theorem contains_of_find? {name : String} {group : Group}
    (found : graph.find? name = some group) : graph.contains name = true :=
  contains_iff.2 ⟨group, found⟩

theorem contains_of_startsAt {name : String} (starts : graph.startsAt name = true) :
    graph.contains name = true := by
  obtain ⟨group, found, -⟩ := startsAt_iff.1 starts
  exact contains_of_find? found

theorem Links.contains_left {name next : String} (h : graph.Links name next) :
    graph.contains name = true := by
  obtain ⟨-, group, found, -⟩ := h
  exact contains_of_find? found

/-- Whom a group links to is said by the targets of its variants. -/
theorem links_iff_of_find? {name next : String} {group : Group}
    (found : graph.find? name = some group) :
    graph.Links name next ↔ graph.contains next = true ∧ next ∈ group.targets := by
  rw [Links, Group.targets, List.mem_flatMap]
  constructor
  · rintro ⟨there, other, found', node, variant, target⟩
    rw [found, Option.some.injEq] at found'
    subst found'
    exact ⟨there, node, variant, target⟩
  · rintro ⟨there, node, variant, target⟩
    exact ⟨there, group, found, node, variant, target⟩

instance (name next : String) : Decidable (graph.Links name next) :=
  match found : graph.find? name with
  | none => isFalse fun links => by
    obtain ⟨-, group, found', -⟩ := links
    rw [found] at found'
    exact absurd found' (by simp)
  | some _ => decidable_of_iff _ (links_iff_of_find? found).symm

instance (name next : String) : Decidable (graph.Passes name next) :=
  inferInstanceAs (Decidable (_ ∧ _))

theorem mem_startGroups_iff {group : Group} :
    group ∈ graph.startGroups ↔
      ∃ name, graph.find? name = some group ∧ graph.startsAt name = true := by
  rw [startGroups, List.mem_filter, mem_groups_iff]
  constructor
  · rintro ⟨⟨name, found⟩, starts⟩
    exact ⟨name, found, startsAt_iff.2 ⟨group, found, starts⟩⟩
  · rintro ⟨name, found, starts⟩
    rw [startsAt, found, Option.any_some] at starts
    exact ⟨⟨name, found⟩, starts⟩

theorem mem_startNodes_iff {node : Node} :
    node ∈ graph.startNodes ↔
      ∃ name group, graph.find? name = some group ∧ graph.startsAt name = true ∧
        node ∈ group.variants := by
  rw [startNodes, List.mem_flatMap]
  constructor
  · rintro ⟨group, start, variant⟩
    obtain ⟨name, found, starts⟩ := mem_startGroups_iff.1 start
    exact ⟨name, group, found, starts, variant⟩
  · rintro ⟨name, group, found, starts, variant⟩
    exact ⟨group, mem_startGroups_iff.2 ⟨name, found, starts⟩, variant⟩

theorem mem_successors_iff {node : Node} {group : Group} :
    group ∈ graph.successors node ↔
      ∃ name ∈ node.targets, graph.find? name = some group := by
  rw [successors, List.mem_filterMap]

/-! ### Ways of a graph -/

theorem Reached.trans {name other : String} (h : graph.Reached name)
    (way : Relation.ReflTransGen graph.Passes name other) : graph.Reached other := by
  induction way with
  | refl => exact h
  | tail _ step ih => exact ih.next step

/-- A reader who can come to the first group of a way can come to every group on it. -/
theorem Reached.of_mem_isChain :
    ∀ {names : List String} {first : String}, graph.Reached first → names.IsChain graph.Passes →
      names.head? = some first → ∀ name ∈ names, graph.Reached name
  | [], _, _, _, _, _, member => absurd member List.not_mem_nil
  | x :: names, first, reached, chain, begins, name, member => by
    rw [List.head?_cons, Option.some.injEq] at begins
    subst begins
    rw [List.isChain_cons] at chain
    obtain ⟨step, chain⟩ := chain
    rcases List.mem_cons.1 member with rfl | member
    · exact reached
    · cases hn : names.head? with
      | none =>
        rw [List.head?_eq_none_iff] at hn
        subst hn
        exact absurd member List.not_mem_nil
      | some next => exact of_mem_isChain (reached.next (step next hn)) chain hn name member

/-- A reader who can come to a group can come there from a start. -/
theorem reached_iff {name : String} :
    graph.Reached name ↔
      ∃ start, graph.startsAt start = true ∧ Relation.ReflTransGen graph.Passes start name := by
  constructor
  · intro h
    induction h with
    | @start name starts => exact ⟨name, starts, .refl⟩
    | next _ step ih =>
      obtain ⟨start, starts, way⟩ := ih
      exact ⟨start, starts, way.tail step⟩
  · rintro ⟨start, starts, way⟩
    exact (Reached.start starts).trans way

/-- A group from which the story can end can be left for an ending without passing another. -/
theorem CanEnd.exists_passes {name : String} (h : graph.CanEnd name) :
    ∃ ending, graph.isEnding ending = true ∧ Relation.ReflTransGen graph.Passes name ending := by
  obtain ⟨ending, ends, way⟩ := h
  obtain ⟨first, ends, -, before⟩ := exists_first (P := fun x => graph.isEnding x = true) way ends
  refine ⟨first, ends, Relation.ReflTransGen.mono ?_ _ _ before⟩
  rintro x y ⟨goesOn, step⟩
  exact ⟨Bool.eq_false_iff.2 goesOn, step⟩

theorem CanEnd.of_links {name next : String} (h : graph.CanEnd next) (step : graph.Links name next) :
    graph.CanEnd name := by
  obtain ⟨ending, ends, way⟩ := h
  exact ⟨ending, ends, .head step way⟩

/-- **There are not more names without repetition than groups.** -/
theorem length_le_groupCount {names : List String} (distinct : names.Nodup)
    (exist : ∀ name ∈ names, graph.contains name = true) : names.length ≤ graph.groupCount := by
  have inside : names ⊆ graph.table.names := by
    intro name member
    exact NameTable.mem_names_iff.2 (contains_iff.1 (exist name member))
  have shorter := (List.subperm_of_subset distinct inside).length_le
  rw [NameTable.names, List.length_map] at shorter
  exact shorter

end Graph

end Gamebook.Story
