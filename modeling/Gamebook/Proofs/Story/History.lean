import Gamebook.Story.Graph
import Mathlib.Data.List.Induction
import Mathlib.Data.List.Perm.Basic

/-!
# The graph of a history

A graph is made by insertions alone, so all that can be said of it is said by its history.  This file
says it: what a group is follows from the insertions that are about it, in their order, and from
nothing else.

## Why a group is a fold over its own insertions

`Graph.insert` changes one entry of the table and leaves the others, so the insertions about other
groups can be left out of a history without any change to the group in question.
`find?_ofInsertions` is that statement.  It turns every question about a group into a question about
one list, which an induction from its end answers.

## Why a contradiction is seen although only neighbours are compared

A declaration is compared with the one before it only.  But if both values were declared, then somewhere
in the list of declared values two neighbours differ, and the comparison is made there.  `Mixed` says
that both values occur, and `mixed_append_toList` is the step: a value makes a list mixed that was not
mixed exactly when it differs from the last one.
-/

namespace Gamebook

namespace NameTable

variable {α β : Type}

theorem mem_names_iff {t : NameTable α} {name : String} :
    name ∈ t.names ↔ ∃ value, t.find? name = some value := by
  rw [names, List.mem_map]
  constructor
  · rintro ⟨entry, member, rfl⟩
    exact ⟨entry.2, find?_eq_some_iff.2 member⟩
  · rintro ⟨value, found⟩
    exact ⟨(name, value), find?_eq_some_iff.1 found, rfl⟩

theorem mem_values_iff {t : NameTable α} {value : α} :
    value ∈ t.values ↔ ∃ name, t.find? name = some value := by
  rw [values, List.mem_map]
  constructor
  · rintro ⟨entry, member, rfl⟩
    exact ⟨entry.1, find?_eq_some_iff.2 member⟩
  · rintro ⟨name, found⟩
    exact ⟨(name, value), find?_eq_some_iff.1 found, rfl⟩

theorem pairwise_names (t : NameTable α) : t.names.Pairwise (· < ·) :=
  List.pairwise_map.2 t.increasing

theorem nodup_names (t : NameTable α) : t.names.Nodup := by
  refine t.pairwise_names.imp ?_
  rintro name _ below rfl
  exact String.lt_irrefl _ below

@[simp] theorem find?_map (t : NameTable α) (f : String → α → β) (name : String) :
    (t.map f).find? name = (t.find? name).map (f name) := by
  show findIn? name (t.entries.map fun entry => (entry.1, f entry.1 entry.2)) =
    (findIn? name t.entries).map (f name)
  induction t.entries with
  | nil => rfl
  | cons entry rest ih =>
    rw [List.map_cons, findIn?, findIn?]
    by_cases h : entry.1 = name
    · rw [if_pos h, if_pos h, h]
      rfl
    · rw [if_neg h, if_neg h, ih]

/-- **Two tables under whose names something is found alike have the same names.** -/
theorem names_eq_of_isSome_eq {s : NameTable α} {t : NameTable β}
    (same : ∀ name, (s.find? name).isSome = (t.find? name).isSome) : s.names = t.names := by
  -- without the values the two tables are one table, as nothing tells them apart
  have bare : (s.map fun _ _ => ()) = t.map fun _ _ => () := by
    refine ext_find? fun name => ?_
    rw [find?_map, find?_map]
    have h := same name
    cases hs : s.find? name <;> cases ht : t.find? name <;> simp_all
  have names_map : ∀ {γ : Type} (u : NameTable γ), (u.map fun _ _ => ()).names = u.names := by
    intro γ u
    rw [names, entries_map, List.map_map]
    rfl
  rw [← names_map s, bare, names_map t]

/-- A change that adds to what is listed of one value adds to what is listed of all. -/
theorem flatMap_upsert_perm (t : NameTable α) (name : String) (change : Option α → α)
    (f : α → List β) (extra : List β)
    (adds : ∀ value?, f (change value?) = (value?.elim [] f) ++ extra) :
    ((t.upsert name change).values.flatMap f).Perm (t.values.flatMap f ++ extra) := by
  show (((upsertIn name change t.entries).map (·.2)).flatMap f).Perm
    ((t.entries.map (·.2)).flatMap f ++ extra)
  induction t.entries with
  | nil =>
    rw [upsertIn]
    simp [adds]
  | cons entry rest ih =>
    rw [upsertIn]
    split
    · rw [List.map_cons, List.flatMap_cons, adds]
      exact List.perm_append_comm
    · split
      · rw [List.map_cons, List.flatMap_cons, List.map_cons, List.flatMap_cons, adds,
          List.append_assoc, List.append_assoc]
        exact List.Perm.append_left _ List.perm_append_comm
      · rw [List.map_cons, List.flatMap_cons, List.map_cons, List.flatMap_cons, List.append_assoc]
        exact List.Perm.append_left _ ih

end NameTable

namespace Story

/-! ### Values declared one after the other -/

/-- Both values occur in a list of declared values. -/
def Mixed (values : List Bool) : Prop := true ∈ values ∧ false ∈ values

@[simp] theorem not_mixed_nil : ¬ Mixed [] := fun h => by simp [Mixed] at h

theorem contradicts_getLast?_iff {values : List Bool} {value : Bool} :
    Group.contradicts values.getLast? (some value) = true ↔ values.getLast? = some (!value) := by
  cases h : values.getLast? with
  | none => simp [Group.contradicts]
  | some last => cases last <;> cases value <;> simp [Group.contradicts]

/-- **A list becomes mixed where a value differs from the one before it.** -/
theorem mixed_append_toList {values : List Bool} {said : Option Bool} :
    Mixed (values ++ said.toList) ↔
      Mixed values ∨ Group.contradicts values.getLast? said = true := by
  cases said with
  | none =>
    have h : Group.contradicts values.getLast? none = false := by
      cases values.getLast? <;> rfl
    simp [h]
  | some value =>
    rw [contradicts_getLast?_iff, Option.toList_some]
    constructor
    · intro h
      by_cases other : (!value) ∈ values
      · by_cases same : value ∈ values
        · left
          cases value
          · exact ⟨other, same⟩
          · exact ⟨same, other⟩
        · -- all values so far are the other one, the last of them too
          right
          have nonempty : values ≠ [] := List.ne_nil_of_mem other
          have last := List.getLast_mem nonempty
          rw [List.getLast?_eq_some_getLast nonempty]
          cases hl : values.getLast nonempty <;> cases value <;> simp_all
      · exfalso
        cases value <;> simp_all [Mixed]
    · rintro (⟨yes, no⟩ | last)
      · exact ⟨List.mem_append_left _ yes, List.mem_append_left _ no⟩
      · have member := List.mem_of_getLast? last
        cases value <;> simp_all [Mixed]

namespace Graph

/-! ### The groups of a graph -/

theorem mem_groups_iff {graph : Graph} {group : Group} :
    group ∈ graph.groups ↔ ∃ name, graph.find? name = some group :=
  NameTable.mem_values_iff

theorem mem_nodes_iff {graph : Graph} {node : Node} :
    node ∈ graph.nodes ↔ ∃ name group, graph.find? name = some group ∧ node ∈ group.variants := by
  rw [nodes, List.mem_flatMap]
  constructor
  · rintro ⟨group, member, variant⟩
    obtain ⟨name, found⟩ := mem_groups_iff.1 member
    exact ⟨name, group, found, variant⟩
  · rintro ⟨name, group, found, variant⟩
    exact ⟨group, mem_groups_iff.2 ⟨name, found⟩, variant⟩

/-- What every insertion keeps: a group that is found has the name under which it is found and at least
one variant, and its variants say that they belong to it. -/
structure WellFormed (graph : Graph) : Prop where
  name_eq : ∀ {name : String} {group : Group}, graph.find? name = some group → group.name = name
  variants_ne_nil : ∀ {name : String} {group : Group},
    graph.find? name = some group → group.variants ≠ []
  group_eq : ∀ {name : String} {group : Group} {node : Node},
    graph.find? name = some group → node ∈ group.variants → node.group = name

theorem WellFormed.map_name_groups {graph : Graph} (wf : graph.WellFormed) :
    graph.groups.map (·.name) = graph.table.names := by
  rw [groups, NameTable.values, NameTable.names, List.map_map]
  refine List.map_congr_left fun entry member => ?_
  exact wf.name_eq (NameTable.find?_eq_some_iff.2 member)

/-! ### One group of a history -/

/-- The insertions of a history that are about the group of a name. -/
def insertionsInto (name : String) (history : List Insertion) : List Insertion :=
  history.filter fun step => step.node.group = name

theorem insertionsInto_append_singleton (name : String) (history : List Insertion)
    (step : Insertion) :
    insertionsInto name (history ++ [step]) =
      insertionsInto name history ++ if step.node.group = name then [step] else [] := by
  rw [insertionsInto, List.filter_append, List.filter_singleton]
  by_cases h : step.node.group = name <;> simp [h, insertionsInto]

theorem mem_insertionsInto {name : String} {history : List Insertion} {step : Insertion} :
    step ∈ insertionsInto name history ↔ step ∈ history ∧ step.node.group = name := by
  rw [insertionsInto, List.mem_filter, decide_eq_true_eq]

/-- The group that a list of insertions makes of a new one. -/
def groupOf (name : String) (revisitDefault : Bool) (steps : List Insertion) : Group :=
  steps.foldl (fun group step => (group.declare step.said).append step.node)
    ⟨name, revisitDefault, {}, false, []⟩

theorem groupOf_append_singleton (name : String) (revisitDefault : Bool) (steps : List Insertion)
    (step : Insertion) :
    groupOf name revisitDefault (steps ++ [step]) =
      ((groupOf name revisitDefault steps).declare step.said).append step.node := by
  rw [groupOf, List.foldl_append]
  rfl

/-- The group that the insertions about it make, if there are any.  The first of them settles what
counts for variants that do not say whether they may be entered again. -/
def groupOf? (name : String) : List Insertion → Option Group
  | [] => none
  | first :: rest => some (groupOf name first.revisitDefault (first :: rest))

theorem groupOf?_append_singleton (name : String) (steps : List Insertion) (step : Insertion) :
    groupOf? name (steps ++ [step]) =
      some ((((groupOf? name steps).getD ⟨name, step.revisitDefault, {}, false, []⟩).declare
        step.said).append step.node) := by
  cases steps with
  | nil => rfl
  | cons first rest =>
    rw [List.cons_append, groupOf?, ← List.cons_append, groupOf_append_singleton, groupOf?,
      Option.getD_some]

/-- **A group is what the insertions about it make of it**, whatever else the history holds. -/
theorem find?_ofInsertions (history : List Insertion) (name : String) :
    (ofInsertions history).find? name = groupOf? name (insertionsInto name history) := by
  induction history using List.reverseRecOn with
  | nil => rfl
  | append_singleton history step ih =>
    rw [ofInsertions_concat, insertionsInto_append_singleton]
    by_cases h : step.node.group = name
    · subst h
      rw [if_pos rfl, groupOf?_append_singleton, find?_insert_self, ih]
    · rw [if_neg h, List.append_nil, find?_insert_of_ne _ _ _ (Ne.symm h), ih]

/-- A group that is found was made by insertions about it, and there is one. -/
theorem eq_groupOf_of_find? {history : List Insertion} {name : String} {group : Group}
    (found : (ofInsertions history).find? name = some group) :
    ∃ first rest, insertionsInto name history = first :: rest ∧
      group = groupOf name first.revisitDefault (insertionsInto name history) := by
  rw [find?_ofInsertions] at found
  cases h : insertionsInto name history with
  | nil => rw [h, groupOf?] at found; exact absurd found (by simp)
  | cons first rest =>
    rw [h, groupOf?, Option.some.injEq] at found
    exact ⟨first, rest, rfl, found.symm⟩

/-! ### What a group is made of -/

section Fields

variable (name : String) (revisitDefault : Bool) (steps : List Insertion)

@[simp] theorem name_groupOf : (groupOf name revisitDefault steps).name = name := by
  induction steps using List.reverseRecOn with
  | nil => rfl
  | append_singleton steps step ih =>
    rw [groupOf_append_singleton, Group.name_append, Group.name_declare, ih]

@[simp] theorem revisitDefault_groupOf :
    (groupOf name revisitDefault steps).revisitDefault = revisitDefault := by
  induction steps using List.reverseRecOn with
  | nil => rfl
  | append_singleton steps step ih =>
    rw [groupOf_append_singleton]
    exact ih

@[simp] theorem variants_groupOf :
    (groupOf name revisitDefault steps).variants = steps.map (·.node) := by
  induction steps using List.reverseRecOn with
  | nil => rfl
  | append_singleton steps step ih =>
    rw [groupOf_append_singleton, Group.variants_append, Group.variants_declare, ih,
      List.map_append, List.map_singleton]

end Fields

/-- The values declared for the start by a list of insertions. -/
def startsSaid (steps : List Insertion) : List Bool := steps.filterMap (·.said.start?)

/-- The values declared for the ending by a list of insertions. -/
def endingsSaid (steps : List Insertion) : List Bool := steps.filterMap (·.said.ending?)

theorem startsSaid_append_singleton (steps : List Insertion) (step : Insertion) :
    startsSaid (steps ++ [step]) = startsSaid steps ++ step.said.start?.toList := by
  rw [startsSaid, List.filterMap_append]
  cases h : step.said.start? <;> simp [startsSaid, h]

theorem endingsSaid_append_singleton (steps : List Insertion) (step : Insertion) :
    endingsSaid (steps ++ [step]) = endingsSaid steps ++ step.said.ending?.toList := by
  rw [endingsSaid, List.filterMap_append]
  cases h : step.said.ending? <;> simp [endingsSaid, h]

theorem getLast?_append_toList {values : List Bool} {said : Option Bool} :
    (values ++ said.toList).getLast? = said.or values.getLast? := by
  cases said <;> simp

/-- **The last declaration counts**, for the start and for the ending. -/
theorem declared_groupOf (name : String) (revisitDefault : Bool) (steps : List Insertion) :
    (groupOf name revisitDefault steps).declared =
      ⟨(startsSaid steps).getLast?, (endingsSaid steps).getLast?⟩ := by
  induction steps using List.reverseRecOn with
  | nil => rfl
  | append_singleton steps step ih =>
    rw [groupOf_append_singleton, startsSaid_append_singleton, endingsSaid_append_singleton,
      getLast?_append_toList, getLast?_append_toList]
    show Declaration.mk (step.said.start?.or (groupOf name revisitDefault steps).declared.start?)
      (step.said.ending?.or (groupOf name revisitDefault steps).declared.ending?) = _
    rw [ih]

/-- **A group is divergent when both values were declared**, for the start or for the ending, anywhere
in its history. -/
theorem divergent_groupOf_iff {name : String} {revisitDefault : Bool} {steps : List Insertion} :
    (groupOf name revisitDefault steps).divergent = true ↔
      Mixed (startsSaid steps) ∨ Mixed (endingsSaid steps) := by
  induction steps using List.reverseRecOn with
  | nil => simp [groupOf, startsSaid, endingsSaid]
  | append_singleton steps step ih =>
    rw [groupOf_append_singleton, startsSaid_append_singleton, endingsSaid_append_singleton,
      mixed_append_toList, mixed_append_toList]
    show ((groupOf name revisitDefault steps).divergent
      || Group.contradicts (groupOf name revisitDefault steps).declared.start? step.said.start?
      || Group.contradicts (groupOf name revisitDefault steps).declared.ending? step.said.ending?)
        = true ↔ _
    rw [declared_groupOf, Bool.or_eq_true, Bool.or_eq_true, ih]
    tauto

/-! ### What every history makes -/

/-- **A graph made by insertions is well formed.** -/
theorem wellFormed_ofInsertions (history : List Insertion) : (ofInsertions history).WellFormed where
  name_eq := by
    intro name group found
    obtain ⟨first, rest, -, rfl⟩ := eq_groupOf_of_find? found
    exact name_groupOf _ _ _
  variants_ne_nil := by
    intro name group found
    obtain ⟨first, rest, into, rfl⟩ := eq_groupOf_of_find? found
    rw [variants_groupOf, into]
    exact List.cons_ne_nil _ _
  group_eq := by
    intro name group node found member
    obtain ⟨first, rest, -, rfl⟩ := eq_groupOf_of_find? found
    rw [variants_groupOf, List.mem_map] at member
    obtain ⟨step, member, rfl⟩ := member
    exact (mem_insertionsInto.1 member).2

/-- **No variant is lost or added**: the graph holds the inserted variants. -/
theorem nodes_ofInsertions_perm (history : List Insertion) :
    (ofInsertions history).nodes.Perm (history.map (·.node)) := by
  induction history using List.reverseRecOn with
  | nil => exact List.Perm.refl _
  | append_singleton history step ih =>
    rw [ofInsertions_concat, List.map_append, List.map_singleton]
    refine List.Perm.trans ?_ (ih.append_right [step.node])
    refine NameTable.flatMap_upsert_perm _ _ _ _ _ fun group? => ?_
    cases group? <;> rfl

theorem nodup_sourceIds_of_history {history : List Insertion}
    (distinct : (history.map (·.node.sourceId)).Nodup) :
    ((ofInsertions history).nodes.map (·.sourceId)).Nodup := by
  rw [((nodes_ofInsertions_perm history).map _).nodup_iff, List.map_map]
  exact distinct

/-! ### The whole graph -/

/-- There is a group for every name that the inserted variants give. -/
theorem mem_names_ofInsertions_iff {history : List Insertion} {name : String} :
    name ∈ (ofInsertions history).table.names ↔ ∃ step ∈ history, step.node.group = name := by
  rw [NameTable.mem_names_iff]
  constructor
  · rintro ⟨group, found⟩
    obtain ⟨first, rest, into, -⟩ := eq_groupOf_of_find? found
    have member : first ∈ insertionsInto name history := into ▸ List.mem_cons_self
    exact ⟨first, mem_insertionsInto.1 member⟩
  · rintro ⟨step, member, named⟩
    have into : step ∈ insertionsInto name history := mem_insertionsInto.2 ⟨member, named⟩
    obtain ⟨first, rest, same⟩ := List.exists_cons_of_ne_nil (List.ne_nil_of_mem into)
    refine ⟨groupOf name first.revisitDefault (first :: rest), ?_⟩
    show (ofInsertions history).find? name = _
    rw [find?_ofInsertions, same, groupOf?]

/-- A group is what its part of a history says, field by field. -/
structure Recounts (history : List Insertion) (name : String) (group : Group) : Prop where
  name_eq : group.name = name
  /-- The variants that were inserted under the name, in the order of their insertion. -/
  variants_eq : group.variants = (insertionsInto name history).map (·.node)
  variants_ne_nil : group.variants ≠ []
  /-- The first insertion settles the default. -/
  revisitDefault_eq :
    (insertionsInto name history).head?.map (·.revisitDefault) = some group.revisitDefault
  /-- What is compared with the next declaration: the last ones. -/
  declared_eq : group.declared = ⟨(startsSaid (insertionsInto name history)).getLast?,
    (endingsSaid (insertionsInto name history)).getLast?⟩
  /-- The last declaration counts, and without one the story does not start there. -/
  isStart_eq : group.isStart = (startsSaid (insertionsInto name history)).getLast?.getD false
  /-- The last declaration counts, and without one the story does not end there. -/
  isEnding_eq : group.isEnding = (endingsSaid (insertionsInto name history)).getLast?.getD false
  /-- Both values were declared for the start, or both for the ending. -/
  divergent_iff : group.divergent = true ↔
    Mixed (startsSaid (insertionsInto name history)) ∨
      Mixed (endingsSaid (insertionsInto name history))

theorem recounts_of_find? {history : List Insertion} {name : String} {group : Group}
    (found : (ofInsertions history).find? name = some group) : Recounts history name group := by
  have nonempty := (wellFormed_ofInsertions history).variants_ne_nil found
  obtain ⟨first, rest, into, rfl⟩ := eq_groupOf_of_find? found
  exact {
    name_eq := name_groupOf _ _ _
    variants_eq := variants_groupOf _ _ _
    variants_ne_nil := nonempty
    revisitDefault_eq := by rw [revisitDefault_groupOf, into, List.head?_cons, Option.map_some]
    declared_eq := declared_groupOf _ _ _
    isStart_eq := by rw [Group.isStart, declared_groupOf]
    isEnding_eq := by rw [Group.isEnding, declared_groupOf]
    divergent_iff := divergent_groupOf_iff }

/-- **A graph is determined by the history of its insertions.**  Its groups are those of the inserted
variants, one for each name, in increasing order of the names.  Under its name each group holds what the
insertions about it say, and as many variants were inserted as there are. -/
theorem ofInsertions_recounts (history : List Insertion) :
    ((ofInsertions history).groups.map (·.name)).Pairwise (· < ·) ∧
      (∀ name, name ∈ (ofInsertions history).groups.map (·.name) ↔
        ∃ step ∈ history, step.node.group = name) ∧
      (∀ name group, (ofInsertions history).find? name = some group →
        Recounts history name group) ∧
      (ofInsertions history).nodeCount = history.length := by
  rw [(wellFormed_ofInsertions history).map_name_groups]
  refine ⟨NameTable.pairwise_names _, fun name => mem_names_ofInsertions_iff, ?_, ?_⟩
  · exact fun name group found => recounts_of_find? found
  · rw [nodeCount, (nodes_ofInsertions_perm history).length_eq, List.length_map]

end Graph

end Story

end Gamebook
