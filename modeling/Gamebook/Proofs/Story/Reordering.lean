import Gamebook.Proofs.Story.Route

/-!
# Histories in another order

The documents of a story come in some order, and a graph remembers that order in two ways: in the order
of the variants of a group, and in what counts of several declarations about it.  This file says what a
graph forgets.  Whether a group may be entered again and whether it is divergent never depends on the
order.  Whether it starts or ends the story does not either if it is not divergent, because then all that
was declared is one value.

## Graphs that differ in the order of variants only

Two graphs made from one list of documents in two orders, without a divergent group, hold groups of
the same names whose variants are the same in another order (`Graph.Reorders`).  All that is said of ways
through a graph is said with a few questions about names, and these have the same answers in both
(`Reorders.links_eq` and the lemmas beside it).
-/

namespace Gamebook.Story

/-! ### One group in two orders -/

namespace Graph

theorem mixed_iff_of_perm {values others : List Bool} (perm : values.Perm others) :
    Mixed values ↔ Mixed others := by
  rw [Mixed, Mixed, perm.mem_iff, perm.mem_iff]

/-- Of values that are not mixed, the last one is any of them. -/
theorem getD_getLast?_iff {values : List Bool} (one : ¬ Mixed values) :
    values.getLast?.getD false = true ↔ true ∈ values := by
  rcases List.eq_nil_or_concat values with rfl | ⟨init, last, rfl⟩
  · simp
  · rw [List.concat_eq_append] at one ⊢
    rw [List.getLast?_concat, Option.getD_some]
    constructor
    · rintro rfl
      exact List.mem_concat_self
    · intro member
      by_contra other
      rw [Bool.not_eq_true] at other
      subst other
      exact one ⟨member, List.mem_concat_self⟩

variable {name : String} {revisitDefault : Bool} {steps others : List Insertion}

/-- **Whether a group may be entered again** does not depend on the order of its documents. -/
theorem revisit_groupOf_of_perm (perm : steps.Perm others) :
    (groupOf name revisitDefault steps).revisit = (groupOf name revisitDefault others).revisit := by
  have variants := perm.map (·.node)
  rw [Group.revisit, Group.revisit, variants_groupOf, variants_groupOf, revisitDefault_groupOf,
    revisitDefault_groupOf, Bool.eq_iff_iff, List.all_eq_true, List.all_eq_true]
  constructor
  · exact fun all node member => all node (variants.mem_iff.2 member)
  · exact fun all node member => all node (variants.mem_iff.1 member)

/-- **Whether a group is divergent** does not depend on the order of its documents. -/
theorem divergent_groupOf_of_perm (perm : steps.Perm others) :
    (groupOf name revisitDefault steps).divergent =
      (groupOf name revisitDefault others).divergent := by
  rw [Bool.eq_iff_iff, divergent_groupOf_iff, divergent_groupOf_iff]
  have starts := mixed_iff_of_perm (perm.filterMap (·.said.start?))
  have endings := mixed_iff_of_perm (perm.filterMap (·.said.ending?))
  exact or_congr starts endings

/-- Whether values that are not mixed end with `true` does not depend on their order. -/
theorem getD_getLast?_eq_of_perm {values others : List Bool} (perm : values.Perm others)
    (one : ¬ Mixed values) : values.getLast?.getD false = others.getLast?.getD false := by
  have one' : ¬ Mixed others := fun h => one ((mixed_iff_of_perm perm).2 h)
  rw [Bool.eq_iff_iff, getD_getLast?_iff one, getD_getLast?_iff one', perm.mem_iff]

/-- **Where a group is not divergent**, whether it starts or ends the story does not depend on the order
of its documents. -/
theorem flags_groupOf_of_perm (perm : steps.Perm others)
    (agreed : (groupOf name revisitDefault steps).divergent = false) :
    (groupOf name revisitDefault steps).isStart = (groupOf name revisitDefault others).isStart ∧
      (groupOf name revisitDefault steps).isEnding =
        (groupOf name revisitDefault others).isEnding := by
  have one : ¬ (Mixed (startsSaid steps) ∨ Mixed (endingsSaid steps)) := by
    intro mixed
    rw [divergent_groupOf_iff.2 mixed] at agreed
    exact absurd agreed (by decide)
  rw [not_or] at one
  unfold Group.isStart Group.isEnding
  rw [declared_groupOf, declared_groupOf]
  constructor
  · exact getD_getLast?_eq_of_perm (perm.filterMap _) one.1
  · exact getD_getLast?_eq_of_perm (perm.filterMap _) one.2

/-! ### All groups in two orders -/

/-- The groups that two orders of the same insertions make. -/
def SameSteps (name : String) (revisitDefault : Bool) (group other : Group) : Prop :=
  ∃ steps others, steps.Perm others ∧ group = groupOf name revisitDefault steps ∧
    other = groupOf name revisitDefault others

/-- **Histories in two orders** make groups of the same names, each from the same insertions, if all
insertions have one default. -/
theorem rel_find?_of_perm {history others : List Insertion} (perm : history.Perm others)
    (default : ∀ step ∈ history, step.revisitDefault = revisitDefault) (name : String) :
    Option.Rel (SameSteps name revisitDefault)
      ((ofInsertions history).find? name) ((ofInsertions others).find? name) := by
  rw [find?_ofInsertions, find?_ofInsertions]
  have into : (insertionsInto name history).Perm (insertionsInto name others) := perm.filter _
  have default' : ∀ step ∈ insertionsInto name history, step.revisitDefault = revisitDefault :=
    fun step member => default step (mem_insertionsInto.1 member).1
  cases h : insertionsInto name history with
  | nil =>
    rw [h, List.nil_perm] at into
    rw [into]
    exact .none
  | cons first rest =>
    cases h' : insertionsInto name others with
    | nil =>
      rw [h, h'] at into
      exact absurd (List.perm_nil.1 into) (List.cons_ne_nil _ _)
    | cons first' rest' =>
      rw [h] at into default'
      rw [h'] at into
      have first_eq := default' first List.mem_cons_self
      have first_eq' := default' first' (into.mem_iff.2 List.mem_cons_self)
      rw [groupOf?, groupOf?, first_eq, first_eq']
      exact .some ⟨first :: rest, first' :: rest', into, rfl, rfl⟩

/-- What does not depend on the order of the insertions about a group is the same in both graphs. -/
theorem map_find?_eq_of_perm {β : Type} {history others : List Insertion}
    (perm : history.Perm others)
    (default : ∀ step ∈ history, step.revisitDefault = revisitDefault) {f : Group → β}
    (same : ∀ {name : String} {steps steps' : List Insertion}, steps.Perm steps' →
      f (groupOf name revisitDefault steps) = f (groupOf name revisitDefault steps'))
    (name : String) :
    ((ofInsertions history).find? name).map f = ((ofInsertions others).find? name).map f := by
  have related := rel_find?_of_perm perm default name
  generalize (ofInsertions history).find? name = group? at related ⊢
  generalize (ofInsertions others).find? name = other? at related ⊢
  cases related with
  | none => rfl
  | some made =>
    obtain ⟨steps, steps', into, rfl, rfl⟩ := made
    rw [Option.map_some, Option.map_some, same into]

end Graph

/-! ### Graphs that differ in the order of variants -/

/-- Two groups that differ in the order of their variants at most, as far as ways through a graph are
concerned. -/
structure Group.Reorders (group other : Group) : Prop where
  isStart : group.isStart = other.isStart
  isEnding : group.isEnding = other.isEnding
  revisit : group.revisit = other.revisit
  variants : group.variants.Perm other.variants

namespace Graph

/-- Under every name, both graphs hold a group or neither does, and the groups differ in the order of
their variants at most. -/
def Reorders (graph other : Graph) : Prop :=
  ∀ name, Option.Rel Group.Reorders (graph.find? name) (other.find? name)

/-- **Histories in two orders make graphs that differ in the order of variants**, if no group is
divergent. -/
theorem reorders_of_perm {history others : List Insertion} {revisitDefault : Bool}
    (perm : history.Perm others)
    (default : ∀ step ∈ history, step.revisitDefault = revisitDefault)
    (agreed : ∀ group ∈ (ofInsertions history).groups, group.divergent = false) :
    (ofInsertions history).Reorders (ofInsertions others) := by
  intro name
  have related := rel_find?_of_perm perm default name
  have one : ∀ group, (ofInsertions history).find? name = some group → group.divergent = false :=
    fun group found => agreed group (mem_groups_iff.2 ⟨name, found⟩)
  generalize (ofInsertions history).find? name = group? at related one ⊢
  generalize (ofInsertions others).find? name = other? at related ⊢
  cases related with
  | none => exact .none
  | some same =>
    obtain ⟨steps, steps', into, rfl, rfl⟩ := same
    obtain ⟨starts, ends⟩ := flags_groupOf_of_perm into (one _ rfl)
    refine .some ⟨starts, ends, revisit_groupOf_of_perm into, ?_⟩
    rw [variants_groupOf, variants_groupOf]
    exact into.map _

variable {graph other : Graph}

theorem Reorders.symm (h : graph.Reorders other) : other.Reorders graph := by
  intro name
  have related := h name
  generalize graph.find? name = a at related
  generalize other.find? name = b at related
  cases related with
  | none => exact .none
  | some same =>
    exact .some ⟨same.isStart.symm, same.isEnding.symm, same.revisit.symm, same.variants.symm⟩

/-- What is found in the one graph has its counterpart in the other. -/
theorem Reorders.exists_find? (h : graph.Reorders other) {name : String} {group : Group}
    (found : graph.find? name = some group) :
    ∃ group', other.find? name = some group' ∧ group.Reorders group' := by
  have related := h name
  rw [found] at related
  generalize other.find? name = b at related
  cases related with
  | some same => exact ⟨_, rfl, same⟩

/-- A question about the group of a name has one answer in both graphs, if it has for groups that differ
in the order of their variants. -/
theorem Reorders.any_find?_eq (h : graph.Reorders other) {p : Group → Bool}
    (same : ∀ {a b : Group}, a.Reorders b → p a = p b) (name : String) :
    (graph.find? name).any p = (other.find? name).any p := by
  have related := h name
  generalize graph.find? name = a at related
  generalize other.find? name = b at related
  cases related with
  | none => rfl
  | some h => exact same h

theorem Reorders.startsAt_eq (h : graph.Reorders other) : graph.startsAt = other.startsAt :=
  funext (h.any_find?_eq Group.Reorders.isStart)

theorem Reorders.isEnding_eq (h : graph.Reorders other) : graph.isEnding = other.isEnding :=
  funext (h.any_find?_eq Group.Reorders.isEnding)

theorem Reorders.mayReturnTo_eq (h : graph.Reorders other) :
    graph.mayReturnTo = other.mayReturnTo :=
  funext (h.any_find?_eq Group.Reorders.revisit)

theorem Reorders.contains_eq (h : graph.Reorders other) : graph.contains = other.contains := by
  funext name
  rw [contains, contains, ← Option.any_true, ← Option.any_true]
  exact h.any_find?_eq (fun _ => rfl) name

theorem Reorders.names_eq (h : graph.Reorders other) : graph.table.names = other.table.names :=
  NameTable.names_eq_of_isSome_eq fun name => congrFun h.contains_eq name

theorem Reorders.groupCount_eq (h : graph.Reorders other) : graph.groupCount = other.groupCount := by
  have lengths := congrArg List.length h.names_eq
  rw [NameTable.names, NameTable.names, List.length_map, List.length_map] at lengths
  exact lengths

theorem Reorders.links (h : graph.Reorders other) {name next : String}
    (links : graph.Links name next) : other.Links name next := by
  obtain ⟨there, group, found, node, variant, target⟩ := links
  obtain ⟨group', found', same⟩ := h.exists_find? found
  rw [h.contains_eq] at there
  exact ⟨there, group', found', node, same.variants.mem_iff.1 variant, target⟩

/-- **The choices are the same.** -/
theorem Reorders.links_eq (h : graph.Reorders other) : graph.Links = other.Links := by
  funext name next
  exact propext ⟨h.links, h.symm.links⟩

theorem Reorders.passes_eq (h : graph.Reorders other) : graph.Passes = other.Passes := by
  funext name next
  rw [Passes, Passes, h.isEnding_eq, h.links_eq]

theorem Reorders.reached_iff (h : graph.Reorders other) {name : String} :
    graph.Reached name ↔ other.Reached name := by
  rw [Graph.reached_iff, Graph.reached_iff, h.startsAt_eq, h.passes_eq]

theorem Reorders.canEnd_iff (h : graph.Reorders other) {name : String} :
    graph.CanEnd name ↔ other.CanEnd name := by
  rw [CanEnd, CanEnd, h.isEnding_eq, h.links_eq]

theorem Reorders.mem_nodes_iff (h : graph.Reorders other) {node : Node} :
    node ∈ graph.nodes ↔ node ∈ other.nodes := by
  have into : ∀ {g g' : Graph}, g.Reorders g' → node ∈ g.nodes → node ∈ g'.nodes := by
    intro g g' reorders member
    obtain ⟨name, group, found, variant⟩ := Graph.mem_nodes_iff.1 member
    obtain ⟨group', found', same⟩ := reorders.exists_find? found
    exact Graph.mem_nodes_iff.2 ⟨name, group', found', same.variants.mem_iff.1 variant⟩
  exact ⟨into h, into h.symm⟩

end Graph

end Gamebook.Story
