import Gamebook.Story.Node

/-!
# The story graph

The groups of a story by name, with the choices of their variants as edges.  A graph grows by
`insert` alone: a variant is appended to its group, which is made if it is not there yet, and what the
document declares about the group is taken over.  Since the groups are kept in the order of their
names, every walk over a graph meets them in that order, and the variants of one group in the order in
which they were inserted.
-/

namespace Gamebook.Story

/-- The groups of a story, by name. -/
structure Graph where
  /-- Each group under its name. -/
  table : NameTable Group
  deriving DecidableEq, Inhabited

namespace Graph

/-- The graph without groups. -/
def empty : Graph := ⟨NameTable.empty⟩

/-! ### Reading a graph -/

/-- The group of that name. -/
def find? (graph : Graph) (name : String) : Option Group := graph.table.find? name

/-- There is a group of that name. -/
def contains (graph : Graph) (name : String) : Bool := (graph.find? name).isSome

/-- The groups in the order of their names. -/
def groups (graph : Graph) : List Group := graph.table.values

/-- The variants, group by group. -/
def nodes (graph : Graph) : List Node := graph.groups.flatMap (·.variants)

/-- The groups in which the story may start. -/
def startGroups (graph : Graph) : List Group := graph.groups.filter (·.isStart)

/-- The groups in which the story ends. -/
def endGroups (graph : Graph) : List Group := graph.groups.filter (·.isEnding)

/-- The variants with which the story may start. -/
def startNodes (graph : Graph) : List Node := graph.startGroups.flatMap (·.variants)

/-- The group of that name exists and ends the story. -/
def isEnding (graph : Graph) (name : String) : Bool := (graph.find? name).any (·.isEnding)

/-- The number of groups. -/
def groupCount (graph : Graph) : Nat := graph.table.size

/-- The number of variants. -/
def nodeCount (graph : Graph) : Nat := graph.nodes.length

/-- The groups that exist among those that a variant's choices name, in the order of the labels. -/
def successors (graph : Graph) (node : Node) : List Group := node.targets.filterMap graph.find?

@[simp] theorem find?_empty (name : String) : empty.find? name = none := rfl

@[simp] theorem groups_empty : empty.groups = [] := rfl

@[simp] theorem nodes_empty : empty.nodes = [] := rfl

/-- The variants of a group that is found are variants of the graph. -/
theorem mem_nodes_of_find? {graph : Graph} {name : String} {group : Group} {node : Node}
    (found : graph.find? name = some group) (member : node ∈ group.variants) :
    node ∈ graph.nodes :=
  List.mem_flatMap.2 ⟨group, NameTable.mem_values_of_find?_eq_some found, member⟩

/-- A successor is a group that is found. -/
theorem find?_of_mem_successors {graph : Graph} {node : Node} {group : Group}
    (member : group ∈ graph.successors node) : ∃ name, graph.find? name = some group := by
  obtain ⟨name, _, found⟩ := List.mem_filterMap.1 member
  exact ⟨name, found⟩

/-- A variant with which the story may start is a variant of the graph. -/
theorem mem_nodes_of_mem_startNodes {graph : Graph} {node : Node}
    (member : node ∈ graph.startNodes) : node ∈ graph.nodes := by
  obtain ⟨group, start, member⟩ := List.mem_flatMap.1 member
  exact List.mem_flatMap.2 ⟨group, (List.mem_filter.1 start).1, member⟩

/-! ### Growing a graph -/

/-- The graph with one more variant, whose document makes a declaration.  A group that is made for the
variant takes the given default for entering it again. -/
def insert (graph : Graph) (node : Node) (said : Declaration) (revisitDefault : Bool) : Graph :=
  ⟨graph.table.upsert node.group fun group? =>
    ((group?.getD ⟨node.group, revisitDefault, {}, false, []⟩).declare said).append node⟩

/-- **The group that receives a variant** is the one that was there, or a new one. -/
theorem find?_insert_self (graph : Graph) (node : Node) (said : Declaration)
    (revisitDefault : Bool) :
    (graph.insert node said revisitDefault).find? node.group
      = some ((((graph.find? node.group).getD ⟨node.group, revisitDefault, {}, false, []⟩).declare
          said).append node) :=
  NameTable.find?_upsert_self graph.table node.group _

/-- **Every other group** stays as it was. -/
theorem find?_insert_of_ne (graph : Graph) {node : Node} {name : String} (said : Declaration)
    (revisitDefault : Bool) (h : name ≠ node.group) :
    (graph.insert node said revisitDefault).find? name = graph.find? name :=
  NameTable.find?_upsert_of_ne graph.table _ h

/-- One variant with what its document declares and the default for a group made for it. -/
structure Insertion where
  /-- The variant. -/
  node : Node
  /-- What the document says about the group. -/
  said : Declaration := {}
  /-- The default of a group that is made for the variant. -/
  revisitDefault : Bool := true
  deriving DecidableEq, Inhabited

/-- The graph after a history of insertions, the earliest first. -/
def ofInsertions (history : List Insertion) : Graph :=
  history.foldl (fun graph step => graph.insert step.node step.said step.revisitDefault) empty

@[simp] theorem ofInsertions_nil : ofInsertions [] = empty := rfl

/-- The last insertion is made into the graph of those before it. -/
theorem ofInsertions_concat (history : List Insertion) (step : Insertion) :
    ofInsertions (history ++ [step])
      = (ofInsertions history).insert step.node step.said step.revisitDefault := by
  simp [ofInsertions, List.foldl_append]

end Graph

end Gamebook.Story
