import Gamebook.Story.NameTable
import Gamebook.Story.Style

/-!
# Variants and groups

A variant is one document's telling of a passage.  Documents that tell the same passage form a group,
and a choice leads to a group, never to a variant: which variant the reader sees is left open, so
whatever holds of a story must hold for every variant of every group.

A variant may say whether its passage may be entered again; where it does not, the default of its
group counts.  A group may be entered again only if every variant may.
-/

namespace Gamebook.Story

/-- One telling of a passage, made from one document. -/
structure Node where
  /-- The source id of the document. -/
  sourceId : String
  /-- The name of the group that the variant belongs to. -/
  group : String
  /-- The prose. -/
  text : String := ""
  /-- The choices offered at the end: under each label the name of a group, which may not exist. -/
  choices : NameTable String := NameTable.empty
  /-- The declared style. -/
  style : Style := {}
  /-- Whether the passage may be entered again, if the document says so. -/
  revisit? : Option Bool := none
  deriving DecidableEq, Inhabited

namespace Node

/-- Whether the variant may be entered again, given the default of its group. -/
def revisit (node : Node) (groupDefault : Bool) : Bool := node.revisit?.getD groupDefault

/-- The groups that the choices name, in the order of the labels. -/
def targets (node : Node) : List String := node.choices.values

/-- The variant offers a choice. -/
def hasChoices (node : Node) : Bool := !node.choices.entries.isEmpty

end Node

/-- What a document says about its group: whether the story may start there and whether it ends
there. -/
structure Declaration where
  /-- The group starts the story. -/
  start? : Option Bool := none
  /-- The group ends the story. -/
  ending? : Option Bool := none
  deriving DecidableEq, Repr, Inhabited

/-- The variants of one passage, with what their documents say about it. -/
structure Group where
  /-- The name that choices refer to. -/
  name : String
  /-- Whether variants that say nothing may be entered again. -/
  revisitDefault : Bool
  /-- What was declared last, for the start and for the ending. -/
  declared : Declaration := {}
  /-- Two documents contradict each other about the start or about the ending. -/
  divergent : Bool := false
  /-- The variants in the order of their documents. -/
  variants : List Node := []
  deriving DecidableEq, Inhabited

namespace Group

/-- The story may start here. -/
def isStart (group : Group) : Bool := group.declared.start?.getD false

/-- The story ends here. -/
def isEnding (group : Group) : Bool := group.declared.ending?.getD false

/-- Every variant may be entered again. -/
def revisit (group : Group) : Bool := group.variants.all fun node => node.revisit group.revisitDefault

/-- Some variant offers a choice. -/
def anyChoices (group : Group) : Bool := group.variants.any Node.hasChoices

/-- The groups that the choices of the variants name, variant by variant. -/
def targets (group : Group) : List String := group.variants.flatMap Node.targets

/-- A declaration contradicts the one before it. -/
def contradicts (before now : Option Bool) : Bool :=
  match before, now with
  | some old, some new => old != new
  | _, _ => false

/-- The group after one more document has declared something about it: what is declared counts from
now on, and a contradiction is remembered. -/
def declare (group : Group) (said : Declaration) : Group :=
  { group with
    declared :=
      { start? := said.start?.or group.declared.start?
        ending? := said.ending?.or group.declared.ending? }
    divergent := group.divergent
      || contradicts group.declared.start? said.start?
      || contradicts group.declared.ending? said.ending? }

/-- The group with one more variant at its end. -/
def append (group : Group) (node : Node) : Group :=
  { group with variants := group.variants ++ [node] }

@[simp] theorem variants_append (group : Group) (node : Node) :
    (group.append node).variants = group.variants ++ [node] := rfl

@[simp] theorem variants_declare (group : Group) (said : Declaration) :
    (group.declare said).variants = group.variants := rfl

@[simp] theorem name_append (group : Group) (node : Node) :
    (group.append node).name = group.name := rfl

@[simp] theorem name_declare (group : Group) (said : Declaration) :
    (group.declare said).name = group.name := rfl

end Group

end Gamebook.Story
