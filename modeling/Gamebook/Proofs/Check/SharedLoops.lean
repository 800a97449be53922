import Gamebook.Check.Run

/-!
# One classification of the loops for all checks

Two checks need to know which loops can be left for an ending.  To find the loops takes long, so their
classes are kept in a cell.  It is empty at first, the first check that asks for the classes fills it, and
the checks after that read it.  A check that is switched off asks for nothing.

The cell holds nothing or the classes of the story, whatever checks have been made (`Sound`).  So it makes
no difference to the report that it is there (`runShared_eq`), and it is filled exactly when a check that
needs the classes is made.
-/

namespace Gamebook.Check

open Gamebook.Analysis Gamebook.Story

/-! ### Checks with a cell -/

/-- A cell for the classes of the loops. -/
abbrev LoopCell : Type := Option LoopClasses

/-- The classes in the cell, which is filled if it is empty. -/
def askLoops (graph : Graph) : StateM LoopCell LoopClasses := do
  match ← get with
  | some classes => return classes
  | none =>
    set (some (classifyLoops graph))
    return classifyLoops graph

/-- What is found in a story, with the loops taken from the cell. -/
def Probe.offendersShared (context : Context) : Probe → StateM LoopCell (List Offender)
  | .escapableLoops => do return (← askLoops context.graph).escapable.map .ofLoop
  | .inescapableLoops => do return (← askLoops context.graph).inescapable.map .ofLoop
  | probe => return probe.offenders context

/-- What a check finds and how it ends, with the loops taken from the cell. -/
def Entry.evaluateShared (context : Context) (entry : Entry) : StateM LoopCell Outcome := do
  let offenders ← match entry.severity with
    | .off => pure []
    | _ => entry.probe.offendersShared context
  return {
    name := entry.name
    label := entry.label
    severity := entry.severity
    status := statusOf (entry.flagged offenders) entry.severity
    offenders }

/-- The report of a list of checks that share the cell. -/
def runShared (context : Context) (entries : List Entry) : StateM LoopCell Report := do
  let outcomes ← entries.mapM (Entry.evaluateShared context)
  return .ofOutcomes context.graph.groupCount context.graph.nodeCount outcomes

/-! ### What is in the cell -/

/-- The cell is empty, or it holds the classes of the story. -/
def Sound (graph : Graph) (cell : LoopCell) : Prop := cell = none ∨ cell = some (classifyLoops graph)

/-- Whenever the cell is sound, this is the answer, and the cell is filled if the classes are asked for. -/
def Answers {α : Type} (graph : Graph) (action : StateM LoopCell α) (answer : α) (asks : Bool) : Prop :=
  ∀ cell, Sound graph cell →
    action.run cell = (answer, if asks then some (classifyLoops graph) else cell)

variable {graph : Graph} {context : Context} {α β : Type}

theorem Sound.fill {cell : LoopCell} (sound : Sound graph cell) (asks : Bool) :
    Sound graph (if asks then some (classifyLoops graph) else cell) := by
  cases asks with
  | false => exact sound
  | true => exact .inr rfl

theorem answers_pure (answer : α) : Answers graph (pure answer) answer false := fun _ _ => rfl

/-- **Actions that share the cell** answer as they do each for itself. -/
theorem Answers.bind {action : StateM LoopCell α} {next : α → StateM LoopCell β} {answer : α}
    {answer' : β} {asks asks' : Bool} (first : Answers graph action answer asks)
    (second : Answers graph (next answer) answer' asks') :
    Answers graph (action >>= next) answer' (asks || asks') := by
  intro cell sound
  rw [StateT.run_bind, first cell sound]
  show (next answer).run _ = _
  rw [second _ (sound.fill asks)]
  cases asks <;> cases asks' <;> rfl

theorem answers_askLoops (graph : Graph) : Answers graph (askLoops graph) (classifyLoops graph) true := by
  rintro cell (rfl | rfl) <;> rfl

/-- What is looked for has to do with loops. -/
def Probe.ofLoops : Probe → Bool
  | .escapableLoops => true
  | .inescapableLoops => true
  | _ => false

theorem answers_offendersShared (probe : Probe) :
    Answers context.graph (probe.offendersShared context) (probe.offenders context) probe.ofLoops := by
  cases probe with
  | escapableLoops => exact (answers_askLoops context.graph).bind (answers_pure _)
  | inescapableLoops => exact (answers_askLoops context.graph).bind (answers_pure _)
  | _ => exact answers_pure _

/-- The check is made and needs the classes. -/
def Entry.asks (entry : Entry) : Bool := entry.severity != .off && entry.probe.ofLoops

theorem answers_evaluateShared (entry : Entry) :
    Answers context.graph (entry.evaluateShared context) (entry.evaluate context) entry.asks := by
  unfold Entry.evaluateShared Entry.evaluate Entry.asks
  cases entry.severity with
  | off => exact (answers_pure []).bind (answers_pure _)
  | _ =>
    rw [← Bool.or_false (_ && _)]
    exact (answers_offendersShared entry.probe).bind (answers_pure _)

theorem answers_mapM (entries : List Entry) :
    Answers context.graph (entries.mapM (Entry.evaluateShared context))
      (entries.map (Entry.evaluate context)) (entries.any Entry.asks) := by
  induction entries with
  | nil => exact answers_pure []
  | cons entry entries ih =>
    rw [List.mapM_cons, List.any_cons, ← Bool.or_false (entries.any Entry.asks)]
    exact (answers_evaluateShared entry).bind (ih.bind (answers_pure _))

/-- **Sharing the cell does not change the report.**  Whatever checks were made before, the report is that
of the checks alone.  The cell holds the classes of the story afterwards if a check that needs them was
made, and otherwise what it held. -/
theorem runShared_eq (context : Context) (entries : List Entry) (cell : LoopCell)
    (sound : Sound context.graph cell) :
    (runShared context entries).run cell =
      (run context entries,
        if entries.any Entry.asks then some (classifyLoops context.graph) else cell) := by
  have answers : Answers context.graph (runShared context entries) (run context entries)
      (entries.any Entry.asks) := by
    rw [← Bool.or_false (entries.any Entry.asks)]
    exact (answers_mapM entries).bind (answers_pure _)
  exact answers cell sound

end Gamebook.Check
