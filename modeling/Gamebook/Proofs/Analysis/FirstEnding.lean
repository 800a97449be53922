import Gamebook.Proofs.Analysis.Escape

/-!
# Stopping at the first ending

Whether an ending can be reached from a group is decided by visiting all that can be come to and looking
for an ending there (`visitGroups`, `reachesEnding`).  One may also stop at the first ending that comes up.
The names are then tried one after the other, and each is gone into, with all that its choices lead to,
before the next one is tried.  The names visited on the way are shared, so that nothing is gone into a
second time (`seekEnding`).  Both give the same answer (`reachesEnding_eq`).

## Why the search can be followed

What is visited while a name is gone into is what the other search visits while that name and its choices
are on top of its stack.  So the stack may be cut anywhere: when the upper part has been searched without an
ending, the other search has come to the lower part, with the same names visited (`visitGroups_append`).
The search itself ends because it never forgets a name that it visited, and so the set is given back
together with the fact that nothing is missing in it.
-/

namespace Gamebook.Analysis

open Gamebook.Story

/-- Having visited more leaves no more to visit. -/
theorem unvisitedNames_le {graph : Graph} {visited after : List String} (more : visited ⊆ after) :
    unvisitedNames graph after ≤ unvisitedNames graph visited := by
  refine List.countP_mono_left fun name _ unvisited => ?_
  rw [decide_eq_true_eq] at unvisited ⊢
  exact fun old => unvisited (more old)

/-- Names tried in order until an ending comes up.  There is nothing to give back then; otherwise these are
the names that have been visited. -/
def seekEnding (graph : Graph) (visited : List String) :
    List String → Option { after : List String // visited ⊆ after }
  | [] => some ⟨visited, List.Subset.refl _⟩
  | name :: rest =>
    match _found : graph.find? name with
    | none => seekEnding graph visited rest
    | some group =>
      if group.isEnding then none
      else if _fresh : name ∈ visited then seekEnding graph visited rest
      else
        match seekEnding graph (name :: visited) group.targets with
        | none => none
        | some inner =>
          have more : visited ⊆ inner.1 := List.Subset.trans (List.subset_cons_self _ _) inner.2
          (seekEnding graph inner.1 rest).map fun after => ⟨after.1, List.Subset.trans more after.2⟩
termination_by names => (unvisitedNames graph visited, names.length)
decreasing_by
  · exact Prod.Lex.right _ (Nat.lt_succ_self _)
  · exact Prod.Lex.right _ (Nat.lt_succ_self _)
  · exact Prod.Lex.left _ _
      (unvisitedNames_lt (NameTable.mem_names_of_find?_eq_some _found) _fresh)
  · exact Prod.Lex.left _ _ (Nat.lt_of_le_of_lt (unvisitedNames_le inner.2)
      (unvisitedNames_lt (NameTable.mem_names_of_find?_eq_some _found) _fresh))

variable {graph : Graph} {visited names : List String}

/-! ### The two searches -/

/-- **A stack may be cut anywhere.**  When its upper part has been searched without an ending, what is left
to visit is its lower part. -/
theorem visitGroups_append {after : { after : List String // visited ⊆ after }}
    (searched : seekEnding graph visited names = some after) (below : List String) :
    visitGroups graph visited (names ++ below) = visitGroups graph after.1 below := by
  fun_induction seekEnding graph visited names generalizing below with
  | case1 visited =>
    obtain rfl := Option.some.inj searched
    rfl
  | case2 visited name rest missing ih =>
    rw [List.cons_append, visitGroups_of_missing _ missing]
    exact ih searched below
  | case3 visited name rest group found ends => cases searched
  | case4 visited name rest group found goesOn old ih =>
    rw [List.cons_append, visitGroups_of_visited _ old]
    exact ih searched below
  | case5 visited name rest group found goesOn fresh stopped ih => cases searched
  | case6 visited name rest group found goesOn fresh inner within more ih ih' =>
    obtain ⟨after, searched', rfl⟩ := Option.map_eq_some_iff.1 searched
    calc visitGroups graph visited (name :: rest ++ below)
        = visitGroups graph (name :: visited) (group.targets ++ (rest ++ below)) :=
          visitGroups_of_goesOn _ found fresh goesOn
      _ = visitGroups graph inner.1 (rest ++ below) := ih within (rest ++ below)
      _ = visitGroups graph after.1 below := ih' searched' below

/-- What is given back holds no ending. -/
theorem not_isEnding_of_seekEnding {after : { after : List String // visited ⊆ after }}
    (searched : seekEnding graph visited names = some after)
    (before : ∀ name ∈ visited, graph.isEnding name = false) :
    ∀ name ∈ after.1, graph.isEnding name = false := by
  fun_induction seekEnding graph visited names with
  | case1 visited =>
    obtain rfl := Option.some.inj searched
    exact before
  | case2 visited name rest missing ih => exact ih searched before
  | case3 visited name rest group found ends => cases searched
  | case4 visited name rest group found goesOn old ih => exact ih searched before
  | case5 visited name rest group found goesOn fresh stopped ih => cases searched
  | case6 visited name rest group found goesOn fresh inner within more ih ih' =>
    obtain ⟨after, searched', rfl⟩ := Option.map_eq_some_iff.1 searched
    refine ih' searched' (ih within (List.forall_mem_cons.2 ⟨?_, before⟩))
    rw [Graph.isEnding_of_find? found]
    exact Bool.eq_false_iff.2 goesOn

/-- **Where the search stops there is an ending**, and the other search visits it. -/
theorem exists_ending_of_seekEnding (stopped : seekEnding graph visited names = none)
    (below : List String) :
    ∃ ending ∈ visitGroups graph visited (names ++ below), graph.isEnding ending = true := by
  fun_induction seekEnding graph visited names generalizing below with
  | case1 visited => cases stopped
  | case2 visited name rest missing ih =>
    rw [List.cons_append, visitGroups_of_missing _ missing]
    exact ih stopped below
  | case3 visited name rest group found ends =>
    refine ⟨name, ?_, (Graph.isEnding_of_find? found).trans ends⟩
    exact mem_visitGroups_of_mem_stack (Graph.contains_of_find? found) List.mem_cons_self
  | case4 visited name rest group found goesOn old ih =>
    rw [List.cons_append, visitGroups_of_visited _ old]
    exact ih stopped below
  | case5 visited name rest group found goesOn fresh within ih =>
    rw [List.cons_append, visitGroups_of_goesOn _ found fresh goesOn]
    exact ih within (rest ++ below)
  | case6 visited name rest group found goesOn fresh inner within more ih ih' =>
    rw [List.cons_append, visitGroups_of_goesOn _ found fresh goesOn, visitGroups_append within]
    exact ih' (Option.map_eq_none_iff.1 stopped) below

/-- **An ending can be reached exactly when the search stops at one.** -/
theorem reachesEnding_eq (graph : Graph) (name : String) :
    reachesEnding graph name = (seekEnding graph [] [name]).isNone := by
  rw [reachesEnding]
  cases searched : seekEnding graph [] [name] with
  | none => exact List.any_eq_true.2 (exists_ending_of_seekEnding searched [])
  | some after =>
    have visits : visitGroups graph [] [name] = after.1 := by
      have rest := visitGroups_append searched []
      rwa [List.append_nil, visitGroups] at rest
    rw [visits]
    refine List.any_eq_false.2 fun other member => Bool.eq_false_iff.1 ?_
    exact not_isEnding_of_seekEnding searched (fun _ none => absurd none List.not_mem_nil) other member

/-- A loop can be left exactly when the search stops at an ending for one of its variants. -/
theorem canEscape_eq (graph : Graph) (found : Loop) :
    found.canEscape graph = found.nodes.any fun node => (seekEnding graph [] [node.group]).isNone := by
  rw [Loop.canEscape]
  simp only [reachesEnding_eq]

end Gamebook.Analysis
