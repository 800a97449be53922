import Gamebook.Proofs.Check.Acceptance
import Gamebook.Proofs.Marker.Lines

/-!
# Stories that say nothing of style

Most checks of a story look at its groups, and the others at its style: at what is declared in the metadata
and at the markers in the prose.  A passage that declares nothing and has no slash in it gives these
nothing to look at (`IsPlain`).  So whether a story of such passages is accepted is a matter of its
groups, and any rules of style may be used to find out (`accepted_of_plain`).

The passages have to be short as well.  A long one overuses the markers that it does not have as soon as
the limit of their use is below zero.
-/

namespace Gamebook.Marker

open Gamebook.Story (Concern)

/-- **Prose without a slash has no markers.** -/
theorem occurrences_eq_nil_of_notMem (rules : Rules) (concern : Concern) {s : List Char}
    (bare : '/' ∉ s) : rules.occurrences concern s = [] := by
  unfold Rules.occurrences
  induction s with
  | nil => rfl
  | cons c rest ih =>
    rw [List.mem_cons, not_or] at bare
    obtain ⟨other, more⟩ := bare
    have none : rules.occurrence? concern (c :: rest) = none := by
      by_contra found
      obtain ⟨marker, found⟩ := Option.ne_none_iff_exists'.1 found
      exact other (Option.some.inj (head?_of_occurrence? found)).symm
    unfold occurrencesFrom
    rw [none]
    exact ih more

end Gamebook.Marker

namespace Gamebook.Check

open Gamebook.Analysis Gamebook.Marker Gamebook.Story
open Gamebook.Text (proseLines)

/-- The passage declares no style, has no slash in its prose, and is not long enough to overuse anything. -/
structure IsPlain (rules : Rules) (node : Node) : Prop where
  undeclared : ∀ concern, node.style.declared? concern = none
  unmarked : '/' ∉ node.text.toList
  short : (proseLines node.text).length ≤ rules.thresholds.minLines

/-- What is looked for is a matter of style. -/
def Probe.ofStyle : Probe → Bool
  | .metadata _ => true
  | .markers _ => true
  | .overuse _ => true
  | _ => false

variable {graph : Graph} {rules rules' : Rules} {deviation deviation' : Float}

theorem IsPlain.linesValid {node : Node} (plain : IsPlain rules node) (concern : Concern) :
    rules.linesValid concern node.text = true := by
  refine List.all_eq_true.2 fun line member => ?_
  have bare : '/' ∉ line := by
    intro slash
    obtain ⟨whole, between, rfl⟩ := List.mem_map.1 (List.mem_filter.1 member).1
    exact plain.unmarked (Text.subset_of_mem_lines between (Text.trimmed_subset _ slash))
  rw [Rules.lineValid, occurrences_eq_nil_of_notMem rules concern bare]
  rfl

theorem IsPlain.overuses_eq_false {node : Node} (plain : IsPlain rules node) (concern : Concern) :
    rules.overuses concern node.text = false := by
  unfold Rules.overuses
  cases rules.limit? concern with
  | none => rfl
  | some limit =>
    have short := plain.short
    have few : ¬ rules.thresholds.minLines < (proseLines node.text).length := by omega
    simp [few]

/-- **The checks of style find nothing** in plain passages. -/
theorem offenders_eq_nil_of_ofStyle (plain : ∀ node ∈ graph.nodes, IsPlain rules node) {probe : Probe}
    (style : probe.ofStyle = true) : probe.offenders ⟨graph, rules, deviation⟩ = [] := by
  cases probe with
  | metadata concern =>
    refine List.map_eq_nil_iff.2 (List.filter_eq_nil_iff.2 fun node member => ?_)
    rw [(plain node member).undeclared concern]
    exact Bool.false_ne_true
  | markers concern =>
    refine List.map_eq_nil_iff.2 (List.filter_eq_nil_iff.2 fun node member => ?_)
    rw [(plain node member).linesValid concern]
    decide
  | overuse concern =>
    refine List.map_eq_nil_iff.2 (List.filter_eq_nil_iff.2 fun node member => ?_)
    rw [(plain node member).overuses_eq_false concern]
    decide
  | _ => cases style

/-- The other checks that can reject a story do not depend on its rules. -/
theorem offenders_eq_of_not_ofStyle {probe : Probe} (other : probe.ofStyle = false)
    (rigid : probe ≠ .abnormalPlaythroughs) :
    probe.offenders ⟨graph, rules, deviation⟩ = probe.offenders ⟨graph, rules', deviation'⟩ := by
  cases probe with
  | metadata concern => cases other
  | markers concern => cases other
  | overuse concern => cases other
  | abnormalPlaythroughs => exact absurd rfl rigid
  | _ => rfl

/-- **A story that says nothing of style is accepted under any rules** if it is under some. -/
theorem accepted_of_plain (plain : ∀ node ∈ graph.nodes, IsPlain rules node)
    (accepted : (run ⟨graph, rules', deviation'⟩ catalogue).accepted = true) :
    (run ⟨graph, rules, deviation⟩ catalogue).accepted = true := by
  have styled : ∀ entry ∈ catalogue, entry.probe.ofStyle = true → entry.flaggedByNone = false := by
    decide
  have noted : ∀ entry ∈ catalogue, entry.severity = .required →
      entry.probe ≠ .abnormalPlaythroughs := by decide
  refine accepted_run_iff.2 fun entry member required => ?_
  have unflagged := accepted_run_iff.1 accepted entry member required
  cases style : entry.probe.ofStyle with
  | true =>
    rw [Entry.flagged, offenders_eq_nil_of_ofStyle plain style, styled entry member style]
    rfl
  | false =>
    rw [offenders_eq_of_not_ofStyle style (noted entry member required)]
    exact unflagged

end Gamebook.Check
