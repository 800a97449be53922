/-!
# Counting what is left

The searches of this library end because every round leaves less to do: a round goes to something of
the story it had not been to.  Counting the things not yet visited gives the measure, and the one fact
it needs is that marking one more of them as visited makes the count smaller.
-/

namespace Gamebook.Analysis

/-- A condition that holds of fewer things, and not of one that the other condition holds of, is met
less often. -/
theorem countP_lt_of_imp {α : Type} {p q : α → Bool} (imp : ∀ a, p a = true → q a = true) :
    ∀ {l : List α} {a : α}, a ∈ l → p a = false → q a = true → l.countP p < l.countP q
  | b :: l, a, member, hp, hq => by
    rw [List.countP_cons, List.countP_cons]
    have mono : l.countP p ≤ l.countP q := List.countP_mono_left fun c _ => imp c
    rcases List.mem_cons.1 member with rfl | member
    · simp only [hp, hq]
      simp
      omega
    · have less := countP_lt_of_imp imp member hp hq
      have head : (if p b = true then 1 else 0) ≤ (if q b = true then 1 else 0) := by
        by_cases h : p b = true
        · simp [h, imp b h]
        · simp [h]
      omega

end Gamebook.Analysis
