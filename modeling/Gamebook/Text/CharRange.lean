/-!
# Characters by range

A property of characters is a list of closed ranges of code points.  The tables of this folder are
such lists, one per property; what a table says is only ever asked through `inRanges`, so that a
statement about a property is a statement about membership in a list.
-/

namespace Gamebook.Text

/-- The character lies in one of the closed ranges. -/
def inRanges (ranges : List (Nat × Nat)) (c : Char) : Bool :=
  ranges.any fun range => range.1 ≤ c.toNat && c.toNat ≤ range.2

@[simp] theorem inRanges_nil (c : Char) : inRanges [] c = false := rfl

@[simp] theorem inRanges_cons (range : Nat × Nat) (ranges : List (Nat × Nat)) (c : Char) :
    inRanges (range :: ranges) c
      = ((range.1 ≤ c.toNat && c.toNat ≤ range.2) || inRanges ranges c) := rfl

end Gamebook.Text
