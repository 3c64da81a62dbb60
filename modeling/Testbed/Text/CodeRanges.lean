/-!
# Sets of code points, given as intervals

The character classes a name or a listing is judged by are properties of the
Unicode standard, and each of them is a union of intervals of code points: ten
for white space, several hundred for the characters that combine with the one
before them. A table of pairs is the whole of such a class. Both ends of a pair
belong to it, and the pairs ascend and do not touch, so the number of pairs is a
fact about the class rather than about how it was written down.
-/

namespace Testbed.Text

/-- Whether a character lies in one of the closed intervals. -/
def inRanges (ranges : List (Nat × Nat)) (c : Char) : Bool :=
  ranges.any fun r => r.1 ≤ c.toNat && c.toNat ≤ r.2

theorem inRanges_iff {ranges : List (Nat × Nat)} {c : Char} :
    inRanges ranges c = true ↔ ∃ r ∈ ranges, r.1 ≤ c.toNat ∧ c.toNat ≤ r.2 := by
  simp [inRanges]

end Testbed.Text
