/-!
# Sets of characters given by ranges

A property of characters that a standard fixes by a table is kept here as the list of its ranges of
code points. `CharRanges.Mem` says what such a list means and `CharRanges.covers` decides it.
-/

namespace CommitLint.Text

/-- Closed ranges of code points. -/
abbrev CharRanges := List (Nat × Nat)

/-- A character belongs to the ranges when its code point lies within one of them. -/
def CharRanges.Mem (ranges : CharRanges) (c : Char) : Prop :=
  ∃ r ∈ ranges, r.1 ≤ c.toNat ∧ c.toNat ≤ r.2

/-- Whether a character belongs to the ranges. -/
def CharRanges.covers (ranges : CharRanges) (c : Char) : Bool :=
  ranges.any fun r => decide (r.1 ≤ c.toNat) && decide (c.toNat ≤ r.2)

theorem CharRanges.covers_iff (ranges : CharRanges) (c : Char) :
    ranges.covers c = true ↔ ranges.Mem c := by
  simp [CharRanges.covers, CharRanges.Mem]

end CommitLint.Text
