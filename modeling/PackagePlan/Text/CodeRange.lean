/-! # Ranges of code points

Classes of characters that a standard lists are kept as ascending lists of ranges, both ends
included; `inRanges` asks whether a character falls into one of them. -/

namespace PackagePlan.Text

/-- Ascending ranges of code points, both ends included. -/
abbrev CodeRanges := List (Nat × Nat)

/-- The character lies in one of the ranges. -/
def inRanges (ranges : CodeRanges) (c : Char) : Bool :=
  ranges.any fun r => r.1 ≤ c.toNat && c.toNat ≤ r.2

end PackagePlan.Text
