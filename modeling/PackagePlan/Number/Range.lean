/-! # Ranges of whole numbers

The whole numbers that fit in a number of bits, with a sign or without. -/

namespace PackagePlan.Number

/-- 64 bits with a sign. -/
abbrev FitsInt64 (n : Int) : Prop := -0x8000000000000000 ≤ n ∧ n < 0x8000000000000000

/-- 64 bits, with a sign or without. -/
abbrev Fits64 (n : Int) : Prop := -0x8000000000000000 ≤ n ∧ n < 0x10000000000000000

/-- 128 bits, with a sign or without. -/
abbrev Fits128 (n : Int) : Prop :=
  -0x80000000000000000000000000000000 ≤ n ∧ n < 0x100000000000000000000000000000000

/-- 32 bits without a sign. -/
abbrev FitsUInt32 (n : Int) : Prop := 0 ≤ n ∧ n < 0x100000000

end PackagePlan.Number
