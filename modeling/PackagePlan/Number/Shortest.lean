import PackagePlan.Number.Binary64

/-! # The shortest decimal of a double-precision number

A finite number is written with the fewest significant digits that still read back as it; of
two candidates with as many digits the nearer one is taken, and of two at the same distance
the larger.  The digits are always written out by position, never with an exponent, and
without a fraction where there is none.

The search works on whole numbers: everything is scaled by `2 ^ 1076 * 10 ^ 400`, which makes
the value, the ends of the interval that rounds to it, and all decimal grids that matter
whole. -/

namespace PackagePlan

/-- The number `digits * 10 ^ exponent`. -/
structure Decimal where
  digits : Nat
  exponent : Int
deriving DecidableEq, Repr

namespace Magnitude
variable (m : Magnitude)

/-- The scaled value. -/
def scaled : Nat := m.significand * power 2 (m.exponent + 1076).toNat * power 10 400

/-- The scaled distance to the upper end of the interval that rounds to the value. -/
def gapAbove : Nat := power 2 (m.exponent + 1075).toNat * power 10 400

/-- The scaled distance to the lower end; it is halved just above a power of two, where the
format is finer below. -/
def gapBelow : Nat :=
  if m.significand = leastFull ∧ -1074 < m.exponent then
    power 2 (m.exponent + 1074).toNat * power 10 400
  else m.gapAbove

/-- A scaled number that rounds to the value; the ends do when the significand is even. -/
def covers (x : Nat) : Bool :=
  if m.significand % 2 = 0 then m.scaled ≤ x + m.gapBelow && x ≤ m.scaled + m.gapAbove
  else m.scaled < x + m.gapBelow && x < m.scaled + m.gapAbove

/-- The number of decimal places before the point; not positive for a number below one tenth
or one, by as many as zeros follow the point. -/
def places : Int := (Nat.toDigits 10 (m.scaled / power 2 1076)).length - (400 : Int)

/-- The multiple of `10 ^ exponent` that rounds to the value and is nearest to it, the larger
one of two at the same distance. -/
def onGrid? (exponent : Int) : Option Nat :=
  let unit := power 10 (exponent + 400).toNat * power 2 1076
  let low := m.scaled / unit
  let high := low + 1
  match m.covers (low * unit), m.covers (high * unit) with
  | true, true => some (if m.scaled - low * unit < high * unit - m.scaled then low else high)
  | true, false => some low
  | false, true => some high
  | false, false => none

/-- The first grid with a hit among those for `count`, `count + 1`, … digits; `more` of them
are tried before the last, which always has one. -/
def searchDigits : (more count : Nat) → Decimal
  | 0, count =>
    let exponent := m.places - count
    ⟨m.scaled / (power 10 (exponent + 400).toNat * power 2 1076), exponent⟩
  | more + 1, count =>
    let exponent := m.places - count
    match m.onGrid? exponent with
    | some digits => ⟨digits, exponent⟩
    | none => searchDigits more (count + 1)

/-- The shortest decimal that reads back as the magnitude. -/
def shortest : Decimal :=
  if m.significand = 0 then ⟨0, 0⟩ else m.searchDigits 17 1

end Magnitude

namespace Decimal

/-- The fraction's digits without trailing zeros. -/
def trimZeros (cs : List Char) : List Char := (cs.reverse.dropWhile (· == '0')).reverse

/-- The decimal written by position. -/
def positional (d : Decimal) : List Char :=
  let digits := Nat.toDigits 10 d.digits
  let fraction := (-d.exponent).toNat
  let padded := List.replicate (fraction + 1 - digits.length) '0' ++ digits
    ++ List.replicate d.exponent.toNat '0'
  let whole := padded.take (padded.length - fraction)
  match trimZeros (padded.drop (padded.length - fraction)) with
  | [] => whole
  | part => whole ++ '.' :: part

/-- The decimal written with its digits as a whole number and an exponent. -/
def scientific (d : Decimal) : List Char :=
  Nat.toDigits 10 d.digits ++ 'e' :: (toString d.exponent).toList

end Decimal

namespace Binary64

/-- The text of a number: a minus sign where it is negative, zero included, then its shortest
decimal; `inf` and `NaN` for the others. -/
def text : Binary64 → List Char
  | nan => ['N', 'a', 'N']
  | infinite negative => (if negative then ['-'] else []) ++ ['i', 'n', 'f']
  | finite negative m => (if negative then ['-'] else []) ++ m.shortest.positional

end Binary64

end PackagePlan
