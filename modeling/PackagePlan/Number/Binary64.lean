/-! # Double-precision numbers

`Binary64` holds the numbers of the binary64 format: a finite number is a sign and a
`Magnitude`, a whole significand below `2^53` times a power of two, in the one form the format
has for it.  `Magnitude.nearest?` rounds a positive fraction to the format, a tie to the even
significand, and has no answer beyond the largest magnitude; `Binary64.ofDecimal` reads a
decimal with it. -/

namespace PackagePlan

/-- A power of a whole number. -/
abbrev power (base exponent : Nat) : Nat := Nat.pow base exponent

/-- The least significand that has all 53 bits. -/
abbrev leastFull : Nat := 0x10000000000000

/-- The significand is written with all its bits unless the exponent is the least one. -/
abbrev Canonical (significand : Nat) (exponent : Int) : Prop :=
  (leastFull ≤ significand ∨ exponent = -1074) ∧ significand < 2 * leastFull ∧
    -1074 ≤ exponent ∧ exponent ≤ 971

/-- The absolute value `significand * 2 ^ exponent` of a finite number of the format. -/
structure Magnitude where
  significand : Nat
  exponent : Int
  canonical : Canonical significand exponent
deriving DecidableEq

/-- A number of the binary64 format; all its NaNs count as one. -/
inductive Binary64 where
  | nan
  | infinite (negative : Bool)
  | finite (negative : Bool) (magnitude : Magnitude)
deriving DecidableEq

namespace Magnitude

/-- The magnitude of zero. -/
def zero : Magnitude := ⟨0, -1074, by decide⟩

/-- The whole number nearest to `num / den`, a tie going to the even one. -/
def roundEven (num den : Nat) : Nat :=
  let q := num / den
  let r := num % den
  if 2 * r < den then q else if den < 2 * r then q + 1 else q + q % 2

/-- The largest `k` with `2 ^ k ≤ num / den`, for positive `num` and `den`. -/
def floorLog2 (num den : Nat) : Int :=
  let k : Int := (num.log2 : Int) - (den.log2 : Int)
  if num * power 2 (-k).toNat < den * power 2 k.toNat then k - 1 else k

/-- The magnitude with this significand and exponent, if they have the canonical form. -/
def ofParts? (significand : Nat) (exponent : Int) : Option Magnitude :=
  if h : Canonical significand exponent then some ⟨significand, exponent, h⟩ else none

/-- The magnitude nearest to the positive fraction `num / den`, if it is not too large. -/
def nearest? (num den : Nat) : Option Magnitude :=
  let e := max (-1074) (floorLog2 num den - 52)
  let m := roundEven (num * power 2 (-e).toNat) (den * power 2 e.toNat)
  if m = 2 * leastFull then ofParts? leastFull (e + 1) else ofParts? m e

end Magnitude

namespace Binary64

/-- The number is neither infinite nor a NaN. -/
def isFinite : Binary64 → Bool
  | finite .. => true
  | _ => false

/-- The number nearest to `digits * 10 ^ exponent`, with a sign.  A value of more than 310
places before the point is beyond the format, one that starts after 330 zeros rounds to
zero. -/
def ofDecimal (negative : Bool) (digits : Nat) (exponent : Int) : Binary64 :=
  if digits = 0 then finite negative .zero
  else
    let places := (Nat.toDigits 10 digits).length + exponent
    if 310 < places then infinite negative
    else if places < -330 then finite negative .zero
    else
      match Magnitude.nearest? (digits * power 10 exponent.toNat) (power 10 (-exponent).toNat) with
      | some magnitude => finite negative magnitude
      | none => infinite negative

end Binary64

end PackagePlan
