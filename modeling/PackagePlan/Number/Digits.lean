/-! # Digits

Reading whole numbers written in a base up to sixteen (`readDigits?`) and, with an optional
sign and the prefixes `0x`, `0o` and `0b`, as documents write them (`readInteger?`). -/

namespace PackagePlan.Number

/-- The value of a digit in a base; letters count from ten in either case. -/
def digitValue? (base : Nat) (c : Char) : Option Nat :=
  let n := c.toNat
  let value :=
    if 48 ≤ n && n ≤ 57 then n - 48
    else if 97 ≤ n && n ≤ 102 then n - 87
    else if 65 ≤ n && n ≤ 70 then n - 55
    else 16
  if value < base then some value else none

/-- The character is one of the ten decimal digits. -/
def isDigit (c : Char) : Bool := '0' ≤ c && c ≤ '9'

/-- Reads digits to the right of a number that has the value `value`. -/
def readDigitsFrom? (base : Nat) : (value : Nat) → List Char → Option Nat
  | value, [] => some value
  | value, c :: rest =>
    match digitValue? base c with
    | some digit => readDigitsFrom? base (value * base + digit) rest
    | none => none

/-- The number that one or more digits spell. -/
def readDigits? (base : Nat) (cs : List Char) : Option Nat :=
  if cs.isEmpty then none else readDigitsFrom? base 0 cs

/-- A whole number without sign: hexadecimal, octal or binary after its marker, or decimal
without leading zeros. -/
def readUnsigned? : List Char → Option Nat
  | '0' :: 'x' :: rest => readDigits? 16 rest
  | '0' :: 'o' :: rest => readDigits? 8 rest
  | '0' :: 'b' :: rest => readDigits? 2 rest
  | '0' :: _ :: _ => none
  | cs => readDigits? 10 cs

/-- A whole number with an optional sign. -/
def readInteger? : List Char → Option Int
  | '-' :: rest => (readUnsigned? rest).map fun n => -(n : Int)
  | '+' :: rest => (readUnsigned? rest).map Int.ofNat
  | cs => (readUnsigned? cs).map Int.ofNat

end PackagePlan.Number
