import PackagePlan.Number.Binary64
import PackagePlan.Number.Digits
import PackagePlan.Number.Range

/-! # Values without quotes

Truth values, whole numbers in four bases, floating-point numbers, and moments: dates, times
of day, or both, with or without a distance from universal time. -/

namespace PackagePlan.Toml

/-- A value without quotes. -/
inductive Scalar where
  | boolean (value : Bool)
  | integer (value : Int)
  | real (value : Binary64)
  | moment (text : String)
deriving DecidableEq

/-! ### Numbers -/

/-- Digits with single underscores between them, without these. -/
def joinDigits? (isDigit : Char → Bool) : List Char → Option (List Char)
  | [] => none
  | [c] => if isDigit c then some [c] else none
  | c :: '_' :: rest => if isDigit c then (joinDigits? isDigit rest).map (c :: ·) else none
  | c :: rest => if isDigit c then (joinDigits? isDigit rest).map (c :: ·) else none

/-- The number that digits of a base with underscores spell. -/
def grouped? (base : Nat) (cs : List Char) : Option Nat :=
  (joinDigits? (fun c => (Number.digitValue? base c).isSome) cs).bind (Number.readDigits? base)

/-- A decimal whole number without a sign and without leading zeros. -/
def whole? (cs : List Char) : Option Nat :=
  match cs with
  | '0' :: _ :: _ => none
  | _ => grouped? 10 cs

/-- A sign, if there is one, and the rest. -/
def splitSign : List Char → Bool × List Char
  | '-' :: rest => (true, rest)
  | '+' :: rest => (false, rest)
  | cs => (false, cs)

/-- A whole number. -/
def integer? (cs : List Char) : Option Int :=
  match cs with
  | '0' :: 'x' :: rest => (grouped? 16 rest).map Int.ofNat
  | '0' :: 'o' :: rest => (grouped? 8 rest).map Int.ofNat
  | '0' :: 'b' :: rest => (grouped? 2 rest).map Int.ofNat
  | _ =>
    let (negative, digits) := splitSign cs
    (whole? digits).map fun n => if negative then -(n : Int) else n

/-- The exponent at the end of a floating-point number; `some none` when there is none. -/
def exponent? : List Char → Option (Option Int)
  | [] => some none
  | c :: rest =>
    if c == 'e' || c == 'E' then
      let (negative, digits) := splitSign rest
      (grouped? 10 digits).map fun n => some (if negative then -(n : Int) else n)
    else none

/-- A digit or an underscore. -/
def isDigitOrJoint (c : Char) : Bool := Number.isDigit c || c == '_'

/-- The fraction after a point, if there is one: its digits, and the rest. -/
def fraction? : List Char → Option (List Char × List Char)
  | '.' :: rest =>
    let digits := rest.takeWhile isDigitOrJoint
    (joinDigits? Number.isDigit digits).map (·, rest.drop digits.length)
  | cs => some ([], cs)

/-- A floating-point number in digits: it has a fraction or an exponent, and is not too
large. -/
def decimal? (negative : Bool) (cs : List Char) : Option Binary64 := do
  let whole := cs.takeWhile isDigitOrJoint
  let n ← whole? whole
  let (fraction, rest) ← fraction? (cs.drop whole.length)
  let exponent ← exponent? rest
  if fraction.isEmpty && exponent.isNone then none
  else
    let digits := fraction.foldl (fun n c => 10 * n + (c.toNat - 48)) n
    let value := Binary64.ofDecimal negative digits (exponent.getD 0 - fraction.length)
    if value.isFinite then some value else none

/-- A floating-point number. -/
def real? (cs : List Char) : Option Binary64 :=
  let (negative, digits) := splitSign cs
  if digits == ['i', 'n', 'f'] then some (.infinite negative)
  else if digits == ['n', 'a', 'n'] then some .nan
  else decimal? negative digits

/-! ### Moments -/

/-- A number of exactly `n` digits, and the rest. -/
def digits? (n : Nat) (cs : List Char) : Option (Nat × List Char) :=
  let digits := cs.take n
  if digits.length = n && digits.all Number.isDigit then
    (Number.readDigits? 10 digits).map (·, cs.drop n)
  else none

/-- A character that must come next. -/
def expect? (c : Char) : List Char → Option (List Char)
  | [] => none
  | d :: rest => if c = d then some rest else none

/-- A leap year. -/
def isLeapYear (year : Nat) : Bool := year % 4 = 0 && (year % 100 ≠ 0 || year % 400 = 0)

/-- The number of days of a month. -/
def daysOf (year month : Nat) : Nat :=
  if month = 2 then if isLeapYear year then 29 else 28
  else if month = 4 || month = 6 || month = 9 || month = 11 then 30
  else 31

/-- Passes over a date. -/
def date? (cs : List Char) : Option (List Char) := do
  let (year, cs) ← digits? 4 cs
  let cs ← expect? '-' cs
  let (month, cs) ← digits? 2 cs
  let cs ← expect? '-' cs
  let (day, cs) ← digits? 2 cs
  if 1 ≤ month && month ≤ 12 && 1 ≤ day && day ≤ daysOf year month then some cs else none

/-- Passes over the seconds of a time, if there are any. -/
def seconds? : List Char → Option (List Char)
  | ':' :: rest => do
    let (second, rest) ← digits? 2 rest
    if 60 < second then none
    else
      match rest with
      | '.' :: rest =>
        let fraction := rest.takeWhile Number.isDigit
        if fraction.isEmpty then none else some (rest.drop fraction.length)
      | _ => some rest
  | cs => some cs

/-- Passes over a time of day. -/
def time? (cs : List Char) : Option (List Char) := do
  let (hour, cs) ← digits? 2 cs
  let cs ← expect? ':' cs
  let (minute, cs) ← digits? 2 cs
  if hour ≤ 23 && minute ≤ 59 then seconds? cs else none

/-- Passes over the distance from universal time, if it is given. -/
def offset? : List Char → Option (List Char)
  | [] => some []
  | c :: rest =>
    if c == 'Z' || c == 'z' then some rest
    else if c == '+' || c == '-' then do
      let (hour, rest) ← digits? 2 rest
      let rest ← expect? ':' rest
      let (minute, rest) ← digits? 2 rest
      if hour ≤ 23 && minute ≤ 59 then some rest else none
    else none

/-- The text is a moment. -/
def isMoment (cs : List Char) : Bool :=
  match date? cs with
  | some [] => true
  | some (c :: rest) =>
    (c == 'T' || c == 't' || c == ' ') && (time? rest).bind offset? == some []
  | none => time? cs == some []

/-! ### Scalars -/

/-- The least and the greatest whole number that can be kept. -/
def inRange (n : Int) : Bool := decide (Number.Fits128 n)

/-- The value that a text without quotes spells. -/
def scalar? (cs : List Char) : Option Scalar :=
  if cs == ['t', 'r', 'u', 'e'] then some (.boolean true)
  else if cs == ['f', 'a', 'l', 's', 'e'] then some (.boolean false)
  else
    match integer? cs, real? cs with
    | some n, _ => if inRange n then some (.integer n) else none
    | none, some x => some (.real x)
    | none, none => if isMoment cs then some (.moment (String.ofList cs)) else none

/-- A character that ends a value without quotes. -/
def endsScalar (c : Char) : Bool :=
  c == ' ' || c == '\t' || c == '\n' || c == '\r' || c == ',' || c == ']' || c == '\x7d'
    || c == '#'

/-- The characters of a value without quotes, and the rest.  A date may have a time after a
space. -/
def takeScalar (cs : List Char) : List Char × List Char :=
  let word := cs.takeWhile (!endsScalar ·)
  match date? word, cs.drop word.length with
  | some [], ' ' :: c :: rest =>
    if Number.isDigit c then
      let time := (c :: rest).takeWhile (!endsScalar ·)
      (word ++ ' ' :: time, (c :: rest).drop time.length)
    else (word, ' ' :: c :: rest)
  | _, rest => (word, rest)

end PackagePlan.Toml
