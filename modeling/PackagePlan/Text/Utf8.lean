/-! # Reading UTF-8

`Utf8.decode` reads bytes as text and refuses ill-formed input at its first fault: either a
sequence that no continuation can mend, with the number of bytes that already show this, or a
sequence cut off by the end of the input. -/

namespace PackagePlan.Text.Utf8

/-- The first fault of a byte sequence that is not UTF-8. -/
inductive Fault where
  /-- The bytes from `index` on start no character; `length` of them show it. -/
  | invalid (index length : Nat)
  /-- The input ends inside the character that starts at `index`. -/
  | incomplete (index : Nat)
deriving DecidableEq, Repr

/-- The wording of a fault. -/
def Fault.message : Fault → String
  | .invalid index length =>
    s!"invalid utf-8 sequence of {length} bytes from index {index}"
  | .incomplete index => s!"incomplete utf-8 byte sequence from index {index}"

/-- A continuation byte. -/
def isTail (b : UInt8) : Bool := 0x80 ≤ b && b ≤ 0xBF

/-- The second byte that may follow the first byte of a three-byte character. -/
def second3 (a b : UInt8) : Bool :=
  if a == 0xE0 then 0xA0 ≤ b && b ≤ 0xBF
  else if a == 0xED then 0x80 ≤ b && b ≤ 0x9F
  else isTail b

/-- The second byte that may follow the first byte of a four-byte character. -/
def second4 (a b : UInt8) : Bool :=
  if a == 0xF0 then 0x90 ≤ b && b ≤ 0xBF
  else if a == 0xF4 then 0x80 ≤ b && b ≤ 0x8F
  else isTail b

/-- The payload of a continuation byte added to the bits read so far. -/
def push (bits : Nat) (b : UInt8) : Nat := bits * 64 + b.toNat % 64

/-- Reads the bytes that start at `index`, putting the characters in front of `done`, newest
first. -/
def decodeFrom : (index : Nat) → (done : List Char) → List UInt8 → Except Fault (List Char)
  | _, done, [] => .ok done.reverse
  | i, done, a :: rest =>
    if a < 0x80 then decodeFrom (i + 1) (Char.ofNat a.toNat :: done) rest
    else if 0xC2 ≤ a && a ≤ 0xDF then
      match rest with
      | [] => .error (.incomplete i)
      | b :: rest =>
        if isTail b then
          decodeFrom (i + 2) (Char.ofNat (push (a.toNat % 32) b) :: done) rest
        else .error (.invalid i 1)
    else if 0xE0 ≤ a && a ≤ 0xEF then
      match rest with
      | [] => .error (.incomplete i)
      | b :: rest =>
        if second3 a b then
          match rest with
          | [] => .error (.incomplete i)
          | c :: rest =>
            if isTail c then
              decodeFrom (i + 3) (Char.ofNat (push (push (a.toNat % 16) b) c) :: done) rest
            else .error (.invalid i 2)
        else .error (.invalid i 1)
    else if 0xF0 ≤ a && a ≤ 0xF4 then
      match rest with
      | [] => .error (.incomplete i)
      | b :: rest =>
        if second4 a b then
          match rest with
          | [] => .error (.incomplete i)
          | c :: rest =>
            if isTail c then
              match rest with
              | [] => .error (.incomplete i)
              | d :: rest =>
                if isTail d then
                  decodeFrom (i + 4)
                    (Char.ofNat (push (push (push (a.toNat % 8) b) c) d) :: done) rest
                else .error (.invalid i 3)
            else .error (.invalid i 2)
        else .error (.invalid i 1)
    else .error (.invalid i 1)

/-- The text that the bytes spell in UTF-8, or the first fault. -/
def decode (bytes : List UInt8) : Except Fault String :=
  (decodeFrom 0 [] bytes).map String.ofList

end PackagePlan.Text.Utf8
