/-! # Places in a document

A `Cursor` is the part of a document still to be read together with its place (`Mark`):
characters read, line and column, all from zero.  The four line breaks of the format move a
cursor to the next line; a carriage return with a line feed after it is one break. -/

namespace PackagePlan.Yaml

/-- A place in a document. -/
structure Mark where
  index : Nat
  line : Nat
  column : Nat
deriving DecidableEq, Repr

namespace Mark

/-- The start of a document. -/
def start : Mark := ⟨0, 0, 0⟩

/-- The place `n` characters further on the same line. -/
def forward (m : Mark) (n : Nat) : Mark := ⟨m.index + n, m.line, m.column + n⟩

/-- The start of the next line, after a break of `n` characters. -/
def nextLine (m : Mark) (n : Nat) : Mark := ⟨m.index + n, m.line + 1, 0⟩

end Mark

/-! ### Character classes -/

/-- A space or a tab. -/
def isBlankChar (c : Char) : Bool := c == ' ' || c == '\t'

/-- Line feed, carriage return, next line, line separator or paragraph separator. -/
def isBreak (c : Char) : Bool :=
  c == '\n' || c == '\r' || c == '\u0085' || c == '\u2028' || c == '\u2029'

/-- The text goes on with a blank or a line break, or it ends. -/
def atBlankOrEnd : List Char → Bool
  | [] => true
  | c :: _ => isBlankChar c || isBreak c

/-- The characters of anchors, directive names and tag handles. -/
def isWordChar (c : Char) : Bool :=
  ('a' ≤ c && c ≤ 'z') || ('A' ≤ c && c ≤ 'Z') || ('0' ≤ c && c ≤ '9') || c == '-' || c == '_'

/-- The characters that a document may hold as they are. -/
def isDocumentChar (c : Char) : Bool :=
  let n := c.toNat
  n == 0x9 || n == 0xA || n == 0xD || (0x20 ≤ n && n ≤ 0x7E) || n == 0x85
    || (0xA0 ≤ n && n ≤ 0xD7FF) || (0xE000 ≤ n && n ≤ 0xFFFD) || 0x10000 ≤ n

/-- The text starts with `---` or `...` and a blank, a break or the end after it. -/
def atDocumentMarker : List Char → Bool
  | '-' :: '-' :: '-' :: rest => atBlankOrEnd rest
  | '.' :: '.' :: '.' :: rest => atBlankOrEnd rest
  | _ => false

/-- A line break as it counts in a scalar: the two separators stay, the others become a line
feed. -/
def breakText (c : Char) : Char := if c == '\u2028' || c == '\u2029' then c else '\n'

/-! ### Cursors -/

/-- The rest of a document and its place. -/
structure Cursor where
  rest : List Char
  mark : Mark

namespace Cursor

/-- Passes over `n` characters of the current line. -/
def skip (cursor : Cursor) (n : Nat) : Cursor := ⟨cursor.rest.drop n, cursor.mark.forward n⟩

/-- Takes the characters up to the first one that is not of a class, all of them on the
current line. -/
def span (cursor : Cursor) (p : Char → Bool) : List Char × Cursor :=
  let taken := cursor.rest.takeWhile p
  (taken, ⟨cursor.rest.drop taken.length, cursor.mark.forward taken.length⟩)

/-- Passes over the characters of a class. -/
def skipWhile (cursor : Cursor) (p : Char → Bool) : Cursor := (cursor.span p).2

/-- Passes over a line break if the cursor stands at one. -/
def skipBreak (cursor : Cursor) : Cursor :=
  match cursor.rest with
  | '\r' :: '\n' :: rest => ⟨rest, cursor.mark.nextLine 2⟩
  | c :: rest => if isBreak c then ⟨rest, cursor.mark.nextLine 1⟩ else cursor
  | [] => cursor

/-- The cursor stands at a line break or at the end. -/
def atLineEnd (cursor : Cursor) : Bool :=
  match cursor.rest with
  | [] => true
  | c :: _ => isBreak c

end Cursor

end PackagePlan.Yaml
