import PackagePlan.Number.Digits
import PackagePlan.Yaml.Fault
import PackagePlan.Yaml.Token.Gap

/-! # Quoted scalars

Between single quotes only the quote itself is special, and is written twice.  Between double
quotes a backslash starts an escape: a letter for a character, `x`, `u` or `U` for a code
point of two, four or eight hexadecimal digits, or a line break that then counts nothing. -/

namespace PackagePlan.Yaml

/-- What the next character of a quoted scalar is read as. -/
inductive QuoteMode where
  | text
  | escape
  /-- One of `left + 1` digits of a code point, of which those before make up `value`. -/
  | digits (left value : Nat)

/-- The character that an escape of one letter stands for. -/
def letterEscape? : Char → Option Char
  | '0' => some '\x00'
  | 'a' => some '\x07'
  | 'b' => some '\x08'
  | 't' => some '\t'
  | '\t' => some '\t'
  | 'n' => some '\n'
  | 'v' => some '\x0b'
  | 'f' => some '\x0c'
  | 'r' => some '\r'
  | 'e' => some '\x1b'
  | ' ' => some ' '
  | '"' => some '"'
  | '/' => some '/'
  | '\\' => some '\\'
  | 'N' => some '\u0085'
  | '_' => some '\u00a0'
  | 'L' => some '\u2028'
  | 'P' => some '\u2029'
  | _ => none

/-- The number of digits, less one, after the letter of a code point escape. -/
def codeEscape? : Char → Option Nat
  | 'x' => some 1
  | 'u' => some 3
  | 'U' => some 7
  | _ => none

/-- The character with a code point, if there is one. -/
def charOfCode? (n : Nat) : Option Char :=
  if h : n.isValidChar then some (Char.ofNatAux n h) else none

/-- Reads on in a quoted scalar of which `text` is read already, newest character first, and
then the white space `gap`. -/
def quotedFrom (double : Bool) :
    QuoteMode → (text : List Char) → Gap → List Char → Mark → Except Fault ScalarEnd
  | _, _, _, [], m => .error ⟨.unclosedQuotes, m⟩
  | .digits left value, text, gap, c :: rest, m =>
    match Number.digitValue? 16 c with
    | none => .error ⟨.badEscapeDigits, m⟩
    | some digit =>
      match left with
      | left + 1 => quotedFrom double (.digits left (value * 16 + digit)) text gap rest (m.forward 1)
      | 0 =>
        match charOfCode? (value * 16 + digit) with
        | some d => quotedFrom double .text (d :: text) gap rest (m.forward 1)
        | none => .error ⟨.badEscapeValue, m⟩
  | .escape, text, _, '\r' :: '\n' :: rest, m =>
    quotedFrom double .text text .escapedBreak rest (m.nextLine 2)
  | .escape, text, gap, c :: rest, m =>
    if isBreak c then quotedFrom double .text text .escapedBreak rest (m.nextLine 1)
    else
      match letterEscape? c, codeEscape? c with
      | some d, _ => quotedFrom double .text (d :: text) gap rest (m.forward 1)
      | none, some left => quotedFrom double (.digits left 0) text gap rest (m.forward 1)
      | none, none => .error ⟨.unknownEscape, m⟩
  | .text, text, gap, '\r' :: '\n' :: rest, m =>
    quotedFrom double .text text (gap.addBreak '\n') rest (m.nextLine 2)
  | .text, text, gap, c :: rest, m =>
    if isBlankChar c then quotedFrom double .text text (gap.addBlank c) rest (m.forward 1)
    else if isBreak c then
      quotedFrom double .text text (gap.addBreak (breakText c)) rest (m.nextLine 1)
    else if m.column == 0 && atDocumentMarker (c :: rest) then .error ⟨.markerInQuotes, m⟩
    else
      let text := gap.folded ++ text
      if c == (if double then '"' else '\'') then
        match double, rest with
        | false, '\'' :: rest => quotedFrom double .text ('\'' :: text) .empty rest (m.forward 2)
        | _, _ => .ok ⟨String.ofList text.reverse, false, ⟨rest, m.forward 1⟩⟩
      else if double && c == '\\' then quotedFrom double .escape text .empty rest (m.forward 1)
      else quotedFrom double .text (c :: text) .empty rest (m.forward 1)

/-- Reads the quoted scalar whose opening quote stands at a cursor. -/
def Cursor.quoted (double : Bool) (cursor : Cursor) : Except Fault ScalarEnd :=
  quotedFrom double .text [] .empty (cursor.rest.drop 1) (cursor.mark.forward 1)

end PackagePlan.Yaml
