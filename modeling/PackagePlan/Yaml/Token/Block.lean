import PackagePlan.Number.Digits
import PackagePlan.Yaml.Fault
import PackagePlan.Yaml.Token.Gap

/-! # Block scalars

A block scalar is a run of lines indented deeper than the collection around it.  The literal
style keeps the line breaks; the folded style turns a single break between two lines that
start with no blank into a space and drops the first of several.  An indicator on the first
line says how deep the lines are indented, which else the first line that is not empty shows,
and whether the breaks at the end are dropped, cut to one or kept. -/

namespace PackagePlan.Yaml

/-- What becomes of the line breaks at the end of a block scalar. -/
inductive Chomping where
  | strip
  | clip
  | keep
deriving DecidableEq

/-- A block scalar being read; lists hold the newest character first. -/
structure BlockLines where
  /-- The column of the lines, zero while it is not known. -/
  indent : Nat
  /-- The deepest indentation of the empty lines before the first other line. -/
  widest : Nat
  inLine : Bool
  text : List Char
  /-- The break at the end of the last line with text. -/
  lineBreak : Option Char
  /-- The breaks of the empty lines after it. -/
  emptyLines : List Char
  /-- The last line with text starts with a blank. -/
  startsBlank : Bool

namespace BlockLines

/-- Before the first line. -/
def start (indent : Nat) : BlockLines := ⟨indent, 0, false, [], none, [], false⟩

/-- The line at column `column` ends with the break `c`. -/
def endLine (b : BlockLines) (column : Nat) (c : Char) : BlockLines :=
  if b.inLine then { b with inLine := false, lineBreak := some c }
  else { b with widest := max b.widest column, emptyLines := c :: b.emptyLines }

/-- The indentation once a line that is not empty is met at column `column`. -/
def settle (b : BlockLines) (parent : Int) (column : Nat) : BlockLines :=
  if b.indent = 0 then
    { b with indent := max (max b.widest column) (max (parent + 1) 1).toNat }
  else b

/-- The line breaks between the last line with text and a line that starts with `c`. -/
def joinLines (b : BlockLines) (literal : Bool) (c : Char) : List Char :=
  let fold := !literal && !b.startsBlank && !isBlankChar c
  b.emptyLines ++
    match b.lineBreak with
    | some '\n' => if fold then (if b.emptyLines.isEmpty then [' '] else []) else ['\n']
    | some d => [d]
    | none => []

/-- A line with text starts with `c`. -/
def startLine (b : BlockLines) (literal : Bool) (c : Char) : BlockLines :=
  { b with
    inLine := true
    text := c :: (b.joinLines literal c ++ b.text)
    lineBreak := none
    emptyLines := []
    startsBlank := isBlankChar c }

/-- The text of the scalar. -/
def finish (b : BlockLines) (chomping : Chomping) : String :=
  let last := b.lineBreak.toList
  let tail :=
    match chomping with
    | .strip => []
    | .clip => last
    | .keep => b.emptyLines ++ last
  String.ofList (tail ++ b.text).reverse

end BlockLines

/-- Reads the lines of a block scalar inside a collection indented to column `parent`. -/
def blockFrom (literal : Bool) (parent : Int) :
    BlockLines → List Char → Mark → Except Fault (BlockLines × Cursor)
  | b, [], m => .ok (b, ⟨[], m⟩)
  | b, '\r' :: '\n' :: rest, m =>
    blockFrom literal parent (b.endLine m.column '\n') rest (m.nextLine 2)
  | b, c :: rest, m =>
    if isBreak c then
      blockFrom literal parent (b.endLine m.column (breakText c)) rest (m.nextLine 1)
    else if b.inLine then
      blockFrom literal parent { b with text := c :: b.text } rest (m.forward 1)
    else if (b.indent == 0 || m.column < b.indent) && c == ' ' then
      blockFrom literal parent b rest (m.forward 1)
    else if (b.indent == 0 || m.column < b.indent) && c == '\t' then
      .error ⟨.tabInIndentation, m⟩
    else
      let b := b.settle parent m.column
      if m.column == b.indent then
        blockFrom literal parent (b.startLine literal c) rest (m.forward 1)
      else .ok (b, ⟨c :: rest, m⟩)

/-- What the indicators after `|` or `>` say. -/
structure BlockHeader where
  chomping : Chomping
  /-- The indentation relative to the collection around, zero where none is given. -/
  increment : Nat
  length : Nat

/-- The chomping that an indicator asks for. -/
def chomping? : Char → Option Chomping
  | '+' => some .keep
  | '-' => some .strip
  | _ => none

/-- Reads the indicators at the head of a text, in either order. -/
def BlockHeader.read (cs : List Char) : BlockHeader :=
  let digit (c : Char) : Option Nat := if Number.isDigit c then some (c.toNat - 48) else none
  match cs with
  | [] => ⟨.clip, 0, 0⟩
  | c :: rest =>
    match chomping? c, digit c with
    | some chomping, _ =>
      match rest.head?.bind digit with
      | some n => ⟨chomping, n, 2⟩
      | none => ⟨chomping, 0, 1⟩
    | none, some n =>
      match rest.head?.bind chomping? with
      | some chomping => ⟨chomping, n, 2⟩
      | none => ⟨.clip, n, 1⟩
    | none, none => ⟨.clip, 0, 0⟩

/-- An indentation indicator that is zero stands at the head of a text. -/
def zeroIndent : List Char → Bool
  | '0' :: _ => true
  | '+' :: '0' :: _ => true
  | '-' :: '0' :: _ => true
  | _ => false

/-- Reads the block scalar whose indicator stands at a cursor. -/
def Cursor.block (literal : Bool) (parent : Int) (cursor : Cursor) : Except Fault ScalarEnd :=
  let inner := cursor.skip 1
  if zeroIndent inner.rest then .error ⟨.zeroIndentation, inner.mark⟩
  else
    let header := BlockHeader.read inner.rest
    let line := (inner.skip header.length).skipWhile isBlankChar
    let line := if line.rest.head? == some '#' then line.skipWhile (!isBreak ·) else line
    if !line.atLineEnd then .error ⟨.badBlockHeader, line.mark⟩
    else
      let indent := if header.increment = 0 then 0 else (max parent 0).toNat + header.increment
      let body := line.skipBreak
      match blockFrom literal parent (.start indent) body.rest body.mark with
      | .error fault => .error fault
      | .ok (lines, cursor) => .ok ⟨lines.finish header.chomping, true, cursor⟩

end PackagePlan.Yaml
