import PackagePlan.Yaml.Token
import PackagePlan.Yaml.Token.Property

/-! # Directives

A line before a document may state the version of the format (`%YAML 1.2`) or declare a tag
handle (`%TAG !e! tag:example,2000:`). -/

namespace PackagePlan.Yaml

/-- Reads a version number of at most nine digits. -/
def Cursor.versionNumber (cursor : Cursor) : Except Fault (Nat × Cursor) :=
  let (digits, after) := cursor.span Number.isDigit
  match Number.readDigits? 10 digits with
  | some n => if digits.length ≤ 9 then .ok (n, after) else .error ⟨.badDirective, after.mark⟩
  | none => .error ⟨.badDirective, after.mark⟩

/-- Reads the two numbers of a version, with a point between them. -/
def Cursor.version (cursor : Cursor) : Except Fault (Token × Cursor) :=
  match cursor.versionNumber with
  | .error fault => .error fault
  | .ok (major, after) =>
    if after.rest.head? != some '.' then .error ⟨.badDirective, after.mark⟩
    else
      match (after.skip 1).versionNumber with
      | .error fault => .error fault
      | .ok (minor, last) => .ok (.versionDirective major minor, last)

/-- Reads a tag handle: an exclamation mark, alone or at both ends of a word. -/
def Cursor.handle (cursor : Cursor) : Except Fault (String × Cursor) :=
  match cursor.rest with
  | '!' :: _ =>
    let (word, after) := (cursor.skip 1).span isWordChar
    match after.rest, word with
    | '!' :: _, _ => .ok (String.ofList ('!' :: word ++ ['!']), after.skip 1)
    | _, [] => .ok ("!", after)
    | _, _ => .error ⟨.badDirective, after.mark⟩
  | _ => .error ⟨.badDirective, cursor.mark⟩

/-- Reads a tag handle and what it stands for. -/
def Cursor.handleDeclaration (cursor : Cursor) : Except Fault (Token × Cursor) :=
  match cursor.handle with
  | .error fault => .error fault
  | .ok (handle, after) =>
    if !after.rest.head?.any isBlankChar then .error ⟨.badDirective, after.mark⟩
    else
      match (after.skipWhile isBlankChar).tagChars true with
      | .error fault => .error fault
      | .ok (expansion, last) =>
        if expansion.isEmpty || !atBlankOrEnd last.rest then .error ⟨.badDirective, last.mark⟩
        else .ok (.tagDirective handle (String.ofList expansion), last)

/-- Reads the directive whose percent sign stands at a cursor, to the end of its line. -/
def Cursor.directive (cursor : Cursor) : Except Fault (Token × Cursor) :=
  let (name, after) := (cursor.skip 1).span isWordChar
  if name.isEmpty || !atBlankOrEnd after.rest then .error ⟨.badDirective, after.mark⟩
  else
    let body := after.skipWhile isBlankChar
    let content :=
      if name == ['Y', 'A', 'M', 'L'] then body.version
      else if name == ['T', 'A', 'G'] then body.handleDeclaration
      else .error ⟨.badDirective, cursor.mark⟩
    match content with
    | .error fault => .error fault
    | .ok (token, last) =>
      let line := last.skipWhile isBlankChar
      let line := if line.rest.head? == some '#' then line.skipWhile (!isBreak ·) else line
      if line.atLineEnd then .ok (token, line.skipBreak) else .error ⟨.badDirective, line.mark⟩

end PackagePlan.Yaml
