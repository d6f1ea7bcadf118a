import PackagePlan.Number.Digits
import PackagePlan.Yaml.Fault

/-! # Anchors, aliases and tags

A node may carry an anchor (`&name`), be an alias of an anchored one (`*name`), and carry a
tag: verbatim (`!<…>`), with a handle (`!handle!suffix`), or local (`!suffix`). -/

namespace PackagePlan.Yaml

/-! ### Anchors -/

/-- An anchor or alias may be followed by this. -/
def endsAnchor : List Char → Bool
  | [] => true
  | c :: rest => atBlankOrEnd (c :: rest) || "?:,]\x7d%@`".toList.contains c

/-- Reads the name after the anchor or alias indicator at a cursor. -/
def Cursor.anchorName (cursor : Cursor) : Except Fault (String × Cursor) :=
  let (name, after) := (cursor.skip 1).span isWordChar
  if name.isEmpty || !endsAnchor after.rest then .error ⟨.badAnchor, after.mark⟩
  else .ok (String.ofList name, after)

/-! ### Tags -/

/-- A character of a tag; the last three only in a verbatim one. -/
def isTagChar (verbatim : Bool) (c : Char) : Bool :=
  isWordChar c || ";/?:@&=+$.!~*'()".toList.contains c
    || (verbatim && (c == ',' || c == '[' || c == ']'))

/-- The number of bytes after the first byte of a character, and the bits of the first byte;
nothing for a byte that starts no character. -/
def leadByte? (byte : Nat) : Option (Nat × Nat) :=
  if byte < 0x80 then some (0, byte)
  else if 0xC0 ≤ byte && byte < 0xE0 then some (1, byte % 32)
  else if 0xE0 ≤ byte && byte < 0xF0 then some (2, byte % 16)
  else if 0xF0 ≤ byte && byte < 0xF8 then some (3, byte % 8)
  else none

/-- The value of a byte written with two hexadecimal digits. -/
def escapedByte? (a b : Char) : Option Nat :=
  match Number.digitValue? 16 a, Number.digitValue? 16 b with
  | some x, some y => some (x * 16 + y)
  | _, _ => none

/-- Reads tag characters; `pending` are the bytes still owed to an escaped character and its
bits so far, `text` is what is read already, newest character first. -/
def tagCharsFrom (verbatim : Bool) :
    (pending : Option (Nat × Nat)) → (text : List Char) → List Char → Mark →
      Except Fault (List Char × Cursor)
  | pending, text, '%' :: a :: b :: rest, m =>
    match escapedByte? a b, pending with
    | none, _ => .error ⟨.badTagEscape, m⟩
    | some byte, none =>
      match leadByte? byte with
      | none => .error ⟨.badTagEscape, m⟩
      | some (0, bits) =>
        tagCharsFrom verbatim none (Char.ofNat bits :: text) rest (m.forward 3)
      | some (owed, bits) => tagCharsFrom verbatim (some (owed, bits)) text rest (m.forward 3)
    | some byte, some (owed, bits) =>
      if byte < 0x80 || 0xC0 ≤ byte then .error ⟨.badTagEscape, m⟩
      else
        let bits := bits * 64 + byte % 64
        if owed ≤ 1 then
          tagCharsFrom verbatim none (Char.ofNat bits :: text) rest (m.forward 3)
        else tagCharsFrom verbatim (some (owed - 1, bits)) text rest (m.forward 3)
  | some _, _, _, m => .error ⟨.badTagEscape, m⟩
  | none, text, [], m => .ok (text.reverse, ⟨[], m⟩)
  | none, text, c :: rest, m =>
    if c == '%' then .error ⟨.badTagEscape, m⟩
    else if isTagChar verbatim c then tagCharsFrom verbatim none (c :: text) rest (m.forward 1)
    else .ok (text.reverse, ⟨c :: rest, m⟩)

/-- Reads tag characters at a cursor. -/
def Cursor.tagChars (verbatim : Bool) (cursor : Cursor) : Except Fault (List Char × Cursor) :=
  tagCharsFrom verbatim none [] cursor.rest cursor.mark

/-- Reads the tag at a cursor as handle and suffix.  A verbatim tag, and the lone exclamation
mark, have an empty handle. -/
def Cursor.tagParts (cursor : Cursor) : Except Fault (String × String × Cursor) :=
  match cursor.rest with
  | _ :: '<' :: _ =>
    match (cursor.skip 2).tagChars true with
    | .error fault => .error fault
    | .ok (suffix, after) =>
      if suffix.isEmpty || after.rest.head? != some '>' then .error ⟨.badTag, after.mark⟩
      else .ok ("", String.ofList suffix, after.skip 1)
  | _ =>
    let (word, after) := (cursor.skip 1).span isWordChar
    match after.rest with
    | '!' :: _ =>
      match (after.skip 1).tagChars false with
      | .error fault => .error fault
      | .ok (suffix, last) =>
        if suffix.isEmpty then .error ⟨.badTag, last.mark⟩
        else .ok (String.ofList ('!' :: word ++ ['!']), String.ofList suffix, last)
    | _ =>
      match after.tagChars false with
      | .error fault => .error fault
      | .ok (more, last) =>
        let suffix := String.ofList (word ++ more)
        if suffix.isEmpty then .ok ("", "!", last) else .ok ("!", suffix, last)

/-- Reads the tag at a cursor; a blank, a break or the end must follow, or a comma inside
brackets. -/
def Cursor.tag (flow : Bool) (cursor : Cursor) : Except Fault (String × String × Cursor) :=
  match cursor.tagParts with
  | .error fault => .error fault
  | .ok (handle, suffix, after) =>
    if atBlankOrEnd after.rest || (flow && after.rest.head? == some ',') then
      .ok (handle, suffix, after)
    else .error ⟨.badTag, after.mark⟩

end PackagePlan.Yaml
