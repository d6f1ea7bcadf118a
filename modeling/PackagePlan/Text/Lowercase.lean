import PackagePlan.Text.CaseContext
import PackagePlan.Text.LowercaseMap

/-! # Lower-casing

`lowercase` maps every character of a text to its lower-case form.  Two characters need more
than the simple mapping: the dotted capital I becomes two characters, and a capital sigma
becomes a final sigma where it ends a word, that is, after a cased character and not before
one, ignorable characters passed over. -/

namespace PackagePlan.Text

/-- The lower-case form of `c` between the characters `before`, nearest first, and `after`. -/
def lowercaseAt (before : List Char) (c : Char) (after : List Char) : List Char :=
  if c = 'Σ' then
    [if meetsCased before && !meetsCased after then 'ς' else 'σ']
  else if c = 'İ' then ['i', '\u0307']
  else [simpleLowercase c]

/-- The lower-case form of a list of characters that stands after `before`, nearest first. -/
def lowercaseAfter (before : List Char) : List Char → List Char
  | [] => []
  | c :: rest => lowercaseAt before c rest ++ lowercaseAfter (c :: before) rest

/-- The lower-case form of a text. -/
def lowercase (s : String) : String := String.ofList (lowercaseAfter [] s.toList)

end PackagePlan.Text
