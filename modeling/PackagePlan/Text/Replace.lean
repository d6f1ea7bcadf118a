/-! # Replacing parts of a text

`replaceAll pattern value` replaces the occurrences of a pattern, taken from left to right
without overlap; replaced text is not looked at again.  `deleteMatches` does the same for a
family of patterns given by the length of the match at a place, and puts nothing in.

Both walk the text once, character by character; the counter says how many characters of the
match found last are still to be passed over. -/

namespace PackagePlan.Text

section
variable (pattern value : List Char)

/-- Replacement where the first `skip` characters belong to a match already replaced. -/
def replaceFrom : (skip : Nat) → List Char → List Char
  | _, [] => []
  | skip + 1, _ :: rest => replaceFrom skip rest
  | 0, c :: rest =>
    if pattern.isPrefixOf (c :: rest) then value ++ replaceFrom (pattern.length - 1) rest
    else c :: replaceFrom 0 rest

/-- Every occurrence of `pattern`, from left to right, becomes `value`. -/
def replaceChars (text : List Char) : List Char := replaceFrom pattern value 0 text

end

/-- Every occurrence of `pattern`, from left to right, becomes `value`. -/
def replaceAll (pattern value text : String) : String :=
  String.ofList (replaceChars pattern.toList value.toList text.toList)

section
variable (matchLength : List Char → Option Nat)

/-- Deletion where the first `skip` characters belong to a match already deleted. -/
def deleteFrom : (skip : Nat) → List Char → List Char
  | _, [] => []
  | skip + 1, _ :: rest => deleteFrom skip rest
  | 0, c :: rest =>
    match matchLength (c :: rest) with
    | some length => deleteFrom (length - 1) rest
    | none => c :: deleteFrom 0 rest

/-- Deletes the matches found from left to right; `matchLength` gives the length of the match
that starts at the head of a text, if there is one. -/
def deleteMatches (text : List Char) : List Char := deleteFrom matchLength 0 text

end

end PackagePlan.Text
