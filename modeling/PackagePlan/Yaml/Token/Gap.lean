import PackagePlan.Yaml.Cursor

/-! # Folded white space

Between two words of a plain or quoted scalar there may be blanks and line breaks.  On one
line the blanks count as they are; a single line break counts as a space, several count as all
but the first, and the blanks around them count nothing. -/

namespace PackagePlan.Yaml

/-- White space met inside a scalar; lists hold the newest character first. -/
structure Gap where
  blanks : List Char
  broken : Bool
  firstBreak : Option Char
  laterBreaks : List Char

namespace Gap

/-- No white space. -/
def empty : Gap := ⟨[], false, none, []⟩

/-- The white space after a line break that an escape takes away. -/
def escapedBreak : Gap := ⟨[], true, none, []⟩

/-- There is white space. -/
def isSome (gap : Gap) : Bool := gap.broken || !gap.blanks.isEmpty

/-- One more space or tab. -/
def addBlank (gap : Gap) (c : Char) : Gap :=
  if gap.broken then gap else { gap with blanks := c :: gap.blanks }

/-- One more line break. -/
def addBreak (gap : Gap) (c : Char) : Gap :=
  if gap.broken then { gap with laterBreaks := c :: gap.laterBreaks }
  else ⟨[], true, some c, []⟩

/-- What the white space counts as, newest character first. -/
def folded (gap : Gap) : List Char :=
  if gap.broken then
    match gap.firstBreak with
    | some '\n' => if gap.laterBreaks.isEmpty then [' '] else gap.laterBreaks
    | some c => gap.laterBreaks ++ [c]
    | none => gap.laterBreaks
  else gap.blanks

end Gap

/-- A scalar read up to a cursor; `broken` tells whether a line break followed it. -/
structure ScalarEnd where
  text : String
  broken : Bool
  cursor : Cursor

end PackagePlan.Yaml
