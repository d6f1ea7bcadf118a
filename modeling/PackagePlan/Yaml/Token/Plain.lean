import PackagePlan.Yaml.Fault
import PackagePlan.Yaml.Token.Gap

/-! # Plain scalars

A plain scalar has no quotes.  It ends before a colon that a blank follows, before a comment,
before a document marker and, in a block collection, where a line is indented no deeper than
the collection; inside brackets the brackets and commas end it too. -/

namespace PackagePlan.Yaml

/-- A character that separates the parts of a flow collection. -/
def isFlowIndicator (c : Char) : Bool :=
  c == ',' || c == '[' || c == ']' || c == '{' || c == '}'

section
variable (flow : Bool) (indent : Int)

/-- Reads a plain scalar of which `text` is read already, newest character first, and then
the white space `gap`. -/
def plainFrom : (text : List Char) → Gap → List Char → Mark → Except Fault ScalarEnd
  | text, gap, [], m => .ok ⟨String.ofList text.reverse, gap.broken, ⟨[], m⟩⟩
  | text, gap, '\r' :: '\n' :: rest, m =>
    plainFrom text (gap.addBreak '\n') rest (m.nextLine 2)
  | text, gap, c :: rest, m =>
    if isBlankChar c then
      if gap.broken && m.column < indent && c == '\t' then .error ⟨.tabInIndentation, m⟩
      else plainFrom text (gap.addBlank c) rest (m.forward 1)
    else if isBreak c then plainFrom text (gap.addBreak (breakText c)) rest (m.nextLine 1)
    else if gap.isSome && ((!flow && m.column < indent) || c == '#'
        || (m.column == 0 && atDocumentMarker (c :: rest))) then
      .ok ⟨String.ofList text.reverse, gap.broken, ⟨c :: rest, m⟩⟩
    else if flow && c == ':' && rest.head?.any fun d => d == '?' || isFlowIndicator d then
      .error ⟨.colonInFlow, m⟩
    else if (c == ':' && atBlankOrEnd rest) || (flow && isFlowIndicator c) then
      .ok ⟨String.ofList text.reverse, gap.broken, ⟨c :: rest, m⟩⟩
    else plainFrom (c :: gap.folded ++ text) .empty rest (m.forward 1)

/-- Reads the plain scalar at a cursor; `indent` is the least column of its further lines. -/
def Cursor.plain (cursor : Cursor) : Except Fault ScalarEnd :=
  plainFrom flow indent [] .empty cursor.rest cursor.mark

end

end PackagePlan.Yaml
