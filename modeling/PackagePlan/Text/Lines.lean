/-! # Lines of a text

A line ends at a line feed; a carriage return just before that line feed belongs to the line
end, any other one to the line.  What follows the last line feed is a line of its own unless
it is empty.  `unlines` puts lines together, each with a line feed after it. -/

namespace PackagePlan.Text

/-- The lines of a list of characters, without their line ends. -/
def splitLines : List Char → List (List Char)
  | [] => []
  | '\r' :: '\n' :: rest => [] :: splitLines rest
  | '\n' :: rest => [] :: splitLines rest
  | c :: rest =>
    match splitLines rest with
    | [] => [[c]]
    | line :: more => (c :: line) :: more

/-- The lines of a text, without their line ends. -/
def lines (s : String) : List String := (splitLines s.toList).map String.ofList

/-- The text of lines, each with a line feed after it. -/
def unlines (lines : List String) : String :=
  String.ofList (lines.flatMap fun line => line.toList ++ ['\n'])

end PackagePlan.Text
