/-! # Parts between separators

`splitAt` cuts a text at every separator; there is one part more than there are separators. -/

namespace PackagePlan.Text

/-- The parts of a text between the occurrences of a character. -/
def splitAt (separator : Char) : List Char → List (List Char)
  | [] => [[]]
  | c :: rest =>
    match splitAt separator rest with
    | [] => [[c]]
    | part :: parts => if c = separator then [] :: part :: parts else (c :: part) :: parts

end PackagePlan.Text
