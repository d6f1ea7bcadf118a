/-! # White space

`isSpace` is the Unicode property White_Space: twenty-five characters, among them the
no-break space and the line separators, but neither the zero-width space nor the byte order
mark.  A text is *blank* (`isBlank`) when it holds nothing else, and `trim` cuts white space
off both ends. -/

namespace PackagePlan.Text

/-- The characters with the Unicode property White_Space. -/
def isSpace (c : Char) : Bool :=
  let n := c.toNat
  (9 ≤ n && n ≤ 13) || n == 0x20 || n == 0x85 || n == 0xA0 || n == 0x1680
    || (0x2000 ≤ n && n ≤ 0x200A) || n == 0x2028 || n == 0x2029 || n == 0x202F
    || n == 0x205F || n == 0x3000

/-- A text is blank when every character of it is white space. -/
def isBlank (s : String) : Bool := s.toList.all isSpace

/-- The text without the white space at its two ends. -/
def trim (s : String) : String :=
  String.ofList ((s.toList.dropWhile isSpace).reverse.dropWhile isSpace).reverse

end PackagePlan.Text
