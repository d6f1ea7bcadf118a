import PackagePlan.Text.GraphemeExtend
import PackagePlan.Text.Unprintable

/-! # Names in messages

Messages show a name between double quotes and make every character of it visible: quotes,
backslashes and the common control characters by a backslash, anything that has no printable
form of its own, or would join the character before it, by its code point. -/

namespace PackagePlan.Text

/-- The lower-case hexadecimal digits of a number. -/
def hex (n : Nat) : List Char := Nat.toDigits 16 n

/-- The visible form of one character. -/
def showChar (c : Char) : List Char :=
  if c = '\x00' then ['\\', '0']
  else if c = '\t' then ['\\', 't']
  else if c = '\r' then ['\\', 'r']
  else if c = '\n' then ['\\', 'n']
  else if c = '"' then ['\\', '"']
  else if c = '\\' then ['\\', '\\']
  else if isGraphemeExtend c || !isPrintable c then
    ['\\', 'u', '\x7b'] ++ hex c.toNat ++ ['\x7d']
  else [c]

/-- The text between double quotes, every character visible. -/
def quoted (s : String) : String :=
  String.ofList ('"' :: s.toList.flatMap showChar ++ ['"'])

end PackagePlan.Text
