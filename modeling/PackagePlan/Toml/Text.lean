import PackagePlan.Number.Digits

/-! # Blanks, quoted texts and keys

What stands between values, the four kinds of quoted text, and keys.  Every reader takes the
characters that are left and gives what it has read with the rest. -/

namespace PackagePlan.Toml

/-! ### Blanks -/

/-- A space or a tab. -/
def isBlank (c : Char) : Bool := c == ' ' || c == '\t'

/-- Passes over spaces and tabs. -/
def skipBlanks (cs : List Char) : List Char := cs.dropWhile isBlank

/-- Passes over a line end, if there is one. -/
def lineEnd? : List Char → Option (List Char)
  | '\n' :: rest => some rest
  | '\r' :: '\n' :: rest => some rest
  | _ => none

/-- A character of a comment. -/
def isCommentChar (c : Char) : Bool := c == '\t' || 0x20 ≤ c.toNat

/-- Passes over a comment, if there is one. -/
def skipComment : List Char → List Char
  | '#' :: rest => rest.dropWhile isCommentChar
  | cs => cs

/-- Passes over blanks, comments and line ends; the flag says that a comment has begun. -/
def skipLinesFrom : (comment : Bool) → List Char → List Char
  | _, [] => []
  | _, '\r' :: '\n' :: rest => skipLinesFrom false rest
  | comment, c :: rest =>
    if c == '\n' then skipLinesFrom false rest
    else if comment then if isCommentChar c then skipLinesFrom true rest else c :: rest
    else if isBlank c then skipLinesFrom false rest
    else if c == '#' then skipLinesFrom true rest
    else c :: rest

/-- Passes over blanks, comments and line ends. -/
def skipLines (cs : List Char) : List Char := skipLinesFrom false cs

/-! ### Quoted texts -/

/-- What has been read of a text, and the rest. -/
abbrev Reading := Option (List Char × List Char)

/-- A reading with more characters in front. -/
def Reading.cons (cs : List Char) (reading : Reading) : Reading :=
  reading.map fun (text, rest) => (cs ++ text, rest)

/-- A character that stands for itself between quotes. -/
def isTextChar (c : Char) : Bool := c == '\t' || (0x20 ≤ c.toNat && c.toNat ≠ 0x7F)

/-- What a character after a backslash stands for. -/
def simpleEscape? (c : Char) : Option Char :=
  if c == 'b' then some '\x08'
  else if c == 't' then some '\t'
  else if c == 'n' then some '\n'
  else if c == 'f' then some '\x0c'
  else if c == 'r' then some '\r'
  else if c == 'e' then some '\x1b'
  else if c == '"' then some '"'
  else if c == '\\' then some '\\'
  else none

/-- The number of hexadecimal digits after a letter that announces a code point. -/
def codeLength? (c : Char) : Option Nat :=
  if c == 'x' then some 2 else if c == 'u' then some 4 else if c == 'U' then some 8 else none

/-- The character with a code point, if there is one. -/
def charOfCode? (n : Nat) : Option Char := if n.isValidChar then some (Char.ofNat n) else none

/-- The character that an escape stands for, and the number of characters of the escape; the
backslash has been read. -/
def escape? : List Char → Option (Char × Nat)
  | [] => none
  | c :: rest =>
    match simpleEscape? c, codeLength? c with
    | some e, _ => some (e, 1)
    | none, none => none
    | none, some n =>
      if (rest.take n).length = n then
        ((Number.readDigits? 16 (rest.take n)).bind charOfCode?).map (·, n + 1)
      else none

/-- A text between double quotes on one line, after the opening one; the first `skip`
characters belong to an escape. -/
def basicText : (skip : Nat) → List Char → Reading
  | _, [] => none
  | skip + 1, _ :: rest => basicText skip rest
  | 0, c :: rest =>
    if c == '"' then some ([], rest)
    else if c == '\\' then
      match escape? rest with
      | some (e, n) => Reading.cons [e] (basicText n rest)
      | none => none
    else if isTextChar c then Reading.cons [c] (basicText 0 rest)
    else none

/-- A text between single quotes on one line, after the opening one. -/
def literalText : List Char → Reading
  | [] => none
  | c :: rest =>
    if c == '\'' then some ([], rest)
    else if isTextChar c then Reading.cons [c] (literalText rest)
    else none

/-- The end of a text over several lines: three quotes, with up to two more before them that
belong to the text. -/
def closing? (quote : Char) (cs : List Char) : Reading :=
  let count := (cs.takeWhile (· == quote)).length
  if count < 3 then none
  else
    let extra := min (count - 3) 2
    some (List.replicate extra quote, cs.drop (extra + 3))

/-- The rest of the line holds nothing. -/
def endsLineHere (cs : List Char) : Bool := (lineEnd? (skipBlanks cs)).isSome

/-- How the next characters of a text over several lines are taken. -/
inductive Mode where
  /-- As they are. -/
  | normal
  /-- They belong to an escape. -/
  | skipping (count : Nat)
  /-- They are left out as far as they are blanks and line ends. -/
  | joining

/-- A text between three double quotes, after the opening ones and a line end. -/
def basicLines : Mode → List Char → Reading
  | _, [] => none
  | .skipping (n + 1), _ :: rest => basicLines (.skipping n) rest
  | mode, c :: rest =>
    let joining := match mode with
      | .joining => true
      | _ => false
    if joining && (isBlank c || (lineEnd? (c :: rest)).isSome) then basicLines .joining rest
    else if c == '"' then
      match closing? '"' (c :: rest) with
      | some reading => some reading
      | none => Reading.cons [c] (basicLines .normal rest)
    else if c == '\\' then
      if endsLineHere rest then basicLines .joining rest
      else
        match escape? rest with
        | some (e, n) => Reading.cons [e] (basicLines (.skipping n) rest)
        | none => none
    else if isTextChar c || c == '\n' || (lineEnd? (c :: rest)).isSome then
      Reading.cons [c] (basicLines .normal rest)
    else none

/-- A text between three single quotes, after the opening ones and a line end. -/
def literalLines : List Char → Reading
  | [] => none
  | c :: rest =>
    if c == '\'' then
      match closing? '\'' (c :: rest) with
      | some reading => some reading
      | none => Reading.cons [c] (literalLines rest)
    else if isTextChar c || (lineEnd? (c :: rest)).isSome then
      Reading.cons [c] (literalLines rest)
    else none

/-- A quoted text of any kind, nothing if there is none or it is faulty. -/
def quotedText? : List Char → Reading
  | '"' :: '"' :: '"' :: rest => basicLines .normal ((lineEnd? rest).getD rest)
  | '\'' :: '\'' :: '\'' :: rest => literalLines ((lineEnd? rest).getD rest)
  | '"' :: rest => basicText 0 rest
  | '\'' :: rest => literalText rest
  | _ => none

/-! ### Keys -/

/-- A character of a key without quotes. -/
def isKeyChar (c : Char) : Bool :=
  ('a' ≤ c && c ≤ 'z') || ('A' ≤ c && c ≤ 'Z') || ('0' ≤ c && c ≤ '9') || c == '-' || c == '_'

/-- One part of a key. -/
def keyPart? : List Char → Option (String × List Char)
  | '"' :: rest => (basicText 0 rest).map fun (text, rest) => (String.ofList text, rest)
  | '\'' :: rest => (literalText rest).map fun (text, rest) => (String.ofList text, rest)
  | cs =>
    let part := cs.takeWhile isKeyChar
    if part.isEmpty then none else some (String.ofList part, cs.drop part.length)

/-- A key: parts with points between them and blanks around the points. -/
def key? : (fuel : Nat) → List Char → Option (List String × List Char)
  | 0, _ => none
  | fuel + 1, cs =>
    match keyPart? cs with
    | none => none
    | some (part, rest) =>
      match skipBlanks rest with
      | '.' :: rest => (key? fuel (skipBlanks rest)).map fun (parts, rest) => (part :: parts, rest)
      | rest => some ([part], rest)

end PackagePlan.Toml
