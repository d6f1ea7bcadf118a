import PackagePlan.Yaml.Token
import PackagePlan.Yaml.Token.Block
import PackagePlan.Yaml.Token.Directive
import PackagePlan.Yaml.Token.Plain
import PackagePlan.Yaml.Token.Quoted

/-! # The tokens of a document

`TokenStream.ofChars` cuts a document into tokens.  Two kinds of tokens are not written:

* the starts and ends of block collections come from the columns of their entries, for which
  the columns of the open collections are kept (`Scanner.indent`, `Scanner.outer`);
* that a scalar, an alias or a collection in brackets is a mapping key shows only in the colon
  after it.  The place of the last possible key of every nesting level is kept
  (`Scanner.keys`), and a colon puts the missing tokens in at that place.

When a document is broken off by a fault, the tokens before the fault are still there, except
those that wait for such a colon. -/

namespace PackagePlan.Yaml

/-- A token that may turn out to start a mapping key. -/
structure PossibleKey where
  /-- The key starts in the column of the open block collection, so it must be one. -/
  required : Bool
  /-- The number of tokens before it. -/
  before : Nat
  mark : Mark

/-- A document of which some tokens are read. -/
structure Scanner where
  cursor : Cursor
  /-- The tokens read, newest first, and their number. -/
  tokens : List Located
  count : Nat
  /-- The column of the innermost open block collection, `-1` outside all of them. -/
  indent : Int
  /-- The columns of the block collections around it, innermost first. -/
  outer : List Int
  /-- The possible key of the innermost nesting level. -/
  key : Option PossibleKey
  /-- The possible keys of the levels around the open brackets, innermost first. -/
  outerKeys : List (Option PossibleKey)
  /-- A key without brackets or question mark may start here. -/
  keyAllowed : Bool

/-- Tokens with the fault that ended them, if one did. -/
structure TokenStream where
  tokens : List Located
  fault : Option Fault

namespace Scanner
variable (s : Scanner)

/-- The scanner at the start of a text. -/
def start (text : List Char) : Scanner :=
  ⟨⟨text, .start⟩, [], 0, -1, [], none, [], true⟩

/-- The scanner is inside brackets. -/
def inFlow : Bool := !s.outerKeys.isEmpty

/-- The column of the cursor. -/
def column : Int := s.cursor.mark.column

/-! ### Adding tokens -/

/-- Adds a token. -/
def push (mark : Mark) (token : Token) : Scanner :=
  { s with tokens := ⟨mark, token⟩ :: s.tokens, count := s.count + 1 }

/-- Puts a token in after the first `before` tokens. -/
def pushAt (before : Nat) (mark : Mark) (token : Token) : Scanner :=
  let later := s.count - before
  { s with
    tokens := s.tokens.take later ++ ⟨mark, token⟩ :: s.tokens.drop later
    count := s.count + 1 }

/-- Adds the indicator at the cursor, of `length` characters, and passes over it. -/
def indicator (length : Nat) (token : Token) : Scanner :=
  { s.push s.cursor.mark token with cursor := s.cursor.skip length }

/-! ### Block collections -/

/-- Closes the block collections deeper than `column`, of which `outer` lists the columns
around the innermost. -/
def closeBlocks (column : Int) : (outer : List Int) → Scanner → Scanner
  | [], s => s
  | next :: outer, s =>
    if column < s.indent then
      closeBlocks column outer
        { s.push s.cursor.mark .blockEnd with indent := next, outer := outer }
    else s

/-- Closes the block collections deeper than `column`; brackets protect them. -/
def dedent (column : Int) : Scanner :=
  if s.inFlow then s else closeBlocks column s.outer s

/-- Opens a block collection in column `column` if none is open there, with its token after
the first `before` tokens. -/
def openBlock (column : Int) (before : Nat) (mark : Mark) (token : Token) : Scanner :=
  if !s.inFlow && s.indent < column then
    { s.pushAt before mark token with indent := column, outer := s.indent :: s.outer }
  else s

/-! ### Possible keys -/

/-- A possible key ends with its line, and 1024 characters after its start. -/
def isStale (key : PossibleKey) : Bool :=
  key.mark.line < s.cursor.mark.line || key.mark.index + 1024 < s.cursor.mark.index

/-- Gives up a possible key that can be none any more. -/
def expire : Option PossibleKey → Except Fault (Option PossibleKey)
  | none => .ok none
  | some key =>
    if s.isStale key then
      if key.required then .error ⟨.missingColon, s.cursor.mark⟩ else .ok none
    else .ok (some key)

/-- Gives up the possible keys that can be none any more. -/
def expireKeys : Except Fault Scanner := do
  let outerKeys ← s.outerKeys.reverse.mapM s.expire
  let key ← s.expire s.key
  return { s with key := key, outerKeys := outerKeys.reverse }

/-- Gives up the possible key of the innermost level. -/
def dropKey : Except Fault Scanner :=
  if s.key.any (·.required) then .error ⟨.missingColon, s.cursor.mark⟩
  else .ok { s with key := none }

/-- Notes that the next token may start a key, if one may start here. -/
def markKey : Except Fault Scanner :=
  if s.keyAllowed then do
    let required := !s.inFlow && s.indent == s.column
    return { ← s.dropKey with key := some ⟨required, s.count, s.cursor.mark⟩ }
  else .ok s

/-- A possible key that must be one can be none any more, so that no further token is read. -/
def isOverdue : Bool :=
  (s.key :: s.outerKeys).any fun key => key.any fun key => key.required && s.isStale key

/-- The number of tokens that wait for no colon. -/
def settled : Nat :=
  let before (key : Option PossibleKey) : Nat :=
    match key with
    | none => s.count
    | some key => if s.isStale key then s.count else key.before
  (s.key :: s.outerKeys).foldl (fun n key => min n (before key)) s.count

/-! ### White space and comments -/

/-- Passes over blanks, comments and line breaks in front of the next token.  A tab counts as
a blank only where no key may start; a line break outside brackets allows keys. -/
def skipSpaceFrom (flow : Bool) :
    (comment keyAllowed : Bool) → List Char → Mark → Cursor × Bool
  | _, keyAllowed, [], m => (⟨[], m⟩, keyAllowed)
  | _, keyAllowed, '\r' :: '\n' :: rest, m =>
    skipSpaceFrom flow false (keyAllowed || !flow) rest (m.nextLine 2)
  | comment, keyAllowed, c :: rest, m =>
    if isBreak c then skipSpaceFrom flow false (keyAllowed || !flow) rest (m.nextLine 1)
    else if comment || c == '#' then skipSpaceFrom flow true keyAllowed rest (m.forward 1)
    else if c == ' ' || (c == '\t' && (flow || !keyAllowed)) || (c == '\ufeff' && m.index == 0) then
      skipSpaceFrom flow false keyAllowed rest (m.forward 1)
    else (⟨c :: rest, m⟩, keyAllowed)

/-- The scanner at the next token. -/
def skipSpace : Scanner :=
  let (cursor, keyAllowed) :=
    skipSpaceFrom s.inFlow false s.keyAllowed s.cursor.rest s.cursor.mark
  { s with cursor := cursor, keyAllowed := keyAllowed }

/-! ### One token -/

/-- Ends the document stream. -/
def endStream : Except Fault Scanner := do
  let s := s.dedent (-1)
  let s ← s.dropKey
  return { s.push s.cursor.mark .streamEnd with keyAllowed := false }

/-- Reads a directive. -/
def readDirective : Except Fault Scanner := do
  let s ← (s.dedent (-1)).dropKey
  let (token, after) ← s.cursor.directive
  return { s.push s.cursor.mark token with cursor := after, keyAllowed := false }

/-- Reads a document marker. -/
def readMarker (token : Token) : Except Fault Scanner := do
  let s ← (s.dedent (-1)).dropKey
  return { s.indicator 3 token with keyAllowed := false }

/-- Reads an opening bracket. -/
def openFlow (token : Token) : Except Fault Scanner := do
  let s ← s.markKey
  return { s.indicator 1 token with
    key := none, outerKeys := s.key :: s.outerKeys, keyAllowed := true }

/-- Reads a closing bracket. -/
def closeFlow (token : Token) : Except Fault Scanner := do
  let s ← s.dropKey
  let s := { s.indicator 1 token with keyAllowed := false }
  match s.outerKeys with
  | [] => return s
  | key :: outerKeys => return { s with key := key, outerKeys := outerKeys }

/-- Reads a comma between the entries of a flow collection. -/
def readComma : Except Fault Scanner := do
  let s ← s.dropKey
  return { s.indicator 1 .flowEntry with keyAllowed := true }

/-- Reads the dash of a block sequence entry. -/
def readDash : Except Fault Scanner :=
  if !s.inFlow && !s.keyAllowed then .error ⟨.misplacedEntry, s.cursor.mark⟩
  else do
    let s := s.openBlock s.column s.count s.cursor.mark .blockSequenceStart
    let s ← s.dropKey
    return { s.indicator 1 .blockEntry with keyAllowed := true }

/-- Reads the question mark of a key. -/
def readKey : Except Fault Scanner :=
  if !s.inFlow && !s.keyAllowed then .error ⟨.misplacedKey, s.cursor.mark⟩
  else do
    let s := s.openBlock s.column s.count s.cursor.mark .blockMappingStart
    let s ← s.dropKey
    return { s.indicator 1 .key with keyAllowed := !s.inFlow }

/-- Reads the colon of a value; a possible key before it becomes a key. -/
def readColon : Except Fault Scanner :=
  match s.key with
  | some key =>
    let s := s.pushAt key.before key.mark .key
    let s := s.openBlock key.mark.column key.before key.mark .blockMappingStart
    .ok { s.indicator 1 .value with key := none, keyAllowed := false }
  | none =>
    if !s.inFlow && !s.keyAllowed then .error ⟨.misplacedValue, s.cursor.mark⟩
    else
      let s := s.openBlock s.column s.count s.cursor.mark .blockMappingStart
      .ok { s.indicator 1 .value with keyAllowed := !s.inFlow }

/-- Reads an alias or an anchor. -/
def readAnchor (token : String → Token) : Except Fault Scanner := do
  let s ← s.markKey
  let (name, after) ← s.cursor.anchorName
  return { s.push s.cursor.mark (token name) with cursor := after, keyAllowed := false }

/-- Reads a tag. -/
def readTag : Except Fault Scanner := do
  let s ← s.markKey
  let (handle, suffix, after) ← s.cursor.tag s.inFlow
  return { s.push s.cursor.mark (.tag handle suffix) with cursor := after, keyAllowed := false }

/-- Reads a block scalar. -/
def readBlock (literal : Bool) : Except Fault Scanner := do
  let s ← s.dropKey
  let scalar ← s.cursor.block literal s.indent
  let style := if literal then .literal else .folded
  return { s.push s.cursor.mark (.scalar scalar.text style) with
    cursor := scalar.cursor, keyAllowed := true }

/-- Reads a quoted scalar. -/
def readQuoted (double : Bool) : Except Fault Scanner := do
  let s ← s.markKey
  let scalar ← s.cursor.quoted double
  let style := if double then .doubleQuoted else .singleQuoted
  return { s.push s.cursor.mark (.scalar scalar.text style) with
    cursor := scalar.cursor, keyAllowed := false }

/-- Reads a plain scalar; a key may start on the line after it. -/
def readPlain : Except Fault Scanner := do
  let s ← s.markKey
  let scalar ← s.cursor.plain s.inFlow (s.indent + 1)
  return { s.push s.cursor.mark (.scalar scalar.text .plain) with
    cursor := scalar.cursor, keyAllowed := scalar.broken }

/-- A character with a meaning of its own at the start of a token. -/
def isIndicator (c : Char) : Bool := "-?:,[]\x7b\x7d#&*!|>'\"%@`".toList.contains c

/-- Reads the token that starts with `c`, before `rest`. -/
def readToken (c : Char) (rest : List Char) : Except Fault Scanner :=
  let lineStart := s.cursor.mark.column == 0
  let spaced := atBlankOrEnd rest
  if lineStart && c == '%' then s.readDirective
  else if lineStart && atDocumentMarker (c :: rest) then
    s.readMarker (if c == '-' then .documentStart else .documentEnd)
  else if c == '[' then s.openFlow .flowSequenceStart
  else if c == '{' then s.openFlow .flowMappingStart
  else if c == ']' then s.closeFlow .flowSequenceEnd
  else if c == '}' then s.closeFlow .flowMappingEnd
  else if c == ',' then s.readComma
  else if c == '-' && spaced then s.readDash
  else if c == '?' && (s.inFlow || spaced) then s.readKey
  else if c == ':' && (s.inFlow || spaced) then s.readColon
  else if c == '*' then s.readAnchor .alias
  else if c == '&' then s.readAnchor .anchor
  else if c == '!' then s.readTag
  else if c == '|' && !s.inFlow then s.readBlock true
  else if c == '>' && !s.inFlow then s.readBlock false
  else if c == '\'' then s.readQuoted false
  else if c == '"' then s.readQuoted true
  else if (!isBlankChar c && !isIndicator c) || c == '-' || (!s.inFlow && (c == '?' || c == ':'))
  then s.readPlain
  else .error ⟨.noTokenStart, s.cursor.mark⟩

/-- Reads the next token together with the block ends before it. -/
def step : Except Fault Scanner := do
  let s ← s.skipSpace.expireKeys
  let s := s.dedent s.column
  match s.cursor.rest with
  | [] => s.endStream
  | c :: rest => s.readToken c rest

/-- Reads tokens to the end of the document; every token but the last one takes a character,
so their number bounds the steps.  `given` tokens waited for no colon when the last one was
read; a fault leaves them, and those that have ceased to wait unless a key is overdue. -/
def run : (steps given : Nat) → Scanner → TokenStream
  | 0, _, s => ⟨s.tokens.reverse, none⟩
  | steps + 1, given, s =>
    let given := if s.isOverdue then given else s.settled
    match s.step with
    | .error fault => ⟨(s.tokens.drop (s.count - given)).reverse, some fault⟩
    | .ok next =>
      match next.tokens with
      | ⟨_, .streamEnd⟩ :: _ => ⟨next.tokens.reverse, none⟩
      | _ => run steps given next

end Scanner

/-- The place of the first character that a document may not hold. -/
def forbiddenMark? : List Char → Mark → Option Mark
  | [], _ => none
  | c :: rest, m =>
    if !isDocumentChar c then some m
    else forbiddenMark? rest (if c == '\n' then m.nextLine 1 else m.forward 1)

/-- The tokens of a document. -/
def TokenStream.ofChars (text : List Char) : TokenStream :=
  match forbiddenMark? text .start with
  | some mark => ⟨[], some ⟨.forbiddenCharacter, mark⟩⟩
  | none => (Scanner.start text).run (text.length + 1) 0

end PackagePlan.Yaml
