import PackagePlan.Number.Binary64
import PackagePlan.Number.Digits
import PackagePlan.Number.Range
import PackagePlan.Yaml.Node

/-! # What scalars mean

A place that takes a scalar of any kind reads it as a `Datum`.  A plain scalar counts as the
first of these that its text fits: nothing, a truth value, a whole number, a floating-point
number, text; quoted and block scalars are text.  A tag of the core set asks for one kind.

Whole numbers beyond 64 bits are refused while they fit in 128 bits, and count as
floating-point numbers, if decimal, beyond that. -/

namespace PackagePlan.Yaml

/-- The meaning of a scalar. -/
inductive Datum where
  | null
  | boolean (value : Bool)
  | integer (value : Int)
  | real (value : Binary64)
  | text (value : String)
deriving DecidableEq

/-! ### Words and numbers -/

/-- The words for nothing. -/
def isNullWord (s : String) : Bool := s == "null" || s == "Null" || s == "NULL" || s == "~"

/-- The words for the truth values. -/
def boolean? (s : String) : Option Bool :=
  if s == "true" || s == "True" || s == "TRUE" then some true
  else if s == "false" || s == "False" || s == "FALSE" then some false
  else none

/-- Digits with a leading zero, and a sign or none before them: neither a whole nor a
floating-point number. -/
def hasLeadingZero (cs : List Char) : Bool :=
  let digits :=
    match cs with
    | '-' :: rest => rest
    | '+' :: rest => rest
    | _ => cs
  match digits with
  | '0' :: c :: rest => (c :: rest).all Number.isDigit
  | _ => false

/-- The exponent at the end of a decimal, zero when there is none. -/
def exponent? : List Char → Option Int
  | [] => some 0
  | c :: rest =>
    if c == 'e' || c == 'E' then
      match rest with
      | '-' :: digits => (Number.readDigits? 10 digits).map fun n => -(n : Int)
      | '+' :: digits => (Number.readDigits? 10 digits).map Int.ofNat
      | digits => (Number.readDigits? 10 digits).map Int.ofNat
    else none

/-- A decimal without sign: digits, a point that may stand first or last, and an exponent. -/
def decimal? (cs : List Char) : Option (Nat × Int) :=
  let whole := cs.takeWhile Number.isDigit
  let rest := cs.drop whole.length
  let afterPoint := match rest with
    | '.' :: rest => some rest
    | _ => none
  let fraction := (afterPoint.getD []).takeWhile Number.isDigit
  let rest := match afterPoint with
    | some rest => rest.drop fraction.length
    | none => rest
  match Number.readDigits? 10 (whole ++ fraction), exponent? rest with
  | some digits, some exponent => some (digits, exponent - fraction.length)
  | _, _ => none

/-- The finite number that a decimal with a sign is nearest to. -/
def finiteDecimal? (negative : Bool) (cs : List Char) : Option Binary64 :=
  match decimal? cs with
  | some (digits, exponent) =>
    let value := Binary64.ofDecimal negative digits exponent
    if value.isFinite then some value else none
  | none => none

/-- The words for an infinite number. -/
def isInfinityWord (cs : List Char) : Bool :=
  cs == ".inf".toList || cs == ".Inf".toList || cs == ".INF".toList

/-- A floating-point number: a decimal with a sign or none, or a word for one that is not
finite. -/
def real? : List Char → Option Binary64
  | '+' :: rest =>
    if isInfinityWord rest then some (.infinite false) else finiteDecimal? false rest
  | '-' :: rest =>
    if isInfinityWord rest then some (.infinite true) else finiteDecimal? true rest
  | cs =>
    if isInfinityWord cs then some (.infinite false)
    else if cs == ".nan".toList || cs == ".NaN".toList || cs == ".NAN".toList then some .nan
    else finiteDecimal? false cs

/-! ### Scalars -/

/-- What becomes of a whole number: accepted in 64 bits, refused in 128 bits, else none. -/
inductive Width where
  | word
  | tooWide
  | beyond
deriving DecidableEq

/-- The width of a whole number. -/
def Width.of (n : Int) : Width :=
  if Number.Fits64 n then .word
  else if Number.Fits128 n then .tooWide
  else .beyond

/-- The meaning of a plain scalar without a tag, nothing if it is refused. -/
def plainDatum? (s : String) : Option Datum :=
  let cs := s.toList
  let asReal : Option Datum :=
    match if hasLeadingZero cs then none else real? cs with
    | some x => some (.real x)
    | none => some (.text s)
  if s.isEmpty || isNullWord s then some .null
  else
    match boolean? s, Number.readInteger? cs with
    | some b, _ => some (.boolean b)
    | none, some n =>
      match Width.of n with
      | .word => some (.integer n)
      | .tooWide => none
      | .beyond => asReal
    | none, none => asReal

/-- The name of a tag of the core set. -/
def coreTag (name : String) : String := "tag:yaml.org,2002:" ++ name

/-- The tag names no type of the core set but one of the document's own. -/
def isLocalTag (tag : String) : Bool := "!".toList.isPrefixOf tag.toList

/-- The meaning of a scalar, nothing if it is refused. -/
def scalarDatum? (s : String) (style : Style) : (tag : Option String) → Option Datum
  | none => if style = .plain then plainDatum? s else some (.text s)
  | some tag =>
    if isLocalTag tag then none
    else if tag == coreTag "bool" then (boolean? s).map .boolean
    else if tag == coreTag "int" then
      match Number.readInteger? s.toList with
      | some n => if Width.of n = .word then some (.integer n) else none
      | none => none
    else if tag == coreTag "float" then (real? s.toList).map .real
    else if tag == coreTag "null" then if isNullWord s then some .null else none
    else some (.text s)

/-- The meaning of a node that is a scalar, nothing for a collection. -/
def Node.datum? (node : Node) : Option Datum :=
  match node.target with
  | .scalar s style tag => scalarDatum? s style tag
  | _ => none

namespace Node

mutual
/-- Every scalar in the node has a meaning, no collection in it has a local tag, and
collections are nested no deeper than `depth`. -/
def isData : (depth : Nat) → Node → Bool
  | _, scalar s style tag => (scalarDatum? s style tag).isSome
  | 0, sequence .. => false
  | depth + 1, sequence tag items => !tag.any isLocalTag && isDataList depth items
  | 0, mapping .. => false
  | depth + 1, mapping tag entries => !tag.any isLocalTag && isDataEntries depth entries
  | depth, .alias target _ => isData depth target

/-- All nodes of a list are data. -/
def isDataList : (depth : Nat) → List Node → Bool
  | _, [] => true
  | depth, item :: items => isData depth item && isDataList depth items

/-- All keys and values of a mapping are data. -/
def isDataEntries : (depth : Nat) → List (Node × Node) → Bool
  | _, [] => true
  | depth, (key, value) :: entries =>
    isData depth key && isData depth value && isDataEntries depth entries
end

end Node

end PackagePlan.Yaml
