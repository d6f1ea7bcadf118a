import PackagePlan.Number.Shortest
import PackagePlan.Table

/-! # Data trees

`Json` is the tree of a data document: the members of an object keep their order.  `compact`
writes a tree on one line, `pretty` with a line for each value, two spaces further in at each
level.  Characters stand for themselves except where a text could not hold them. -/

namespace PackagePlan

/-- A value of a data document. -/
inductive Json where
  | null
  | boolean (value : Bool)
  | integer (value : Int)
  | real (value : Binary64)
  | text (value : String)
  | list (items : List Json)
  | object (members : List (String × Json))

namespace Json

/-! ### Scalars -/

/-- Four hexadecimal digits of a number below `2 ^ 16`. -/
def hex4 (n : Nat) : List Char :=
  let digits := Nat.toDigits 16 n
  List.replicate (4 - digits.length) '0' ++ digits

/-- A character inside a quoted text. -/
def escapeChar (c : Char) : List Char :=
  if c = '"' then ['\\', '"']
  else if c = '\\' then ['\\', '\\']
  else if c = '\n' then ['\\', 'n']
  else if c = '\r' then ['\\', 'r']
  else if c = '\t' then ['\\', 't']
  else if c = '\x08' then ['\\', 'b']
  else if c = '\x0c' then ['\\', 'f']
  else if c.toNat < 0x20 then ['\\', 'u'] ++ hex4 c.toNat
  else [c]

/-- A text between quotes. -/
def quote (s : String) : String :=
  String.ofList ('"' :: s.toList.flatMap escapeChar ++ ['"'])

/-- A number with its shortest decimal; one that is not finite has no text and becomes
nothing. -/
def realText : Binary64 → String
  | .finite negative m =>
    String.ofList ((if negative then ['-'] else []) ++ m.shortest.scientific)
  | _ => "null"

/-! ### Trees -/

/-- How a tree is laid out. -/
structure Layout where
  /-- What stands before a value at a depth, and before the end of one. -/
  gap : (depth : Nat) → String
  /-- What stands between a name and its value. -/
  colon : String

mutual
/-- The text of a tree that lies at a depth. -/
def render (layout : Layout) (depth : Nat) : Json → String
  | null => "null"
  | boolean b => if b then "true" else "false"
  | integer n => toString n
  | real x => realText x
  | text s => quote s
  | list [] => "[]"
  | list (item :: items) =>
    "[" ++ layout.gap (depth + 1) ++ render layout (depth + 1) item
      ++ renderItems layout (depth + 1) items ++ layout.gap depth ++ "]"
  | object [] => "\x7b\x7d"
  | object ((name, value) :: members) =>
    "\x7b" ++ layout.gap (depth + 1) ++ quote name ++ layout.colon
      ++ render layout (depth + 1) value ++ renderMembers layout (depth + 1) members
      ++ layout.gap depth ++ "\x7d"

/-- The items of a list after the first. -/
def renderItems (layout : Layout) (depth : Nat) : List Json → String
  | [] => ""
  | item :: items =>
    "," ++ layout.gap depth ++ render layout depth item ++ renderItems layout depth items

/-- The members of an object after the first. -/
def renderMembers (layout : Layout) (depth : Nat) : List (String × Json) → String
  | [] => ""
  | (name, value) :: members =>
    "," ++ layout.gap depth ++ quote name ++ layout.colon ++ render layout depth value
      ++ renderMembers layout depth members
end

/-- All on one line. -/
def Layout.oneLine : Layout := ⟨fun _ => "", ":"⟩

/-- A line for each value. -/
def Layout.indented : Layout :=
  ⟨fun depth => String.ofList ('\n' :: List.replicate (2 * depth) ' '), ": "⟩

/-- The tree on one line. -/
def compact (json : Json) : String := json.render .oneLine 0

/-- The tree with a line for each value. -/
def pretty (json : Json) : String := json.render .indented 0

/-! ### Looking into trees -/

/-- The value of the first member with a name. -/
def member? (name : String) : Json → Option Json
  | object members => (members.find? (·.1 == name)).map (·.2)
  | _ => none

/-- The text of a text. -/
def text? : Json → Option String
  | text s => some s
  | _ => none

/-- The whole number of a whole number that is not negative. -/
def natural? : Json → Option Nat
  | integer n => if 0 ≤ n then some n.toNat else none
  | _ => none

/-- The truth value of a truth value. -/
def boolean? : Json → Option Bool
  | boolean b => some b
  | _ => none

section
variable {α : Type}

/-- The values of a list. -/
def list? (read : Json → Option α) : Json → Option (List α)
  | list items => items.mapM read
  | _ => none

/-- The table that the members of an object make, later ones in front. -/
def table? (read : Json → Option α) : Json → Option (Table α)
  | object members =>
    (members.mapM fun (m : String × Json) => (read m.2).map (m.1, ·)).map Table.ofList
  | _ => none

/-- The value of a member that must be there. -/
def required? (json : Json) (name : String) (read : Json → Option α) : Option α :=
  (json.member? name).bind read

/-- The value of a member of an object, or another value if it is not there. -/
def getD? (json : Json) (name : String) (read : Json → Option α) (missing : α) : Option α :=
  match json, json.member? name with
  | object _, some value => read value
  | object _, none => some missing
  | _, _ => none

/-- A value, unset if it is nothing. -/
def nullable? (read : Json → Option α) : Json → Option (Option α)
  | null => some none
  | value => (read value).map some

/-- The value of a member of an object, unset if it is not there or nothing. -/
def optional? (json : Json) (name : String) (read : Json → Option α) : Option (Option α) :=
  json.getD? name (nullable? read) none

end

/-! ### Building trees -/

/-- A member, unless a condition says that it is left out. -/
def memberUnless (omitted : Bool) (name : String) (value : Json) : List (String × Json) :=
  if omitted then [] else [(name, value)]

/-- A member for a value that is set. -/
def memberOf {α : Type} (name : String) (write : α → Json) : Option α → List (String × Json)
  | none => []
  | some a => [(name, write a)]

/-- A list of texts. -/
def texts (items : List String) : Json := list (items.map text)

/-- An object with the entries of a table. -/
def ofTable {α : Type} (write : α → Json) (table : Table α) : Json :=
  object (table.entries.map fun e => (e.1, write e.2))

end Json

end PackagePlan
