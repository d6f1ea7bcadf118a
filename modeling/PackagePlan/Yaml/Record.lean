import PackagePlan.Yaml.Datum

/-! # Reading typed values from a tree

A reader turns a node into a value or says why it does not fit (`Misfit`).  Records are read
by a list of `Member`s: each reads the value of one name and says how the record changes by
it.  Names that no member has are passed over whatever their values are; a name of a member
must not come twice.  Tables keep the last of several values under one name.

A plain scalar without text stands for the record without members, the empty list and the
empty table. -/

namespace PackagePlan.Yaml

/-- Why a node does not fit the place it is read into. -/
inductive Misfit where
  | notText
  | notList
  | notMapping
  | notInteger
  | notScalar
  | notTruthValue
  | tooNested
  | repeatedMember (name : String)
  /-- A whole number outside the range of its place. -/
  | outOfRange (value : Int)
deriving DecidableEq, Repr

/-- A way to read a value from a node. -/
abbrev Reader (α : Type) := Node → Except Misfit α

namespace Node

/-- The text of a scalar, whatever its style and tag. -/
def readText (node : Node) : Except Misfit String :=
  match node.target with
  | .scalar s _ _ => .ok s
  | _ => .error .notText

/-- A scalar that leaves an optional value unset: one without text, or a word for nothing, in
plain style.  With the core tag for nothing it must be such a word, with any other tag the
value is set. -/
def readUnset (node : Node) : Except Misfit Bool :=
  match node with
  | .scalar s .plain none => .ok (s.isEmpty || isNullWord s)
  | .scalar s .plain (some tag) =>
    if tag == coreTag "null" then
      if isNullWord s then .ok true else .error .notText
    else .ok false
  | _ => .ok false

end Node

section
variable {α σ : Type}

/-- An optional value. -/
def readOptional (read : Reader α) : Reader (Option α) := fun node =>
  match node.target.readUnset with
  | .error misfit => .error misfit
  | .ok true => .ok none
  | .ok false => (read node).map some

/-- A list of values. -/
def readList (read : Reader α) : Reader (List α) := fun node =>
  match node.target with
  | .sequence _ items => items.mapM read
  | .scalar "" .plain _ => .ok []
  | _ => .error .notList

/-- Binds the entries of a mapping in a table, one after the other. -/
def readEntries (read : Reader α) : Table α → List (Node × Node) → Except Misfit (Table α)
  | table, [] => .ok table
  | table, (key, value) :: entries =>
    match key.readText with
    | .error misfit => .error misfit
    | .ok name =>
      match read value with
      | .error misfit => .error misfit
      | .ok a => readEntries read (table.insert name a) entries

/-- A table of values; the keys are texts of scalars. -/
def readTable (read : Reader α) : Reader (Table α) := fun node =>
  match node.target with
  | .mapping _ entries => readEntries read .empty entries
  | .scalar "" .plain _ => .ok .empty
  | _ => .error .notMapping

/-- A named part of a record. -/
structure Member (σ : Type) where
  name : String
  /-- Reads the part and says how the record changes by it. -/
  read : Reader (σ → σ)

/-- The part `name`, read by `read` and stored by `store`. -/
def Member.of (name : String) (read : Reader α) (store : α → σ → σ) : Member σ :=
  ⟨name, fun node => (read node).map store⟩

/-- Reads the entries of a mapping into a record; `seen` are the members read before. -/
def readMembers (members : List (Member σ)) :
    (seen : List String) → σ → List (Node × Node) → Except Misfit σ
  | _, record, [] => .ok record
  | seen, record, (key, value) :: entries =>
    match key.readText with
    | .error misfit => .error misfit
    | .ok name =>
      match members.find? (·.name == name) with
      | none => readMembers members seen record entries
      | some member =>
        if seen.contains name then .error (.repeatedMember name)
        else
          match member.read value with
          | .error misfit => .error misfit
          | .ok store => readMembers members (name :: seen) (store record) entries

/-- A record, which starts out as `initial`. -/
def readRecord (members : List (Member σ)) (initial : σ) : Reader σ := fun node =>
  match node.target with
  | .mapping _ entries => readMembers members [] initial entries
  | .scalar "" .plain _ => .ok initial
  | _ => .error .notMapping

end

end PackagePlan.Yaml
