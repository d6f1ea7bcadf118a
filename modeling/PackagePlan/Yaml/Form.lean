import PackagePlan.Yaml.Record

/-! # Reading documents

A `Form` tells which mappings of a tree are read into records, and by which names.  A reading by a
form passes the aliases on its way (`Form.passed`), but none in a value under a name that is not
known.

`Document.limited` refuses a document in which aliases are passed too often, before anything else is
looked at.  `Document.read` reads the tree and then looks for a fault of the text: what comes first
in the document decides why it is refused, a value that does not fit its place or a later fault. -/

namespace PackagePlan.Yaml

/-- How a node is read: as it is, by the names of a record, item by item, or as a table. -/
inductive Form where
  | value
  | record (parts : List (String × Form))
  | list (items : Form)
  | table (values : Form)

/-- The number of aliases on the way to what a node stands for. -/
def Node.jumps : Node → Nat
  | .alias target _ => target.jumps + 1
  | _ => 0

mutual
/-- The number of aliases that a reading of the node by the form passes. -/
def Form.passed : Form → Node → Nat
  | .value, node => node.crossings
  | .record parts, node =>
    match node.target with
    | .mapping _ entries =>
      node.jumps + (entries.map fun entry => entry.1.jumps + passedPart parts entry).sum
    | _ => node.jumps
  | .list items, node =>
    match node.target with
    | .sequence _ nodes => node.jumps + (nodes.map items.passed).sum
    | _ => node.jumps
  | .table values, node =>
    match node.target with
    | .mapping _ entries =>
      node.jumps + (entries.map fun entry => entry.1.jumps + values.passed entry.2).sum
    | _ => node.jumps

/-- The number of aliases that are passed in the value of an entry, if its name is that of a part. -/
def passedPart : List (String × Form) → Node × Node → Nat
  | [], _ => 0
  | (name, form) :: parts, entry =>
    match entry.1.target with
    | .scalar s _ _ => if s == name then form.passed entry.2 else passedPart parts entry
    | _ => 0
end

/-- Why a document is refused. -/
inductive Refusal where
  | tooManyAliases
  | misfit (misfit : Misfit)
  | malformed (fault : Fault)
deriving DecidableEq, Repr

namespace Document

/-- The document, unless a reading by the form passes more than a hundred aliases for an event. -/
def limited (form : Form) (document : Document) : Except Refusal Document :=
  if 100 * document.events < form.passed document.root then .error .tooManyAliases
  else .ok document

/-- Reads the tree of a document that has no fault. -/
def read {α : Type} (reader : Reader α) (document : Document) : Except Refusal α :=
  match reader document.root with
  | .error misfit => .error (.misfit misfit)
  | .ok a =>
    match document.fault with
    | some fault => .error (.malformed fault)
    | none => .ok a

end Document

end PackagePlan.Yaml
