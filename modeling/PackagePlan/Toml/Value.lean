import PackagePlan.Toml.Scalar

/-! # Values and tables

A table comes about in one of four ways: on the way to another one, by a key with points, by a
header, or written out in place.  Only a table that has been passed on the way can still get a
header, and only one that has no header can be extended by a key with points. -/

namespace PackagePlan.Toml

/-- How a table has come about. -/
inductive TableOrigin where
  /-- On the way to a table with a header. -/
  | implied
  /-- By a key with points. -/
  | dotted
  | header
  /-- Written out in place. -/
  | inline
deriving DecidableEq

/-- A value of a document. -/
inductive Value where
  | text (value : String)
  | scalar (value : Scalar)
  | list (items : List Value)
  /-- A list whose items have headers, the newest first. -/
  | tables (items : List Value)
  | table (origin : TableOrigin) (entries : List (String × Value))

namespace Value

/-- The value under a key. -/
def find? (key : String) (entries : List (String × Value)) : Option Value :=
  (entries.find? (·.1 == key)).map (·.2)

/-- The entries with another value under a key. -/
def replace (key : String) (value : Value) (entries : List (String × Value)) :
    List (String × Value) :=
  if (find? key entries).isSome then
    entries.map fun e => if e.1 == key then (key, value) else e
  else entries ++ [(key, value)]

/-- The table of the document before its first line. -/
def emptyTable : Value := .table .header []

/-- A value in place of the newest of several tables. -/
def replaceNewest (items : List Value) (value : Value) : Value :=
  .tables (value :: items.drop 1)

/-! ### Keys with points -/

/-- Binds a key with points in a table; `deep` says that the table has been reached by one. -/
def bind? (deep : Bool) : (key : List String) → Value → Value → Option Value
  | [], _, _ => none
  | [key], value, .table origin entries =>
    if deep && origin ≠ .dotted then none
    else if (find? key entries).isSome then none
    else some (.table origin (entries ++ [(key, value)]))
  | key :: path, value, .table origin entries =>
    match find? key entries with
    | none =>
      (bind? true path value (.table .dotted [])).map fun inner =>
        .table origin (replace key inner entries)
    | some (.table inner innerEntries) =>
      if inner = .implied || inner = .dotted then
        (bind? true path value (.table inner innerEntries)).map fun inner =>
          .table origin (replace key inner entries)
      else none
    | some (.tables items) =>
      match items.head? with
      | none => none
      | some newest =>
        (bind? true path value newest).map fun newest =>
          .table origin (replace key (replaceNewest items newest) entries)
    | some _ => none
  | _, _, _ => none

/-! ### Headers -/

/-- Changes the table that a header's path leads to; tables on the way come about as they are
needed, and of several tables the newest is meant. -/
def descend? (change : Value → Option Value) : (path : List String) → Value → Option Value
  | [], here => change here
  | key :: path, .table origin entries =>
    match find? key entries with
    | none =>
      (descend? change path (.table .implied [])).map fun inner =>
        .table origin (replace key inner entries)
    | some (.table inner innerEntries) =>
      if inner = .inline then none
      else
        (descend? change path (.table inner innerEntries)).map fun inner =>
          .table origin (replace key inner entries)
    | some (.tables items) =>
      match items.head? with
      | none => none
      | some newest =>
        (descend? change path newest).map fun newest =>
          .table origin (replace key (replaceNewest items newest) entries)
    | some _ => none
  | _ :: _, _ => none

/-- Gives a header to the table under a key. -/
def openTable? (key : String) : Value → Option Value
  | .table origin entries =>
    match find? key entries with
    | none => some (.table origin (entries ++ [(key, .table .header [])]))
    | some (.table .implied inner) =>
      some (.table origin (replace key (.table .header inner) entries))
    | some _ => none
  | _ => none

/-- Adds a table to those under a key. -/
def appendTable? (key : String) : Value → Option Value
  | .table origin entries =>
    match find? key entries with
    | none => some (.table origin (entries ++ [(key, .tables [.table .header []])]))
    | some (.tables items) =>
      some (.table origin (replace key (.tables (.table .header [] :: items)) entries))
    | some _ => none
  | _ => none

end Value

end PackagePlan.Toml
