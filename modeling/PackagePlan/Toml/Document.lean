import PackagePlan.Toml.Text
import PackagePlan.Toml.Value

/-! # Reading settings documents

A document is a list of lines that hold a header or bind a key.  `parse?` gives its table, and
nothing if any part of it is faulty. -/

namespace PackagePlan.Toml

/-- The deepest nesting of values. -/
def maxDepth : Nat := 80

mutual
/-- Reads a value; `depth` levels of nesting are left. -/
def value? : (fuel depth : Nat) → List Char → Option (Value × List Char)
  | 0, _, _ => none
  | _, 0, _ => none
  | fuel + 1, depth + 1, cs =>
    match cs with
    | '"' :: _ => (quotedText? cs).map fun (text, rest) => (.text (String.ofList text), rest)
    | '\'' :: _ => (quotedText? cs).map fun (text, rest) => (.text (String.ofList text), rest)
    | '[' :: rest => items? fuel depth [] (skipLines rest)
    | '\x7b' :: rest => members? fuel depth (.table .inline []) (skipLines rest)
    | _ =>
      let (word, rest) := takeScalar cs
      (scalar? word).map fun value => (.scalar value, rest)

/-- Reads the items of a list up to its end; those read before are in `done`, newest first. -/
def items? : (fuel depth : Nat) → (done : List Value) → List Char → Option (Value × List Char)
  | 0, _, _, _ => none
  | fuel + 1, depth, done, cs =>
    match cs with
    | ']' :: rest => some (.list done.reverse, rest)
    | _ =>
      match value? fuel depth cs with
      | none => none
      | some (value, rest) =>
        match skipLines rest with
        | ',' :: rest => items? fuel depth (value :: done) (skipLines rest)
        | ']' :: rest => some (.list (value :: done).reverse, rest)
        | _ => none

/-- Reads the members of a table in place up to its end. -/
def members? : (fuel depth : Nat) → (table : Value) → List Char → Option (Value × List Char)
  | 0, _, _, _ => none
  | fuel + 1, depth, table, cs =>
    match cs with
    | '\x7d' :: rest => some (table, rest)
    | _ =>
      match binding? fuel depth cs with
      | none => none
      | some (key, value, rest) =>
        match Value.bind? false key value table, skipLines rest with
        | some table, ',' :: rest => members? fuel depth table (skipLines rest)
        | some table, '\x7d' :: rest => some (table, rest)
        | _, _ => none

/-- Reads a key and its value. -/
def binding? : (fuel depth : Nat) → List Char → Option (List String × Value × List Char)
  | 0, _, _ => none
  | fuel + 1, depth, cs =>
    match key? (cs.length + 1) cs with
    | some (key, '=' :: rest) =>
      (value? fuel depth (skipBlanks rest)).map fun (value, rest) => (key, value, rest)
    | _ => none
end

/-! ### Documents -/

/-- The table of a document so far, and the path of the last header. -/
structure State where
  root : Value := .emptyTable
  path : List String := []

/-- The last part of a path and those before it. -/
def splitLast? (path : List String) : Option (List String × String) :=
  path.getLast?.map (path.dropLast, ·)

namespace State

/-- Goes on after a header that changes the table its path leads to. -/
def withHeader? (state : State) (change : String → Value → Option Value) (path : List String) :
    Option State := do
  let (parents, key) ← splitLast? path
  let root ← Value.descend? (change key) parents state.root
  return ⟨root, path⟩

/-- Goes on after a key with its value. -/
def withBinding? (state : State) (key : List String) (value : Value) : Option State := do
  let root ← Value.descend? (Value.bind? false key value) state.path state.root
  return { state with root }

end State

/-- Passes over the rest of a line, which holds at most a comment. -/
def finishLine? (cs : List Char) : Option (List Char) :=
  match skipComment (skipBlanks cs) with
  | [] => some []
  | cs => lineEnd? cs

/-- Reads a header or a binding at the start of a line. -/
def statement? (state : State) (cs : List Char) : Option (State × List Char) :=
  match cs with
  | '[' :: '[' :: rest =>
    match key? (rest.length + 1) (skipBlanks rest) with
    | some (path, ']' :: ']' :: rest) =>
      (state.withHeader? Value.appendTable? path).map (·, rest)
    | _ => none
  | '[' :: rest =>
    match key? (rest.length + 1) (skipBlanks rest) with
    | some (path, ']' :: rest) => (state.withHeader? Value.openTable? path).map (·, rest)
    | _ => none
  | _ =>
    match binding? (2 * cs.length + 4) maxDepth cs with
    | some (key, value, rest) => (state.withBinding? key value).map (·, rest)
    | none => none

/-- Reads line after line. -/
def statements? : (fuel : Nat) → State → List Char → Option State
  | 0, _, _ => none
  | fuel + 1, state, cs =>
    match skipLines cs with
    | [] => some state
    | cs =>
      match statement? state cs with
      | none => none
      | some (state, rest) =>
        match finishLine? rest with
        | none => none
        | some rest => statements? fuel state rest

/-- The table of a document.  A byte order mark at the start is passed over. -/
def parse? (text : String) : Option Value :=
  let cs := match text.toList with
    | '\uFEFF' :: rest => rest
    | cs => cs
  (statements? (cs.length + 1) {} cs).map (·.root)

end PackagePlan.Toml
