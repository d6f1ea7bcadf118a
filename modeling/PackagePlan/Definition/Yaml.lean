import PackagePlan.Definition
import PackagePlan.Yaml.Form

/-! # Reading pipeline definitions

`Definition.parse` reads the text of a definition.  An input is either written as its default
alone, or as a mapping with a description, a default and whether it is required.

The mapping of an input is read as data, all of it, before its parts are looked at: the parts
are told by the meaning of their keys, which may be a name or the position of the part, and
the values by their meaning too, so that a description has to be text.  -/

namespace PackagePlan

open Yaml

namespace Input

/-- The parts of an input. -/
inductive Part where
  | description
  | default
  | required
deriving DecidableEq

/-- The part that a key stands for: nothing if the key is refused, `some none` if it stands
for no part. -/
def part? (key : Node) : Option (Option Part) :=
  match key.datum? with
  | some (.text s) =>
    some <|
      if s == "description" then some .description
      else if s == "default" then some .default
      else if s == "required" then some .required
      else none
  | some (.integer n) =>
    if n < 0 then none
    else if n = 0 then some (some .description)
    else if n = 1 then some (some .default)
    else if n = 2 then some (some .required)
    else some none
  | _ => none

/-- The text of a default, nothing where the scalar means nothing. -/
def defaultText (datum : Datum) : Option String := (Argument.ofDatum? datum).map Argument.toText

/-- The input with a part set to the meaning of a node. -/
def setPart (input : Input) (part : Part) (value : Node) : Except Misfit Input :=
  match part, value.datum? with
  | .description, some .null => .ok { input with description := none }
  | .description, some (.text s) => .ok { input with description := some s }
  | .description, _ => .error .notText
  | .default, some datum => .ok { input with default := defaultText datum }
  | .default, none => .error .notScalar
  | .required, some (.boolean b) => .ok { input with required := b }
  | .required, _ => .error .notTruthValue

/-- The name of a part, as it is repeated in a misfit. -/
def Part.name : Part → String
  | description => "description"
  | default => "default"
  | required => "required"

/-- Reads the entries of an input's mapping; `seen` are the parts read before. -/
def readParts : (seen : List Part) → Input → List (Node × Node) → Except Misfit Input
  | _, input, [] => .ok input
  | seen, input, (key, value) :: entries =>
    match part? key with
    | none => .error .notText
    | some none => readParts seen input entries
    | some (some part) =>
      if seen.contains part then .error (.repeatedMember part.name)
      else
        match input.setPart part value with
        | .error misfit => .error misfit
        | .ok input => readParts (part :: seen) input entries

/-- Reads an input in either form.  The mapping of an input lies below two others, which
count for the depth. -/
def ofNode (node : Node) : Except Misfit Input :=
  match node.target with
  | .scalar s style tag =>
    match scalarDatum? s style tag with
    | some datum => .ok { default := defaultText datum }
    | none => .error .notScalar
  | .mapping tag entries =>
    if (Node.mapping tag entries).isData (maxDepth - 2) then readParts [] {} entries
    else .error .tooNested
  | _ => .error .notMapping

end Input

namespace Definition

/-- Reads the inputs. -/
def readInputs : Reader (Table Input) := readTable Input.ofNode

/-- The members of a definition's needs: packages. -/
def needMembers : List (Member (List String)) :=
  [.of "packages" (readList Node.readText) fun names _ => names]

/-- The members of a definition. -/
def members : List (Member Definition) :=
  [.of "name" Node.readText fun s d => { d with title := s },
   .of "needs" (readRecord needMembers []) fun names d => { d with needs := names },
   .of "inputs" readInputs fun inputs d => { d with inputs },
   .of "runs" Node.readText fun s d => { d with runs := s }]

/-- The form of a definition. -/
def form : Form :=
  .record
    [("name", .value), ("needs", .record [("packages", .value)]), ("inputs", .value),
     ("runs", .value)]

/-- The definition that a document spells. -/
def ofDocument (document : Document) : Except Refusal Definition :=
  document.read (readRecord members {})

/-- Reads the definition of the pipeline `id`; it must have a script. -/
def parse (id text : String) : Except SchemaError Definition :=
  match (Document.limited form (.ofText text)).bind ofDocument with
  | .error _ => .error (.pipelineParse id (.refusal .definition text))
  | .ok definition =>
    if Text.isBlank definition.runs then .error (.missingRuns id)
    else .ok { definition with id }

end Definition

end PackagePlan
