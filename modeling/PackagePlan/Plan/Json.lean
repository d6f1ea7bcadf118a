import PackagePlan.Json
import PackagePlan.Plan

/-! # Plans as data trees

`Plan.toJson` writes a plan for the program that carries it out.  A base or an origin is an
object with one member that names its kind, the empty base a text; an operation is an object
whose first member is its kind.  `Plan.ofJson?` reads a plan back, whatever the order of the
members. -/

namespace PackagePlan

/-! ### Writing -/

/-- The tree of a base. -/
def Base.toJson : Base → Json
  | image reference => .object [("image", .text reference)]
  | scratch => .text "scratch"
  | stage id => .object [("stage", .integer id)]

/-- The tree of an origin. -/
def Origin.toJson : Origin → Json
  | stage id => .object [("stage", .integer id)]
  | source name => .object [("source", .text name)]

/-- The tree of a mount. -/
def Mount.toJson (mount : Mount) : Json :=
  .object [("target", .text mount.target), ("from", mount.origin.toJson),
    ("readonly", .boolean mount.readOnly)]

/-- The tree of an operation. -/
def Operation.toJson : Operation → Json
  | run script workdir bindings =>
    .object [("kind", .text "run"), ("script", .text script), ("workdir", .text workdir),
      ("env", .ofTable .text bindings)]
  | copy origin source destination =>
    .object [("kind", .text "copy"), ("from", origin.toJson), ("src", .text source),
      ("dest", .text destination)]
  | writeFile path mode contents =>
    .object [("kind", .text "mk_file"), ("path", .text path), ("mode", .integer mode.toNat),
      ("contents", .text contents)]

/-- The tree of a stage. -/
def Stage.toJson (stage : Stage) : Json :=
  .object <|
    [("id", .integer stage.id), ("role", .text stage.role.name), ("name", .text stage.name),
     ("base", stage.base.toJson), ("operation", stage.operation.toJson),
     ("mounts", .list (stage.mounts.map Mount.toJson)), ("output", .text stage.output)]
    ++ Json.memberOf "export" .text stage.exported

/-- The tree of a plan. -/
def Plan.toJson (plan : Plan) : Json :=
  .object [("stages", .list (plan.stages.map Stage.toJson))]

/-! ### Reading -/

/-- The role with a name. -/
def Role.ofName? (name : String) : Option Role :=
  [environmentSetup, sourceMaterialization, buildExecution, packaging, signing].find?
    (·.name == name)

/-- Reads a base. -/
def Base.ofJson? (json : Json) : Option Base :=
  match json with
  | .text s => if s == "scratch" then some scratch else none
  | _ =>
    match json.member? "image", json.member? "stage" with
    | some reference, none => reference.text?.map image
    | none, some id => id.natural?.map stage
    | _, _ => none

/-- Reads an origin. -/
def Origin.ofJson? (json : Json) : Option Origin :=
  match json.member? "stage", json.member? "source" with
  | some id, none => id.natural?.map stage
  | none, some name => name.text?.map source
  | _, _ => none

/-- Reads a mount. -/
def Mount.ofJson? (json : Json) : Option Mount := do
  return { target := ← json.required? "target" Json.text?
           origin := ← json.required? "from" Origin.ofJson?
           readOnly := ← json.required? "readonly" Json.boolean? }

/-- Reads a file mode. -/
def modeOfJson? (json : Json) : Option UInt32 :=
  json.natural?.bind fun n => if n < UInt32.size then some (UInt32.ofNat n) else none

/-- Reads an operation. -/
def Operation.ofJson? (json : Json) : Option Operation := do
  let kind ← json.required? "kind" Json.text?
  if kind == "run" then
    return run (← json.required? "script" Json.text?) (← json.required? "workdir" Json.text?)
      (← json.required? "env" (Json.table? Json.text?))
  else if kind == "copy" then
    return copy (← json.required? "from" Origin.ofJson?) (← json.required? "src" Json.text?)
      (← json.required? "dest" Json.text?)
  else if kind == "mk_file" then
    return writeFile (← json.required? "path" Json.text?) (← json.required? "mode" modeOfJson?)
      (← json.required? "contents" Json.text?)
  else none

/-- Reads a stage. -/
def Stage.ofJson? (json : Json) : Option Stage := do
  return { id := ← json.required? "id" Json.natural?
           role := ← (← json.required? "role" Json.text?) |> Role.ofName?
           name := ← json.required? "name" Json.text?
           base := ← json.required? "base" Base.ofJson?
           operation := ← json.required? "operation" Operation.ofJson?
           mounts := ← json.required? "mounts" (Json.list? Mount.ofJson?)
           output := ← json.required? "output" Json.text?
           exported := ← json.optional? "export" Json.text? }

/-- Reads a plan. -/
def Plan.ofJson? (json : Json) : Option Plan :=
  (json.required? "stages" (Json.list? Stage.ofJson?)).map Plan.mk

end PackagePlan
