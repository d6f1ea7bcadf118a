import PackagePlan.Json
import PackagePlan.Number.Range
import PackagePlan.Spec

/-! # Specs as data trees

`Spec.toJson` writes a spec with its members in a fixed order and leaves out empty lists and
tables and unset values, except the steps, which are always written.  `Spec.ofJson?` reads a
spec back; a member that is left out has the value of an empty spec. -/

namespace PackagePlan

open Json (memberUnless memberOf)

/-! ### Arguments -/

namespace Argument

/-- The tree of an argument; there is none for a number that is not finite. -/
def toJson : Argument → Json
  | boolean b => .boolean b
  | integer n => .integer n.toInt
  | unsigned n => .integer n.toNat
  | real x => if x.isFinite then .real x else .null
  | text s => .text s

/-- The argument that a tree spells, if it is a scalar of at most 64 bits. -/
def ofJson? : Json → Option Argument
  | .boolean b => some (boolean b)
  | .integer n => if Number.Fits64 n then some (ofInt n) else none
  | .real x => some (real x)
  | .text s => some (text s)
  | _ => none

end Argument

/-! ### Parts of a spec -/

/-- The tree of a copyright entry. -/
def Copyright.toJson (c : Copyright) : Json :=
  .object [("attestation", .text c.attestation), ("license", .text c.license)]

/-- Reads a copyright entry. -/
def Copyright.ofJson? (json : Json) : Option Copyright := do
  return { attestation := ← json.getD? "attestation" Json.text? ""
           license := ← json.getD? "license" Json.text? "" }

/-- The tree of runtime packages. -/
def runtimeToJson (runtime : List String) : Json :=
  .object (memberUnless runtime.isEmpty "runtime" (.texts runtime))

/-- Reads runtime packages. -/
def runtimeOfJson? (json : Json) : Option (List String) :=
  json.getD? "runtime" (Json.list? Json.text?) []

/-- The tree of the contents of an environment. -/
def Environment.contentsToJson (e : Environment) : Json :=
  .object <| memberUnless e.repositories.isEmpty "repositories" (.texts e.repositories)
    ++ memberUnless e.packages.isEmpty "packages" (.texts e.packages)

/-- The tree of an environment. -/
def Environment.toJson (e : Environment) : Json := .object [("contents", e.contentsToJson)]

/-- Reads the contents of an environment. -/
def Environment.ofContents? (json : Json) : Option Environment := do
  return { repositories := ← json.getD? "repositories" (Json.list? Json.text?) []
           packages := ← json.getD? "packages" (Json.list? Json.text?) [] }

/-- Reads an environment. -/
def Environment.ofJson? (json : Json) : Option Environment :=
  json.getD? "contents" ofContents? {}

/-- The tree of a source's context: its name. -/
def contextToJson (name : String) : Json := .object [("name", .text name)]

/-- Reads a source's context. -/
def contextOfJson? (json : Json) : Option String := json.getD? "name" Json.text? ""

/-- The tree of a source. -/
def Source.toJson (s : Source) : Json := .object (memberOf "context" contextToJson s.context)

/-- Reads a source. -/
def Source.ofJson? (json : Json) : Option Source := do
  return { context := ← json.optional? "context" contextOfJson? }

/-- The tree of a step. -/
def Step.toJson (step : Step) : Json :=
  .object <| memberOf "uses" .text step.uses
    ++ memberUnless step.arguments.isEmpty "with" (.ofTable Argument.toJson step.arguments)
    ++ memberOf "run" .text step.run

/-- Reads a step. -/
def Step.ofJson? (json : Json) : Option Step := do
  return { uses := ← json.optional? "uses" Json.text?
           arguments := ← json.getD? "with" (Json.table? Argument.ofJson?) .empty
           run := ← json.optional? "run" Json.text? }

/-- The tree of the build. -/
def Build.toJson (build : Build) : Json :=
  .object <| ("install_dir", .text build.installDir)
    :: memberOf "source_dir" .text build.sourceDir

/-- Reads the build. -/
def Build.ofJson? (json : Json) : Option Build := do
  return { installDir := ← json.getD? "install_dir" Json.text? defaultInstallDir
           sourceDir := ← json.optional? "source_dir" Json.text? }

/-- Reads an epoch. -/
def epochOfJson? (json : Json) : Option UInt32 :=
  json.natural?.bind fun n => if n < UInt32.size then some (UInt32.ofNat n) else none

/-! ### Specs -/

namespace Spec

/-- The tree of a spec. -/
def toJson (spec : Spec) : Json :=
  .object <|
    [("name", .text spec.name), ("version", .text spec.version),
     ("epoch", .integer spec.epoch.toNat), ("description", .text spec.description),
     ("url", .text spec.url), ("license", .text spec.license)]
    ++ memberUnless spec.copyright.isEmpty "copyright"
      (.list (spec.copyright.map Copyright.toJson))
    ++ [("dependencies", runtimeToJson spec.runtime), ("environment", spec.environment.toJson)]
    ++ memberUnless spec.sources.isEmpty "sources" (.ofTable Source.toJson spec.sources)
    ++ [("pipeline", .list (spec.pipeline.map Step.toJson)), ("build", spec.build.toJson)]

/-- Reads a spec. -/
def ofJson? (json : Json) : Option Spec := do
  return { name := ← json.getD? "name" Json.text? ""
           version := ← json.getD? "version" Json.text? ""
           epoch := ← json.getD? "epoch" epochOfJson? 0
           description := ← json.getD? "description" Json.text? ""
           url := ← json.getD? "url" Json.text? ""
           license := ← json.getD? "license" Json.text? ""
           copyright := ← json.getD? "copyright" (Json.list? Copyright.ofJson?) []
           runtime := ← json.getD? "dependencies" runtimeOfJson? []
           environment := ← json.getD? "environment" Environment.ofJson? {}
           sources := ← json.getD? "sources" (Json.table? Source.ofJson?) .empty
           pipeline := ← json.getD? "pipeline" (Json.list? Step.ofJson?) []
           build := ← json.getD? "build" Build.ofJson? {} }

end Spec

end PackagePlan
