import PackagePlan.Catalog
import PackagePlan.Inputs

/-! # Build scripts

The steps of a spec become one shell script.  A step's own script goes in as it is, a pipeline
as its template with the inputs put in.  Every fragment starts on a new line.  The first step
that is not in order decides the error. -/

namespace PackagePlan

/-- A build script and the packages that the pipelines in it need. -/
structure BuildScript where
  text : String
  /-- In the order of first need, each once. -/
  needs : List String
deriving DecidableEq

/-- A text ends its last line when a line feed is the last character that is no space or
tab. -/
def endsLine (text : String) : Bool :=
  (text.toList.reverse.dropWhile fun c => c == ' ' || c == '\t').head? == some '\n'

/-- Puts a fragment at the end of a script, with a line feed after it if it does not end its
last line. -/
def pushFragment (script fragment : String) : String :=
  script ++ fragment ++ if endsLine fragment then "" else "\n"

/-- The names with those of a second list that they lack, each once, at the end. -/
def appendMissing (names extra : List String) : List String :=
  extra.foldl (fun known name => if known.contains name then known else known ++ [name]) names

/-- What a step adds to the build. -/
structure Fragment where
  text : String
  /-- The packages that its pipeline needs. -/
  needs : List String
deriving DecidableEq

/-- The fragment of a definition that is used with arguments. -/
def Definition.render (d : Definition) (spec : Spec) (arguments : Table Argument)
    (position : Nat) : Except ValidationError Fragment :=
  (d.resolveInputs arguments spec position).map fun inputs =>
    ⟨Template.substitute spec inputs d.runs, d.needs⟩

/-- The fragment of the step at a position. -/
def Step.render (spec : Spec) (position : Nat) (step : Step) : CatalogM Fragment :=
  match step.kind position with
  | .error error => throw (.schema error)
  | .ok (.inline script) => pure ⟨script, []⟩
  | .ok (.reference name arguments) => do
    let entry ← Catalog.resolve name
    match entry.definition.render spec arguments position with
    | .error error => throw (.validation error)
    | .ok fragment => pure fragment

/-- The text of the step at a position. -/
def Step.resolve (spec : Spec) (position : Nat) (step : Step) : CatalogM String := do
  return (← step.render spec position).text

namespace BuildScript

/-- The script before the first step. -/
def start : BuildScript := ⟨s!"set -e\nmkdir -p {Paths.output}\n", []⟩

/-- The script with a fragment at its end. -/
def push (script : BuildScript) (fragment : Fragment) : BuildScript :=
  ⟨pushFragment script.text fragment.text, appendMissing script.needs fragment.needs⟩

/-- Puts steps at the end of a script; the first of them is at `position`. -/
def pushSteps (spec : Spec) : (position : Nat) → BuildScript → List Step → CatalogM BuildScript
  | _, script, [] => pure script
  | position, script, step :: steps => do
    let fragment ← step.render spec position
    pushSteps spec (position + 1) (script.push fragment) steps

end BuildScript

/-- The build script of a spec, which must have a step. -/
def Spec.synthesize (spec : Spec) : CatalogM BuildScript :=
  if spec.pipeline.isEmpty then throw (.schema .noBuildSteps)
  else BuildScript.pushSteps spec 1 .start spec.pipeline

end PackagePlan
