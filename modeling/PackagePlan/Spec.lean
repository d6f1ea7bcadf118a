import PackagePlan.Argument
import PackagePlan.Error
import PackagePlan.Table

/-! # Package specs

A `Spec` says what a package is, what it needs, and by which steps it is built.  A step either
runs a script of its own or uses a pipeline by name, passing arguments to it; `Step.kind` tells
which. -/

namespace PackagePlan

/-- Who holds rights in a part of the package, and under which license it is given. -/
structure Copyright where
  attestation : String := ""
  license : String := ""
deriving DecidableEq

/-- What the build environment takes in: repositories and packages. -/
structure Environment where
  repositories : List String := []
  packages : List String := []
deriving DecidableEq

/-- Where sources come from: the name of a source tree, if one is given. -/
structure Source where
  context : Option String := none
deriving DecidableEq

/-- A step of the build as it is written. -/
structure Step where
  uses : Option String := none
  arguments : Table Argument := .empty
  run : Option String := none
deriving DecidableEq

/-- Where the package is to be installed when nothing else is said. -/
def defaultInstallDir : String := "/usr"

/-- Directories of the build. -/
structure Build where
  installDir : String := defaultInstallDir
  /-- The directory of the source tree that the steps run in. -/
  sourceDir : Option String := none
deriving DecidableEq

/-- The description of a package and its build. -/
structure Spec where
  name : String := ""
  version : String := ""
  epoch : UInt32 := 0
  description : String := ""
  url : String := ""
  license : String := ""
  copyright : List Copyright := []
  /-- The packages that the package needs once it is installed. -/
  runtime : List String := []
  environment : Environment := {}
  sources : Table Source := .empty
  pipeline : List Step := []
  build : Build := {}
deriving DecidableEq

/-! ### Steps -/

/-- What a step does. -/
inductive StepKind where
  | inline (script : String)
  | reference (name : String) (arguments : Table Argument)
deriving DecidableEq

namespace Step

/-- A step that runs a script of its own. -/
def ofScript (script : String) : Step := { run := some script }

/-- A step that uses a pipeline. -/
def ofReference (name : String) (arguments : Table Argument) : Step :=
  { uses := some name, arguments }

/-- The script of the step, unless it is blank. -/
def script? (step : Step) : Option String := step.run.filter fun s => !Text.isBlank s

/-- The pipeline that the step uses, unless the name is empty. -/
def reference? (step : Step) : Option String := step.uses.filter fun s => !s.isEmpty

/-- What the step at a position does; it must do exactly one of the two things. -/
def kind (step : Step) (position : Nat) : Except SchemaError StepKind :=
  match step.script?, step.reference? with
  | some _, some _ => .error (.conflictingStep position)
  | none, none => .error (.emptyStep position)
  | some script, none => .ok (.inline script)
  | none, some name => .ok (.reference name step.arguments)

end Step

/-! ### Defaults -/

/-- A blank install directory becomes the default one, a blank source directory is unset. -/
def Build.withDefaults (build : Build) : Build :=
  { installDir := if Text.isBlank build.installDir then defaultInstallDir else build.installDir
    sourceDir := build.sourceDir.filter fun dir => !Text.isBlank dir }

/-- The spec with defaults in place of blank directories. -/
def Spec.withDefaults (spec : Spec) : Spec := { spec with build := spec.build.withDefaults }

end PackagePlan
