import PackagePlan.Table

/-! # Build plans

A `Plan` is a list of stages.  A stage starts from a base, does one operation on it, and may
see other stages and source trees through mounts; `Stage.dependencies` lists the stages that it
reads. -/

namespace PackagePlan

/-- The number of a stage in its plan. -/
abbrev StageId := Nat

/-- The number of a stage as it is shown. -/
def StageId.text (id : StageId) : String := s!"#{id}"

/-- What a stage is for. -/
inductive Role where
  | environmentSetup
  | sourceMaterialization
  | buildExecution
  | packaging
  | signing
deriving DecidableEq, Repr

/-- The name of a role. -/
def Role.name : Role → String
  | environmentSetup => "environment_setup"
  | sourceMaterialization => "source_materialization"
  | buildExecution => "build_execution"
  | packaging => "packaging"
  | signing => "signing"

/-- The file system that a stage starts from. -/
inductive Base where
  | image (reference : String)
  /-- An empty file system. -/
  | scratch
  | stage (id : StageId)
deriving DecidableEq, Repr

/-- Where files come from: a stage, or a source tree by its name. -/
inductive Origin where
  | stage (id : StageId)
  | source (name : String)
deriving DecidableEq, Repr

/-- Files that a stage sees at a place of its own file system. -/
structure Mount where
  target : String
  origin : Origin
  readOnly : Bool
deriving DecidableEq, Repr

/-- What a stage does. -/
inductive Operation where
  | run (script workdir : String) (bindings : Table String)
  | copy (origin : Origin) (source destination : String)
  | writeFile (path : String) (mode : UInt32) (contents : String)
deriving DecidableEq

/-- A step of a plan. -/
structure Stage where
  id : StageId
  role : Role
  name : String
  base : Base
  operation : Operation
  mounts : List Mount := []
  /-- The name of the stage's result. -/
  output : String
  /-- The directory of the result that is handed over. -/
  exported : Option String := none
deriving DecidableEq

/-- The stages by which a package is built, in order. -/
structure Plan where
  stages : List Stage
deriving DecidableEq

/-! ### What a stage reads -/

/-- The stage that files come from, if they come from one. -/
def Origin.stage? : Origin → Option StageId
  | stage id => some id
  | source _ => none

/-- The stage that a base is, if it is one. -/
def Base.stage? : Base → Option StageId
  | stage id => some id
  | _ => none

/-- Puts a number into an ascending list, once. -/
def insertId (id : StageId) : List StageId → List StageId
  | [] => [id]
  | other :: rest =>
    if id < other then id :: other :: rest
    else if id = other then other :: rest
    else other :: insertId id rest

namespace Stage
variable (stage : Stage)

/-- The stage that the operation copies from, if it does. -/
def copied? : Option StageId :=
  match stage.operation with
  | .copy origin .. => origin.stage?
  | _ => none

/-- The stages that are read, as often as they are. -/
def reads : List StageId :=
  stage.base.stage?.toList ++ stage.copied?.toList ++ stage.mounts.filterMap (·.origin.stage?)

/-- The stages that are read, in ascending order. -/
def dependencies : List StageId := stage.reads.foldr insertId []

/-- The script that the stage runs, if it runs one. -/
def script? : Option String :=
  match stage.operation with
  | .run script .. => some script
  | _ => none

/-- The directory in which the stage runs its script, if it runs one. -/
def workdir? : Option String :=
  match stage.operation with
  | .run _ workdir _ => some workdir
  | _ => none

end Stage

namespace Plan
variable (plan : Plan)

/-- The first stage with a role. -/
def stage? (role : Role) : Option Stage := plan.stages.find? (·.role = role)

/-- The stages that the stage with a number reads, none if there is no such stage. -/
def dependencies (id : StageId) : List StageId :=
  ((plan.stages[id]?).map Stage.dependencies).getD []

/-- The script that builds the package. -/
def buildScript? : Option String := (plan.stage? .buildExecution).bind Stage.script?

/-- The stage whose result is handed over. -/
def exported? : Option Stage := plan.stages.find? (·.exported.isSome)

end Plan

end PackagePlan
