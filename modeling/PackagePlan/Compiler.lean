import PackagePlan.InstallScript
import PackagePlan.Manifest
import PackagePlan.Plan
import PackagePlan.Script
import PackagePlan.Settings
import PackagePlan.Text.Split

/-! # Compiling specs

A `Compiler` turns a spec and the name of a source tree into a plan of five stages:

* 0: the base image with the repositories and packages of the environment;
* 1: the source tree on top of 0;
* 2: the build script, run on 1;
* 3: the manifest, alone;
* 4: the packaging tool, run on 0, with 3 to work in and 2 to read.

Each stage is a function of what it depends on.  A spec is compiled only if its metadata are
complete and its source directory stays inside the source tree. -/

namespace PackagePlan

/-! ### Source trees -/

/-- A tree of source files that is handed in, by its name. -/
structure SourceTree where
  name : String := "context"
deriving DecidableEq, Repr

/-- The tree that the first source with a named context asks for, in the order of the sources'
names, or else the default one. -/
def Spec.sourceTree (spec : Spec) : SourceTree :=
  let names := (spec.sources.values.filterMap (·.context)).map Text.trim
  ((names.find? (!·.isEmpty)).map SourceTree.mk).getD {}

/-! ### Preconditions -/

namespace Spec
variable (spec : Spec)

/-- The metadata that must not be blank, in the order in which they are checked. -/
def requiredFields : List (String × String) :=
  [("name", spec.name), ("version", spec.version), ("description", spec.description),
   ("url", spec.url), ("license", spec.license)]

/-- A path has a component that leads out of its directory. -/
def escapes (path : String) : Bool := (Text.splitAt '/' path.toList).contains ['.', '.']

/-- Checks the metadata, then the source directory. -/
def checkPreconditions : Except PreconditionError Unit :=
  match spec.requiredFields.find? fun f => Text.isBlank f.2 with
  | some (field, _) => .error (.missingField field)
  | none =>
    match spec.build.sourceDir.filter escapes with
    | some dir => .error (.escapingPath "build.source_dir" dir)
    | none => .ok ()

end Spec

/-! ### Stages -/

/-- The base image with repositories and packages. -/
def environmentStage (baseImage : String) (environment : Environment) (needs : List String) :
    Stage :=
  { id := 0
    role := .environmentSetup
    name := "install build environment"
    base := .image baseImage
    operation := .run (InstallScript.render environment needs) "/" .empty
    output := "environment" }

/-- The source tree on top of the environment. -/
def sourceStage (tree : SourceTree) : Stage :=
  { id := 1
    role := .sourceMaterialization
    name := s!"copy source tree {tree.name}"
    base := .stage 0
    operation := .copy (.source tree.name) "/" Paths.source
    output := "sources" }

/-- The directory in which the steps run. -/
def Build.workdir (build : Build) : String :=
  match build.sourceDir with
  | some dir => Paths.source ++ "/" ++ String.ofList (dir.toList.dropWhile (· == '/'))
  | none => "/"

/-- The build script on top of the sources. -/
def buildStage (name version script : String) (build : Build) : Stage :=
  { id := 2
    role := .buildExecution
    name := s!"build {name}-{version}"
    base := .stage 1
    operation := .run script build.workdir (.ofList [("PREFIX", build.installDir)])
    output := "build" }

/-- The manifest in an empty file system. -/
def manifestStage (manifest : String) : Stage :=
  { id := 3
    role := .packaging
    name := s!"write {Manifest.fileName}"
    base := .scratch
    operation := .writeFile s!"/{Manifest.fileName}" 0o644 manifest
    output := "manifest" }

/-- The lines of the script that makes the package as an unprivileged user and collects it. -/
def signingLines (user group : String) : List String :=
  ["set -e",
   s!"adduser -D {user}",
   s!"addgroup {user} {group}",
   s!"mkdir -p {Paths.result}",
   s!"chown -R {user}:{user} {Paths.work} {Paths.result}",
   s!"su {user} -s /bin/sh -c 'abuild-keygen -an'",
   s!"cp /home/{user}/.abuild/*.rsa.pub {Paths.keys}/",
   s!"su {user} -s /bin/sh -c 'cd {Paths.work} && abuild -r && find ~/packages "
     ++ "-name \"*.apk\" -exec cp \x7b\x7d " ++ s!"{Paths.result} \\;'"]

/-- The packaging tool on top of the environment, with the manifest to work in and the result of
the build to read. -/
def signingStage (user group : String) : Stage :=
  { id := 4
    role := .signing
    name := "build and sign apk"
    base := .stage 0
    operation := .run (Text.unlines (signingLines user group)) "/" .empty
    mounts := [⟨Paths.work, .stage 3, false⟩, ⟨Paths.input, .stage 2, true⟩]
    output := "packages"
    exported := some Paths.result }

/-! ### Compilers -/

/-- A way to compile specs, given by settings that are in order. -/
structure Compiler where
  settings : Settings
  accepted : settings.validate = .ok ()

namespace Compiler

/-- The compiler with some settings, if they are in order. -/
def ofSettings (settings : Settings) : Except ConfigError Compiler :=
  match h : settings.validate with
  | .ok _ => .ok ⟨settings, h⟩
  | .error error => .error error

/-- The plan for a spec with its build script. -/
def plan (compiler : Compiler) (spec : Spec) (tree : SourceTree) (script : BuildScript) : Plan :=
  let settings := compiler.settings
  ⟨[environmentStage settings.baseImage spec.environment script.needs,
    sourceStage tree,
    buildStage spec.name spec.version script.text spec.build,
    manifestStage (Manifest.render spec),
    signingStage settings.builderUser settings.builderGroup]⟩

/-- Compiles a spec for a source tree: checks it, synthesizes its script and lays out the
stages. -/
def compile (compiler : Compiler) (spec : Spec) (tree : SourceTree) : CatalogM Plan :=
  match spec.checkPreconditions with
  | .error error => throw (.precondition error)
  | .ok _ => do return compiler.plan spec tree (← spec.synthesize)

end Compiler

end PackagePlan
