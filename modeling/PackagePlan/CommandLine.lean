import PackagePlan.Catalog.Bundled
import PackagePlan.Compiler
import PackagePlan.Plan.Json
import PackagePlan.Plan.Listing
import PackagePlan.Settings.Toml
import PackagePlan.Spec.Yaml

/-! # The command line

`Command.ofArguments` reads the arguments, `Command.run` carries a command out, given the files
and variables around it.  A run gives what is printed and the exit code; it fails with the error
of its first phase that fails: settings, variables, spec, preconditions, steps. -/

namespace PackagePlan

/-! ### Arguments -/

/-- What the program is asked to do. -/
inductive Command where
  | compile (spec : String) (tree config : Option String) (json : Bool)
  | script (spec : String)
  | pipelines
  | version
  | help
deriving DecidableEq, Repr

/-- What has been read of the arguments of a command that takes a spec. -/
structure Options where
  spec : Option String := none
  tree : Option String := none
  config : Option String := none
  json : Bool := false

namespace Options

/-- Sets the path of the spec, which must not be empty. -/
def setSpec? (options : Options) (path : String) : Option Options :=
  if options.spec.isSome || path.isEmpty then none else some { options with spec := some path }

/-- Sets the name of the source tree. -/
def setTree? (options : Options) (name : String) : Option Options :=
  if options.tree.isSome then none else some { options with tree := some name }

/-- Sets the path of the settings, which must not be empty. -/
def setConfig? (options : Options) (path : String) : Option Options :=
  if options.config.isSome || path.isEmpty then none
  else some { options with config := some path }

/-- Asks for the plan as a data tree. -/
def setJson? (options : Options) : Option Options :=
  if options.json then none else some { options with json := true }

end Options

/-- The option that an argument starts with, and the value after its equals sign. -/
def splitOption (argument : List Char) : List Char × Option String :=
  let name := argument.takeWhile (· != '=')
  match argument.drop name.length with
  | [] => (name, none)
  | _ :: value => (name, some (String.ofList value))

/-- The argument is an option and not a value: it starts with a dash and is not one alone. -/
def isOption (argument : String) : Bool :=
  match argument.toList with
  | '-' :: _ :: _ => true
  | _ => false

/-- The arguments ask for help. -/
def isHelp (argument : String) : Bool :=
  argument == "--help" || "-h".toList.isPrefixOf argument.toList

namespace Command

/-- What the arguments of a command turn out to be. -/
inductive Parsed where
  | options (options : Options)
  | help

/-- Sets each of several paths. -/
def setPaths? (options : Options) : List String → Option Options
  | [] => some options
  | path :: paths => (options.setSpec? path).bind (setPaths? · paths)

/-- Reads the arguments of a command; `full` says that it takes the options of `compile`. -/
def parseOptions? (full : Bool) : Options → List String → Option Parsed
  | options, [] => some (.options options)
  | options, argument :: rest =>
    if argument == "--" then (setPaths? options rest).map .options
    else if isHelp argument then some .help
    else if isOption argument then
      let (name, value) := splitOption argument.toList
      let name := String.ofList name
      if !full then none
      else if name == "--json" then
        if value.isSome then none else options.setJson?.bind (parseOptions? full · rest)
      else if name == "--context" then
        match value, rest with
        | some value, rest => (options.setTree? value).bind (parseOptions? full · rest)
        | none, value :: rest =>
          if isOption value then none
          else (options.setTree? value).bind (parseOptions? full · rest)
        | none, [] => none
      else if name == "--config" then
        match value, rest with
        | some value, rest => (options.setConfig? value).bind (parseOptions? full · rest)
        | none, value :: rest =>
          if isOption value then none
          else (options.setConfig? value).bind (parseOptions? full · rest)
        | none, [] => none
      else none
    else (options.setSpec? argument).bind (parseOptions? full · rest)

/-- The command with options that have been read; a spec must be among them. -/
def ofParsed? (command : String → Options → Command) : Parsed → Option Command
  | .help => some .help
  | .options options => options.spec.map (command · options)

/-- Help is asked for in general or about one command. -/
def isHelpTopic : List String → Bool
  | [] => true
  | [topic] => ["compile", "script", "pipelines", "help"].contains topic
  | _ => false

/-- The command that arguments ask for, nothing if they are not in order. -/
def ofArguments? : List String → Option Command
  | [] => none
  | argument :: rest =>
    if argument == "compile" then
      (parseOptions? true {} rest).bind <|
        ofParsed? fun spec options => .compile spec options.tree options.config options.json
    else if argument == "script" then
      (parseOptions? false {} rest).bind <| ofParsed? fun spec _ => .script spec
    else if argument == "pipelines" then
      match rest with
      | [] => some .pipelines
      | "--" :: [] => some .pipelines
      | argument :: _ => if isHelp argument then some .help else none
    else if argument == "help" then if isHelpTopic rest then some .help else none
    else if isHelp argument then some .help
    else if argument == "--version" || "-V".toList.isPrefixOf argument.toList then some .version
    else none

end Command

/-! ### Surroundings -/

/-- Why a file cannot be read. -/
inductive FileFault where
  | notFound
  | denied
  | notDirectory
  | isDirectory
  | other (message : String)
deriving DecidableEq, Repr

/-- The wording of a fault of a file. -/
def FileFault.message : FileFault → String
  | notFound => "No such file or directory (os error 2)"
  | denied => "Permission denied (os error 13)"
  | notDirectory => "Not a directory (os error 20)"
  | isDirectory => "Is a directory (os error 21)"
  | other message => message

/-- What a run finds around it. -/
structure Surroundings where
  /-- The contents of the file at a path. -/
  contentsOf : String → Except FileFault (List UInt8)
  /-- The path of the default settings, if there is a file. -/
  defaultConfig : Option String
  /-- There is a place where the default settings would be. -/
  hasConfigPlace : Bool := true
  /-- The value of a variable. -/
  lookupVariable : String → Option String

/-- What a run prints and the code it ends with. -/
structure Outcome where
  code : UInt8
  stdout : String := ""
  stderr : String := ""
deriving DecidableEq, Repr

namespace Command

/-- The settings in a file. -/
def settingsAt (around : Surroundings) (path : String) : Except Error Settings :=
  match around.contentsOf path with
  | .error _ => .error (.config (.notFound path))
  | .ok bytes =>
    match Text.Utf8.decode bytes with
    | .error _ => .error (.config (.notFound path))
    | .ok text => (Settings.ofToml text).mapError .config

/-- The settings in the file that is asked for, or in the default file, or else the defaults. -/
def loadSettings (around : Surroundings) (path : Option String) : Except Error Settings :=
  match path with
  | some path => settingsAt around path
  | none =>
    if around.hasConfigPlace then
      match around.defaultConfig with
      | some path => settingsAt around path
      | none => .ok {}
    else .error (.config (.notFound "config directory"))

/-- The settings with those that variables override. -/
def mergeSettings (around : Surroundings) (settings : Settings) : Except Error Settings :=
  match settings.mergeVariables around.lookupVariable with
  | (.ok _, settings) => .ok settings
  | (.error error, _) => .error (.config error)

/-- The spec in a file. -/
def loadSpec (around : Surroundings) (path : String) : Except Error Spec :=
  match around.contentsOf path with
  | .error fault => .error (.file fault.message (some path))
  | .ok bytes => (Spec.ofBytes bytes).mapError fun fault => .schema (.specParse fault)

/-- The answer of a computation on the bundled catalog. -/
def onBundled {α : Type} (m : CatalogM α) : Except Error α := (m.run Catalog.bundled).1

/-- Compiles the spec in a file. -/
def compilePlan (around : Surroundings) (spec : String) (tree config : Option String) :
    Except Error Plan := do
  let settings ← loadSettings around config
  let settings ← mergeSettings around settings
  let spec ← loadSpec around spec
  let compiler ← (Compiler.ofSettings settings).mapError .config
  onBundled (compiler.compile spec ((tree.map SourceTree.mk).getD spec.sourceTree))

/-- The build script for the spec in a file, made by a compiler with the default settings. -/
def buildScript (around : Surroundings) (spec : String) : Except Error BuildScript := do
  let spec ← loadSpec around spec
  let _ ← (Compiler.ofSettings {}).mapError .config
  onBundled spec.synthesize

/-- The version of the program. -/
def versionText : String := "apkforge 0.1.0\n"

/-- How the program is used. -/
def usageText : String :=
  Text.unlines
    ["Compile apk package specs into container build plans",
     "",
     "Usage: apkforge <COMMAND>",
     "",
     "Commands:",
     "  compile    Compile a spec into a build plan",
     "  script     Print only the synthesized build script",
     "  pipelines  List bundled pipelines",
     "  help       Print this message"]

/-- The text that a command prints when it succeeds. -/
def output (around : Surroundings) : Command → Except Error String
  | compile spec tree config json =>
    (compilePlan around spec tree config).map fun plan =>
      if json then plan.toJson.pretty ++ "\n" else plan.listing
  | script spec => (buildScript around spec).map BuildScript.text
  | pipelines => .ok (Text.unlines Catalog.bundled.names)
  | version => .ok versionText
  | help => .ok usageText

/-- Carries a command out; `words` are those of the parsers. -/
def run (around : Surroundings) (command : Command) (words : Wording := .silent) : Outcome :=
  match command.output around with
  | .ok text => { code := 0, stdout := text }
  | .error error => { code := 1, stderr := s!"Error: {error.shown words}\n" }

/-- The files that a command reads, apart from the default settings. -/
def paths : Command → List String
  | compile spec _ config _ => spec :: config.toList
  | script spec => [spec]
  | _ => []

end Command

/-- Carries out what arguments ask for. -/
def runArguments (around : Surroundings) (arguments : List String)
    (words : Wording := .silent) : Outcome :=
  match Command.ofArguments? arguments with
  | some command => command.run around words
  | none => { code := 2, stderr := Command.usageText }

end PackagePlan
