import PackagePlan.CommandLine

/-! # The program

Collects the files and variables that a command may ask for, carries it out and prints. -/

namespace PackagePlan.Program

/-- What the program says of documents. -/
def wording : Wording where
  refusal _ _ := "the document cannot be read"
  placed _ message := message

/-- Why a file could not be read. -/
def faultOf : IO.Error → FileFault
  | .noFileOrDirectory .. => .notFound
  | .permissionDenied .. => .denied
  | .inappropriateType _ code _ => if code = 20 then .notDirectory else .isDirectory
  | error => .other (toString error)

/-- The contents of a file. -/
def readBytes (path : String) : IO (Except FileFault (List UInt8)) := do
  match ← (IO.FS.readBinFile path).toBaseIO with
  | .ok bytes => return .ok bytes.toList
  | .error error => return .error (faultOf error)

/-- The path of the default settings, below the directory for settings. -/
def defaultConfigPath : IO (Option String) := do
  let home := (← IO.getEnv "HOME").map (· ++ "/.config")
  let chosen := (← IO.getEnv "XDG_CONFIG_HOME").filter fun dir => "/".toList.isPrefixOf dir.toList
  return (chosen <|> home).map (· ++ "/apkforge/config.toml")

/-- Finds what is around the program. -/
def surroundings (command : Option Command) : IO Surroundings := do
  let place ← defaultConfigPath
  let mut config := none
  if let some path := place then
    let missing := (← readBytes path) matches .error .notFound | .error .notDirectory
    if !missing then config := some path
  let paths := ((command.map Command.paths).getD []) ++ config.toList
  let files ← paths.mapM fun path => return (path, ← readBytes path)
  let names := [Settings.imageVariable, Settings.userVariable]
  let values ← names.mapM fun name => return (name, ← IO.getEnv name)
  return {
    contentsOf := fun path => ((files.find? (·.1 == path)).map (·.2)).getD (.error .notFound)
    defaultConfig := config
    hasConfigPlace := place.isSome
    lookupVariable := fun name => (values.find? (·.1 == name)).bind (·.2) }

end PackagePlan.Program

open PackagePlan in
/-- Runs the program. -/
def main (arguments : List String) : IO UInt32 := do
  let around ← Program.surroundings (Command.ofArguments? arguments)
  let outcome := runArguments around arguments Program.wording
  IO.print outcome.stdout
  IO.eprint outcome.stderr
  return outcome.code.toUInt32
