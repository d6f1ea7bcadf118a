import PackagePlan.Paths
import PackagePlan.Script
import PackagePlan.Text.Lines

/-! # Setting up the build environment

The script that enables the repositories of a spec, one line each, and installs packages: those
of the spec, then those that its pipelines need, each once. -/

namespace PackagePlan.InstallScript

/-- A control character of either of the two control blocks. -/
def isControl (c : Char) : Bool := c.toNat < 0x20 || (0x7F ≤ c.toNat && c.toNat ≤ 0x9F)

/-- A hexadecimal digit in lower case. -/
def hexDigit (n : Nat) : Char := if n < 10 then Char.ofNat (48 + n) else Char.ofNat (87 + n)

/-- A character inside a quoted word: quotes, backslashes and line ends after a backslash, other
control characters by two hexadecimal digits. -/
def quoteChar (c : Char) : List Char :=
  if c = '"' then ['\\', '"']
  else if c = '\\' then ['\\', '\\']
  else if c = '\n' then ['\\', 'n']
  else if c = '\r' then ['\\', 'r']
  else if c = '\t' then ['\\', 't']
  else if isControl c then ['\\', 'x', hexDigit (c.toNat / 16), hexDigit (c.toNat % 16)]
  else [c]

/-- The text as a word between double quotes. -/
def quote (s : String) : String := String.ofList ('"' :: s.toList.flatMap quoteChar ++ ['"'])

/-- The line that enables a repository. -/
def repositoryLine (repository : String) : String :=
  s!"echo {quote repository} >> {Paths.repositories}"

/-- The packages to install: those of the environment, then the needed ones, each once. -/
def packages (environment : Environment) (needs : List String) : List String :=
  appendMissing [] (environment.packages ++ needs)

/-- The line that installs packages, none if there are none. -/
def packageLines (packages : List String) : List String :=
  if packages.isEmpty then [] else ["apk add --no-cache " ++ " ".intercalate packages]

/-- The lines of the script. -/
def lines (environment : Environment) (needs : List String) : List String :=
  "set -e" :: environment.repositories.map repositoryLine
    ++ packageLines (packages environment needs)

/-- The script that sets the environment up. -/
def render (environment : Environment) (needs : List String) : String :=
  Text.unlines (lines environment needs)

end PackagePlan.InstallScript
