import PackagePlan.Error
import PackagePlan.Text.Blank

/-! # Settings

The image that the environment starts from, and the account that makes the package.  Its user
and group stand unquoted in scripts, so they have to be plain account names.  Two variables of
the process override settings. -/

namespace PackagePlan

/-- What can be set about compiling. -/
structure Settings where
  baseImage : String := "alpine:3.23"
  builderUser : String := "builder"
  builderGroup : String := "abuild"
deriving DecidableEq, Repr

/-- A lower-case letter or an underscore. -/
def isAccountStart (c : Char) : Bool := ('a' ≤ c && c ≤ 'z') || c == '_'

/-- A character of an account name after the first. -/
def isAccountChar (c : Char) : Bool := isAccountStart c || ('0' ≤ c && c ≤ '9') || c == '-'

/-- The text is a plain account name. -/
def isAccountName (name : String) : Bool :=
  match name.toList with
  | [] => false
  | c :: rest => isAccountStart c && rest.all isAccountChar

namespace Settings

/-- Checks the account: its user, then its group. -/
def validate (settings : Settings) : Except ConfigError Unit :=
  if !isAccountName settings.builderUser then
    .error (.invalidValue "builder_user" settings.builderUser)
  else if !isAccountName settings.builderGroup then
    .error (.invalidValue "builder_group" settings.builderGroup)
  else .ok ()

/-! ### Variables -/

/-- The variable that overrides the base image. -/
def imageVariable : String := "APKFORGE_BASE_IMAGE"

/-- The variable that overrides the builder's user name. -/
def userVariable : String := "APKFORGE_BUILDER_USER"

/-- Sets the user from its variable, then checks the account. -/
def mergeUser (lookup : String → Option String) (settings : Settings) :
    Except ConfigError Unit × Settings :=
  match lookup userVariable with
  | none => (settings.validate, settings)
  | some user =>
    if Text.isBlank user then (.error (.invalidValue userVariable user), settings)
    else
      let settings := { settings with builderUser := user }
      (settings.validate, settings)

/-- Sets the base image and the user from their variables, neither of which may be blank, and
checks the account.  What has been set before a failure stays. -/
def mergeVariables (lookup : String → Option String) (settings : Settings) :
    Except ConfigError Unit × Settings :=
  match lookup imageVariable with
  | none => settings.mergeUser lookup
  | some image =>
    if Text.isBlank image then (.error (.invalidValue imageVariable image), settings)
    else mergeUser lookup { settings with baseImage := image }

end Settings

end PackagePlan
