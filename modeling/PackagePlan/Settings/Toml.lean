import PackagePlan.Settings
import PackagePlan.Toml.Document

/-! # Settings documents

The settings are the members of the table `compiler`, or the items of a list in its place, in a
fixed order.  What is left out has its default, what is not known is passed over. -/

namespace PackagePlan.Settings

open Toml (Value)

/-- A text that may be left out. -/
def readText? (missing : String) : Option Value → Option String
  | none => some missing
  | some (.text s) => some s
  | some _ => none

/-- The settings among the members of a table. -/
def ofMembers? (entries : List (String × Value)) : Option Settings := do
  let defaults : Settings := {}
  return { baseImage := ← readText? defaults.baseImage (Value.find? "base_image" entries)
           builderUser := ← readText? defaults.builderUser (Value.find? "builder_user" entries)
           builderGroup :=
             ← readText? defaults.builderGroup (Value.find? "builder_group" entries) }

/-- The settings in a list. -/
def ofItems? (items : List Value) : Option Settings := do
  let defaults : Settings := {}
  return { baseImage := ← readText? defaults.baseImage items[0]?
           builderUser := ← readText? defaults.builderUser items[1]?
           builderGroup := ← readText? defaults.builderGroup items[2]? }

/-- The settings that a document holds. -/
def ofDocument? : Value → Option Settings
  | .table _ entries =>
    match Value.find? "compiler" entries with
    | none => some {}
    | some (.table _ entries) => ofMembers? entries
    | some (.list items) => ofItems? items
    | some _ => none
  | _ => none

/-- Reads settings from a document and checks them. -/
def ofToml (text : String) : Except ConfigError Settings :=
  match (Toml.parse? text).bind ofDocument? with
  | none => .error (.parse (.refusal .settings text))
  | some settings => settings.validate.map fun _ => settings

end PackagePlan.Settings
