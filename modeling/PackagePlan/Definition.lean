import PackagePlan.Argument
import PackagePlan.Error
import PackagePlan.Table

/-! # Pipeline definitions

A pipeline is a script template with named inputs and the packages that the script needs. -/

namespace PackagePlan

/-- An input of a pipeline. -/
structure Input where
  description : Option String := none
  /-- The value that the input has when no argument is passed for it. -/
  default : Option String := none
  /-- An argument must be passed for the input. -/
  required : Bool := false
deriving DecidableEq

/-- A pipeline that steps can use. -/
structure Definition where
  /-- The name that the pipeline is looked up by. -/
  id : String := ""
  title : String := ""
  /-- The packages that the script needs. -/
  needs : List String := []
  inputs : Table Input := .empty
  /-- The script template. -/
  runs : String := ""
deriving DecidableEq

end PackagePlan
