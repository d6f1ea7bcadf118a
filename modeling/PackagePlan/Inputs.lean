import PackagePlan.Definition
import PackagePlan.Template

/-! # Inputs of a step

The arguments of a step are checked against the inputs that the pipeline declares and then
merged with the defaults.  A default does not stand in for a required argument. -/

namespace PackagePlan.Definition
variable (d : Definition)

/-- The names of the inputs, in ascending order. -/
def inputNames : List String := d.inputs.keys

/-- The first argument that is no input. -/
def unknownKey? (arguments : Table Argument) : Option String :=
  arguments.keys.find? fun key => !d.inputs.contains key

/-- What is wrong with the value of an input, if anything: only a required one must have an
argument, with a visible text. -/
def inputFault? (arguments : Table Argument) (step : Nat) (name : String) (input : Input) :
    Option ValidationError :=
  if input.required then
    match arguments.get? name with
    | none => some (.missingInput step d.id name)
    | some argument => if argument.isBlank then some (.blankInput step d.id name) else none
  else none

/-- Checks the arguments of a step: first that each is an input, then that each required input
has a value. -/
def validate (arguments : Table Argument) (step : Nat) : Except ValidationError Unit :=
  match d.unknownKey? arguments with
  | some key => .error (.unknownInput step d.id key d.inputNames)
  | none =>
    match d.inputs.entries.findSome? fun e => d.inputFault? arguments step e.1 e.2 with
    | some error => .error error
    | none => .ok ()

/-- The values of the inputs: defaults, replaced by the arguments, with the package's name and
version put in. -/
def mergeInputs (arguments : Table Argument) (spec : Spec) : Table String :=
  let defaults := d.inputs.mapValues fun _ input =>
    Template.expandPackage spec (input.default.getD "")
  defaults.insertAll <| arguments.entries.map fun e =>
    (e.1, Template.expandPackage spec e.2.toText)

/-- The values of the inputs for arguments that are in order. -/
def resolveInputs (arguments : Table Argument) (spec : Spec) (step : Nat) :
    Except ValidationError (Table String) :=
  match d.validate arguments step with
  | .error error => .error error
  | .ok _ => .ok (d.mergeInputs arguments spec)

end PackagePlan.Definition
