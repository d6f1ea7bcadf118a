import PackagePlan.Paths
import PackagePlan.Spec
import PackagePlan.Text.Replace

/-! # Script templates

A template holds placeholders of three scopes: the name and the version of the package, the
directory for its contents, and the inputs of the pipeline.  `substitute` puts values in for
them, scope by scope in this order, and deletes the placeholders of inputs that have no value:
a shell would refuse them. -/

namespace PackagePlan.Template

/-- The placeholder of the package's name. -/
def packageName : String := "$\x7b\x7bpackage.name\x7d\x7d"

/-- The placeholder of the package's version. -/
def packageVersion : String := "$\x7b\x7bpackage.version\x7d\x7d"

/-- The placeholder of the directory for the package's contents. -/
def outputDir : String := "$\x7b\x7btargets.contextdir\x7d\x7d"

/-- How the placeholder of an input starts. -/
def inputOpening : String := "$\x7b\x7binputs."

/-- How a placeholder ends. -/
def closing : String := "\x7d\x7d"

/-- The placeholder of the input with a name. -/
def inputPlaceholder (name : String) : String := inputOpening ++ name ++ closing

/-- The length of the input placeholder that a text starts with, if there is one; its name has
a character, and none that is a closing brace. -/
def placeholderLength? (text : List Char) : Option Nat :=
  if inputOpening.toList.isPrefixOf text then
    let afterOpening := text.drop inputOpening.length
    let name := afterOpening.takeWhile (· != '\x7d')
    if !name.isEmpty && closing.toList.isPrefixOf (afterOpening.drop name.length) then
      some (inputOpening.length + name.length + closing.length)
    else none
  else none

/-- Deletes the placeholders of inputs, whatever their names. -/
def stripUnresolved (text : String) : String :=
  String.ofList (Text.deleteMatches placeholderLength? text.toList)

/-- Puts in the name of the package, then its version. -/
def expandPackage (spec : Spec) (text : String) : String :=
  Text.replaceAll packageVersion spec.version (Text.replaceAll packageName spec.name text)

/-- Puts in the value of one input. -/
def expandInput (text : String) (input : String × String) : String :=
  Text.replaceAll (inputPlaceholder input.1) input.2 text

/-- Puts in the values of inputs, one after the other. -/
def expandInputs (inputs : List (String × String)) (text : String) : String :=
  inputs.foldl expandInput text

/-- The script that a template stands for. -/
def substitute (spec : Spec) (inputs : Table String) (template : String) : String :=
  let text := Text.replaceAll outputDir Paths.output (expandPackage spec template)
  stripUnresolved (expandInputs inputs.entries text)

end PackagePlan.Template
