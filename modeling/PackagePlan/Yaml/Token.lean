import PackagePlan.Yaml.Cursor

/-! # Tokens

The words of the format: indicators, the starts and ends of collections, of which those of
block collections come from the indentation alone, node properties and scalars. -/

namespace PackagePlan.Yaml

/-- How a scalar is written. -/
inductive Style where
  | plain
  | singleQuoted
  | doubleQuoted
  | literal
  | folded
deriving DecidableEq, Repr

/-- A word of a document. -/
inductive Token where
  | streamEnd
  | versionDirective (major minor : Nat)
  | tagDirective (handle expansion : String)
  | documentStart
  | documentEnd
  | blockSequenceStart
  | blockMappingStart
  | blockEnd
  | flowSequenceStart
  | flowSequenceEnd
  | flowMappingStart
  | flowMappingEnd
  | blockEntry
  | flowEntry
  | key
  | value
  | alias (name : String)
  | anchor (name : String)
  | tag (handle suffix : String)
  | scalar (text : String) (style : Style)
deriving DecidableEq, Repr

/-- A token and the place where it starts. -/
structure Located where
  mark : Mark
  token : Token
deriving DecidableEq, Repr

end PackagePlan.Yaml
