import PackagePlan.Number.Range
import PackagePlan.Number.Shortest
import PackagePlan.Text.Blank
import PackagePlan.Yaml.Datum

/-! # Arguments

A step passes scalars to the pipeline that it uses.  An `Argument` keeps what was written: a
truth value, a whole number, a floating-point number or text.  Scripts receive its `text`. -/

namespace PackagePlan

/-- A value passed to an input of a pipeline. -/
inductive Argument where
  | boolean (value : Bool)
  | integer (value : Int64)
  /-- A whole number beyond the signed range. -/
  | unsigned (value : UInt64)
  | real (value : Binary64)
  | text (value : String)
deriving DecidableEq

namespace Argument

/-- The argument as it stands in a script. -/
def toText : Argument → String
  | boolean b => if b then "true" else "false"
  | integer n => toString n.toInt
  | unsigned n => toString n.toNat
  | real x => String.ofList x.text
  | text s => s

/-- The argument is text without a visible character. -/
def isBlank : Argument → Bool
  | text s => Text.isBlank s
  | _ => false

/-- A whole number of 64 bits: signed if it fits, else unsigned. -/
def ofInt (n : Int) : Argument :=
  if Number.FitsInt64 n then integer (Int64.ofInt n) else unsigned (UInt64.ofNat n.toNat)

/-- The argument that a scalar means; nothing is no argument. -/
def ofDatum? : Yaml.Datum → Option Argument
  | .null => none
  | .boolean b => some (boolean b)
  | .integer n => some (ofInt n)
  | .real x => some (real x)
  | .text s => some (text s)

end Argument

end PackagePlan
