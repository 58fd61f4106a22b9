import ApiContract.Proofs.Accounting
import ApiContract.Proofs.Parts

/-!
# What an object is told

The entries of an object check, phase by phase: required properties, declared
properties, `not`, counts and additional properties.  Each name and each member
contributes a part of its own, in order, whatever the others contribute.
-/

namespace ApiContract

/-- The flag that puts a property out of place in a direction. -/
def Direction.mark : Direction → String
  | request => "readOnly"
  | response => "writeOnly"

namespace Checker

section Phases
variable (checker : Checker) (depth : Nat) (path : Path) (fields declared : List (String × Json))

end Phases

variable {checker : Checker} {depth : Nat} {scope : Scope} {path : Path}
  {fields declared : List (String × Json)} {verdict : Verdict}

end Checker

end ApiContract
