import ApiContract.Digest.Sha256
import ApiContract.Proofs.CanonicalText
import ApiContract.Proofs.Objects

/-!
# What an array is told

The entries of an array check: its counts, its first repeated item, and then each
item's own part in order.  A search for repeats remembers the texts it has seen with
their positions; it stops at the first text that it has seen before, and the items
are checked whether it stops or not.
-/

namespace ApiContract

/-! ### The first repeat -/

section Search
variable {seen : List (List Char × Nat)} {passed : List (List Char)} {text : List Char}

end Search

/-! ### Repeated items -/

/-- The item at `j` is equal to an earlier one at `i`. -/
def Json.Repeats (items : List Json) (i j : Nat) : Prop :=
  i < j ∧ ∃ a b, items[i]? = some a ∧ items[j]? = some b ∧ a.same b = true

section Repeats
variable {items : List Json} {path : Path}

end Repeats

/-! ### The entries of an array check -/

namespace Checker

section Items
variable (checker : Checker) (depth : Nat) (path : Path) (items : List Json)

end Items

variable {checker : Checker} {depth : Nat} {scope : Scope} {path : Path} {items : List Json}
  {verdict : Verdict} {repeated : Bool → List Entry → Prop} (off : repeated false [])
  (on : repeated true (duplicateVerdict path items).entries)
include off on

end Checker

end ApiContract
