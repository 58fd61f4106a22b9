import ApiContract.Check.Dispatch
import ApiContract.Proofs.Outcome
import Mathlib.Data.List.Forall2

/-!
# Verdicts and their parts

A check of several things in order comes to a verdict exactly if the check of each
of them does, and its entries are theirs, one part after the other.
-/

namespace ApiContract

namespace Resolver
variable {resolver : Resolver} {scope : Scope} {keyword : String} {count : Nat} {path : Path}
  {cause : Nat → Cause} {verdict : Verdict}

end Resolver

/-- A check adds to an empty sink what it finds, and nothing else. -/
theorem Checker.checkInto_empty {checker : Checker} {depth : Nat} {scope : Scope} {path : Path}
    {value : Json} {verdict : Verdict}
    (h : (checker.checkWithin depth scope path value).outcome = .ok verdict) :
    (checker.checkInto depth scope path value .empty).outcome =
      .ok (verdict.accepted, ⟨verdict.entries⟩) := by
  unfold checkInto
  rw [Run.outcome_bind, h]
  rfl

end ApiContract
