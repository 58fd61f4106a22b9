import ApiContract.Exchange
import ApiContract.Proofs.References
import ApiContract.Proofs.RoundingOrder

/-!
# Integers against integer schemas

A root schema that asks for an integer, and holds none of the keywords that are
checked before the type, checks an integer against its own bounds and divisor.
The conversion to a double decides all of it.
-/

namespace ApiContract

namespace Json

/-- A node that asks for an integer, refers to no component, and holds no
keyword that is checked before the type. -/
structure AsksInteger (node : Json) : Prop where
  final : node.reference? = none
  integer : node.get? "type" = some (.string "integer")
  unlisted : node.get? "enum" = none
  uncombined : ∀ combinator : Combinator, node.get? combinator.keyword = none

theorem binary64?_ofInt (n : Int) : (ofInt n).binary64? = some (Binary64.ofInt n) := by
  unfold ofInt Number.ofInt
  split <;> rfl

end Json

namespace Checker
variable {checker : Checker} {node : Json} {path : Path} {depth : Nat}

/-- The constraints that a node of its own puts on a number. -/
def ownRanges (checker : Checker) (node : Json) (path : Path) (x : Binary64) : Verdict :=
  let number? (keyword : String) : Option Binary64 := (node.get? keyword).bind Json.binary64?
  .all
    [minimumVerdict x (number? "minimum") (isOn (node.get? "exclusiveMinimum")) path,
      exclusiveMinimumVerdict x (number? "exclusiveMinimum") path,
      maximumVerdict x (number? "maximum") (isOn (node.get? "exclusiveMaximum")) path,
      exclusiveMaximumVerdict x (number? "exclusiveMaximum") path,
      multipleVerdict checker.settings.multipleOfEpsilon x (number? "multipleOf") path]

theorem rangeVerdict_root (hfinal : node.reference? = none) (x : Binary64) :
    checker.rangeVerdict (.root node) path x = .ok (checker.ownRanges node path x) := by
  have hlookup (keyword : String) :
      checker.resolver.lookup (.root node) keyword = .ok (node.get? keyword) :=
    Resolver.lookup_root_of_end hfinal
  unfold rangeVerdict Resolver.number?
  simp only [hlookup]
  rfl

theorem declaredAmong_root (asks : node.AsksInteger) (combinators : List Combinator) :
    checker.declaredAmong (.root node) combinators = .ok [] := by
  induction combinators with
  | nil => rfl
  | cons combinator rest ih =>
    have hlookup : checker.resolver.lookup (.root node) combinator.keyword = .ok none := by
      rw [Resolver.lookup_root_of_end asks.final, asks.uncombined combinator]
    unfold declaredAmong
    rw [hlookup, ih]
    rfl

/-- The verdict on an integer: that of the constraints, and one more entry if they reject it. -/
def ownVerdict (checker : Checker) (node : Json) (path : Path) (n : Int) : Verdict :=
  let ranges := checker.ownRanges node path (.ofInt n)
  if ranges.accepted then ranges else ranges.and (.reject path .integerConstraints)

theorem integerVerdict_root (hfinal : node.reference? = none) (n : Int) :
    checker.integerVerdict (.root node) path (.ofInt n) = .ok (checker.ownVerdict node path n) := by
  have hnumber : checker.numberVerdict (.root node) path (.ofInt n) =
      .ok (checker.ownRanges node path (.ofInt n)) := by
    unfold numberVerdict
    rw [Json.binary64?_ofInt]
    exact rangeVerdict_root hfinal _
  unfold integerVerdict ownVerdict
  rw [hnumber, Json.binary64?_ofInt]
  generalize checker.ownRanges node path (.ofInt n) = ranges
  obtain ⟨accepted, entries⟩ := ranges
  cases accepted with
  | false => rfl
  | true =>
    show Except.ok (Verdict.and ⟨true, entries⟩ (.rejectIf (!(Binary64.ofInt n).isWhole) path _)) = _
    rw [Binary64.isWhole_ofInt]
    exact congrArg Except.ok (Verdict.and_accept _)

theorem checkWithin_integer (asks : node.AsksInteger) (n : Int) :
    (checker.checkWithin (depth + 1) (.root node) path (.ofInt n)).outcome =
      .ok (checker.ownVerdict node path n) := by
  have hlookup (keyword : String) :
      checker.resolver.lookup (.root node) keyword = .ok (node.get? keyword) :=
    Resolver.lookup_root_of_end asks.final
  have hexempt : checker.exempts (.root node) (.ofInt n) = .ok false := rfl
  have htype : checker.resolver.effectiveType (.root node) = .ok (.known .integer) := by
    unfold Resolver.effectiveType
    rw [hlookup, asks.integer]
    rfl
  unfold checkWithin checkNode
  rw [hlookup, asks.unlisted, hexempt, declaredAmong_root asks]
  show (checker.checkType _ _ _ _).outcome = _
  unfold checkType
  rw [htype]
  show checker.integerVerdict (.root node) path (.ofInt n) = _
  exact integerVerdict_root asks.final n

end Checker

/-- The report on an integer is that of the schema's own constraints. -/
theorem Validator.validate_integer (validator : Validator) (root : String) (exchange : Exchange)
    {node : Json} (asks : node.AsksInteger) (n : Int) :
    (validator.validate (.ofInt n) node root exchange).1 =
      .ok ((validator.checker exchange.direction).ownVerdict node (.ofRoot root) n).report := by
  rw [validate_eq]
  show Except.map _ _ = _
  rw [Checker.checkWithin_integer asks n]
  rfl

end ApiContract
