import ApiContract.Check.Checker

/-!
# Numbers and integers

Ranges and multiples are checked on doubles; every violated constraint is
reported.  Exclusive bounds are flags beside `minimum` and `maximum` or numbers
of their own.
-/

namespace ApiContract

/-- Whether `x` is a multiple of the positive `divisor`.  Without a tolerance the
exact remainder must be zero.  With one, the quotient may be off the nearest
integer, which must not be zero, by the tolerance relative to the quotient. -/
def Binary64.isMultipleOf (epsilon x divisor : Binary64) : Bool :=
  if epsilon.eq .zero then divisor.divides x
  else
    match Binary64.div x divisor with
    | .infinite _ => false
    | .finite quotient =>
      let nearest := quotient.round
      if nearest.eq .zero then x.eq .zero
      else
        match Binary64.sub quotient nearest with
        | .infinite _ => false
        | .finite distance =>
          (Binary64.mul epsilon (quotient.abs.max .one)).isAtLeast distance.abs

namespace Checker

/-- The verdict of `minimum` and its flag. -/
def minimumVerdict (x : Binary64) (minimum? : Option Binary64) (exclusive : Bool) (path : Path) :
    Verdict :=
  match minimum? with
  | none => .accept
  | some minimum =>
    if exclusive then .rejectIf (x.le minimum) path (.notAboveExclusiveMinimum x minimum)
    else .rejectIf (x.lt minimum) path (.belowMinimum x minimum)

/-- The verdict of an exclusive minimum that is a number. -/
def exclusiveMinimumVerdict (x : Binary64) (minimum? : Option Binary64) (path : Path) : Verdict :=
  match minimum? with
  | none => .accept
  | some minimum => .rejectIf (x.le minimum) path (.notAboveExclusiveMinimum x minimum)

/-- The verdict of `maximum` and its flag. -/
def maximumVerdict (x : Binary64) (maximum? : Option Binary64) (exclusive : Bool) (path : Path) :
    Verdict :=
  match maximum? with
  | none => .accept
  | some maximum =>
    if exclusive then .rejectIf (maximum.le x) path (.notBelowExclusiveMaximum x maximum)
    else .rejectIf (maximum.lt x) path (.aboveMaximum x maximum)

/-- The verdict of an exclusive maximum that is a number. -/
def exclusiveMaximumVerdict (x : Binary64) (maximum? : Option Binary64) (path : Path) : Verdict :=
  match maximum? with
  | none => .accept
  | some maximum => .rejectIf (maximum.le x) path (.notBelowExclusiveMaximum x maximum)

/-- The verdict of `multipleOf`; a divisor that is not positive is ignored. -/
def multipleVerdict (epsilon x : Binary64) (divisor? : Option Binary64) (path : Path) : Verdict :=
  match divisor? with
  | none => .accept
  | some divisor =>
    .rejectIf (!divisor.le .zero && !Binary64.isMultipleOf epsilon x divisor) path
      (.notMultipleOf x divisor)

/-- A flag beside a bound; anything but `true` is off. -/
def isOn (flag? : Option Json) : Bool := (flag?.bind Json.bool?).getD false

/-- The constraints on a number. -/
def rangeVerdict (checker : Checker) (scope : Scope) (path : Path) (x : Binary64) :
    Except Fault Verdict := do
  let resolver := checker.resolver
  let exclusiveMinimum ← resolver.lookup scope "exclusiveMinimum"
  let exclusiveMaximum ← resolver.lookup scope "exclusiveMaximum"
  let minimum ← resolver.number? scope "minimum"
  let maximum ← resolver.number? scope "maximum"
  let divisor ← resolver.number? scope "multipleOf"
  return .all
    [minimumVerdict x minimum (isOn exclusiveMinimum) path,
      exclusiveMinimumVerdict x (exclusiveMinimum.bind Json.binary64?) path,
      maximumVerdict x maximum (isOn exclusiveMaximum) path,
      exclusiveMaximumVerdict x (exclusiveMaximum.bind Json.binary64?) path,
      multipleVerdict checker.settings.multipleOfEpsilon x divisor path]

/-- The verdict of a number schema. -/
def numberVerdict (checker : Checker) (scope : Scope) (path : Path) (value : Json) :
    Except Fault Verdict :=
  match value.binary64? with
  | none => .ok (.wrongType path "number" value)
  | some x => checker.rangeVerdict scope path x

/-- The verdict of an integer schema: that of a number schema, then wholeness. -/
def integerVerdict (checker : Checker) (scope : Scope) (path : Path) (value : Json) :
    Except Fault Verdict := do
  let verdict ← checker.numberVerdict scope path value
  if !verdict.accepted then return verdict.and (.reject path .integerConstraints)
  else
    match value.binary64? with
    | some x => return verdict.and (.rejectIf (!x.isWhole) path (.notAnInteger x))
    | none => return verdict.and (.reject path .integerConstraints)

end Checker
end ApiContract
