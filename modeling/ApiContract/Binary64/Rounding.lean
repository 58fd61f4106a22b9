import ApiContract.Binary64

/-!
# Rounding to binary64

One rounding: a ratio of naturals, counted in units, goes to the nearest
magnitude, and a tie to the even rank.  Conversion, product, quotient and
difference are the exact result followed by that rounding.
-/

namespace ApiContract
namespace Binary64

/-- A rounded result: a finite double, or beyond the largest one. -/
inductive Rounded where
  | finite (x : Binary64)
  | infinite (negative : Bool)
  deriving DecidableEq

/-! ### The rounding -/

/-- `num / den` to the nearest natural, a tie to the even one. -/
def nearestEven (num den : Nat) : Nat :=
  let quotient := num / den
  let twice := 2 * (num % den)
  if twice < den then quotient
  else if den < twice then quotient + 1
  else if quotient % 2 = 0 then quotient else quotient + 1

/-- Rank of the magnitude nearest to `num / den` units.

With `shift` chosen so that the significand has at most 53 bits, the rank is
`shift * 2 ^ 52 + significand`; a significand that rounds up to `2 ^ 53`
carries into the next binade. -/
def rankOfRatio (num den : Nat) : Nat :=
  let shift := (num / den).log2 - 52
  shift * 2 ^ 52 + nearestEven num (den * 2 ^ shift)

/-- The double nearest to `num / den` units. -/
def ofRatio (negative : Bool) (num den : Nat) : Rounded :=
  let rank := rankOfRatio num den
  if finite : rank < 2047 * 2 ^ 52 then .finite ⟨negative, rank, finite⟩ else .infinite negative

namespace Rounded

/-- The finite double, if there is one. -/
def toFinite? : Rounded → Option Binary64
  | finite x => some x
  | infinite _ => none

/-- The finite double, or the largest one of the same sign. -/
def clamp : Rounded → Binary64
  | finite x => x
  | infinite negative => largest negative

/-- Whether a finite double is at most a rounded result. -/
def isAtLeast (r : Rounded) (x : Binary64) : Bool :=
  match r with
  | finite y => x.le y
  | infinite negative => !negative

end Rounded

/-! ### Arithmetic -/

/-- The double nearest to an integer; integers out of range are clamped. -/
def ofInt (n : Int) : Binary64 :=
  (ofRatio (decide (n < 0)) (n.natAbs * unitsOfOne) 1).clamp

/-- The double nearest to `num / den`. -/
def ofFraction (num den : Nat) : Rounded := ofRatio false (num * unitsOfOne) den

/-- Product. -/
def mul (x y : Binary64) : Rounded :=
  ofRatio (x.negative != y.negative) (x.magnitude * y.magnitude) unitsOfOne

/-- Quotient by a double that is not zero. -/
def div (x y : Binary64) : Rounded :=
  ofRatio (x.negative != y.negative) (x.magnitude * unitsOfOne) y.magnitude

/-- Difference. -/
def sub (x y : Binary64) : Rounded :=
  let difference := x.units - y.units
  ofRatio (decide (difference < 0)) difference.natAbs 1

/-- The nearest whole number, a half away from zero. -/
def round (x : Binary64) : Binary64 :=
  let whole := (2 * x.magnitude + unitsOfOne) / (2 * unitsOfOne)
  (ofRatio x.negative (whole * unitsOfOne) 1).clamp

/-- Whether the exact remainder of `x` by `y` is zero. -/
def divides (y x : Binary64) : Bool := x.magnitude % y.magnitude == 0

end Binary64
end ApiContract
