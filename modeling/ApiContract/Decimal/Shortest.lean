import ApiContract.Binary64

/-!
# Shortest decimals

The decimal with the fewest digits that reads back as a given double.  For each
count of digits the two neighbours of the value on that decimal grid are tried;
the first count with a neighbour inside the interval of the double wins, and of
two such neighbours the nearer one.
-/

namespace ApiContract

/-- The decimal `coefficient * 10 ^ exponent`. -/
structure Decimal where
  coefficient : Nat
  exponent : Int
  deriving DecidableEq, Inhabited

/-- Which of two equally near decimals is taken. -/
inductive TieRule where
  | toEven
  | up
  deriving DecidableEq

namespace Decimal

/-- `num / den` over `10 ^ exponent`, as a numerator and a denominator. -/
def overPower (num den : Nat) (exponent : Int) : Nat × Nat :=
  match exponent with
  | .ofNat e => (num, den * 10 ^ e)
  | .negSucc e => (num * 10 ^ (e + 1), den)

/-- Whether `10 ^ exponent ≤ num / den`. -/
def reaches (num den : Nat) (exponent : Int) : Bool :=
  let (n, d) := overPower num den exponent
  decide (d ≤ n)

/-- Exponent of the leading digit of `num / den`: an estimate from the binary
logarithms, corrected by one either way. -/
def leadingExponent (num den : Nat) : Int :=
  let binary : Int := (num.log2 : Int) - den.log2
  let estimate := binary * 30103 / 100000
  if reaches num den (estimate + 1) then estimate + 1
  else if reaches num den estimate then estimate
  else estimate - 1

/-- Moves factors of ten from the coefficient to the exponent, at most `fuel`. -/
def stripZeros : Nat → Decimal → Decimal
  | 0, d => d
  | fuel + 1, d =>
    if d.coefficient % 10 = 0 ∧ d.coefficient ≠ 0 then
      stripZeros fuel ⟨d.coefficient / 10, d.exponent + 1⟩
    else d

/-! ### The interval of a double -/

/-- Twice the units of a decimal, as a numerator and a denominator. -/
def twiceUnits (d : Decimal) : Nat × Nat :=
  match d.exponent with
  | .ofNat e => (2 * d.coefficient * 10 ^ e * Binary64.unitsOfOne, 1)
  | .negSucc e => (2 * d.coefficient * Binary64.unitsOfOne, 10 ^ (e + 1))

/-- Whether a decimal rounds to the magnitude of rank `r`: it lies between the
midpoints to the neighbouring magnitudes, ends included iff the rank is even. -/
def readsAs (d : Decimal) (r : Nat) : Bool :=
  let low := Binary64.unitsOfRank (r - 1) + Binary64.unitsOfRank r
  let high := Binary64.unitsOfRank r + Binary64.unitsOfRank (r + 1)
  let (num, den) := d.twiceUnits
  if r % 2 = 0 then decide (low * den ≤ num) && decide (num ≤ high * den)
  else decide (low * den < num) && decide (num < high * den)

/-! ### The search -/

/-- The neighbour of `num / den` with `count` digits that reads as rank `r`. -/
def withDigits? (tie : TieRule) (r num den : Nat) (lead : Int) (count : Nat) : Option Decimal :=
  let exponent := lead + 1 - count
  let (n, d) := overPower num den exponent
  let below : Decimal := ⟨n / d, exponent⟩
  let above : Decimal := ⟨n / d + 1, exponent⟩
  let twice := 2 * (n % d)
  let lower :=
    if twice < d then true
    else if d < twice then false
    else match tie with
      | .toEven => below.coefficient % 2 = 0
      | .up => false
  match below.readsAs r, above.readsAs r with
  | true, true => some (if lower then below else above)
  | true, false => some below
  | false, true => some above
  | false, false => none

/-- All digits of the magnitude of rank `r`. -/
def exact (r : Nat) : Decimal := ⟨Binary64.unitsOfRank r * 5 ^ 1074, -1074⟩

/-- The first count of digits from `count` on that has a decimal for rank `r`. -/
def search (tie : TieRule) (r num den : Nat) (lead : Int) : (fuel count : Nat) → Decimal
  | 0, _ => exact r
  | fuel + 1, count =>
    match withDigits? tie r num den lead count with
    | some d => d
    | none => search tie r num den lead fuel (count + 1)

/-- The shortest decimal of the magnitude of rank `r`; seventeen digits always
suffice.  Zero is `0 * 10 ^ 0`. -/
def shortest (tie : TieRule) (r : Nat) : Decimal :=
  if r = 0 then ⟨0, 0⟩
  else
    let num := Binary64.unitsOfRank r
    stripZeros 400 (search tie r num Binary64.unitsOfOne (leadingExponent num Binary64.unitsOfOne) 17 1)

end Decimal
end ApiContract
