/-!
# Finite binary64 numbers

A finite double is a sign and the rank of its magnitude among the magnitudes
that a double can have, zero first.  The rank of a magnitude is also its word
with the sign bit cleared.  Every finite double is a whole number of units,
one unit being `2 ^ -1074`, so comparison and arithmetic are integer
arithmetic on units followed by one rounding.
-/

namespace ApiContract

-- Powers of whole numbers are read as the core library defines them, also beside
-- the powers of monoids.
attribute [instance (20000), default_instance (20000)] instPowNat

/-- A finite double; `rank` counts the magnitudes below it. -/
structure Binary64 where
  negative : Bool
  rank : Nat
  finite : rank < 2047 * 2 ^ 52
  deriving DecidableEq

namespace Binary64

/-! ### Magnitudes -/

/-- Units of the magnitude of rank `r`: evenly spaced below `2 ^ 52`, after that
the spacing doubles with every `2 ^ 52` ranks. -/
def unitsOfRank (r : Nat) : Nat :=
  if r < 2 ^ 52 then r else (2 ^ 52 + r % 2 ^ 52) * 2 ^ (r / 2 ^ 52 - 1)

/-- Units in one: `1 = 2 ^ 1074` units. -/
def unitsOfOne : Nat := 2 ^ 1074

/-- Magnitude in units. -/
def magnitude (x : Binary64) : Nat := unitsOfRank x.rank

/-- Signed value in units; both zeros have the value zero. -/
def units (x : Binary64) : Int :=
  if x.negative then -(x.magnitude : Int) else x.magnitude

/-- Positive zero. -/
def zero : Binary64 := ⟨false, 0, by decide⟩

/-- Negative zero. -/
def negativeZero : Binary64 := ⟨true, 0, by decide⟩

/-- The double one. -/
def one : Binary64 := ⟨false, 1023 * 2 ^ 52, by decide⟩

/-- The largest finite magnitude, with the given sign. -/
def largest (negative : Bool) : Binary64 := ⟨negative, 2047 * 2 ^ 52 - 1, by decide⟩

/-- The same magnitude without its sign. -/
def abs (x : Binary64) : Binary64 := { x with negative := false }

/-! ### Comparison -/

/-- Numeric equality, under which the two zeros are equal. -/
def eq (x y : Binary64) : Bool := x.units == y.units

/-- Numeric order. -/
def lt (x y : Binary64) : Bool := decide (x.units < y.units)

/-- Numeric order, not strict. -/
def le (x y : Binary64) : Bool := decide (x.units ≤ y.units)

/-- The greater of two doubles. -/
def max (x y : Binary64) : Binary64 := if x.lt y then y else x

/-- Whether the value is a whole number. -/
def isWhole (x : Binary64) : Bool := x.magnitude % unitsOfOne == 0

/-- Integer part, toward zero. -/
def truncate (x : Binary64) : Int := x.units.tdiv unitsOfOne

/-- Integer part held to the range of 64-bit words. -/
def toWord (x : Binary64) : Nat := min x.truncate.toNat (2 ^ 64 - 1)

/-- The 64-bit word: sign bit, then the rank. -/
def word (x : Binary64) : Nat := (if x.negative then 2 ^ 63 else 0) + x.rank

/-- The word in sixteen hexadecimal digits. -/
def hex (x : Binary64) : String :=
  let digits := Nat.toDigits 16 x.word
  String.ofList (List.replicate (16 - digits.length) '0' ++ digits)

/-! ### Laws -/

theorem units_zero : zero.units = 0 := by decide

theorem units_negativeZero : negativeZero.units = 0 := by decide

theorem lt_eq_true {x y : Binary64} : x.lt y = true ↔ x.units < y.units := by
  simp [lt]

theorem le_eq_true {x y : Binary64} : x.le y = true ↔ x.units ≤ y.units := by
  simp [le]

theorem eq_eq_true {x y : Binary64} : x.eq y = true ↔ x.units = y.units := by
  simp [eq]

end Binary64

end ApiContract
