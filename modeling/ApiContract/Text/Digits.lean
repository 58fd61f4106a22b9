/-!
# Decimal texts of integers
-/

namespace ApiContract

/-- Decimal digits of a natural number, without leading zeros. -/
def natText (n : Nat) : List Char := Nat.toDigits 10 n

/-- Decimal text of an integer, with a minus sign below zero. -/
def intText (n : Int) : List Char :=
  if n < 0 then '-' :: natText n.natAbs else natText n.natAbs

end ApiContract
