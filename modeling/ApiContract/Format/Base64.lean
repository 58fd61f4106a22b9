/-!
# Base64

Groups of four characters of the standard alphabet.  Only the last group is
padded, and the bits that a padded group does not use are zero.
-/

namespace ApiContract
namespace Base64

/-- Value of a character of the alphabet. -/
def value? (c : Char) : Option Nat :=
  if 'A' ≤ c ∧ c ≤ 'Z' then some (c.toNat - 'A'.toNat)
  else if 'a' ≤ c ∧ c ≤ 'z' then some (c.toNat - 'a'.toNat + 26)
  else if '0' ≤ c ∧ c ≤ '9' then some (c.toNat - '0'.toNat + 52)
  else if c = '+' then some 62
  else if c = '/' then some 63
  else none

/-- Whether a character is in the alphabet and its value leaves `unit` no remainder. -/
def fits (unit : Nat) (c : Char) : Bool := (value? c).any (fun n => n % unit == 0)

/-- Whether a group may be the last. -/
def isLastGroup (a b c d : Char) : Bool :=
  fits 1 a &&
    ((fits 1 b && fits 1 c && fits 1 d) || (fits 1 b && fits 4 c && d == '=') ||
      (fits 16 b && c == '=' && d == '='))

/-- Whether a text is the base64 form of bytes. -/
def isEncoded : List Char → Bool
  | [] => true
  | [a, b, c, d] => isLastGroup a b c d
  | a :: b :: c :: d :: rest => fits 1 a && fits 1 b && fits 1 c && fits 1 d && isEncoded rest
  | _ => false

end Base64
end ApiContract
