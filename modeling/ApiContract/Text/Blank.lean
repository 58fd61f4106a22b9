import ApiContract.Unicode.Property

/-!
# Blanks and parts of texts
-/

namespace ApiContract

/-- Blanks: the characters with the property White_Space. -/
def blanks : CharSet := Property.whiteSpace.toSet

/-- Whether a character is a blank. -/
def isBlank (c : Char) : Bool := blanks.contains c

/-- The parts of a text between marks; a text without marks is one part. -/
def partsAt (mark : Char) : List Char → List (List Char)
  | [] => [[]]
  | c :: rest =>
    if c = mark then [] :: partsAt mark rest
    else
      match partsAt mark rest with
      | [] => [[c]]
      | part :: parts => (c :: part) :: parts

/-- The text before the first mark and the text after it. -/
def cutAt? (mark : Char) : List Char → Option (List Char × List Char)
  | [] => none
  | c :: rest =>
    if c = mark then some ([], rest)
    else (cutAt? mark rest).map (fun (before, after) => (c :: before, after))

/-- Value of a decimal number. -/
def decimalValue (digits : List Char) : Nat :=
  digits.foldl (fun n c => n * 10 + (c.toNat - '0'.toNat)) 0

/-- Whether a character is a hexadecimal digit. -/
def isHexDigit (c : Char) : Bool :=
  c.isDigit || (decide ('a' ≤ c) && decide (c ≤ 'f')) || (decide ('A' ≤ c) && decide (c ≤ 'F'))

end ApiContract
