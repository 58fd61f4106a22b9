import ApiContract.Unicode.CharSet

/-!
# Byte ranges

Sets of characters as bytes of UTF-8: a range of code points falls into pieces
whose encodings are exactly the sequences with one byte out of each of a few
ranges.
-/

namespace ApiContract
namespace Pattern

/-- The bytes from `first` to `last`, both included. -/
structure ByteRange where
  first : UInt8
  last : UInt8
  deriving DecidableEq

namespace ByteRange

/-- The bytes of a code point in UTF-8. -/
def encode (code : Nat) : List UInt8 := String.utf8EncodeChar (Char.ofNat code)

/-- The last code points that are encoded by one byte, by two and by three. -/
def lengthEnds : List Nat := [0x7F, 0x7FF, 0xFFFF]

/-- Counts of code points that share all bytes before the last one, the last two
and the last three. -/
def blockSizes : List Nat := [64, 4096, 262144]

/-- Where a range that reaches into several blocks leaves its first block, or
enters its last one, if it does not fill that block. -/
def blockCut? (first last size : Nat) : Option Nat :=
  if first / size = last / size then none
  else if first % size ≠ 0 then some (first / size * size + (size - 1))
  else if last % size ≠ size - 1 then some (last / size * size - 1)
  else none

/-- The code points after which a range may have to be cut, in order of need. -/
def cuts (first last : Nat) : List Nat :=
  lengthEnds ++ (if last ≤ 0x7F then [] else blockSizes.filterMap (blockCut? first last))

/-- The sequences of byte ranges that encode the code points from `first` to `last`. -/
def sequences (first last : Nat) : List (List ByteRange) :=
  match found : (cuts first last).find? (fun cut => first ≤ cut && cut < last) with
  | some cut =>
    have between : first ≤ cut ∧ cut < last := by simpa using List.find?_some found
    sequences first cut ++ sequences (cut + 1) last
  | none => [List.zipWith ByteRange.mk (encode first) (encode last)]
termination_by last - first

/-- The sequences of byte ranges that encode the characters of a set. -/
def sequencesOf (set : CharSet) : List (List ByteRange) :=
  set.flatMap (fun range => sequences range.first range.last)

end ByteRange
end Pattern
end ApiContract
