/-!
# Sets of code points

A set is a list of ranges in ascending order with gaps between them.  Tables of
properties are written as texts of hexadecimal ranges.
-/

namespace ApiContract

/-- The code points from `first` to `last`, both included. -/
structure CodeRange where
  first : Nat
  last : Nat
  deriving DecidableEq, Inhabited

/-- A set of code points. -/
abbrev CharSet := List CodeRange

namespace CharSet

/-- The last code point. -/
def lastCodePoint : Nat := 0x10FFFF

/-- All code points. -/
def full : CharSet := [⟨0, lastCodePoint⟩]

/-- The set of one character. -/
def single (c : Char) : CharSet := [⟨c.toNat, c.toNat⟩]

/-- Membership of a code point. -/
def containsCode (set : CharSet) (n : Nat) : Bool :=
  set.any (fun range => range.first ≤ n && n ≤ range.last)

/-- Membership of a character. -/
def contains (set : CharSet) (c : Char) : Bool := containsCode set c.toNat

/-- Whether a set stays within ASCII. -/
def isAscii (set : CharSet) : Bool := set.all (fun range => decide (range.last ≤ 0x7F))

/-! ### Algebra -/

/-- Joins a range to those after it, which start no earlier. -/
def join (range : CodeRange) : CharSet → CharSet
  | [] => [range]
  | next :: rest =>
    if next.first ≤ range.last + 1 then join ⟨range.first, max range.last next.last⟩ rest
    else range :: join next rest

/-- The set of ranges given in any order. -/
def ofRanges (ranges : List CodeRange) : CharSet :=
  match ranges.mergeSort (fun a b => a.first ≤ b.first) with
  | [] => []
  | range :: rest => join range rest

/-- Union. -/
def union (a b : CharSet) : CharSet := ofRanges (a ++ b)

/-- The gaps of a set from code point `start` on. -/
def gaps (start : Nat) : CharSet → CharSet
  | [] => if start ≤ lastCodePoint then [⟨start, lastCodePoint⟩] else []
  | range :: rest =>
    if start < range.first then ⟨start, range.first - 1⟩ :: gaps (range.last + 1) rest
    else gaps (range.last + 1) rest

/-- Complement. -/
def complement (set : CharSet) : CharSet := gaps 0 set

/-- Intersection. -/
def inter (a b : CharSet) : CharSet := complement (union (complement a) (complement b))

/-- Difference. -/
def diff (a b : CharSet) : CharSet := inter a (complement b)

/-- Symmetric difference. -/
def symmDiff (a b : CharSet) : CharSet := diff (union a b) (inter a b)

/-! ### Characters

Surrogates are code points but no characters.  A range of characters may reach
across them, but neither starts nor ends with one. -/

/-- Whether a code point is a surrogate. -/
def isSurrogate (code : Nat) : Bool := decide (0xD800 ≤ code ∧ code ≤ 0xDFFF)

/-- The set with its ranges cut down to start and end with characters. -/
def trimmed (set : CharSet) : CharSet :=
  (set.map (fun range => CodeRange.mk
    (if isSurrogate range.first then 0xE000 else range.first)
    (if isSurrogate range.last then 0xD7FF else range.last))).filter (fun range =>
      decide (range.first ≤ range.last))

/-- The set without surrogates. -/
def characters (set : CharSet) : CharSet :=
  set.flatMap (fun range =>
    (if range.first < 0xD800 then [⟨range.first, min range.last 0xD7FF⟩] else []) ++
      (if 0xDFFF < range.last then [⟨max range.first 0xE000, range.last⟩] else []))

/-- The characters outside a set.  A gap of all surrogates holds none, and the
characters at its two edges stand in for it. -/
def negation (set : CharSet) : CharSet :=
  trimmed ((complement set).map (fun gap =>
    if gap = ⟨0xD800, 0xDFFF⟩ then ⟨0xD7FF, 0xE000⟩ else gap))

/-! ### Tables -/

/-- Value of an upper-case hexadecimal number. -/
def hexNumber (digits : List Char) : Nat :=
  digits.foldl (fun n c =>
    n * 16 + (if c.isDigit then c.toNat - '0'.toNat else c.toNat - 'A'.toNat + 10)) 0

/-- The range of a word such as `41-5A` or `AA`. -/
def rangeOfWord (word : List Char) : CodeRange :=
  let first := hexNumber (word.takeWhile (· ≠ '-'))
  match word.dropWhile (· ≠ '-') with
  | [] => ⟨first, first⟩
  | _ :: last => ⟨first, hexNumber last⟩

/-- The ranges of a table's text; `word` holds the current word, last first. -/
def rangesOfText (word : List Char) : List Char → List CodeRange
  | [] => if word.isEmpty then [] else [rangeOfWord word.reverse]
  | c :: rest =>
    if c = ' ' ∨ c = '\n' then
      if word.isEmpty then rangesOfText [] rest
      else rangeOfWord word.reverse :: rangesOfText [] rest
    else rangesOfText (c :: word) rest

/-- The set of a table's text. -/
def ofText (text : String) : CharSet := rangesOfText [] text.toList

end CharSet

/-- A set of characters with the names it is known by, in loose form. -/
structure NamedSet where
  names : List String
  table : String

namespace NamedSet

/-- The set. -/
def toSet (named : NamedSet) : CharSet := CharSet.ofText named.table

/-- The set of a name. -/
def find? (sets : List NamedSet) (name : String) : Option CharSet :=
  (sets.find? (fun named => named.names.contains name)).map toSet

end NamedSet
end ApiContract
