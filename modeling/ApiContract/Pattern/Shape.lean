import ApiContract.Unicode.CharSet

/-!
# Shapes of patterns

What a pattern matches: texts, sets of characters, conditions on places, loops,
sequences and alternatives.  Shapes are built in a reduced form, in which
neighbouring texts are one, sequences and alternatives hold at least two
members and none of their own kind, and alternatives that begin alike share
their beginning.
-/

namespace ApiContract
namespace Pattern

/-- Conditions on a place in a text. -/
inductive Look where
  | start
  | stop
  | lineStart (crlf : Bool)
  | lineStop (crlf : Bool)
  | boundary (unicode : Bool)
  | notBoundary (unicode : Bool)
  | wordStart (unicode : Bool)
  | wordStop (unicode : Bool)
  | wordStartHalf (unicode : Bool)
  | wordStopHalf (unicode : Bool)
  deriving DecidableEq

/-- What is matched. -/
inductive Shape where
  | empty
  | literal (text : List Char)
  | set (set : CharSet)
  | look (look : Look)
  | loop (least : Nat) (most : Option Nat) (greedy : Bool) (body : Shape)
  | group (body : Shape)
  | seq (parts : List Shape)
  | choice (branches : List Shape)

/-! ### Bytes -/

/-- Bytes of a text in UTF-8. -/
def byteLength : List Char → Nat
  | [] => 0
  | c :: rest => c.utf8Size + byteLength rest

theorem byteLength_append (a b : List Char) : byteLength (a ++ b) = byteLength a + byteLength b := by
  induction a with
  | nil => simp [byteLength]
  | cons c rest ih => simp [byteLength, ih, Nat.add_assoc]

theorem length_le_byteLength (text : List Char) : text.length ≤ byteLength text := by
  induction text with
  | nil => exact Nat.le_refl 0
  | cons c rest ih =>
    have := c.utf8Size_pos
    simp only [List.length_cons, byteLength]
    omega

namespace Shape

/-! ### Widths -/

/-- How many bytes may be matched.  Without `least` nothing may be, without
`most` there is no bound, or nothing to bound. -/
structure Width where
  least : Option Nat
  most : Option Nat

namespace Width

/-- The width of `n` bytes. -/
def exactly (n : Nat) : Width := ⟨some n, some n⟩

/-- The width of one part after the other. -/
def add (a b : Width) : Width :=
  ⟨a.least.bind (fun m => b.least.map (m + ·)), a.most.bind (fun m => b.most.map (m + ·))⟩

/-- The width of one branch or the other. -/
def join (a b : Width) : Width :=
  ⟨a.least.bind (fun m => b.least.map (min m)), a.most.bind (fun m => b.most.map (max m))⟩

/-- The width of a loop around a body. -/
def times (body : Width) (least : Nat) (most : Option Nat) : Width :=
  ⟨body.least.map (· * least), most.bind (fun m => body.most.map (· * m))⟩

end Width

/-- Bytes of a code point in UTF-8. -/
def byteCount (code : Nat) : Nat := (Char.ofNat code).utf8Size

/-- The width of a set: its first character is the shortest, its last the longest. -/
def widthOfSet (set : CharSet) : Width :=
  ⟨set.head?.map (fun range => byteCount range.first),
    set.getLast?.map (fun range => byteCount range.last)⟩

mutual

/-- The width of a shape. -/
def width : Shape → Width
  | empty => .exactly 0
  | literal text => .exactly (byteLength text)
  | set s => widthOfSet s
  | look _ => .exactly 0
  | loop least most _ body => body.width.times least most
  | group body => body.width
  | seq parts => widthOfParts parts
  | choice branches => widthOfBranches branches

/-- The width of parts one after the other. -/
def widthOfParts : List Shape → Width
  | [] => .exactly 0
  | part :: rest => part.width.add (widthOfParts rest)

/-- The width of branches. -/
def widthOfBranches : List Shape → Width
  | [] => ⟨none, none⟩
  | [branch] => branch.width
  | branch :: rest => branch.width.join (widthOfBranches rest)

end

/-- Whether a shape matches the empty text and nothing else. -/
def isVoid (shape : Shape) : Bool := shape.width.most == some 0

/-- Whether a shape matches something, but never the empty text. -/
def consumes (shape : Shape) : Bool := shape.width.least.any (fun n => decide (0 < n))

/-! ### Sameness -/

mutual

/-- Whether two shapes are the same.  Groups never are: each holds a match of its own. -/
def same : Shape → Shape → Bool
  | empty, empty => true
  | literal a, literal b => a == b
  | set a, set b => a == b
  | look a, look b => a == b
  | loop least most greedy a, loop least' most' greedy' b =>
    least == least' && most == most' && greedy == greedy' && a.same b
  | seq a, seq b => allSame a b
  | choice a, choice b => allSame a b
  | _, _ => false

/-- Whether the members of two lists are the same. -/
def allSame : List Shape → List Shape → Bool
  | [], [] => true
  | a :: as, b :: bs => a.same b && allSame as bs
  | _, _ => false

end

/-! ### Sets and loops -/

/-- The shape of a set of characters; one character is a text. -/
def ofSet (set : CharSet) : Shape :=
  match set.characters with
  | [range] =>
    if range.first = range.last then .literal [Char.ofNat range.first] else .set [range]
  | ranges => .set ranges

/-- The shape of a loop.  Around what is void, one round is as good as many. -/
def repeated (least : Nat) (most : Option Nat) (greedy : Bool) (body : Shape) : Shape :=
  let least := if body.isVoid then min least 1 else least
  let most := if body.isVoid then some (min (most.getD 1) 1) else most
  if least = 0 ∧ most = some 0 then .empty
  else if least = 1 ∧ most = some 1 then body
  else .loop least most greedy body

/-! ### Sequences -/

/-- The parts of a shape that is a sequence. -/
def seqParts : Shape → List Shape
  | seq parts => parts
  | _ => []

/-- The parts of a shape, itself if it is no sequence. -/
def parts : Shape → List Shape
  | empty => []
  | seq parts => parts
  | other => [other]

/-- A part before others; two texts are joined. -/
def glue (part : Shape) (parts : List Shape) : List Shape :=
  match part, parts with
  | literal a, literal b :: rest => .literal (a ++ b) :: rest
  | _, _ => part :: parts

/-- The shape of shapes one after the other. -/
def sequence (shapes : List Shape) : Shape :=
  match (shapes.flatMap parts).foldr glue [] with
  | [] => .empty
  | [part] => part
  | parts => .seq parts

/-! ### Alternatives -/

/-- The branches of a shape, itself if it has none. -/
def branches : Shape → List Shape
  | choice branches => branches
  | other => [other]

/-- The character of a shape that is a text of one. -/
def char? : Shape → Option Char
  | literal [c] => some c
  | _ => none

/-- The set of a shape that is one. -/
def set? : Shape → Option CharSet
  | set s => some s
  | _ => none

/-- The set that branches amount to, if all are characters or all are sets. -/
def unionOf (branches : List Shape) : Option CharSet :=
  match branches.mapM char? with
  | some chars => some (CharSet.ofRanges (chars.flatMap CharSet.single))
  | none => (branches.mapM set?).map (fun sets => CharSet.ofRanges sets.flatten)

/-- The shape of branches that do not all begin alike. -/
def merge (branches : List Shape) : Shape :=
  match branches with
  | [branch] => branch
  | _ =>
    match unionOf branches with
    | some all => .ofSet all
    | none => .choice branches

/-- The parts at the start of two sequences that are the same. -/
def sharedParts : List Shape → List Shape → List Shape
  | a :: as, b :: bs => if a.same b then a :: sharedParts as bs else []
  | _, _ => []

/-- The parts that branches begin with, if all are sequences that begin alike. -/
def commonParts : List Shape → List Shape
  | [] => []
  | branch :: rest =>
    rest.foldl (fun shared other => sharedParts shared other.seqParts) branch.seqParts

/-- The shape of alternatives. -/
def alternatives (shapes : List Shape) : Shape :=
  match merge (shapes.flatMap branches) with
  | choice all =>
    match commonParts all with
    | [] => .choice all
    | common =>
      let rests := all.map (fun branch => sequence (branch.seqParts.drop common.length))
      sequence (common ++ [merge (rests.flatMap branches)])
  | merged => merged

end Shape
end Pattern
end ApiContract
