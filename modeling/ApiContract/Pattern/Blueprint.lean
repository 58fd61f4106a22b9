import ApiContract.Pattern.Fan
import ApiContract.Pattern.LiteralTrie
import ApiContract.Pattern.Shape

/-!
# Blueprints

The plan of the machine that a pattern is compiled to, for either direction of
reading, and the extent of that machine.  Parts are built one after the other;
a part that ends in a state that branches gets a link to what follows, which
takes bytes of its own.
-/

namespace ApiContract
namespace Pattern

/-- A direction of reading. -/
inductive Direction where
  | forward
  | backward
  deriving DecidableEq

/-- What a machine is built from. -/
inductive Blueprint where
  | fixed (extent : Extent)
  | fan (fan : Fan)
  | chains (sequences : List (List ByteRange))
  | capture (body : Blueprint)
  | seq (first second : Blueprint)
  | fork (left right : Blueprint)
  | branch (others last : Blueprint)
  | loop (least : Nat) (most : Option Nat) (consumes : Bool) (body : Blueprint)

namespace Blueprint

/-! ### Ends -/

/-- Whether a part ends in a state that branches. -/
def branches : Blueprint → Bool
  | seq _ second => second.branches
  | loop least most consumes body =>
    match least, most with
    | 0, none => consumes
    | _, none => true
    | least, some most => decide (0 < least ∧ least = most) && body.branches
  | _ => false

/-- The link from the end of a part. -/
def link (part : Blueprint) : Extent := ⟨0, if part.branches then Extent.linkBytes else 0⟩

/-! ### Building -/

/-- A step of building, which fails where the limit is passed. -/
abbrev Step := Extent → Option Extent

/-- States and links. -/
def place (states links : Nat) : Step := fun extent => extent.grow ⟨states, links * Extent.linkBytes⟩

/-- A step `count` times. -/
def times (step : Step) : (count : Nat) → Step
  | 0, extent => some extent
  | count + 1, extent =>
    match step extent with
    | some extent => times step count extent
    | none => none

/-- The extent after a part is built.  A loop without bound branches after its
last copy, or before its only one; a bounded one branches before each copy that
may be left out. -/
def build : Blueprint → Step
  | fixed more, extent => extent.grow more
  | fan f, extent => (f.extend extent).limited
  | chains sequences, extent => (ByteRange.extendBackward sequences extent).limited
  | capture body, extent => do
    (← body.build (← place 1 0 extent)).grow (body.link.add ⟨1, 0⟩)
  | seq first second, extent => do second.build (← (← first.build extent).grow first.link)
  | fork left right, extent => do
    place 2 2 (← (← right.build (← (← left.build extent).grow left.link)).grow right.link)
  | branch others last, extent => do
    place 0 1 (← (← last.build (← others.build extent)).grow last.link)
  | loop least most consumes body, extent =>
    let round : Step := fun extent => do (← body.build extent).grow body.link
    let optional : Step := fun extent => do place 0 2 (← round (← place 1 0 extent))
    match least, most with
    | 0, none =>
      if consumes then do place 0 1 (← round (← place 1 0 extent))
      else do place 3 4 (← round extent)
    | least, none => do place 1 1 (← times round least extent)
    | 0, some 1 => do place 1 0 (← optional extent)
    | 0, some most => do times optional most (← place 2 0 extent)
    | least + 1, some most =>
      if least + 1 = most then do body.build (← times round least extent)
      else do times optional (most - (least + 1)) (← place 1 0 (← times round (least + 1) extent))

/-! ### Blueprints of shapes -/

/-- Parts one after the other. -/
def sequence : List Blueprint → Blueprint
  | [] => .fixed ⟨1, 0⟩
  | [part] => part
  | part :: rest => .seq part (sequence rest)

/-- Alternatives: the first two are forked, further ones branch off. -/
def alternatives : List Blueprint → Blueprint
  | first :: second :: rest => rest.foldl .branch (.fork first second)
  | parts => sequence parts

/-- The blueprint of a set: one state for sets within ASCII. -/
def ofSet (direction : Direction) (set : CharSet) : Blueprint :=
  if set.isAscii then .fixed ⟨2, set.length * Extent.rangeBytes⟩
  else
    match direction with
    | .forward => .fan (Fan.ofSequences (ByteRange.sequencesOf set))
    | .backward => .chains (ByteRange.sequencesOf set)

end Blueprint

namespace Shape

/-- The bytes of a shape that is a text. -/
def bytes? : Shape → Option (List UInt8)
  | literal text => some (text.flatMap String.utf8EncodeChar)
  | _ => none

/-- The bytes of branches that are all texts, as they are read. -/
def texts? (direction : Direction) (branches : List Shape) : Option (List (List UInt8)) :=
  (branches.mapM bytes?).map (fun texts =>
    match direction with
    | .forward => texts
    | .backward => texts.map List.reverse)

mutual

/-- The blueprint of a shape.  Only a machine that reads forward marks groups. -/
def blueprint (direction : Direction) : Shape → Blueprint
  | empty => .fixed ⟨1, 0⟩
  | literal text => .fixed ⟨byteLength text, 0⟩
  | set s => .ofSet direction s
  | look _ => .fixed ⟨1, 0⟩
  | loop least most _ body => .loop least most body.consumes (body.blueprint direction)
  | group body =>
    match direction with
    | .forward => .capture (body.blueprint direction)
    | .backward => body.blueprint direction
  | seq parts =>
    match direction with
    | .forward => .sequence (blueprints direction parts)
    | .backward => .sequence (blueprints direction parts).reverse
  | choice all =>
    match texts? direction all with
    | some texts => .fixed (LiteralTrie.ofTexts texts).extent
    | none => .alternatives (blueprints direction all)

/-- The blueprints of several shapes. -/
def blueprints (direction : Direction) : List Shape → List Blueprint
  | [] => []
  | shape :: rest => shape.blueprint direction :: blueprints direction rest

end

/-! ### Ends of texts -/

/-- The condition that holds at the end where reading starts. -/
def textEnd : Direction → Look
  | .forward => .start
  | .backward => .stop

/-- Whether one of the parts that are read first requires a condition; parts
that are void do not end the search. -/
def requiredFirst (required : List (Bool × Bool)) : Bool :=
  match required with
  | [] => false
  | (holds, isVoid) :: rest => holds || isVoid && requiredFirst rest

mutual

/-- Whether a match can start to be read at the end of the text only. -/
def isAnchored (direction : Direction) : Shape → Bool
  | look l => l == textEnd direction
  | loop least _ _ body => decide (0 < least) && body.isAnchored direction
  | group body => body.isAnchored direction
  | seq parts =>
    match direction with
    | .forward => requiredFirst (anchoredParts direction parts)
    | .backward => requiredFirst (anchoredParts direction parts).reverse
  | choice all => allAnchored direction all
  | _ => false

/-- Whether each of several shapes is anchored, and whether it is void. -/
def anchoredParts (direction : Direction) : List Shape → List (Bool × Bool)
  | [] => []
  | part :: rest => (part.isAnchored direction, part.isVoid) :: anchoredParts direction rest

/-- Whether all of several shapes are anchored. -/
def allAnchored (direction : Direction) : List Shape → Bool
  | [] => true
  | branch :: rest => branch.isAnchored direction && allAnchored direction rest

end

/-! ### Machines -/

/-- The extent of the machine of a shape, if it keeps to the limit.  Unless the
shape is anchored, the machine first skips any bytes; read forward, it marks
the whole match like a group. -/
def machine? (shape : Shape) (direction : Direction) : Option Extent := do
  let body := shape.blueprint direction
  let skip : Extent :=
    if shape.isAnchored direction then ⟨1, 0⟩
    else ⟨3, Extent.rangeBytes + 2 * Extent.linkBytes⟩
  let start ← skip.limited
  match direction with
  | .forward => (← (Blueprint.capture body).build start).grow ⟨1, 0⟩
  | .backward => (← body.build start).grow (body.link.add ⟨1, 0⟩)

/-- From how many texts on a choice of texts is matched without machines. -/
def manyTexts : Nat := 3000

/-- Whether a shape is a choice of many texts. -/
def isTextList : Shape → Bool
  | choice all => decide (manyTexts ≤ all.length) && all.all (fun branch => branch.bytes?.isSome)
  | _ => false

/-- Whether the machines of a shape keep to the limit. -/
def isBuildable (shape : Shape) : Bool :=
  shape.isTextList || (shape.machine? .forward).isSome && (shape.machine? .backward).isSome

end Shape
end Pattern
end ApiContract
