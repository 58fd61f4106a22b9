import ApiContract.Pattern.Meaning

/-!
# Search

A set of places in a text is a number whose bits are the places.  A shape sends
the places where a match may start to those where it may end; each step works
on all places at once, so no choice is ever taken back.
-/

namespace ApiContract
namespace Pattern

/-! ### Masks -/

/-- The bits of the places of a list that hold. -/
def maskOf (holds : List Bool) : Nat :=
  holds.foldr (fun here mask => mask * 2 + (if here then 1 else 0)) 0

/-- The characters before and after each place of a text. -/
def surroundings (before : Option Char) : List Char → List (Option Char × Option Char)
  | [] => [(before, none)]
  | c :: rest => (before, some c) :: surroundings (some c) rest

/-- Whether a character is part of a word. -/
def isWord (unicode : Bool) (c? : Option Char) : Bool :=
  c?.any (fun c => (LetterClass.word.toSet unicode).contains c)

/-- Whether a condition holds between two characters. -/
def Look.holds (look : Look) (before after : Option Char) : Bool :=
  match look with
  | start => before.isNone
  | stop => after.isNone
  | lineStart false => before.isNone || before == some '\n'
  | lineStart true =>
    before.isNone || before == some '\n' || (before == some '\r' && after != some '\n')
  | lineStop false => after.isNone || after == some '\n'
  | lineStop true =>
    after.isNone || after == some '\r' || (after == some '\n' && before != some '\r')
  | boundary unicode => isWord unicode before != isWord unicode after
  | notBoundary unicode => isWord unicode before == isWord unicode after
  | wordStart unicode => !isWord unicode before && isWord unicode after
  | wordStop unicode => isWord unicode before && !isWord unicode after
  | wordStartHalf unicode => !isWord unicode before
  | wordStopHalf unicode => !isWord unicode after

/-- A shape for one text: sets and conditions as masks of places. -/
inductive Plan where
  | empty
  | step (mask : Nat)
  | stay (mask : Nat)
  | seq (first second : Plan)
  | either (left right : Plan)
  | loop (least : Nat) (most : Option Nat) (body : Plan)

/-- The plan of a set for a text. -/
def stepPlan (text : List Char) (holds : Char → Bool) : Plan := .step (maskOf (text.map holds))

/-- The plan of characters one after the other. -/
def charsPlan (text : List Char) : List Char → Plan
  | [] => .empty
  | c :: rest => .seq (stepPlan text (· == c)) (charsPlan text rest)

/-- The plan of a condition for a text. -/
def Look.plan (text : List Char) (look : Look) : Plan :=
  .stay (maskOf ((surroundings none text).map (fun (before, after) => look.holds before after)))

mutual

/-- The plan of a shape for a text. -/
def Shape.plan (text : List Char) : Shape → Plan
  | empty => .empty
  | literal chars => charsPlan text chars
  | set s => stepPlan text s.contains
  | look l => l.plan text
  | loop least most _ body => .loop least most (body.plan text)
  | group body => body.plan text
  | seq parts => Shape.planAll text parts
  | choice branches => Shape.planAny text branches

/-- The plan of shapes one after the other. -/
def Shape.planAll (text : List Char) : List Shape → Plan
  | [] => .empty
  | part :: rest => .seq (part.plan text) (Shape.planAll text rest)

/-- The plan of alternatives. -/
def Shape.planAny (text : List Char) : List Shape → Plan
  | [] => .step 0
  | branch :: rest => .either (branch.plan text) (Shape.planAny text rest)

end

/-! ### Places -/

/-- The places after exactly `count` rounds. -/
def rounds (ends : Nat → Nat) : (count : Nat) → Nat → Nat
  | 0, places => places
  | count + 1, places =>
    let next := ends places
    if next = places then places else rounds ends count next

/-- The places after at most `count` rounds from the new places among the seen ones. -/
def roundsUpTo (ends : Nat → Nat) : (count : Nat) → (fresh seen : Nat) → Nat
  | 0, _, seen => seen
  | count + 1, fresh, seen =>
    let reached := ends fresh
    let fresh := reached ^^^ (reached &&& seen)
    if fresh = 0 then seen else roundsUpTo ends count fresh (seen ||| fresh)

/-- The places where a match may end that starts at one of the given places.  A
loop without bound is over when no new place is reached, which happens within
as many rounds as there are places. -/
def Plan.ends (count : Nat) : Plan → Nat → Nat
  | empty, places => places
  | step mask, places => (places &&& mask) * 2
  | stay mask, places => places &&& mask
  | seq first second, places => second.ends count (first.ends count places)
  | either left right, places => left.ends count places ||| right.ends count places
  | loop least most body, places =>
    let after := rounds (body.ends count) least places
    let more := match most with
      | some most => most - least
      | none => count
    roundsUpTo (body.ends count) more after after

/-- Whether a shape matches somewhere in a text. -/
def Shape.matchesIn (shape : Shape) (text : List Char) : Bool :=
  let count := text.length + 1
  (shape.plan text).ends count (2 ^ count - 1) != 0

end Pattern
end ApiContract
