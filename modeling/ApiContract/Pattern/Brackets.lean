import ApiContract.Pattern.Escapes

/-!
# Classes in brackets

A class holds characters, ranges, escapes, named classes and further classes.
Within one pair of brackets set operations are applied from left to right.
-/

namespace ApiContract
namespace Pattern

/-! ### Named classes -/

/-- A named class such as `[:alpha:]`, or nothing if it is none. -/
def namedClass? (c : Cursor) : Option (ClassSet × Nat) := do
  let inner ← if c.sees "[:" then some (c.rest.drop 2) else none
  let negated := inner.head? == some '^'
  let text := if negated then inner.tail else inner
  let name := text.takeWhile (· ≠ ':')
  let kind ← AsciiClass.ofName? (String.ofList name)
  if [':', ']'].isPrefixOf (text.drop name.length) then
    let length := 2 + (if negated then 1 else 0) + name.length + 2
    some (.ascii ⟨c.offset, c.offset + length⟩ kind negated, length)
  else none

/-! ### Items -/

/-- A character or an escape. -/
def readItem (c : Cursor) (starts : 0 < c.size) : Except Fault (Primitive × After c) :=
  match c.char? with
  | some '\\' => readEscape c starts
  | some x => .ok (.literal ⟨c.charSpan, x, false⟩, ⟨c.next, Cursor.size_next_lt_of_pos starts⟩)
  | none => fail .classUnclosed c.here

/-- A character, an escape or a range; `opening` marks the class for the fault
that it is not closed. -/
def readItemOrRange (opening : Span) (c : Cursor) (starts : 0 < c.size) :
    Except Fault (ClassSet × After c) := do
  let (first, ⟨d, h⟩) ← readItem c starts
  let d' := d.skip
  have le : d'.size ≤ d.size := Cursor.size_skip_le d
  match d'.char? with
  | none => fail .classUnclosed opening
  | some mark =>
    let following := d'.secondPastBlanks?
    if mark ≠ '-' ∨ following = some ']' ∨ following = some '-' then
      let item ← first.toSet
      .ok (item, ⟨d', by omega⟩)
    else
      let e := d'.nextSkip
      have le' : e.size ≤ d'.size := Cursor.size_nextSkip_le d'
      if more : e.hasMore then
        let (last, ⟨f, h'⟩) ← readItem e (Cursor.size_pos_of_hasMore more)
        let span : Span := ⟨first.span.start, last.span.stop⟩
        let low ← first.toBound
        let high ← last.toBound
        if high.char < low.char then fail .classRangeInvalid span
        else .ok (.range span low high, ⟨f, by omega⟩)
      else fail .classUnclosed opening

/-! ### Levels -/

/-- A class that is being read: its opening, whether it is negated, the operation
that waits for its right side, and the items since then, last first. -/
structure ClassLevel where
  opening : Span
  negated : Bool
  pending : Option (SetOperation × ClassSet)
  start : Span
  items : List ClassSet

namespace ClassLevel

/-- One more item. -/
def push (level : ClassLevel) (item : ClassSet) : ClassLevel :=
  { level with items := item :: level.items }

/-- The items as one set. -/
def itemSet (level : ClassLevel) : ClassSet :=
  match level.items with
  | [] => .empty level.start
  | [item] => item
  | last :: _ =>
    let items := level.items.reverse
    let first := (items.head?.map ClassSet.span).getD level.start
    .union ⟨first.start, last.span.stop⟩ items

/-- The whole set so far, with the pending operation applied. -/
def set (level : ClassLevel) : ClassSet :=
  let right := level.itemSet
  match level.pending with
  | none => right
  | some (operation, left) => .operation ⟨left.span.start, right.span.stop⟩ operation left right

/-- The level after an operator that ends at a cursor. -/
def operate (level : ClassLevel) (operation : SetOperation) (after : Cursor) : ClassLevel :=
  { level with pending := some (operation, level.set), start := after.here, items := [] }

end ClassLevel

/-- A character that is an item of itself. -/
def itemAt (c : Cursor) (x : Char) : ClassSet := .literal ⟨c.charSpan, x, false⟩

/-- Hyphens at the start of a class. -/
def leadingHyphens (start : Nat) (items : List ClassSet) (c : Cursor) :
    Except Fault (List ClassSet × Onward c) :=
  match shape : c.char? with
  | none => fail .classUnclosed ⟨start, start⟩
  | some x =>
    if x = '-' then do
      have _shorter := Cursor.size_nextSkip_lt shape
      let (all, ⟨d, h⟩) ← leadingHyphens start (itemAt c '-' :: items) c.nextSkip
      .ok (all, ⟨d, Nat.le_trans h (Cursor.size_nextSkip_le c)⟩)
    else .ok (items, ⟨c, Nat.le_refl _⟩)
termination_by c.size

/-- The opening of a class, from its bracket on: the negation, hyphens, and a
closing bracket that comes first and stands for itself. -/
def openClass (c : Cursor) (starts : 0 < c.size) : Except Fault (ClassLevel × After c) := do
  let start := c.offset
  let d := c.nextSkip
  have shorter : d.size < c.size := Cursor.size_nextSkip_lt_of_pos starts
  if d.atEnd then fail .classUnclosed (d.spanFrom start)
  else
    let negated := d.char? = some '^'
    let e := if negated then d.nextSkip else d
    have le : e.size ≤ d.size := by
      simp only [e]; split
      · exact Cursor.size_nextSkip_le d
      · exact Nat.le_refl _
    if e.atEnd then fail .classUnclosed (e.spanFrom start)
    else
      let (hyphens, ⟨f, h⟩) ← leadingHyphens start [] e
      if hyphens.isEmpty ∧ f.char? = some ']' then
        let g := f.nextSkip
        have le' : g.size ≤ f.size := Cursor.size_nextSkip_le f
        if g.atEnd then fail .classUnclosed (g.spanFrom start)
        else .ok (⟨g.spanFrom start, negated, none, e.here, [itemAt f ']']⟩, ⟨g, by omega⟩)
      else .ok (⟨f.spanFrom start, negated, none, e.here, hyphens⟩, ⟨f, by omega⟩)

/-- The operator that comes next. -/
def operator? (c : Cursor) : Option SetOperation :=
  match c.char?, c.second? with
  | some '&', some '&' => some .intersection
  | some '-', some '-' => some .difference
  | some '~', some '~' => some .symmetricDifference
  | _, _ => none

/-- The rest of a class; `outer` holds the classes around it, innermost first. -/
def classBody (level : ClassLevel) (outer : List ClassLevel) (c : Cursor) :
    Except Fault (Syntax × After c) := do
  let d := c.skip
  have le : d.size ≤ c.size := Cursor.size_skip_le c
  if more : d.hasMore then
    have starts := Cursor.size_pos_of_hasMore more
    if d.char? = some ']' then
      let after := d.next
      have shorter : after.size < d.size := by
        simp only [after, Cursor.next, Cursor.size_advance]; omega
      let span := after.spanFrom level.opening.start
      match outer with
      | [] => .ok (.bracketed span level.negated level.set, ⟨after, by omega⟩)
      | above :: rest =>
        let (result, ⟨e, h⟩) ←
          classBody (above.push (.bracketed span level.negated level.set)) rest after
        .ok (result, ⟨e, by omega⟩)
    else if d.char? = some '[' then
      match namedClass? d with
      | some (item, length) =>
        let after := d.advance (length - 1 + 1)
        have shorter : after.size < d.size := by
          simp only [after, Cursor.size_advance]; omega
        let (result, ⟨e, h⟩) ← classBody (level.push item) outer after
        .ok (result, ⟨e, by omega⟩)
      | none =>
        let (inner, ⟨after, shorter⟩) ← openClass d starts
        let (result, ⟨e, h⟩) ← classBody inner (level :: outer) after
        .ok (result, ⟨e, by omega⟩)
    else
      match operator? d with
      | some operation =>
        let after := d.advance 2
        have shorter : after.size < d.size := by
          simp only [after, Cursor.size_advance]; omega
        let (result, ⟨e, h⟩) ← classBody (level.operate operation after) outer after
        .ok (result, ⟨e, by omega⟩)
      | none =>
        let (item, ⟨after, shorter⟩) ← readItemOrRange level.opening d starts
        let (result, ⟨e, h⟩) ← classBody (level.push item) outer after
        .ok (result, ⟨e, by omega⟩)
  else fail .classUnclosed level.opening
termination_by c.size
decreasing_by all_goals exact Nat.lt_of_lt_of_le shorter le

/-- A class in brackets, from its opening bracket on. -/
def readClass (c : Cursor) (starts : 0 < c.size) : Except Fault (Syntax × After c) := do
  let (level, ⟨d, h⟩) ← openClass c starts
  let (result, ⟨e, h'⟩) ← classBody level [] d
  .ok (result, ⟨e, by omega⟩)

end Pattern
end ApiContract
