import ApiContract.Pattern.Brackets
import ApiContract.Unicode.Category
import ApiContract.Unicode.Recent

/-!
# Reading patterns

The reader goes through a pattern once.  Open groups are kept on a stack, each
with what stands before it; flags that skip blanks last until their group ends.
-/

namespace ApiContract
namespace Pattern

/-! ### Flags -/

/-- A flag or a negation with its place. -/
abbrev FlagItem := Option Flag × Span

/-- The place where an item of a group's flags occurred before. -/
def occurrence? (items : List FlagItem) (item : Option Flag) : Option Span := items.lookup item

/-- The flags of a group, up to the colon or parenthesis after them. -/
def readFlags (items : List FlagItem) (c : Cursor) : Except Fault (List FlagItem × Onward c) :=
  match shape : c.char? with
  | none => fail .flagUnexpectedEnd c.here
  | some x =>
    if x = ':' ∨ x = ')' then
      match items.getLast? with
      | some (none, span) => fail .flagDanglingNegation span
      | _ => .ok (items, ⟨c, Nat.le_refl _⟩)
    else if x ≠ '-' ∧ (Flag.ofChar? x).isNone then fail .flagUnrecognized c.charSpan
    else
      let item := if x = '-' then none else Flag.ofChar? x
      match occurrence? items item with
      | some first =>
        failTwice (if item.isNone then .flagRepeatedNegation else .flagDuplicate) c.charSpan first
      | none => do
        have _shorter := Cursor.size_next_lt shape
        let (all, ⟨d, h⟩) ← readFlags (items ++ [(item, c.charSpan)]) c.next
        .ok (all, ⟨d, Nat.le_trans h (Cursor.size_next_le c)⟩)
termination_by c.size

/-- The switches of flags: on before a negation, off after it. -/
def switchesOf (on : Bool) : List FlagItem → Switches
  | [] => []
  | (none, _) :: rest => switchesOf false rest
  | (some flag, _) :: rest => (flag, on) :: switchesOf on rest

/-! ### Names of groups -/

/-- Letters: characters with the property Alphabetic. -/
def letters : CharSet := CharSet.union Property.alphabetic.toSet Recent.letters

/-- Letters and numbers. -/
def lettersAndNumbers : CharSet :=
  CharSet.ofRanges (letters ++ Category.union [.decimalNumber, .letterNumber, .otherNumber] ++
    Recent.numbers)

/-- Whether a character may stand in a group's name. -/
def isNameChar (first : Bool) (c : Char) : Bool :=
  if first then c == '_' || letters.contains c
  else c == '_' || c == '.' || c == '[' || c == ']' || lettersAndNumbers.contains c

/-- The characters of a group's name, up to the closing bracket. -/
def nameChars (name : List Char) (c : Cursor) : Except Fault (List Char × Onward c) :=
  match shape : c.char? with
  | none => fail .groupNameUnexpectedEnd c.here
  | some x =>
    if x = '>' then .ok (name.reverse, ⟨c, Nat.le_refl _⟩)
    else if isNameChar name.isEmpty x then do
      have _shorter := Cursor.size_next_lt shape
      let (all, ⟨d, h⟩) ← nameChars (x :: name) c.next
      .ok (all, ⟨d, Nat.le_trans h (Cursor.size_next_le c)⟩)
    else fail .groupNameInvalid c.charSpan
termination_by c.size

/-- Names of groups with their places. -/
abbrev Names := List (List Char × Span)

/-- The name of a group, with its closing bracket; names may not repeat. -/
def readName (names : Names) (c : Cursor) : Except Fault (Names × Onward c) := do
  let (name, ⟨d, h⟩) ← nameChars [] c
  let span := d.spanFrom c.offset
  if name.isEmpty then fail .groupNameEmpty c.here
  else
    match names.lookup name with
    | some first => failTwice .groupNameDuplicate span first
    | none => .ok ((name, span) :: names, ⟨d.next, Nat.le_trans (Cursor.size_next_le d) h⟩)

/-! ### Openings of groups -/

/-- What an opening parenthesis starts. -/
inductive Opening where
  | switches (span : Span) (switches : Switches)
  | group (captures : Bool) (switches : Switches)

/-- The length of a look-around that comes next. -/
def lookAroundLength? (c : Cursor) : Option Nat :=
  if c.sees "?=" || c.sees "?!" then some 2
  else if c.sees "?<=" || c.sees "?<!" then some 3
  else none

/-- The opening of a group, from its parenthesis on. -/
def readOpening (names : Names) (c : Cursor) (starts : 0 < c.size) :
    Except Fault (Opening × Names × After c) := do
  let d := c.nextSkip
  have shorter : d.size < c.size := Cursor.size_nextSkip_lt_of_pos starts
  match lookAroundLength? d with
  | some length => fail .lookAround ((d.advance length).spanFrom c.offset)
  | none =>
    if d.sees "?P<" || d.sees "?<" then
      let e := d.advance (if d.sees "?P<" then 3 else 2)
      have le : e.size ≤ d.size := by simp only [e, Cursor.size_advance]; omega
      let (names, ⟨f, h⟩) ← readName names e
      .ok (.group true [], names, ⟨f, by omega⟩)
    else if d.char? = some '?' then
      let e := d.next
      have le : e.size ≤ d.size := Cursor.size_next_le d
      if e.atEnd then fail .groupUnclosed c.charSpan
      else
        let (items, ⟨f, h⟩) ← readFlags [] e
        let after := f.next
        have le' : after.size ≤ f.size := Cursor.size_next_le f
        if f.char? = some ')' then
          if items.isEmpty then fail .repetitionMissing d.here
          else
            .ok (.switches (after.spanFrom c.offset) (switchesOf true items), names,
              ⟨after, by omega⟩)
        else .ok (.group false (switchesOf true items), names, ⟨after, by omega⟩)
    else .ok (.group true [], names, ⟨d, shorter⟩)

/-! ### Repetitions -/

/-- The expression that a repetition at a cursor repeats, and those before it. -/
def operand (c : Cursor) : List Syntax → Except Fault (Syntax × List Syntax)
  | [] => fail .repetitionMissing c.here
  | .empty _ :: _ => fail .repetitionMissing c.here
  | .flags _ _ :: _ => fail .repetitionMissing c.here
  | body :: before => .ok (body, before)

/-- Whether a repetition whose operator ends at a cursor is greedy, and the
cursor after the mark that makes it lazy. -/
def readGreed (c : Cursor) : Bool × Onward c :=
  if c.char? = some '?' then (false, ⟨c.next, Cursor.size_next_le c⟩)
  else (true, ⟨c, Nat.le_refl _⟩)

/-- The bounds of a counted repetition, after its opening brace at `start`. -/
def readBounds (start : Nat) (c : Cursor) : Except Fault (Nat × Option Nat × Onward c) := do
  let (least, ⟨d, h⟩) := readCount c
  if d.atEnd then fail .repetitionCountUnclosed (d.spanFrom start)
  else if d.char? = some ',' then
    let e := d.nextSkip
    have le : e.size ≤ d.size := Cursor.size_nextSkip_le d
    if e.atEnd then fail .repetitionCountUnclosed (e.spanFrom start)
    else if e.char? = some '}' then
      let least ← least
      .ok (least, none, ⟨e, by omega⟩)
    else
      let least ← least
      let (most, ⟨f, h'⟩) := readCount e
      let most ← most
      .ok (least, some most, ⟨f, by omega⟩)
  else
    let least ← least
    .ok (least, some least, ⟨d, h⟩)

/-- Whether an upper bound is below a lower one. -/
def isReversed (least : Nat) (most : Option Nat) : Bool := most.any (fun n => decide (n < least))

/-- A counted repetition of the last expression, from its opening brace on. -/
def readCounted (parts : List Syntax) (c : Cursor) (starts : 0 < c.size) :
    Except Fault (List Syntax × After c) := do
  let (body, before) ← operand c parts
  let d := c.nextSkip
  have shorter : d.size < c.size := Cursor.size_nextSkip_lt_of_pos starts
  if d.atEnd then fail .repetitionCountUnclosed (d.spanFrom c.offset)
  else
    let (least, most, ⟨e, h⟩) ← readBounds c.offset d
    if e.char? ≠ some '}' then fail .repetitionCountUnclosed (e.spanFrom c.offset)
    else
      let (greedy, ⟨f, h'⟩) := readGreed e.nextSkip
      have le : e.nextSkip.size ≤ e.size := Cursor.size_nextSkip_le e
      if isReversed least most then fail .repetitionCountInvalid (f.spanFrom c.offset)
      else
        .ok (.repetition ⟨body.span.start, f.offset⟩ least most greedy body :: before,
          ⟨f, by omega⟩)

/-- A repetition of the last expression, from its operator on. -/
def readRepetition (least : Nat) (most : Option Nat) (parts : List Syntax) (c : Cursor)
    (starts : 0 < c.size) : Except Fault (List Syntax × After c) := do
  let (body, before) ← operand c parts
  let (greedy, ⟨d, h⟩) := readGreed c.next
  .ok (.repetition ⟨body.span.start, d.offset⟩ least most greedy body :: before,
    ⟨d, Cursor.size_lt_of_le_next h starts⟩)

/-! ### Groups and alternatives -/

/-- A group that is being read: where its parts start, the parts so far and the
finished alternatives, both last first. -/
structure Level where
  start : Nat
  parts : List Syntax
  firstStart : Nat
  branches : List Syntax

namespace Level

/-- A level that starts at a cursor. -/
def startingAt (c : Cursor) : Level := ⟨c.offset, [], c.offset, []⟩

/-- The parts up to a cursor as one expression. -/
def concat (level : Level) (stop : Cursor) : Syntax :=
  let span := stop.spanFrom level.start
  match level.parts with
  | [] => .empty span
  | [part] => part
  | parts => .concat span parts.reverse

/-- The level after an alternative that ends at a cursor; the next one starts at another. -/
def alternate (level : Level) (stop start : Cursor) : Level :=
  ⟨start.offset, [], level.firstStart, level.concat stop :: level.branches⟩

/-- All alternatives up to a cursor as one expression. -/
def finish (level : Level) (stop : Cursor) : Syntax :=
  match level.branches with
  | [] => level.concat stop
  | branches =>
    .alternation (stop.spanFrom level.firstStart) (level.concat stop :: branches).reverse

end Level

/-- An open group: the level around it, its opening, whether it captures, its
switches, and whether blanks were skipped before it. -/
structure OpenGroup where
  around : Level
  opening : Span
  captures : Bool
  switches : Switches
  skipped : Bool

/-- A cursor that skips blanks as switches say. -/
def skipping (c : Cursor) (switches : Switches) : Onward c :=
  match switches.state? .ignoreWhitespace with
  | some skips => ⟨{ c with skips := skips }, Nat.le_refl _⟩
  | none => ⟨c, Nat.le_refl _⟩

/-- A single character, a dot, an anchor or an escape. -/
def readPrimitive (c : Cursor) (starts : 0 < c.size) : Except Fault (Primitive × After c) :=
  have shorter : c.next.size < c.size := Cursor.size_next_lt_of_pos starts
  match c.char? with
  | some '\\' => readEscape c starts
  | some '.' => .ok (.dot c.charSpan, ⟨c.next, shorter⟩)
  | some '^' => .ok (.assertion c.charSpan .startLine, ⟨c.next, shorter⟩)
  | some '$' => .ok (.assertion c.charSpan .endLine, ⟨c.next, shorter⟩)
  | some x => .ok (.literal ⟨c.charSpan, x, false⟩, ⟨c.next, shorter⟩)
  | none => fail .escapeUnexpectedEnd c.here

/-- The next part of a level that is no group and no alternative. -/
def readPart (parts : List Syntax) (c : Cursor) (starts : 0 < c.size) :
    Except Fault (List Syntax × After c) :=
  match c.char? with
  | some '?' => readRepetition 0 (some 1) parts c starts
  | some '*' => readRepetition 0 none parts c starts
  | some '+' => readRepetition 1 none parts c starts
  | some '{' => readCounted parts c starts
  | some '[' => do
    let (set, d) ← readClass c starts
    .ok (set :: parts, d)
  | _ => do
    let (primitive, d) ← readPrimitive c starts
    .ok (primitive.toSyntax :: parts, d)

/-- The rest of a pattern; `groups` holds the open groups, innermost first. -/
def readRest (names : Names) (level : Level) (groups : List OpenGroup) (c : Cursor) :
    Except Fault Syntax := do
  let d := c.skip
  have _le : d.size ≤ c.size := Cursor.size_skip_le c
  if more : d.hasMore then
    have starts := Cursor.size_pos_of_hasMore more
    have shorter : d.next.size < d.size := Cursor.size_next_lt_of_pos starts
    match d.char? with
    | some '(' =>
      let (opening, names, ⟨e, _less⟩) ← readOpening names d starts
      match opening with
      | .switches span switches =>
        have _less' := Nat.lt_of_le_of_lt (skipping e switches).property _less
        readRest names { level with parts := .flags span switches :: level.parts } groups
          (skipping e switches).val
      | .group captures switches =>
        have _less' := Nat.lt_of_le_of_lt (skipping e switches).property _less
        let inner := (skipping e switches).val
        readRest names (.startingAt inner)
          (⟨level, d.charSpan, captures, switches, d.skips⟩ :: groups) inner
    | some ')' =>
      match groups with
      | [] => fail .groupUnopened d.charSpan
      | group :: outer =>
        let after : Cursor := { d.next with skips := group.skipped }
        have _less' : after.size < d.size := shorter
        let body := .group (after.spanFrom group.opening.start) group.captures group.switches
          (level.finish d)
        readRest names { group.around with parts := body :: group.around.parts } outer after
    | some '|' => readRest names (level.alternate d d.next) groups d.next
    | _ =>
      let (parts, ⟨e, _less⟩) ← readPart level.parts d starts
      readRest names { level with parts := parts } groups e
  else
    match groups with
    | [] => .ok (level.finish d)
    | group :: _ => fail .groupUnclosed group.opening
termination_by c.size
decreasing_by
  · exact Nat.lt_of_lt_of_le _less' _le
  · exact Nat.lt_of_lt_of_le _less' _le
  · exact Nat.lt_of_lt_of_le _less' _le
  · exact Nat.lt_of_lt_of_le shorter _le
  · exact Nat.lt_of_lt_of_le _less _le

/-! ### Nesting -/

mutual

/-- Checks that a set in brackets and what is around it stay within the limit;
`depth` counts the expressions around it. -/
def ClassSet.checkNesting (depth : Nat) : ClassSet → Except Fault Unit
  | bracketed span _ set => do
    if nestingLimit ≤ depth then fail .nestingExceeded span
    set.checkNesting (depth + 1)
  | union span items => do
    if nestingLimit ≤ depth then fail .nestingExceeded span
    ClassSet.checkItems (depth + 1) items
  | operation span _ left right => do
    if nestingLimit ≤ depth then fail .nestingExceeded span
    left.checkNesting (depth + 1)
    right.checkNesting (depth + 1)
  | _ => .ok ()

/-- Checks each of several sets. -/
def ClassSet.checkItems (depth : Nat) : List ClassSet → Except Fault Unit
  | [] => .ok ()
  | item :: rest => do
    item.checkNesting depth
    ClassSet.checkItems depth rest

end

mutual

/-- Checks that an expression and what is around it stay within the limit. -/
def Syntax.checkNesting (depth : Nat) : Syntax → Except Fault Unit
  | bracketed span _ set => do
    if nestingLimit ≤ depth then fail .nestingExceeded span
    set.checkNesting (depth + 1)
  | repetition span _ _ _ body => do
    if nestingLimit ≤ depth then fail .nestingExceeded span
    body.checkNesting (depth + 1)
  | group span _ _ body => do
    if nestingLimit ≤ depth then fail .nestingExceeded span
    body.checkNesting (depth + 1)
  | alternation span branches => do
    if nestingLimit ≤ depth then fail .nestingExceeded span
    Syntax.checkParts (depth + 1) branches
  | concat span parts => do
    if nestingLimit ≤ depth then fail .nestingExceeded span
    Syntax.checkParts (depth + 1) parts
  | _ => .ok ()

/-- Checks each of several expressions. -/
def Syntax.checkParts (depth : Nat) : List Syntax → Except Fault Unit
  | [] => .ok ()
  | part :: rest => do
    part.checkNesting depth
    Syntax.checkParts depth rest

end

/-- The syntax of a pattern's text. -/
def Syntax.read (text : String) : Except Fault Syntax := do
  let start : Cursor := ⟨text.toList, 0, false⟩
  let whole ← readRest [] (.startingAt start) [] start
  whole.checkNesting 0
  .ok whole

end Pattern
end ApiContract
