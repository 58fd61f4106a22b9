import ApiContract.Pattern.Cursor

/-!
# Escapes and numbers in patterns

What a backslash and the characters after it stand for, and the counts of
repetitions.
-/

namespace ApiContract
namespace Pattern

/-- What a single character or an escape stands for. -/
inductive Primitive where
  | literal (literal : Literal)
  | assertion (span : Span) (assertion : Assertion)
  | dot (span : Span)
  | escape (escape : ClassEscape)

namespace Primitive

def span : Primitive → Span
  | literal l => l.span
  | assertion span _ => span
  | dot span => span
  | escape e => e.span

/-- The primitive as an expression. -/
def toSyntax : Primitive → Syntax
  | literal l => .literal l
  | assertion span a => .assertion span a
  | dot span => .dot span
  | escape e => .escape e

/-- The primitive in brackets. -/
def toSet : Primitive → Except Fault ClassSet
  | literal l => .ok (.literal l)
  | escape e => .ok (.escape e)
  | other => fail .classEscapeInvalid other.span

/-- The primitive as an end of a range. -/
def toBound : Primitive → Except Fault Literal
  | literal l => .ok l
  | other => fail .classRangeLiteral other.span

end Primitive

/-! ### Hexadecimal escapes -/

/-- Value of hexadecimal digits. -/
def hexadecimal (digits : List Char) : Nat :=
  digits.foldl (fun n c =>
    n * 16 + (if c.isDigit then c.toNat - '0'.toNat else c.toLower.toNat - 'a'.toNat + 10)) 0

/-- The character of a code point. -/
def charOfCode? (n : Nat) : Option Char :=
  if n.isValidChar then some (Char.ofNat n) else none

/-- Digits that are still to be read, up to `count` of them. -/
def hexDigits (digits : List Char) : (count : Nat) → (c : Cursor) →
    Except Fault (List Char × Onward c)
  | 0, c => .ok (digits.reverse, ⟨c, Nat.le_refl _⟩)
  | count + 1, c =>
    match c.char? with
    | none => fail .escapeUnexpectedEnd c.here
    | some x =>
      if isHexDigit x then do
        let (all, ⟨d, h⟩) ← hexDigits (x :: digits) count c.nextSkip
        .ok (all, ⟨d, Nat.le_trans h (Cursor.size_nextSkip_le c)⟩)
      else fail .escapeHexInvalidDigit c.charSpan

/-- A hexadecimal escape with a fixed count of digits; `start` is its backslash. -/
def hexFixed (start count : Nat) (isByte : Bool) (c : Cursor) : Except Fault (Primitive × Onward c) := do
  let (digits, d) ← hexDigits [] count c
  match charOfCode? (hexadecimal digits) with
  | none => fail .escapeHexInvalid (d.val.spanFrom c.offset)
  | some x => .ok (.literal ⟨d.val.spanFrom start, x, isByte⟩, d)

/-- The digits in braces, up to the closing brace. -/
def braceDigits (opening : Nat) (digits : List Char) (c : Cursor) :
    Except Fault (List Char × Onward c) :=
  match shape : c.char? with
  | none => fail .escapeUnexpectedEnd (c.spanFrom opening)
  | some x =>
    if x = '}' then .ok (digits.reverse, ⟨c, Nat.le_refl _⟩)
    else if isHexDigit x then do
      have _shorter := Cursor.size_nextSkip_lt shape
      let (all, ⟨d, h⟩) ← braceDigits opening (x :: digits) c.nextSkip
      .ok (all, ⟨d, Nat.le_trans h (Cursor.size_nextSkip_le c)⟩)
    else fail .escapeHexInvalidDigit c.charSpan
termination_by c.size

/-- A hexadecimal escape in braces, from the opening brace on. -/
def hexBraced (start : Nat) (c : Cursor) : Except Fault (Primitive × Onward c) := do
  let (digits, ⟨d, h⟩) ← braceDigits c.offset [] c.nextSkip
  let after := d.nextSkip
  if digits.isEmpty then fail .escapeHexEmpty (after.spanFrom c.offset)
  else
    match charOfCode? (hexadecimal digits) with
    | none => fail .escapeHexInvalid (d.spanFrom (c.offset + 1))
    | some x =>
      .ok (.literal ⟨after.spanFrom start, x, false⟩,
        ⟨after, Nat.le_trans (Cursor.size_nextSkip_le d) (Nat.le_trans h (Cursor.size_nextSkip_le c))⟩)

/-- A hexadecimal escape, from its letter on. -/
def hexEscape (start : Nat) (letter : Char) (c : Cursor) : Except Fault (Primitive × Onward c) := do
  let inner := c.nextSkip
  let (primitive, ⟨d, h⟩) ←
    match inner.char? with
    | none => fail .escapeUnexpectedEnd inner.here
    | some '{' => hexBraced start inner
    | some _ =>
      if letter = 'x' then hexFixed start 2 true inner
      else if letter = 'u' then hexFixed start 4 false inner
      else hexFixed start 8 false inner
  .ok (primitive, ⟨d, Nat.le_trans h (Cursor.size_nextSkip_le c)⟩)

/-! ### Property escapes -/

/-- The characters in braces, up to the closing brace. -/
def braceName (name : List Char) (c : Cursor) : Except Fault (List Char × Onward c) :=
  match shape : c.char? with
  | none => fail .escapeUnexpectedEnd c.here
  | some x =>
    if x = '}' then .ok (name.reverse, ⟨c, Nat.le_refl _⟩)
    else do
      have _shorter := Cursor.size_nextSkip_lt shape
      let (all, ⟨d, h⟩) ← braceName (x :: name) c.nextSkip
      .ok (all, ⟨d, Nat.le_trans h (Cursor.size_nextSkip_le c)⟩)
termination_by c.size

/-- The text before `!=` and the text after it. -/
def cutAtUnequal? : List Char → Option (List Char × List Char)
  | '!' :: '=' :: rest => some ([], rest)
  | c :: rest => (cutAtUnequal? rest).map (fun (before, after) => (c :: before, after))
  | [] => none

/-- The property that the text in braces names. -/
def propertyOf (name : List Char) : PropertyName :=
  let valued (negated : Bool) (parts : List Char × List Char) :=
    PropertyName.value (String.ofList parts.1) (String.ofList parts.2) negated
  match cutAtUnequal? name with
  | some parts => valued true parts
  | none =>
    match cutAt? ':' name with
    | some parts => valued false parts
    | none =>
      match cutAt? '=' name with
      | some parts => valued false parts
      | none => .name (String.ofList name)

/-- A property escape, from its letter on. -/
def propertyEscape (start : Nat) (negated : Bool) (c : Cursor) : Except Fault (Primitive × Onward c) :=
  let inner := c.nextSkip
  match inner.char? with
  | none => fail .escapeUnexpectedEnd inner.here
  | some '{' => do
    let (name, ⟨d, h⟩) ← braceName [] inner.nextSkip
    let after := d.next
    .ok (.escape (.property (after.spanFrom start) (propertyOf name) negated),
      ⟨after, Nat.le_trans (Cursor.size_next_le d) (Nat.le_trans h
        (Nat.le_trans (Cursor.size_nextSkip_le inner) (Cursor.size_nextSkip_le c)))⟩)
  | some '\\' => fail .unicodeClassInvalid inner.charSpan
  | some x =>
    let after := inner.nextSkip
    .ok (.escape (.property (after.spanFrom start) (.letter x) negated),
      ⟨after, Nat.le_trans (Cursor.size_nextSkip_le inner) (Cursor.size_nextSkip_le c)⟩)

/-! ### Word boundaries -/

/-- Characters of the names of word boundaries. -/
def isBoundaryChar (c : Char) : Bool := c.isAlpha || c == '-'

/-- The name of a word boundary, as far as it goes. -/
def boundaryName (name : List Char) (c : Cursor) : List Char × Onward c :=
  match shape : c.char? with
  | none => (name.reverse, ⟨c, Nat.le_refl _⟩)
  | some x =>
    if isBoundaryChar x then
      have _shorter := Cursor.size_nextSkip_lt shape
      let (all, ⟨d, h⟩) := boundaryName (x :: name) c.nextSkip
      (all, ⟨d, Nat.le_trans h (Cursor.size_nextSkip_le c)⟩)
    else (name.reverse, ⟨c, Nat.le_refl _⟩)
termination_by c.size

/-- The word boundary of a name. -/
def boundaryOf? (name : String) : Option Assertion :=
  [("start", Assertion.wordStart), ("end", .wordEnd), ("start-half", .wordStartHalf),
    ("end-half", .wordEndHalf)].lookup name

/-- A word boundary after its letter: a name in braces, or none.  Braces that do
not start a name are left for a repetition. -/
def boundaryEscape (start : Nat) (c : Cursor) : Except Fault (Primitive × Onward c) :=
  let plain : Primitive × Onward c :=
    (.assertion (c.spanFrom start) .wordBoundary, ⟨c, Nat.le_refl _⟩)
  if c.char? ≠ some '{' then .ok plain
  else
    let inner := c.nextSkip
    match inner.char? with
    | none => fail .wordBoundaryUnexpectedEnd (inner.spanFrom start)
    | some x =>
      if !isBoundaryChar x then .ok plain
      else
        let (name, ⟨d, h⟩) := boundaryName [] inner
        if d.char? ≠ some '}' then fail .wordBoundaryUnclosed (d.spanFrom c.offset)
        else
          match boundaryOf? (String.ofList name) with
          | none => fail .wordBoundaryUnrecognized (d.spanFrom inner.offset)
          | some assertion =>
            .ok (.assertion (d.next.spanFrom start) assertion,
              ⟨d.next, Nat.le_trans (Cursor.size_next_le d)
                (Nat.le_trans h (Cursor.size_nextSkip_le c))⟩)

/-! ### Escapes -/

/-- Characters that an escape may make literal: ASCII characters that are no
letters or digits, save the angle brackets. -/
def isEscapable (c : Char) : Bool :=
  decide (c.toNat < 128) && !c.isAlphanum && c != '<' && c != '>'

/-- The control character of a letter. -/
def controlOf? (letter : Char) : Option Char :=
  match letter with
  | 'a' => some '\x07'
  | 'f' => some '\x0c'
  | 't' => some '\t'
  | 'n' => some '\n'
  | 'r' => some '\r'
  | 'v' => some '\x0b'
  | _ => none

/-- The assertion of a letter or angle bracket. -/
def assertionOf? (letter : Char) : Option Assertion :=
  match letter with
  | 'A' => some .startText
  | 'z' => some .endText
  | 'B' => some .notWordBoundary
  | '<' => some .wordStart
  | '>' => some .wordEnd
  | _ => none

/-- The class of a letter, and whether it is negated. -/
def letterClass? (letter : Char) : Option (LetterClass × Bool) :=
  match letter with
  | 'd' => some (.digit, false)
  | 's' => some (.space, false)
  | 'w' => some (.word, false)
  | 'D' => some (.digit, true)
  | 'S' => some (.space, true)
  | 'W' => some (.word, true)
  | _ => none

/-- An escape after its backslash, which is at `start`. -/
def escapeAfter (start : Nat) (c : Cursor) : Except Fault (Primitive × Onward c) :=
  match c.char? with
  | none => fail .escapeUnexpectedEnd (c.spanFrom start)
  | some x =>
    let after := c.next
    let span := after.spanFrom start
    let past : Onward c := ⟨after, Cursor.size_next_le c⟩
    if x.isDigit then fail .backreference span
    else if x = 'x' ∨ x = 'u' ∨ x = 'U' then hexEscape start x c
    else if x = 'p' ∨ x = 'P' then propertyEscape start (x == 'P') c
    else if x = 'b' then do
      let (primitive, ⟨d, h⟩) ← boundaryEscape start after
      .ok (primitive, ⟨d, Nat.le_trans h (Cursor.size_next_le c)⟩)
    else if isEscapable x then .ok (.literal ⟨span, x, false⟩, past)
    else
      match letterClass? x, controlOf? x, assertionOf? x with
      | some (letter, negated), _, _ => .ok (.escape (.letter span letter negated), past)
      | _, some control, _ => .ok (.literal ⟨span, control, false⟩, past)
      | _, _, some assertion => .ok (.assertion span assertion, past)
      | _, _, _ => fail .escapeUnrecognized span

/-- An escape, from its backslash on. -/
def readEscape (c : Cursor) (starts : 0 < c.size) : Except Fault (Primitive × After c) := do
  let (primitive, ⟨d, h⟩) ← escapeAfter c.offset c.next
  .ok (primitive, ⟨d, Cursor.size_lt_of_le_next h starts⟩)

/-! ### Counts -/

/-- The digits of a count. -/
def countDigits (digits : List Char) (c : Cursor) : List Char × Onward c :=
  match shape : c.char? with
  | none => (digits.reverse, ⟨c, Nat.le_refl _⟩)
  | some x =>
    if x.isDigit then
      have _shorter := Cursor.size_nextSkip_lt shape
      let (all, ⟨d, h⟩) := countDigits (x :: digits) c.nextSkip
      (all, ⟨d, Nat.le_trans h (Cursor.size_nextSkip_le c)⟩)
    else (digits.reverse, ⟨c, Nat.le_refl _⟩)
termination_by c.size

/-- The cursor after blanks. -/
def skipBlanks (c : Cursor) : Onward c :=
  ⟨c.advance (c.rest.takeWhile isBlank).length, by rw [Cursor.size_advance]; omega⟩

/-- A count, with blanks around it: its value or the fault that it has none. -/
def readCount (c : Cursor) : Except Fault Nat × Onward c :=
  let ⟨first, h⟩ := skipBlanks c
  let (digits, ⟨last, h'⟩) := countDigits [] first
  let ⟨after, h''⟩ := skipBlanks last
  let span := last.spanFrom first.offset
  let value :=
    if digits.isEmpty then fail .decimalEmpty span
    else if 2 ^ 32 ≤ decimalValue digits then fail .decimalInvalid span
    else .ok (decimalValue digits)
  (value, ⟨after, Nat.le_trans h'' (Nat.le_trans h' h)⟩)

end Pattern
end ApiContract
