import ApiContract.Pattern.Fault
import ApiContract.Text.Blank

/-!
# Cursors

A place in a pattern that is being read: what is left of the text, how many
characters are before it, and whether blanks and comments are skipped.
-/

namespace ApiContract
namespace Pattern

/-- A place in a pattern. -/
structure Cursor where
  rest : List Char
  offset : Nat
  skips : Bool

namespace Cursor

/-- Count of characters left. -/
def size (c : Cursor) : Nat := c.rest.length

/-- The next character. -/
def char? (c : Cursor) : Option Char := c.rest.head?

/-- The character after the next one. -/
def second? (c : Cursor) : Option Char := c.rest.tail.head?

/-- Whether nothing is left. -/
def atEnd (c : Cursor) : Bool := c.rest.isEmpty

/-- Whether something is left. -/
def hasMore (c : Cursor) : Bool := !c.rest.isEmpty

/-- The cursor after `n` characters. -/
def advance (c : Cursor) (n : Nat) : Cursor :=
  ⟨c.rest.drop n, c.offset + (c.rest.take n).length, c.skips⟩

/-- The cursor after the next character. -/
def next (c : Cursor) : Cursor := c.advance 1

/-- The count of blanks and characters of comments at the start of a text.  A
comment goes from its mark up to a line feed, both included. -/
def skippable (commented : Bool) : List Char → Nat
  | [] => 0
  | c :: rest =>
    if commented then skippable (c ≠ '\n') rest + 1
    else if isBlank c then skippable false rest + 1
    else if c = '#' then skippable true rest + 1
    else 0

/-- The cursor after blanks and comments, where they are skipped. -/
def skip (c : Cursor) : Cursor :=
  if c.skips then c.advance (skippable false c.rest) else c

/-- The cursor after the next character and what is skipped then. -/
def nextSkip (c : Cursor) : Cursor := c.next.skip

/-- The empty span at a cursor. -/
def here (c : Cursor) : Span := ⟨c.offset, c.offset⟩

/-- The span of the next character. -/
def charSpan (c : Cursor) : Span := ⟨c.offset, c.next.offset⟩

/-- The span from an offset up to a cursor. -/
def spanFrom (c : Cursor) (start : Nat) : Span := ⟨start, c.offset⟩

/-- Whether a text comes next. -/
def sees (c : Cursor) (text : String) : Bool := text.toList.isPrefixOf c.rest

/-- The first character of a text that is neither blank nor a first comment mark. -/
def afterBlanks? (commented : Bool) : List Char → Option Char
  | [] => none
  | c :: rest =>
    if isBlank c then afterBlanks? commented rest
    else if !commented && c = '#' then afterBlanks? true rest
    else some c

/-- The character after the next one, past blanks where they are skipped. -/
def secondPastBlanks? (c : Cursor) : Option Char :=
  if c.skips then
    match afterBlanks? false c.rest.tail with
    | some found => some found
    | none => c.second?
  else c.second?

/-! ### Sizes -/

theorem size_advance (c : Cursor) (n : Nat) : (c.advance n).size = c.size - n := by
  simp [advance, size]

theorem size_next_le (c : Cursor) : c.next.size ≤ c.size := by
  simp [next, size_advance]

theorem size_skip_le (c : Cursor) : c.skip.size ≤ c.size := by
  unfold skip; split <;> simp [size_advance]

theorem size_nextSkip_le (c : Cursor) : c.nextSkip.size ≤ c.size :=
  Nat.le_trans (size_skip_le _) (size_next_le c)

theorem size_pos_of_char {c : Cursor} {x : Char} (h : c.char? = some x) : 0 < c.size := by
  unfold char? at h
  unfold size
  cases shape : c.rest with
  | nil => simp [shape] at h
  | cons a rest => simp

theorem size_pos_of_hasMore {c : Cursor} (h : c.hasMore = true) : 0 < c.size := by
  unfold hasMore at h
  unfold size
  cases shape : c.rest with
  | nil => simp [shape] at h
  | cons a rest => simp

theorem size_next_lt_of_pos {c : Cursor} (h : 0 < c.size) : c.next.size < c.size := by
  simp only [next, size_advance]
  omega

theorem size_lt_of_le_next {c d : Cursor} (h : d.size ≤ c.next.size) (starts : 0 < c.size) :
    d.size < c.size :=
  Nat.lt_of_le_of_lt h (size_next_lt_of_pos starts)

theorem size_nextSkip_lt_of_pos {c : Cursor} (h : 0 < c.size) : c.nextSkip.size < c.size :=
  Nat.lt_of_le_of_lt (size_skip_le _) (size_next_lt_of_pos h)

theorem size_next_lt {c : Cursor} {x : Char} (h : c.char? = some x) : c.next.size < c.size :=
  size_next_lt_of_pos (size_pos_of_char h)

theorem size_nextSkip_lt {c : Cursor} {x : Char} (h : c.char? = some x) : c.nextSkip.size < c.size :=
  size_nextSkip_lt_of_pos (size_pos_of_char h)

end Cursor

/-- A cursor after at least one character of `c`. -/
abbrev After (c : Cursor) := { d : Cursor // d.size < c.size }

/-- A cursor at `c` or after it. -/
abbrev Onward (c : Cursor) := { d : Cursor // d.size ≤ c.size }

/-- A failure to read a pattern. -/
def fail {α : Type} (cause : FaultCause) (span : Span) : Except Fault α := .error ⟨cause, span, none⟩

/-- A failure because something occurs twice. -/
def failTwice {α : Type} (cause : FaultCause) (span first : Span) : Except Fault α :=
  .error ⟨cause, span, some first⟩

end Pattern
end ApiContract
