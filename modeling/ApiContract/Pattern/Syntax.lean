/-!
# Syntax of patterns

The parts of a pattern with the places where they stand, as positions between
its characters.
-/

namespace ApiContract
namespace Pattern

/-- A part of a pattern's text. -/
structure Span where
  start : Nat
  stop : Nat
  deriving DecidableEq, Inhabited

/-! ### Flags -/

/-- What a flag switches. -/
inductive Flag where
  | caseInsensitive
  | multiLine
  | dotMatchesNewLine
  | swapGreed
  | unicode
  | crlf
  | ignoreWhitespace
  deriving DecidableEq

/-- The letter of a flag. -/
def Flag.ofChar? : Char → Option Flag
  | 'i' => some .caseInsensitive
  | 'm' => some .multiLine
  | 's' => some .dotMatchesNewLine
  | 'U' => some .swapGreed
  | 'u' => some .unicode
  | 'R' => some .crlf
  | 'x' => some .ignoreWhitespace
  | _ => none

/-- Flags that are switched on or off, in order. -/
abbrev Switches := List (Flag × Bool)

/-- Whether a flag is switched, and how. -/
def Switches.state? (switches : Switches) (flag : Flag) : Option Bool := switches.lookup flag

/-! ### Characters and classes -/

/-- A character as it is written; `isByte` marks the two-digit escape, which
stands for a byte where flags turn Unicode off. -/
structure Literal where
  span : Span
  char : Char
  isByte : Bool

/-- Classes with a letter of their own. -/
inductive LetterClass where
  | digit
  | space
  | word
  deriving DecidableEq

/-- How a property is named. -/
inductive PropertyName where
  | letter (c : Char)
  | name (name : String)
  | value (name value : String) (negated : Bool)

/-- An escape that stands for a class. -/
inductive ClassEscape where
  | letter (span : Span) (letter : LetterClass) (negated : Bool)
  | property (span : Span) (name : PropertyName) (negated : Bool)

/-- The ASCII classes that have names. -/
inductive AsciiClass where
  | alnum
  | alpha
  | ascii
  | blank
  | cntrl
  | digit
  | graph
  | lower
  | print
  | punct
  | space
  | upper
  | word
  | xdigit
  deriving DecidableEq

/-- The class of a name. -/
def AsciiClass.ofName? (name : String) : Option AsciiClass :=
  [("alnum", alnum), ("alpha", alpha), ("ascii", ascii), ("blank", blank), ("cntrl", cntrl),
    ("digit", digit), ("graph", graph), ("lower", lower), ("print", print), ("punct", punct),
    ("space", space), ("upper", upper), ("word", word), ("xdigit", xdigit)].lookup name

/-- How two sets are combined. -/
inductive SetOperation where
  | intersection
  | difference
  | symmetricDifference
  deriving DecidableEq

/-- What stands in brackets. -/
inductive ClassSet where
  | empty (span : Span)
  | literal (literal : Literal)
  | range (span : Span) (first last : Literal)
  | ascii (span : Span) (kind : AsciiClass) (negated : Bool)
  | escape (escape : ClassEscape)
  | bracketed (span : Span) (negated : Bool) (set : ClassSet)
  | union (span : Span) (items : List ClassSet)
  | operation (span : Span) (operation : SetOperation) (left right : ClassSet)

/-! ### Expressions -/

/-- Conditions on a place in a text. -/
inductive Assertion where
  | startLine
  | endLine
  | startText
  | endText
  | wordBoundary
  | notWordBoundary
  | wordStart
  | wordEnd
  | wordStartHalf
  | wordEndHalf
  deriving DecidableEq

/-- An expression. -/
inductive Syntax where
  | empty (span : Span)
  | flags (span : Span) (switches : Switches)
  | literal (literal : Literal)
  | dot (span : Span)
  | assertion (span : Span) (assertion : Assertion)
  | escape (escape : ClassEscape)
  | bracketed (span : Span) (negated : Bool) (set : ClassSet)
  | repetition (span : Span) (min : Nat) (max : Option Nat) (greedy : Bool) (body : Syntax)
  | group (span : Span) (captures : Bool) (switches : Switches) (body : Syntax)
  | alternation (span : Span) (branches : List Syntax)
  | concat (span : Span) (parts : List Syntax)

/-! ### Places -/

def ClassEscape.span : ClassEscape → Span
  | letter span .. => span
  | property span .. => span

def ClassSet.span : ClassSet → Span
  | empty span => span
  | literal l => l.span
  | range span .. => span
  | ascii span .. => span
  | escape e => e.span
  | bracketed span .. => span
  | union span _ => span
  | operation span .. => span

def Syntax.span : Syntax → Span
  | empty span => span
  | flags span _ => span
  | literal l => l.span
  | dot span => span
  | assertion span _ => span
  | escape e => e.span
  | bracketed span .. => span
  | repetition span .. => span
  | group span .. => span
  | alternation span _ => span
  | concat span _ => span

end Pattern
end ApiContract
