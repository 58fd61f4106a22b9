import ApiContract.Pattern.Syntax
import ApiContract.Text.Digits

/-!
# Faults of patterns

A fault names its cause and marks the part of the pattern where it lies, and in
case of a duplicate also the first occurrence.
-/

namespace ApiContract
namespace Pattern

/-- Expressions that may stand inside each other. -/
def nestingLimit : Nat := 250

/-- Why a text is not a pattern. -/
inductive FaultCause where
  | backreference
  | classEscapeInvalid
  | classRangeInvalid
  | classRangeLiteral
  | classUnclosed
  | decimalEmpty
  | decimalInvalid
  | escapeHexEmpty
  | escapeHexInvalid
  | escapeHexInvalidDigit
  | escapeUnexpectedEnd
  | escapeUnrecognized
  | flagDanglingNegation
  | flagDuplicate
  | flagRepeatedNegation
  | flagUnexpectedEnd
  | flagUnrecognized
  | groupNameDuplicate
  | groupNameEmpty
  | groupNameInvalid
  | groupNameUnexpectedEnd
  | groupUnclosed
  | groupUnopened
  | invalidUtf8
  | lookAround
  | nestingExceeded
  | propertyNotFound
  | propertyValueNotFound
  | repetitionCountInvalid
  | repetitionCountUnclosed
  | repetitionMissing
  | unicodeClassInvalid
  | unicodeNotAllowed
  | wordBoundaryUnclosed
  | wordBoundaryUnexpectedEnd
  | wordBoundaryUnrecognized
  deriving DecidableEq

/-- Wording of a cause. -/
def FaultCause.message : FaultCause → String
  | backreference => "backreferences are not supported"
  | classEscapeInvalid => "invalid escape sequence found in character class"
  | classRangeInvalid => "invalid character class range, the start must be <= the end"
  | classRangeLiteral => "invalid range boundary, must be a literal"
  | classUnclosed => "unclosed character class"
  | decimalEmpty => "repetition quantifier expects a valid decimal"
  | decimalInvalid => "decimal literal invalid"
  | escapeHexEmpty => "hexadecimal literal empty"
  | escapeHexInvalid => "hexadecimal literal is not a Unicode scalar value"
  | escapeHexInvalidDigit => "invalid hexadecimal digit"
  | escapeUnexpectedEnd => "incomplete escape sequence, reached end of pattern prematurely"
  | escapeUnrecognized => "unrecognized escape sequence"
  | flagDanglingNegation => "dangling flag negation operator"
  | flagDuplicate => "duplicate flag"
  | flagRepeatedNegation => "flag negation operator repeated"
  | flagUnexpectedEnd => "expected flag but got end of regex"
  | flagUnrecognized => "unrecognized flag"
  | groupNameDuplicate => "duplicate capture group name"
  | groupNameEmpty => "empty capture group name"
  | groupNameInvalid => "invalid capture group character"
  | groupNameUnexpectedEnd => "unclosed capture group name"
  | groupUnclosed => "unclosed group"
  | groupUnopened => "unopened group"
  | invalidUtf8 => "pattern can match invalid UTF-8"
  | lookAround => "look-around, including look-ahead and look-behind, is not supported"
  | nestingExceeded =>
    "exceed the maximum number of nested parentheses/brackets (" ++ toString nestingLimit ++ ")"
  | propertyNotFound => "Unicode property not found"
  | propertyValueNotFound => "Unicode property value not found"
  | repetitionCountInvalid =>
    "invalid repetition count range, the start must be <= the end"
  | repetitionCountUnclosed => "unclosed counted repetition"
  | repetitionMissing => "repetition operator missing expression"
  | unicodeClassInvalid => "invalid Unicode character class"
  | unicodeNotAllowed => "Unicode not allowed here"
  | wordBoundaryUnclosed =>
    "special word boundary assertion is either unclosed or contains an invalid character"
  | wordBoundaryUnexpectedEnd =>
    "found either the beginning of a special word boundary or a bounded repetition on a \\b with an opening brace, but no closing brace"
  | wordBoundaryUnrecognized =>
    "unrecognized special word boundary assertion, valid choices are: start, end, start-half or end-half"

/-- A fault: its cause, where it lies, and the first occurrence of a duplicate. -/
structure Fault where
  cause : FaultCause
  span : Span
  first? : Option Span

/-! ### Marks -/

/-- A place in a text of several lines; line and column count from one. -/
structure Place where
  offset : Nat
  line : Nat
  column : Nat

/-- The place before the character at an offset. -/
def placeOf (pattern : List Char) (offset : Nat) : Place :=
  let before := pattern.take offset
  ⟨offset, 1 + before.count '\n', 1 + (before.reverse.takeWhile (· ≠ '\n')).length⟩

/-- A span by its places. -/
structure Mark where
  start : Place
  stop : Place

def markOf (pattern : List Char) (span : Span) : Mark :=
  ⟨placeOf pattern span.start, placeOf pattern span.stop⟩

/-- Whether a mark stays on one line. -/
def Mark.isOneLine (mark : Mark) : Bool := mark.start.line == mark.stop.line

/-- The marks of a fault in the order of their places. -/
def Fault.marks (fault : Fault) (pattern : List Char) : List Mark :=
  let spans := fault.span :: fault.first?.toList
  (spans.mergeSort (fun a b =>
    decide (a.start < b.start) || (a.start == b.start && decide (a.stop ≤ b.stop)))).map (markOf pattern)

/-- Carets under the marks of one line, from column `position` on. -/
def carets (position : Nat) : List Mark → List Char
  | [] => []
  | mark :: rest =>
    let gap := mark.start.column - 1 - position
    let width := max 1 (mark.stop.column - mark.start.column)
    List.replicate gap ' ' ++ List.replicate width '^' ++ carets (position + gap + width) rest

/-- Lines of a text.  A line ends in a line feed or in a carriage return with a
line feed; an end of the text after a line end starts no line. -/
def linesOf (current : List Char) : List Char → List (List Char)
  | [] => if current.isEmpty then [] else [current.reverse]
  | c :: rest =>
    if c = '\n' then
      (match current with
        | '\r' :: before => before.reverse
        | whole => whole.reverse) :: linesOf [] rest
    else linesOf (c :: current) rest

/-- The lines of a pattern, each with its carets below it; `width` is the width
of line numbers, zero for none. -/
def annotate (marks : List Mark) (width number : Nat) : List (List Char) → List Char
  | [] => []
  | line :: rest =>
    let label := natText number
    let lead :=
      if width = 0 then List.replicate 4 ' '
      else List.replicate (width - label.length) ' ' ++ label ++ [':', ' ']
    let here := marks.filter (fun mark => mark.start.line == number)
    let below :=
      if here.isEmpty then []
      else List.replicate (if width = 0 then 4 else width + 2) ' ' ++ carets 0 here ++ ['\n']
    lead ++ line ++ '\n' :: below ++ annotate marks width (number + 1) rest

/-- The note on a mark that covers several lines. -/
def Mark.note (mark : Mark) : String :=
  "on line " ++ toString mark.start.line ++ " (column " ++ toString mark.start.column ++
    ") through line " ++ toString mark.stop.line ++ " (column " ++ toString (mark.stop.column - 1) ++ ")"

/-- The fault in words, below the pattern with its marks. -/
def Fault.message (fault : Fault) (pattern : String) : String :=
  let chars := pattern.toList
  let marks := fault.marks chars
  let short := marks.filter Mark.isOneLine
  let long := marks.filter (fun mark => !mark.isOneLine)
  let lines := linesOf [] chars
  let count := lines.length + (if chars.getLast? = some '\n' then 1 else 0)
  let width := if count ≤ 1 then 0 else (natText count).length
  let annotated := String.ofList (annotate short width 1 lines)
  let divider := String.ofList (List.replicate 79 '~') ++ "\n"
  let notes := if long.isEmpty then "" else "\n".intercalate (long.map Mark.note) ++ "\n"
  if chars.contains '\n' then
    "regex parse error:\n" ++ divider ++ annotated ++ divider ++ notes ++ "error: " ++
      fault.cause.message
  else "regex parse error:\n" ++ annotated ++ "error: " ++ fault.cause.message

end Pattern
end ApiContract
