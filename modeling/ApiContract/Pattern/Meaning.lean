import ApiContract.Pattern.Reader
import ApiContract.Pattern.Shape
import ApiContract.Unicode.Folding
import ApiContract.Unicode.Query

/-!
# Meaning of patterns

The shape of an expression once its flags are applied.  Where flags turn
Unicode off, classes are sets of bytes, and one that goes beyond ASCII is a
fault, since matches are made of whole characters.
-/

namespace ApiContract
namespace Pattern

/-! ### Modes -/

/-- The flags in force. -/
structure Modes where
  caseInsensitive : Bool
  multiLine : Bool
  dotMatchesNewLine : Bool
  swapGreed : Bool
  unicode : Bool
  crlf : Bool

namespace Modes

/-- The flags at the start of a pattern. -/
def initial : Modes := ⟨false, false, false, false, true, false⟩

/-- The flags after switches. -/
def switch (modes : Modes) (switches : Switches) : Modes where
  caseInsensitive := (switches.state? .caseInsensitive).getD modes.caseInsensitive
  multiLine := (switches.state? .multiLine).getD modes.multiLine
  dotMatchesNewLine := (switches.state? .dotMatchesNewLine).getD modes.dotMatchesNewLine
  swapGreed := (switches.state? .swapGreed).getD modes.swapGreed
  unicode := (switches.state? .unicode).getD modes.unicode
  crlf := (switches.state? .crlf).getD modes.crlf

end Modes

/-! ### Classes -/

/-- Characters of words: letters, marks, decimal numbers, connectors and joiners. -/
def wordSet : CharSet :=
  CharSet.ofRanges (Property.alphabetic.toSet ++ Property.joinControl.toSet ++
    Category.union [.nonspacingMark, .spacingMark, .enclosingMark, .decimalNumber,
      .connectorPunctuation])

/-- Decimal numbers. -/
def digitSet : CharSet := Category.toSet .decimalNumber

/-- Ranges of ASCII characters. -/
def asciiRanges (ranges : List (Char × Char)) : CharSet :=
  CharSet.ofRanges (ranges.map (fun (first, last) => ⟨first.toNat, last.toNat⟩))

/-- The characters of a named class. -/
def AsciiClass.toSet : AsciiClass → CharSet
  | alnum => asciiRanges [('0', '9'), ('A', 'Z'), ('a', 'z')]
  | alpha => asciiRanges [('A', 'Z'), ('a', 'z')]
  | ascii => asciiRanges [('\x00', '\x7f')]
  | blank => asciiRanges [('\t', '\t'), (' ', ' ')]
  | cntrl => asciiRanges [('\x00', '\x1f'), ('\x7f', '\x7f')]
  | digit => asciiRanges [('0', '9')]
  | graph => asciiRanges [('!', '~')]
  | lower => asciiRanges [('a', 'z')]
  | print => asciiRanges [(' ', '~')]
  | punct => asciiRanges [('!', '/'), (':', '@'), ('[', '\x60'), ('{', '~')]
  | space => asciiRanges [('\t', '\r'), (' ', ' ')]
  | upper => asciiRanges [('A', 'Z')]
  | word => asciiRanges [('0', '9'), ('A', 'Z'), ('_', '_'), ('a', 'z')]
  | xdigit => asciiRanges [('0', '9'), ('A', 'F'), ('a', 'f')]

/-- The characters of a letter's class. -/
def LetterClass.toSet (unicode : Bool) : LetterClass → CharSet
  | digit => if unicode then digitSet else AsciiClass.digit.toSet
  | space => if unicode then blanks else AsciiClass.space.toSet
  | word => if unicode then wordSet else AsciiClass.word.toSet

/-- Closes a set under case, where case does not matter. -/
def Modes.fold (modes : Modes) (set : CharSet) : CharSet :=
  if !modes.caseInsensitive then set
  else if modes.unicode then set.caseClosure
  else set.asciiCaseClosure

/-- The complement among characters, or among bytes. -/
def Modes.complement (modes : Modes) (set : CharSet) : CharSet :=
  if modes.unicode then set.negation
  else CharSet.inter set.complement [⟨0, 0xFF⟩]

/-- A set that is complete, negated if asked for; bytes must stay within ASCII. -/
def Modes.close (modes : Modes) (span : Span) (negated : Bool) (set : CharSet) :
    Except Fault CharSet :=
  let closed := if negated then modes.complement set else set
  if modes.unicode || closed.isAscii then .ok closed else fail .invalidUtf8 span

/-- The set that a property's name stands for, and whether the name negates it. -/
def PropertyName.find : PropertyName → Except Unicode.Missing (CharSet × Bool)
  | letter c => do return (← Unicode.find (String.singleton c), false)
  | name whole => do return (← Unicode.find whole, false)
  | value property chosen negated => do return (← Unicode.findValue property chosen, negated)

/-- The set of an escape. -/
def ClassEscape.toSet (modes : Modes) : ClassEscape → Except Fault CharSet
  | letter span kind negated => modes.close span negated (kind.toSet modes.unicode)
  | property span name negated =>
    if !modes.unicode then fail .unicodeNotAllowed span
    else
      match name.find with
      | .error .property => fail .propertyNotFound span
      | .error .value => fail .propertyValueNotFound span
      | .ok (set, reversed) => modes.close span (negated != reversed) (modes.fold set)

/-- The code of a character in brackets; without Unicode, an ASCII character or a byte. -/
def Literal.code (modes : Modes) (literal : Literal) : Except Fault Nat :=
  let code := literal.char.toNat
  if modes.unicode || code ≤ 0x7F then .ok code
  else if literal.isByte then fail .invalidUtf8 literal.span
  else fail .unicodeNotAllowed literal.span

/-- The result of an operation on sets. -/
def SetOperation.apply : SetOperation → CharSet → CharSet → CharSet
  | intersection => CharSet.inter
  | difference => CharSet.diff
  | symmetricDifference => CharSet.symmDiff

mutual

/-- The set of what stands in brackets. -/
def ClassSet.toSet (modes : Modes) : ClassSet → Except Fault CharSet
  | empty _ => .ok []
  | literal l => do
    let code ← l.code modes
    return [⟨code, code⟩]
  | range _ first last => do return [⟨← first.code modes, ← last.code modes⟩]
  | ascii span kind negated => modes.close span negated (modes.fold kind.toSet)
  | escape e => e.toSet modes
  | bracketed span negated set => do modes.close span negated (modes.fold (← set.toSet modes))
  | union _ items => do return CharSet.ofRanges (← ClassSet.rangesOf modes items)
  | operation _ op left right => do
    let left ← left.toSet modes
    let right ← right.toSet modes
    return (op.apply (modes.fold left) (modes.fold right)).trimmed

/-- The ranges of several items. -/
def ClassSet.rangesOf (modes : Modes) : List ClassSet → Except Fault (List CodeRange)
  | [] => .ok []
  | item :: rest => do
    let first ← item.toSet modes
    return first ++ (← ClassSet.rangesOf modes rest)

end

/-! ### Expressions -/

/-- The shape of a character. -/
def Literal.toShape (modes : Modes) (literal : Literal) : Except Fault Shape :=
  if !modes.unicode && literal.isByte && decide (0x7F < literal.char.toNat) then
    fail .invalidUtf8 literal.span
  else .ok (.ofSet (modes.fold (CharSet.single literal.char)))

/-- The shape of a dot. -/
def dotShape (modes : Modes) (span : Span) : Except Fault Shape :=
  if !modes.unicode then fail .invalidUtf8 span
  else if modes.dotMatchesNewLine then .ok (.ofSet CharSet.full)
  else if modes.crlf then
    .ok (.ofSet (CharSet.complement (asciiRanges [('\n', '\n'), ('\r', '\r')])))
  else .ok (.ofSet (CharSet.complement (CharSet.single '\n')))

/-- The condition of an assertion. -/
def Assertion.toLook (modes : Modes) : Assertion → Look
  | startLine => if modes.multiLine then .lineStart modes.crlf else .start
  | endLine => if modes.multiLine then .lineStop modes.crlf else .stop
  | startText => .start
  | endText => .stop
  | wordBoundary => .boundary modes.unicode
  | notWordBoundary => .notBoundary modes.unicode
  | wordStart => .wordStart modes.unicode
  | wordEnd => .wordStop modes.unicode
  | wordStartHalf => .wordStartHalf modes.unicode
  | wordEndHalf => .wordStopHalf modes.unicode

mutual

/-- The shape of an expression and the modes after it. -/
def Syntax.toShape (modes : Modes) : Syntax → Except Fault (Shape × Modes)
  | empty _ => .ok (.empty, modes)
  | flags _ switches => .ok (.empty, modes.switch switches)
  | literal l => do return (← l.toShape modes, modes)
  | dot span => do return (← dotShape modes span, modes)
  | assertion _ a => .ok (.look (a.toLook modes), modes)
  | escape e => do return (.ofSet (← e.toSet modes), modes)
  | bracketed span negated set => do
    let set ← set.toSet modes
    return (.ofSet (← modes.close span negated (modes.fold set)), modes)
  | repetition _ least most greedy body => do
    let (body, after) ← body.toShape modes
    return (.repeated least most (greedy != after.swapGreed) body, after)
  | group _ captures switches body => do
    let (body, _) ← body.toShape (modes.switch switches)
    return (if captures then .group body else body, modes)
  | alternation _ branches => do
    let (shapes, after) ← Syntax.toShapes modes branches
    return (.alternatives shapes, after)
  | concat _ parts => do
    let (shapes, after) ← Syntax.toShapes modes parts
    return (.sequence shapes, after)

/-- The shapes of expressions, of which each leaves its modes to the next. -/
def Syntax.toShapes (modes : Modes) : List Syntax → Except Fault (List Shape × Modes)
  | [] => .ok ([], modes)
  | first :: rest => do
    let (shape, between) ← first.toShape modes
    let (shapes, after) ← Syntax.toShapes between rest
    return (shape :: shapes, after)

end

end Pattern
end ApiContract
