import ApiContract.Unicode.Category
import ApiContract.Unicode.Property
import ApiContract.Unicode.Recent

/-!
# Inspected strings

Strings as messages list them: between double quotes, with quote, backslash and
all that does not show as a character of its own escaped.  Blanks other than
the space, controls, unassigned characters, fillers and characters that attach
to the one before are escaped by their code points.
-/

namespace ApiContract
namespace Inspected

/-- Characters that do not show. -/
def hidden : CharSet :=
  CharSet.diff
    (CharSet.ofRanges
      (Category.union [.control, .format, .privateUse, .unassigned, .lineSeparator,
          .paragraphSeparator, .spaceSeparator] ++
        Property.graphemeExtend.toSet ++ Property.defaultIgnorableCodePoint.toSet))
    (CharSet.union (CharSet.single ' ') Recent.visible)

/-- One character between the quotes. -/
def writeChar (c : Char) : List Char :=
  match c with
  | '"' => ['\\', '"']
  | '\\' => ['\\', '\\']
  | '\n' => ['\\', 'n']
  | '\r' => ['\\', 'r']
  | '\t' => ['\\', 't']
  | '\x00' => ['\\', '0']
  | c =>
    if hidden.contains c then '\\' :: 'u' :: '{' :: Nat.toDigits 16 c.toNat ++ ['}'] else [c]

/-- A string. -/
def string (s : String) : List Char := '"' :: s.toList.flatMap writeChar ++ ['"']

/-- The strings of a list after the first. -/
def moreStrings : List String → List Char
  | [] => [']']
  | s :: rest => ',' :: ' ' :: string s ++ moreStrings rest

/-- A list of strings. -/
def list : List String → List Char
  | [] => ['[', ']']
  | s :: rest => '[' :: string s ++ moreStrings rest

end Inspected
end ApiContract
