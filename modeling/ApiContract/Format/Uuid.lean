import ApiContract.Text.Blank

/-!
# Universally unique identifiers

Thirty-two hexadecimal digits, in one piece or in five with hyphens between
them; the hyphenated form may stand in braces or after `urn:uuid:`.
-/

namespace ApiContract
namespace Uuid

/-- Whether a text is `count` hexadecimal digits. -/
def isHex (count : Nat) (s : List Char) : Bool := s.length == count && s.all isHexDigit

/-- Whether a text is the hyphenated form. -/
def isHyphenated (s : List Char) : Bool :=
  match partsAt '-' s with
  | [a, b, c, d, e] => isHex 8 a && isHex 4 b && isHex 4 c && isHex 4 d && isHex 12 e
  | _ => false

/-- Whether a text is the hyphenated form in braces. -/
def isBraced (s : List Char) : Bool :=
  s.head? == some '{' && s.getLast? == some '}' && isHyphenated (s.tail.dropLast)

/-- What stands before the hyphenated form as a name. -/
def namePrefix : List Char := "urn:uuid:".toList

/-- Whether a text is the hyphenated form as a name; case does not matter. -/
def isNamed (s : List Char) : Bool :=
  namePrefix.isPrefixOf (s.map Char.toLower) && isHyphenated (s.drop namePrefix.length)

/-- Whether a text is an identifier in one of its forms. -/
def isUuid (s : List Char) : Bool := isHex 32 s || isHyphenated s || isBraced s || isNamed s

end Uuid
end ApiContract
