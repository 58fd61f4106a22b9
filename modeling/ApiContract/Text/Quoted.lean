/-!
# Quoted strings

A string between double quotes as JSON writes it: quote, backslash and the
control characters are escaped, the named ones with a letter, the others with
four hexadecimal digits.  All other characters stand for themselves.
-/

namespace ApiContract
namespace Quoted

/-- Lower-case hexadecimal digit. -/
def hexDigit (n : Nat) : Char := Nat.digitChar n

/-- One character between the quotes. -/
def writeChar (c : Char) : List Char :=
  match c with
  | '"' => ['\\', '"']
  | '\\' => ['\\', '\\']
  | '\x08' => ['\\', 'b']
  | '\x0c' => ['\\', 'f']
  | '\n' => ['\\', 'n']
  | '\r' => ['\\', 'r']
  | '\t' => ['\\', 't']
  | c =>
    if c.toNat < 0x20 then
      ['\\', 'u', '0', '0', hexDigit (c.toNat / 16), hexDigit (c.toNat % 16)]
    else [c]

/-- The string with its quotes. -/
def write (s : List Char) : List Char := '"' :: s.flatMap writeChar ++ ['"']

end Quoted
end ApiContract
