import ApiContract.Text.Blank

/-!
# Addresses

Mail addresses, by their shape alone, and internet addresses of both versions.
-/

namespace ApiContract
namespace Address

/-- Whether a text has the shape of a mail address: something before its one
`@`, after it a domain with a dot inside, and no blanks. -/
def isEmail (s : List Char) : Bool :=
  match cutAt? '@' s with
  | none => false
  | some (localPart, domain) =>
    !localPart.isEmpty && !domain.contains '@' && domain.contains '.' &&
      domain.head? != some '.' && domain.getLast? != some '.' && !s.any isBlank

/-- Whether a text is a number below 256 without leading zeros. -/
def isOctet (s : List Char) : Bool :=
  decide (1 ≤ s.length) && decide (s.length ≤ 3) && s.all Char.isDigit &&
    (s.length == 1 || s.head? != some '0') && decide (decimalValue s ≤ 255)

/-- Whether a text is an address of four octets. -/
def isIpv4 (s : List Char) : Bool :=
  match partsAt '.' s with
  | [a, b, c, d] => isOctet a && isOctet b && isOctet c && isOctet d
  | _ => false

/-- Whether a text is a group of 16 bits. -/
def isGroup (s : List Char) : Bool :=
  decide (1 ≤ s.length) && decide (s.length ≤ 4) && s.all isHexDigit

/-- Count of groups in parts that are all groups; a last part may be an address
of four octets, in place of two groups, where `tail` allows it. -/
def groupCount? (tail : Bool) : List (List Char) → Option Nat
  | [] => some 0
  | [last] =>
    if isGroup last then some 1 else if tail && isIpv4 last then some 2 else none
  | part :: rest => if isGroup part then (groupCount? tail rest).map (· + 1) else none

/-- Count of groups in a text, which may be empty. -/
def groupsIn? (tail : Bool) (s : List Char) : Option Nat :=
  if s.isEmpty then some 0 else groupCount? tail (partsAt ':' s)

/-- The text before the first double colon and the text after it. -/
def cutAtGap? : List Char → Option (List Char × List Char)
  | ':' :: ':' :: rest => some ([], rest)
  | c :: rest => (cutAtGap? rest).map (fun (before, after) => (c :: before, after))
  | [] => none

/-- Whether a text is an address of eight groups; a double colon stands for one
group or more that are zero. -/
def isIpv6 (s : List Char) : Bool :=
  match cutAtGap? s with
  | none => groupCount? true (partsAt ':' s) == some 8
  | some (before, after) =>
    match groupsIn? false before, groupsIn? true after with
    | some m, some n => decide (m + n ≤ 7)
    | _, _ => false

end Address
end ApiContract
