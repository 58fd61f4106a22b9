import ApiContract.Json

/-!
# Reading JSON texts

The reader goes through the text character by character.  A failure names its
cause and its place: the line, counted from one, and the column, counted in
bytes of UTF-8 since the last line break.  A failure about the next character
counts its first byte as well; other failures count what has been read.
-/

namespace ApiContract

/-- Why a text is not JSON. -/
inductive ReadCause where
  | endInValue
  | endInList
  | endInObject
  | endInString
  | expectedValue
  | expectedWord
  | expectedColon
  | expectedListSeparator
  | expectedObjectSeparator
  | keyNotString
  | trailingComma
  | trailingCharacters
  | invalidNumber
  | numberOutOfRange
  | invalidEscape
  | controlCharacter
  | loneSurrogate
  | endOfHexEscape
  | nestingLimit
  deriving DecidableEq

/-- Wording of a cause. -/
def ReadCause.message : ReadCause → String
  | endInValue => "EOF while parsing a value"
  | endInList => "EOF while parsing a list"
  | endInObject => "EOF while parsing an object"
  | endInString => "EOF while parsing a string"
  | expectedValue => "expected value"
  | expectedWord => "expected ident"
  | expectedColon => "expected `:`"
  | expectedListSeparator => "expected `,` or `]`"
  | expectedObjectSeparator => "expected `,` or `\x7d`"
  | keyNotString => "key must be a string"
  | trailingComma => "trailing comma"
  | trailingCharacters => "trailing characters"
  | invalidNumber => "invalid number"
  | numberOutOfRange => "number out of range"
  | invalidEscape => "invalid escape"
  | controlCharacter => "control character (\\u0000-\\u001F) found while parsing a string"
  | loneSurrogate => "lone leading surrogate in hex escape"
  | endOfHexEscape => "unexpected end of hex escape"
  | nestingLimit => "recursion limit exceeded"

/-- A failure to read a text, with its place. -/
structure ReadFailure where
  cause : ReadCause
  line : Nat
  column : Nat
  deriving DecidableEq

/-- The failure in words. -/
def ReadFailure.message (f : ReadFailure) : String :=
  f.cause.message ++ " at line " ++ toString f.line ++ " column " ++ toString f.column

namespace Reader

/-! ### Steps -/

/-- A failure with the text not yet read, and how many bytes of it count as read. -/
structure Stop where
  cause : ReadCause
  rest : List Char
  seen : Nat

/-- What a step leaves of `s`. -/
abbrev Rest (s : List Char) := { r : List Char // r.length < s.length }

/-- A step that reads an `α` and at least one character. -/
abbrev Step (α : Type) := (s : List Char) → Except Stop (α × Rest s)

/-- Stops, counting what has been read. -/
def stop {α : Type} (cause : ReadCause) (rest : List Char) : Except Stop α :=
  .error ⟨cause, rest, 0⟩

/-- Stops, counting also the next byte. -/
def stopAtNext {α : Type} (cause : ReadCause) (rest : List Char) : Except Stop α :=
  .error ⟨cause, rest, 1⟩

/-- Blanks between tokens. -/
def isBlank (c : Char) : Bool := c == ' ' || c == '\n' || c == '\t' || c == '\r'

/-- The text after its leading blanks. -/
def skip : List Char → List Char
  | [] => []
  | c :: rest => if isBlank c then skip rest else c :: rest

theorem length_skip_le (s : List Char) : (skip s).length ≤ s.length := by
  induction s with
  | nil => exact Nat.le_refl _
  | cons c rest ih =>
    unfold skip
    split
    · exact Nat.le_succ_of_le ih
    · exact Nat.le_refl _

theorem length_lt_of_skip {s rest : List Char} {c : Char} (read : skip s = c :: rest) :
    rest.length < s.length := by
  have bound := length_skip_le s
  rw [read] at bound
  exact bound

/-- Bytes of UTF-8 in a text. -/
def byteCount (s : List Char) : Nat := s.foldr (fun c count => c.utf8Size + count) 0

/-- The word's characters, one by one. -/
def word : List Char → (s : List Char) → Except Stop { r : List Char // r.length ≤ s.length }
  | [], s => .ok ⟨s, Nat.le_refl _⟩
  | _ :: _, [] => stop .endInValue []
  | c :: cs, d :: rest =>
    if c = d then do
      let ⟨r, h⟩ ← word cs rest
      .ok ⟨r, Nat.le_succ_of_le h⟩
    else stopAtNext .expectedWord (d :: rest)

/-! ### Strings -/

/-- Value of a hexadecimal digit. -/
def hexValue? (c : Char) : Option Nat :=
  if '0' ≤ c ∧ c ≤ '9' then some (c.toNat - '0'.toNat)
  else if 'a' ≤ c ∧ c ≤ 'f' then some (c.toNat - 'a'.toNat + 10)
  else if 'A' ≤ c ∧ c ≤ 'F' then some (c.toNat - 'A'.toNat + 10)
  else none

/-- Value of four hexadecimal digits. -/
def hexValue4? (a b c d : Char) : Option Nat := do
  return (((← hexValue? a) * 16 + (← hexValue? b)) * 16 + (← hexValue? c)) * 16 + (← hexValue? d)

/-- Four hexadecimal digits; fewer than four bytes are the end of the text. -/
def hex4 : Step Nat
  | a :: b :: c :: d :: rest =>
    match hexValue4? a b c d with
    | some n => .ok (n, ⟨rest, by simp; omega⟩)
    | none => .error ⟨.invalidEscape, a :: b :: c :: d :: rest, 4⟩
  | s =>
    if 4 ≤ byteCount s then .error ⟨.invalidEscape, s, 4⟩ else stop .endInString []

/-- The character of an escape with hexadecimal digits, after its `u`.  A
leading surrogate needs a trailing one in a second escape. -/
def unicodeEscape : Step Char := fun s => do
  let (high, ⟨rest, h⟩) ← hex4 s
  if 0xDC00 ≤ high ∧ high ≤ 0xDFFF then stop .loneSurrogate rest
  else if high < 0xD800 ∨ 0xDBFF < high then .ok (Char.ofNat high, ⟨rest, h⟩)
  else
    match shape : rest with
    | [] => stop .endInString []
    | '\\' :: [] => stop .endInString []
    | '\\' :: 'u' :: second =>
      let (low, ⟨r, h'⟩) ← hex4 second
      if low < 0xDC00 ∨ 0xDFFF < low then stop .loneSurrogate r
      else
        .ok (Char.ofNat ((high - 0xD800) * 0x400 + (low - 0xDC00) + 0x10000),
          ⟨r, by simp only [shape, List.length_cons] at h; omega⟩)
    | '\\' :: other => stopAtNext .endOfHexEscape other
    | other => stopAtNext .endOfHexEscape other

/-- The character of an escape, after its backslash. -/
def escape : Step Char
  | [] => stop .endInString []
  | 'u' :: rest => do
    let (c, ⟨r, h⟩) ← unicodeEscape rest
    .ok (c, ⟨r, Nat.lt_succ_of_lt h⟩)
  | c :: rest =>
    let plain? : Option Char :=
      match c with
      | '"' => some '"'
      | '\\' => some '\\'
      | '/' => some '/'
      | 'b' => some '\x08'
      | 'f' => some '\x0c'
      | 'n' => some '\n'
      | 'r' => some '\r'
      | 't' => some '\t'
      | _ => none
    match plain? with
    | some plain => .ok (plain, ⟨rest, Nat.lt_succ_self _⟩)
    | none => stopAtNext .invalidEscape (c :: rest)

/-- A string after its opening quote; `read` holds its characters so far, last first. -/
def stringBody (read : List Char) (s : List Char) : Except Stop (String × Rest s) :=
  match s with
  | [] => stop .endInString []
  | '"' :: rest => .ok (String.ofList read.reverse, ⟨rest, Nat.lt_succ_self _⟩)
  | '\\' :: rest => do
    let (c, ⟨r, h⟩) ← escape rest
    let (text, ⟨r', h'⟩) ← stringBody (c :: read) r
    .ok (text, ⟨r', by simp only [List.length_cons]; omega⟩)
  | c :: rest =>
    if c.toNat < 0x20 then stopAtNext .controlCharacter (c :: rest)
    else do
      let (text, ⟨r, h⟩) ← stringBody (c :: read) rest
      .ok (text, ⟨r, Nat.lt_succ_of_lt h⟩)
termination_by s.length
decreasing_by all_goals simp only [List.length_cons]; omega

/-! ### Numbers -/

/-- The largest significand that is gathered. -/
def significandLimit : Nat := 2 ^ 64 - 1

/-- Value of a decimal digit. -/
def digitValue (c : Char) : Nat := c.toNat - '0'.toNat

/-- Adds digits to a significand while it stays within its limit; also the
count of digits added. -/
def gather (significand count : Nat) : List Char → Nat × Nat
  | [] => (significand, count)
  | c :: rest =>
    let next := significand * 10 + digitValue c
    if significandLimit < next then (significand, count) else gather next (count + 1) rest

/-- The double nearest to `10 ^ e`, for `e` up to 308. -/
def powerOfTen (e : Nat) : Binary64 := (Binary64.ofFraction (10 ^ e) 1).clamp

/-- `x` over `10 ^ e`, with exponents beyond 308 taken off in parts of 308. -/
def divideByPower (x : Binary64) (e : Nat) : Binary64 :=
  if 308 < e then
    if x.rank = 0 then x
    else divideByPower (Binary64.div x (powerOfTen 308)).clamp (e - 308)
  else (Binary64.div x (powerOfTen e)).clamp
termination_by e
decreasing_by omega

/-- The double of a significand and a decimal exponent: the significand is
rounded first, then multiplied or divided by a rounded power of ten.  `none`
is a number out of range. -/
def ofParts (negative : Bool) (significand : Nat) (exponent : Int) : Option Binary64 := do
  let x := Binary64.ofInt significand
  let scaled ←
    match exponent with
    | .ofNat e =>
      if x.rank = 0 then some x
      else if 308 < e then none
      else (Binary64.mul x (powerOfTen e)).toFinite?
    | .negSucc e => some (divideByPower x (e + 1))
  return { scaled with negative := negative }

/-- The number of gathered parts, or a stop at what is left of the text. -/
def finishReal (negative : Bool) (significand : Nat) (exponent : Int) (rest : List Char) :
    Except Stop Number :=
  match ofParts negative significand exponent with
  | some x => .ok (.real x)
  | none => stop .numberOutOfRange rest

theorem length_dropWhile_le (p : Char → Bool) (s : List Char) : (s.dropWhile p).length ≤ s.length :=
  (List.dropWhile_sublist p).length_le

/-- What a step leaves of `s` if it may read nothing. -/
abbrev Remainder (s : List Char) := { r : List Char // r.length ≤ s.length }

/-- The largest decimal exponent that is gathered. -/
def exponentLimit : Nat := 2 ^ 31 - 1

/-- Digits of an exponent after the first: the exponent and the rest, or the
rest where the exponent passes its limit. -/
def exponentDigits (exponent : Nat) : (s : List Char) → Except (Remainder s) (Nat × Remainder s)
  | [] => .ok (exponent, ⟨[], Nat.le_refl _⟩)
  | c :: rest =>
    if c.isDigit then
      let next := exponent * 10 + digitValue c
      if exponentLimit < next then .error ⟨rest, Nat.le_succ _⟩
      else
        match exponentDigits next rest with
        | .ok (e, ⟨r, h⟩) => .ok (e, ⟨r, Nat.le_succ_of_le h⟩)
        | .error ⟨r, h⟩ => .error ⟨r, Nat.le_succ_of_le h⟩
    else .ok (exponent, ⟨c :: rest, Nat.le_refl _⟩)

/-- Bounds of a decimal exponent after it is added to the places of the point. -/
def boundExponent (e : Int) : Int := max (-(2 ^ 31)) (min (2 ^ 31 - 1) e)

/-- The exponent of a number, after its mark. -/
def exponentPart (negative : Bool) (significand : Nat) (scale : Int) (s : List Char) :
    Except Stop (Number × Remainder s) :=
  let positive := s.head? ≠ some '-'
  let signed := s.head? = some '-' ∨ s.head? = some '+'
  let digits := if signed then s.tail else s
  have bound : digits.length ≤ s.length := by
    simp only [digits]; split <;> simp
  match shape : digits with
  | [] => stop .endInValue []
  | c :: rest =>
    if c.isDigit then
      match exponentDigits (digitValue c) rest with
      | .ok (e, ⟨r, h⟩) => do
        let exponent := if positive then scale + e else scale - e
        let number ← finishReal negative significand (boundExponent exponent) r
        .ok (number, ⟨r, by simp only [List.length_cons] at bound; omega⟩)
      | .error ⟨r, h⟩ =>
        if significand ≠ 0 ∧ positive then stop .numberOutOfRange r
        else
          .ok (.real ⟨negative, 0, Binary64.zero.finite⟩, ⟨r.dropWhile Char.isDigit, by
            have := length_dropWhile_le Char.isDigit r
            simp only [List.length_cons] at bound
            omega⟩)
    else stopAtNext .invalidNumber (c :: rest)

/-- Exponent or end of a number. -/
def afterDigits (negative : Bool) (significand : Nat) (scale : Int) (s : List Char) :
    Except Stop (Number × Remainder s) :=
  match s with
  | [] => do return (← finishReal negative significand scale [], ⟨[], Nat.le_refl _⟩)
  | c :: rest =>
    if c = 'e' ∨ c = 'E' then do
      let (number, ⟨r, h⟩) ← exponentPart negative significand scale rest
      .ok (number, ⟨r, Nat.le_succ_of_le h⟩)
    else do return (← finishReal negative significand scale (c :: rest), ⟨c :: rest, Nat.le_refl _⟩)

/-- The digits after the point of a number, and what follows them. -/
def fraction (negative : Bool) (significand : Nat) (scale : Int) (s : List Char) :
    Except Stop (Number × Remainder s) :=
  let digits := s.takeWhile Char.isDigit
  let rest := s.dropWhile Char.isDigit
  if digits.isEmpty then
    match s with
    | [] => stopAtNext .endInValue []
    | c :: more => stopAtNext .invalidNumber (c :: more)
  else
    let (gathered, places) := gather significand 0 digits
    match afterDigits negative gathered (scale - places) rest with
    | .ok (number, ⟨r, h⟩) => .ok (number, ⟨r, Nat.le_trans h (length_dropWhile_le _ _)⟩)
    | .error e => .error e

/-- An integer that fits a word stays an integer; minus zero does not. -/
def wholeNumber (negative : Bool) (n : Nat) : Number :=
  if negative ∧ n = 0 then .real Binary64.negativeZero
  else Number.ofInt (if negative then -(n : Int) else n)

/-- A number after its sign. -/
def number (negative : Bool) : Step Number
  | [] => stop .endInValue []
  | c :: tail =>
    let s := c :: tail
    if c.isDigit then
      if c = '0' ∧ (tail.head?.any Char.isDigit) then stopAtNext .invalidNumber tail
      else
        let digits := tail.takeWhile Char.isDigit
        let rest := tail.dropWhile Char.isDigit
        have short : rest.length < s.length :=
          Nat.lt_succ_of_le (length_dropWhile_le Char.isDigit tail)
        let (significand, count) := gather (digitValue c) 0 digits
        let dropped := digits.length - count
        match shape : rest with
        | '.' :: more => do
          let (n, ⟨r, h⟩) ← fraction negative significand dropped more
          .ok (n, ⟨r, by simp only [List.length_cons] at short; simp only [s, List.length_cons] at *; omega⟩)
        | rest' =>
          if rest'.head? = some 'e' ∨ rest'.head? = some 'E' ∨ dropped ≠ 0 then do
            let (n, ⟨r, h⟩) ← afterDigits negative significand dropped rest'
            .ok (n, ⟨r, Nat.lt_of_le_of_lt h short⟩)
          else .ok (wholeNumber negative significand, ⟨rest', short⟩)
    else stopAtNext .invalidNumber s

/-! ### Values -/

/-- The items of an array after the first one. -/
def moreItems (item : Step Json) (s : List Char) (read : List Json) :
    Except Stop (List Json × Rest s) :=
  match shape : skip s with
  | [] => stopAtNext .endInList []
  | ']' :: rest => .ok (read.reverse, ⟨rest, length_lt_of_skip shape⟩)
  | ',' :: rest =>
    match skip rest with
    | ']' :: after => stopAtNext .trailingComma (']' :: after)
    | [] => stopAtNext .endInValue []
    | _ => do
      have short := length_lt_of_skip shape
      let (value, ⟨r, h⟩) ← item rest
      let (items, ⟨r', h'⟩) ← moreItems item r (value :: read)
      .ok (items, ⟨r', by omega⟩)
  | other => stopAtNext .expectedListSeparator other
termination_by s.length
decreasing_by have := length_lt_of_skip shape; omega

/-- The items of an array after its opening bracket. -/
def items (item : Step Json) : Step (List Json) := fun s =>
  match shape : skip s with
  | [] => stopAtNext .endInList []
  | ']' :: rest => .ok ([], ⟨rest, length_lt_of_skip shape⟩)
  | _ => do
    let (value, ⟨r, h⟩) ← item s
    let (items, ⟨r', h'⟩) ← moreItems item r [value]
    .ok (items, ⟨r', by omega⟩)

/-- A member from its opening quote on: name, colon and value. -/
def member (item : Step Json) : Step (String × Json) := fun s =>
  match shape : skip s with
  | '"' :: rest => do
    have first := length_lt_of_skip shape
    let (name, ⟨r, h⟩) ← stringBody [] rest
    match shape' : skip r with
    | ':' :: afterColon =>
      have second := length_lt_of_skip shape'
      let (value, ⟨r', h'⟩) ← item afterColon
      .ok ((name, value), ⟨r', by omega⟩)
    | [] => stopAtNext .endInObject []
    | other => stopAtNext .expectedColon other
  | other => stopAtNext .keyNotString other

/-- The members of an object after the first one. -/
def moreMembers (item : Step Json) (s : List Char) (read : List (String × Json)) :
    Except Stop (List (String × Json) × Rest s) :=
  match shape : skip s with
  | [] => stopAtNext .endInObject []
  | '}' :: rest => .ok (read.reverse, ⟨rest, length_lt_of_skip shape⟩)
  | ',' :: rest =>
    match skip rest with
    | '}' :: after => stopAtNext .trailingComma ('}' :: after)
    | [] => stopAtNext .endInValue []
    | _ => do
      have short := length_lt_of_skip shape
      let (field, ⟨r, h⟩) ← member item rest
      let (fields, ⟨r', h'⟩) ← moreMembers item r (field :: read)
      .ok (fields, ⟨r', by omega⟩)
  | other => stopAtNext .expectedObjectSeparator other
termination_by s.length
decreasing_by have := length_lt_of_skip shape; omega

/-- The members of an object after its opening brace. -/
def members (item : Step Json) : Step (List (String × Json)) := fun s =>
  match shape : skip s with
  | [] => stopAtNext .endInObject []
  | '}' :: rest => .ok ([], ⟨rest, length_lt_of_skip shape⟩)
  | _ => do
    let (field, ⟨r, h⟩) ← member item s
    let (fields, ⟨r', h'⟩) ← moreMembers item r [field]
    .ok (fields, ⟨r', by omega⟩)

/-- A word that stands for a value, after its first letter. -/
def literal (rest : List Char) (value : Json) (s : List Char) : Except Stop (Json × Remainder s) := do
  return (value, ← word rest s)

/-- A value; `nesting` more arrays and objects may be opened. -/
def value (nesting : Nat) : Step Json := fun s =>
  match shape : skip s with
  | [] => stopAtNext .endInValue []
  | c :: rest => do
    have short := length_lt_of_skip shape
    if c = 'n' then
      let (v, ⟨r, h⟩) ← literal ['u', 'l', 'l'] .null rest
      .ok (v, ⟨r, by omega⟩)
    else if c = 't' then
      let (v, ⟨r, h⟩) ← literal ['r', 'u', 'e'] (.bool true) rest
      .ok (v, ⟨r, by omega⟩)
    else if c = 'f' then
      let (v, ⟨r, h⟩) ← literal ['a', 'l', 's', 'e'] (.bool false) rest
      .ok (v, ⟨r, by omega⟩)
    else if c = '"' then
      let (text, ⟨r, h⟩) ← stringBody [] rest
      .ok (.string text, ⟨r, by omega⟩)
    else if c = '-' then
      let (n, ⟨r, h⟩) ← number true rest
      .ok (.number n, ⟨r, by omega⟩)
    else if c.isDigit then
      let (n, ⟨r, h⟩) ← number false (c :: rest)
      .ok (.number n, ⟨r, by simp only [List.length_cons] at h; omega⟩)
    else if c = '[' then
      match nesting with
      | 0 => stopAtNext .nestingLimit (c :: rest)
      | n + 1 =>
        let (vs, ⟨r, h⟩) ← items (value n) rest
        .ok (.array vs, ⟨r, by omega⟩)
    else if c = '{' then
      match nesting with
      | 0 => stopAtNext .nestingLimit (c :: rest)
      | n + 1 =>
        let (fields, ⟨r, h⟩) ← members (value n) rest
        .ok (.object (Fields.ofPairs fields), ⟨r, by omega⟩)
    else stopAtNext .expectedValue (c :: rest)
termination_by structural nesting

/-! ### Texts -/

/-- Line and column after the first `count` bytes of a text. -/
def place (bytes : List UInt8) (count : Nat) : Nat × Nat :=
  let read := bytes.take count
  let lineBreak : UInt8 := 10
  (1 + read.count lineBreak, (read.reverse.takeWhile (· ≠ lineBreak)).length)

/-- The failure of a stop in a text. -/
def Stop.toFailure (stop : Stop) (text : String) : ReadFailure :=
  let count := text.utf8ByteSize - byteCount stop.rest + stop.seen
  let (line, column) := place text.toUTF8.toList count
  ⟨stop.cause, line, column⟩

/-- A whole text: one value and blanks. -/
def document (nesting : Nat) (s : List Char) : Except Stop Json := do
  let (v, ⟨rest, _⟩) ← value nesting s
  match skip rest with
  | [] => .ok v
  | other => stopAtNext .trailingCharacters other

end Reader

/-- Arrays and objects that may be open at once in a document. -/
def Json.nestingLimit : Nat := 127

/-- The value of a text in which at most `nesting` arrays and objects are open at once. -/
def Json.readNested (nesting : Nat) (text : String) : Except ReadFailure Json :=
  match Reader.document nesting text.toList with
  | .ok value => .ok value
  | .error stop => .error (stop.toFailure text)

/-- The value of a document's text. -/
def Json.read (text : String) : Except ReadFailure Json := readNested nestingLimit text

end ApiContract
