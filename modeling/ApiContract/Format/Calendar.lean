import ApiContract.Text.Blank

/-!
# Dates and times

Dates of the Gregorian calendar, carried on in both directions, and times of
day with an offset.
-/

namespace ApiContract
namespace Calendar

/-- Leap years: every fourth, but of the centuries only every fourth. -/
def isLeap (year : Int) : Bool := year % 4 == 0 && (year % 100 != 0 || year % 400 == 0)

/-- Days of a month. -/
def daysIn (year : Int) (month : Nat) : Nat :=
  match month with
  | 1 | 3 | 5 | 7 | 8 | 10 | 12 => 31
  | 4 | 6 | 9 | 11 => 30
  | 2 => if isLeap year then 29 else 28
  | _ => 0

/-- Whether a date exists. -/
def isDate (year : Int) (month day : Nat) : Bool :=
  decide (1 ≤ day) && decide (day ≤ daysIn year month)

/-! ### Full dates -/

/-- A number of `least` to `most` digits at the start of a text, and the rest. -/
def number? (least most : Nat) (s : List Char) : Option (Nat × List Char) :=
  let digits := (s.takeWhile Char.isDigit).take most
  if digits.length < least then none else some (decimalValue digits, s.drop digits.length)

/-- The text after a mark. -/
def mark? (mark : Char) : List Char → Option (List Char)
  | [] => none
  | c :: rest => if c = mark then some rest else none

/-- A year, after blanks: up to four digits, or any number of them after a sign. -/
def year? (s : List Char) : Option (Int × List Char) :=
  match s.dropWhile isBlank with
  | '-' :: rest => (number? 1 rest.length rest).map (fun (n, after) => (-(n : Int), after))
  | '+' :: rest => (number? 1 rest.length rest).map (fun (n, after) => ((n : Int), after))
  | rest => (number? 1 4 rest).map (fun (n, after) => ((n : Int), after))

/-- A month or day of one or two digits, after blanks. -/
def part? (s : List Char) : Option (Nat × List Char) := number? 1 2 (s.dropWhile isBlank)

/-- Years that dates have. -/
def isYear (year : Int) : Bool := decide (-262143 ≤ year) && decide (year ≤ 262142)

/-- Whether a text is a date: year, month and day with hyphens between them. -/
def isFullDate (s : List Char) : Bool :=
  let date? := do
    let (year, s) ← year? s
    let (month, s) ← part? (← mark? '-' s)
    let (day, s) ← part? (← mark? '-' s)
    return isYear year && isDate year month day && s.isEmpty
  date?.getD false

/-! ### Dates with times -/

/-- A number of two digits. -/
def two? (s : List Char) : Option (Nat × List Char) := number? 2 2 s

/-- Whether a text is an offset from universal time. -/
def isOffset : List Char → Bool
  | [c] => c == 'Z' || c == 'z'
  | sign :: s =>
    let offset? := do
      let (hour, s) ← two? s
      let (minute, s) ← two? (← mark? ':' s)
      return decide (hour ≤ 23) && decide (minute ≤ 59) && s.isEmpty
    (sign == '+' || sign == '-' || sign == '−') && offset?.getD false
  | [] => false

/-- The text after a fraction of a second, if there is one. -/
def afterFraction? : List Char → Option (List Char)
  | '.' :: s => (number? 1 s.length s).map Prod.snd
  | s => some s

/-- What separates a date from a time. -/
def separates (c : Char) : Bool := c == 'T' || c == 't' || c == ' '

/-- Whether a text is a date, a time of day and an offset. -/
def isDateTime (s : List Char) : Bool :=
  let moment? := do
    let (year, s) ← number? 4 4 s
    let (month, s) ← two? (← mark? '-' s)
    let (day, s) ← two? (← mark? '-' s)
    let (separator, s) ← s.head?.map (fun c => (c, s.tail))
    let (hour, s) ← two? s
    let (minute, s) ← two? (← mark? ':' s)
    let (second, s) ← two? (← mark? ':' s)
    let s ← afterFraction? s
    return separates separator && isDate year month day && decide (hour ≤ 23) &&
      decide (minute ≤ 59) && decide (second ≤ 60) && isOffset s
  moment?.getD false

end Calendar
end ApiContract
