import ApiContract.Binary64.Rounding
import ApiContract.Fields

/-!
# JSON values

Numbers are exact: an integer of up to 64 bits, signed or not, or a finite
double.  The members of an object are named fields, in order.
-/

namespace ApiContract

/-- Integers that a 64-bit word holds, signed or unsigned. -/
def FitsWord (n : Int) : Prop := -(2 ^ 63) ≤ n ∧ n < 2 ^ 64

instance (n : Int) : Decidable (FitsWord n) := inferInstanceAs (Decidable (_ ∧ _))

/-- A JSON number. -/
inductive Number where
  | integer (value : Int) (fits : FitsWord value)
  | real (value : Binary64)
  deriving DecidableEq

namespace Number

/-- The integer as a number; out of range, the nearest double. -/
def ofInt (n : Int) : Number :=
  if fits : FitsWord n then integer n fits else real (Binary64.ofInt n)

/-- The nearest double. -/
def toBinary64 : Number → Binary64
  | integer n _ => Binary64.ofInt n
  | real x => x

/-- The number as a limit that counts: a natural number as it is, any other
number that is not below zero cut to a whole word. -/
def toCount? : Number → Option Nat
  | integer n _ => if 0 ≤ n then some n.toNat else none
  | real x => if Binary64.zero.le x then some x.toWord else none

end Number

/-- A JSON value. -/
inductive Json where
  | null
  | bool (value : Bool)
  | number (value : Number)
  | string (value : String)
  | array (items : List Json)
  | object (fields : List (String × Json))

namespace Json

/-! ### Views -/

/-- Member of an object; other values have none. -/
def get? (name : String) : Json → Option Json
  | object fields => Fields.get? fields name
  | _ => none

def bool? : Json → Option Bool
  | bool b => some b
  | _ => none

def number? : Json → Option Number
  | number n => some n
  | _ => none

def string? : Json → Option String
  | string s => some s
  | _ => none

def array? : Json → Option (List Json)
  | array items => some items
  | _ => none

def object? : Json → Option (List (String × Json))
  | object fields => some fields
  | _ => none

/-- Number as the nearest double. -/
def binary64? (value : Json) : Option Binary64 := value.number?.map Number.toBinary64

/-- Number as a limit that counts. -/
def count? (value : Json) : Option Nat := value.number?.bind Number.toCount?

/-- Whether the value is null. -/
def isNull : Json → Bool
  | null => true
  | _ => false

/-- The integer as a value. -/
def ofInt (n : Int) : Json := number (Number.ofInt n)

/-- Name of the value's JSON type. -/
def typeName : Json → String
  | null => "null"
  | bool _ => "boolean"
  | number _ => "number"
  | string _ => "string"
  | array _ => "array"
  | object _ => "object"

/-! ### Order of members -/

mutual

/-- Every object of the value has its members in strictly ascending order. -/
def Ordered : Json → Prop
  | array items => OrderedItems items
  | object fields => Fields.Ordered fields ∧ OrderedFields fields
  | _ => True

/-- Every object of the items has its members in order. -/
def OrderedItems : List Json → Prop
  | [] => True
  | item :: rest => Ordered item ∧ OrderedItems rest

/-- Every object of the fields' values has its members in order. -/
def OrderedFields : List (String × Json) → Prop
  | [] => True
  | (_, value) :: rest => Ordered value ∧ OrderedFields rest

end

end Json
end ApiContract
