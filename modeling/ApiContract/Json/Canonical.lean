import ApiContract.Json.Text

/-!
# Equality of JSON values

Numbers are equal when their values are, whatever their form: `1` is `1.0` and
`-0.0` is `0`.  Whole numbers below `2 ^ 64` in magnitude compare as integers,
others as doubles.  Equal values have the same canonical text.
-/

namespace ApiContract

/-- The whole value of a number below `2 ^ 64` in magnitude. -/
def Number.whole? : Number → Option Int
  | .integer n _ => some n
  | .real x =>
    if x.isWhole && decide (x.magnitude < 2 ^ 64 * Binary64.unitsOfOne) then some x.truncate else none

/-- Canonical text: whole numbers as integers, others as plain decimals. -/
def Number.canonical (n : Number) : List Char :=
  match n.whole? with
  | some i => intText i
  | none => Layout.plain.write n.toBinary64

/-- Numeric equality. -/
def Number.same (x y : Number) : Bool :=
  match x.whole?, y.whole? with
  | some i, some j => i == j
  | none, none => x.toBinary64.eq y.toBinary64
  | _, _ => false

namespace Json

mutual

/-- Canonical text of a value. -/
def canonical : Json → List Char
  | number n => n.canonical
  | array items => '[' :: canonicalItems items
  | object fields => '{' :: canonicalFields fields
  | value => value.write

/-- The items up to the closing bracket. -/
def canonicalItems : List Json → List Char
  | [] => [']']
  | item :: rest => canonical item ++ canonicalMoreItems rest

/-- Further items, each after a comma, up to the closing bracket. -/
def canonicalMoreItems : List Json → List Char
  | [] => [']']
  | item :: rest => ',' :: canonical item ++ canonicalMoreItems rest

/-- The members up to the closing brace. -/
def canonicalFields : List (String × Json) → List Char
  | [] => ['}']
  | (name, value) :: rest =>
    Quoted.write name.toList ++ ':' :: canonical value ++ canonicalMoreFields rest

/-- Further members, each after a comma, up to the closing brace. -/
def canonicalMoreFields : List (String × Json) → List Char
  | [] => ['}']
  | (name, value) :: rest =>
    ',' :: Quoted.write name.toList ++ ':' :: canonical value ++ canonicalMoreFields rest

end

/-- Canonical text of a value as a string. -/
def canonicalText (value : Json) : String := String.ofList value.canonical

mutual

/-- Equality of values: arrays item by item, objects by name. -/
def same : Json → Json → Bool
  | null, null => true
  | bool a, bool b => a == b
  | string a, string b => a == b
  | number a, number b => a.same b
  | array as, array bs => sameItems as bs
  | object as, object bs => as.length == bs.length && sameFields as bs
  | _, _ => false

/-- Equality of items in order. -/
def sameItems : List Json → List Json → Bool
  | [], [] => true
  | a :: as, b :: bs => same a b && sameItems as bs
  | _, _ => false

/-- Whether each field has an equal value under its name in the other object. -/
def sameFields : List (String × Json) → List (String × Json) → Bool
  | [], _ => true
  | (name, a) :: rest, bs =>
    (match Fields.get? bs name with
      | some b => same a b
      | none => false) && sameFields rest bs

end

end Json
end ApiContract
