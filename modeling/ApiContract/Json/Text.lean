import ApiContract.Decimal.Layout
import ApiContract.Json
import ApiContract.Text.Quoted

/-!
# JSON texts

The compact text of a value: no blanks, members in order, doubles with their
shortest digits.
-/

namespace ApiContract

/-- Text of a number. -/
def Number.write : Number → List Char
  | integer n _ => intText n
  | real x => Layout.json.write x

namespace Json

mutual

/-- The text of a value. -/
def write : Json → List Char
  | null => ['n', 'u', 'l', 'l']
  | bool true => ['t', 'r', 'u', 'e']
  | bool false => ['f', 'a', 'l', 's', 'e']
  | number n => n.write
  | string s => Quoted.write s.toList
  | array items => '[' :: writeItems items
  | object fields => '{' :: writeFields fields

/-- The items up to the closing bracket. -/
def writeItems : List Json → List Char
  | [] => [']']
  | item :: rest => write item ++ writeMoreItems rest

/-- Further items, each after a comma, up to the closing bracket. -/
def writeMoreItems : List Json → List Char
  | [] => [']']
  | item :: rest => ',' :: write item ++ writeMoreItems rest

/-- The members up to the closing brace. -/
def writeFields : List (String × Json) → List Char
  | [] => ['}']
  | (name, value) :: rest => Quoted.write name.toList ++ ':' :: write value ++ writeMoreFields rest

/-- Further members, each after a comma, up to the closing brace. -/
def writeMoreFields : List (String × Json) → List Char
  | [] => ['}']
  | (name, value) :: rest =>
    ',' :: Quoted.write name.toList ++ ':' :: write value ++ writeMoreFields rest

end

/-- The text of a value as a string. -/
def text (value : Json) : String := String.ofList value.write

end Json
end ApiContract
