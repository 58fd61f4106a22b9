/-!
# Kinds and combinators

The closed sets of words that a schema chooses from.
-/

namespace ApiContract

/-- The type that a schema asks of a value. -/
inductive Kind where
  | object
  | array
  | string
  | number
  | integer
  | boolean
  | null
  deriving DecidableEq

namespace Kind

/-- All kinds. -/
def all : List Kind := [object, array, string, number, integer, boolean, null]

/-- The word for a kind. -/
def name : Kind → String
  | object => "object"
  | array => "array"
  | string => "string"
  | number => "number"
  | integer => "integer"
  | boolean => "boolean"
  | null => "null"

/-- The kind of a word. -/
def ofName? (word : String) : Option Kind := all.find? (fun kind => kind.name = word)

/-- Wording of a fault: a word that is none of the words wanted. -/
def unknownWord (word : String) : String :=
  "unknown variant `" ++ word ++ "`, expected one of " ++
    ", ".intercalate (all.map (fun kind => "`" ++ kind.name ++ "`"))

theorem ofName?_name (kind : Kind) : ofName? kind.name = some kind := by
  cases kind <;> decide

end Kind

/-- A way of composing schemas. -/
inductive Combinator where
  | oneOf
  | anyOf
  | allOf
  deriving DecidableEq

namespace Combinator

/-- All combinators, in the order in which they are looked up. -/
def all : List Combinator := [oneOf, anyOf, allOf]

/-- The keyword of a combinator. -/
def keyword : Combinator → String
  | oneOf => "oneOf"
  | anyOf => "anyOf"
  | allOf => "allOf"

end Combinator
end ApiContract
