import ApiContract.Path

/-!
# Schema faults

Faults of the schema document itself.  A fault ends the run that meets it.
-/

namespace ApiContract

/-- Why a document is no table of components. -/
inductive TableFault where
  | documentNotObject
  | schemasNotObject
  deriving DecidableEq

/-- Wording of a table fault. -/
def TableFault.message : TableFault → String
  | documentNotObject => "document must be a JSON object"
  | schemasNotObject => "'components.schemas' must be a JSON object"

/-- A fault of a schema document. -/
inductive Fault where
  | unresolved (reference : String)
  | chainTooLong (reference : String) (hops : Nat)
  | tooDeep (path : Path) (limit : Nat)
  | invalidComponents (fault : TableFault)
  deriving DecidableEq

/-- Wording of a fault. -/
def Fault.message : Fault → String
  | unresolved reference => "Unresolved schema reference '" ++ reference ++ "'"
  | chainTooLong reference hops =>
    "Schema reference '" ++ reference ++ "' exceeded the hop limit of " ++ toString hops
  | tooDeep path limit =>
    path.text ++ ": schema nesting exceeds the maximum depth of " ++ toString limit
  | invalidComponents fault => "Invalid component table: " ++ fault.message

end ApiContract
