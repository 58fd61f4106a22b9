import ApiContract.Json
import ApiContract.Schema.Fault

/-!
# Component tables

Named schemas that references point at.  Names are stored as they are given;
a reference loses the prefix of local components, once, when it is looked up.
-/

namespace ApiContract

/-- Named schemas, in order of their names. -/
structure ComponentTable where
  schemas : List (String × Json)
  ordered : Fields.Ordered schemas

namespace ComponentTable

/-- What local references to components start with. -/
def localPrefix : String := "#/components/schemas/"

/-- A list without a leading part, if it has it. -/
def dropLeading (lead : List Char) (s : List Char) : List Char :=
  if lead.isPrefixOf s then s.drop lead.length else s

/-- The component that a reference names. -/
def componentName (reference : String) : String :=
  String.ofList (dropLeading localPrefix.toList reference.toList)

/-- The table without components. -/
def empty : ComponentTable := ⟨[], List.Pairwise.nil⟩

/-- The table of an object's fields. -/
def ofFields (fields : List (String × Json)) : ComponentTable :=
  ⟨Fields.ofPairs fields, Fields.ordered_ofPairs fields⟩

/-- The table of a document: the schemas of a whole contract, or the document itself. -/
def ofDocument (document : Json) : Except Fault ComponentTable :=
  match document with
  | .object fields =>
    if Fields.contains fields "openapi" || Fields.contains fields "components" then
      match (Fields.get? fields "components").bind (Json.get? "schemas") with
      | some (.object schemas) => .ok (ofFields schemas)
      | some _ => .error (.invalidComponents .schemasNotObject)
      | none => .ok empty
    else .ok (ofFields fields)
  | _ => .error (.invalidComponents .documentNotObject)

/-- Gives a name a schema, in place of an earlier one. -/
def insert (table : ComponentTable) (name : String) (schema : Json) : ComponentTable :=
  ⟨Fields.set table.schemas name schema, table.ordered.set name schema⟩

/-- The schema that a name or local reference stands for. -/
def get? (table : ComponentTable) (reference : String) : Option Json :=
  Fields.get? table.schemas (componentName reference)

/-- The schema of a reference, or the fault that there is none. -/
def resolve (table : ComponentTable) (reference : String) : Except Fault Json :=
  match table.get? reference with
  | some schema => .ok schema
  | none => .error (.unresolved reference)

/-- Names in order. -/
def names (table : ComponentTable) : List String := Fields.names table.schemas

/-- Count of components. -/
def length (table : ComponentTable) : Nat := table.schemas.length

/-- Whether there are no components. -/
def isEmpty (table : ComponentTable) : Bool := table.schemas.isEmpty

end ComponentTable
end ApiContract
