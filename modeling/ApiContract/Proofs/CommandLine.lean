import ApiContract.Command
import ApiContract.Proofs.Reading

/-!
# The program and the library

A run of the program is kept from a report, for one of seven reasons and with
exit code two, or it passes on the report that the library makes of the document,
with exit code zero or one.
-/

namespace ApiContract
namespace Command

/-! ### What the arguments and files amount to -/

/-- The arguments that do not start with two hyphens. -/
def unhyphened (args : List String) : List String :=
  args.filter (fun arg => ¬"--".toList <+: arg.toList)

/-- The request that the arguments make: three names without hyphens, and the
direction of a response exactly if it is asked for. -/
structure Asks (program : String) (args : List String) (request : Request) : Prop where
  names : unhyphened args = [request.components, request.schema, request.document]
  direction : request.direction = .response ↔ "--response" ∈ program :: args

/-- A file holds a table of components. -/
def Loads (files : Files) (name : String) (table : ComponentTable) : Prop :=
  ∃ text document, files name = .ok text ∧ Json.read text = .ok document ∧
    ComponentTable.ofDocument document = .ok table

/-- What a request needs of the files: a table that knows its schema, and a document's text. -/
structure Ready (files : Files) (request : Request) (table : ComponentTable) (text : String) :
    Prop where
  loads : Loads files request.components table
  known : table.get? request.schema ≠ none
  read : files request.document = .ok text

/-- What the library says of the text that a request is about. -/
def Answered (table : ComponentTable) (text : String) (request : Request)
    (answer : Except Fault Report) : Prop :=
  ((Validator.mk table .default).validateText text (.object [("$ref", .string request.schema)])
    "body" (.ofDirection request.direction)).1 = answer

/-- The request of the arguments, and the library's report on it. -/
inductive Reports (program : String) (args : List String) (files : Files) (request : Request)
    (report : Report) : Prop where
  | intro {table : ComponentTable} {text : String} (asks : Asks program args request)
    (ready : Ready files request table text) (answered : Answered table text request (.ok report))

variable {program : String} {args : List String} {files : Files} {request : Request}
  {table : ComponentTable} {text : String} {report : Report} {refusal : Refusal}

end Command
end ApiContract
