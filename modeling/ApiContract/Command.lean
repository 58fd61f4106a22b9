import ApiContract.Exchange

/-!
# Command line

Checks one document against one component.  The whole run is a function of the
arguments and the files; the exit code is zero for a valid document, one for an
invalid one and two for everything that keeps the check from being made.
-/

namespace ApiContract
namespace Command

/-- Why a file has no text. -/
inductive FileFault where
  | missing
  | notText
  | other (message : String)

/-- Wording of a file fault. -/
def FileFault.message : FileFault → String
  | missing => "No such file or directory (os error 2)"
  | notText => "stream did not contain valid UTF-8"
  | other message => message

/-- What is known of the files: a text for each name, or why there is none. -/
abbrev Files := String → Except FileFault String

/-- The text of a file's bytes. -/
def textOfBytes (bytes : ByteArray) : Except FileFault String :=
  match String.fromUTF8? bytes with
  | some text => .ok text
  | none => .error .notText

/-- Exit code and lines of a run. -/
structure Outcome where
  exitCode : Nat
  output : List String
  errors : List String

/-- A request that the arguments make. -/
structure Request where
  components : String
  schema : String
  document : String
  direction : Direction

/-- Arguments that are not options. -/
def positional (args : List String) : List String :=
  args.filter (fun arg => !"--".toList.isPrefixOf arg.toList)

/-- The direction that the arguments ask for. -/
def directionOf (args : List String) : Direction :=
  if args.contains "--response" then .response else .request

/-- The request of the arguments. -/
def requestOf? (program : String) (args : List String) : Option Request :=
  match positional args with
  | [components, schema, document] =>
    some ⟨components, schema, document, directionOf (program :: args)⟩
  | _ => none

/-- How the program is used. -/
def usage (program : String) : List String :=
  ["Usage: " ++ program ++ " <components.json> <schema-name> <document.json> [--response]",
    "",
    "Examples:",
    "  " ++ program ++ " openapi.json Pet pet.json",
    "  " ++ program ++ " openapi.json Pet pet.json --response"]

/-- Why no check is made. -/
inductive Refusal where
  | usage (program : String)
  | components (reason : String)
  | unknownSchema (name : String) (known : List String)
  | document (name : String) (fault : FileFault)

/-- Lines of a refusal. -/
def Refusal.lines : Refusal → List String
  | usage program => Command.usage program
  | components reason => ["❌ Failed to load components: " ++ reason]
  | unknownSchema name known =>
    ["❌ Unknown schema '" ++ name ++ "'", "Available schemas:"] ++ known.map ("  - " ++ ·)
  | document name fault => ["❌ Failed to read " ++ name ++ ": " ++ fault.message]

/-- The components of a file. -/
def loadComponents (files : Files) (name : String) : Except Refusal ComponentTable :=
  match files name with
  | .error fault => .error (.components fault.message)
  | .ok text =>
    match Json.read text with
    | .error failure => .error (.components failure.message)
    | .ok document =>
      match ComponentTable.ofDocument document with
      | .error fault => .error (.components fault.message)
      | .ok table => .ok table

/-- The components and the document's text of a request. -/
def load (files : Files) (request : Request) : Except Refusal (ComponentTable × String) :=
  match loadComponents files request.components with
  | .error refusal => .error refusal
  | .ok table =>
    if (table.get? request.schema).isNone then .error (.unknownSchema request.schema table.names)
    else
      match files request.document with
      | .error fault => .error (.document request.document fault)
      | .ok text => .ok (table, text)

/-- The check that a request asks for. -/
def check (table : ComponentTable) (text : String) (request : Request) : Except Fault Report :=
  let schema := Json.object [("$ref", .string request.schema)]
  ((Validator.mk table .default).validateText text schema "body" (.ofDirection request.direction)).1

/-- First line of a check. -/
def header (request : Request) : String :=
  "Validating " ++ request.document ++ " against " ++ request.schema ++
    " (" ++ request.direction.name ++ ")"

/-- The outcome of a check. -/
def outcomeOf (request : Request) : Except Fault Report → Outcome
  | .error fault => ⟨2, [header request], ["❌ Schema error: " ++ fault.message]⟩
  | .ok report =>
    if report.valid then ⟨0, [header request, "✓ Document is valid"], []⟩
    else
      ⟨1, header request :: "❌ Document is invalid:" :: report.messages.map ("  " ++ ·), []⟩

/-- A run of the program. -/
def run (program : String) (args : List String) (files : Files) : Outcome :=
  match requestOf? program args with
  | none => ⟨2, [], (Refusal.usage program).lines⟩
  | some request =>
    match load files request with
    | .error refusal => ⟨2, [], refusal.lines⟩
    | .ok (table, text) => outcomeOf request (check table text request)

/-- Lines as a text; each ends in a line break. -/
def textOfLines (lines : List String) : String := String.join (lines.map (· ++ "\n"))

end Command
end ApiContract
