import ApiContract.Check.Run
import ApiContract.Schema.Lookup
import ApiContract.Settings

/-!
# Checkers

What every check is made with: the components, the settings and the direction
in which the payload travels.
-/

namespace ApiContract

/-- Direction of a payload. -/
inductive Direction where
  | request
  | response
  deriving DecidableEq

namespace Direction

/-- The word for a direction. -/
def name : Direction → String
  | request => "request"
  | response => "response"

/-- The word for a direction in stored contexts. -/
def storedName : Direction → String
  | request => "Request"
  | response => "Response"

/-- The direction of a stored word. -/
def ofStoredName? (word : String) : Option Direction :=
  [request, response].find? (fun direction => direction.storedName = word)

/-- Wording of a fault: a stored word that is no direction. -/
def unknownStoredName (word : String) : String :=
  "unknown variant `" ++ word ++ "`, expected `Request` or `Response`"

/-- Whether a property with these flags is out of place in this direction. -/
def forbids (direction : Direction) (readOnly writeOnly : Bool) : Bool :=
  match direction with
  | request => readOnly
  | response => writeOnly

/-- The cause for a property that is present and out of place. -/
def misplaced (direction : Direction) (property : String) : Cause :=
  match direction with
  | request => .readOnlyInRequest property
  | response => .writeOnlyInResponse property

end Direction

/-- Components, settings and direction. -/
structure Checker where
  table : ComponentTable
  settings : Settings
  direction : Direction

namespace Checker

/-- The resolver of the checker's components. -/
def resolver (checker : Checker) : Resolver := ⟨checker.table, checker.settings.maxReferenceHops⟩

end Checker

/-- A check of a value against a scope at a path. -/
abbrev Check := Scope → Path → Json → Run Verdict

/-- The verdict on a value whose JSON type is not the one wanted. -/
def Verdict.wrongType (path : Path) (wanted : String) (value : Json) : Verdict :=
  .reject path (.invalidType wanted value.typeName)

/-- A limit that must not be above a count. -/
def Resolver.checkAtLeast (resolver : Resolver) (scope : Scope) (keyword : String) (count : Nat)
    (path : Path) (cause : Nat → Cause) : Except Fault Verdict := do
  match ← resolver.count? scope keyword with
  | some limit => return .rejectIf (decide (count < limit)) path (cause limit)
  | none => return .accept

/-- A limit that must not be below a count. -/
def Resolver.checkAtMost (resolver : Resolver) (scope : Scope) (keyword : String) (count : Nat)
    (path : Path) (cause : Nat → Cause) : Except Fault Verdict := do
  match ← resolver.count? scope keyword with
  | some limit => return .rejectIf (decide (limit < count)) path (cause limit)
  | none => return .accept

end ApiContract
