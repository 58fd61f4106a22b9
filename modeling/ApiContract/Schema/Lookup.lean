import ApiContract.Json.Text
import ApiContract.Schema.Components
import ApiContract.Schema.Kind

/-!
# Keyword lookup

A node with a string `$ref` stands before the component that it names.  A
keyword is read from the first node of that chain that has it.  `type` alone
is also read from the enclosing schemas, each with a fresh budget of hops.
-/

namespace ApiContract

/-- A schema node with the schemas that enclose it, innermost first. -/
structure Scope where
  node : Json
  parents : List Json

namespace Scope

/-- A node that nothing encloses. -/
def root (node : Json) : Scope := ⟨node, []⟩

/-- A node enclosed by the node of another scope. -/
def nested (node : Json) (outer : Scope) : Scope := ⟨node, outer.node :: outer.parents⟩

end Scope

/-- The reference of a node, if it has one. -/
def Json.reference? (node : Json) : Option String := (node.get? "$ref").bind Json.string?

/-- Where references lead, and how many of them one lookup may follow. -/
structure Resolver where
  table : ComponentTable
  maxHops : Nat

namespace Resolver

/-- Follows a reference with `hops` hops left. -/
def follow (resolver : Resolver) (hops : Nat) (reference : String) : Except Fault Json :=
  if hops = 0 then .error (.chainTooLong reference resolver.maxHops)
  else resolver.table.resolve reference

/-! ### Whole chains -/

/-- The last node of the chain of `node`, with `hops` hops left. -/
def resolveWithin (resolver : Resolver) (hops : Nat) (node : Json) : Except Fault Json :=
  match node.reference? with
  | none => .ok node
  | some reference =>
    match hops with
    | 0 => .error (.chainTooLong reference resolver.maxHops)
    | left + 1 => do resolveWithin resolver left (← resolver.table.resolve reference)
termination_by structural hops

/-- The last node of the chain of `node`. -/
def resolve (resolver : Resolver) (node : Json) : Except Fault Json :=
  resolver.resolveWithin resolver.maxHops node

/-- The last node of the chain that starts with a reference. -/
def resolveReference (resolver : Resolver) (reference : String) : Except Fault Json := do
  let target ← resolver.follow resolver.maxHops reference
  resolver.resolveWithin (resolver.maxHops - 1) target

/-! ### Keywords -/

/-- A keyword from the first node of the chain that has it, with `hops` hops left. -/
def lookupWithin (resolver : Resolver) (keyword : String) (hops : Nat) (node : Json) :
    Except Fault (Option Json) :=
  match node.get? keyword with
  | some value => .ok (some value)
  | none =>
    match node.reference? with
    | none => .ok none
    | some reference =>
      match hops with
      | 0 => .error (.chainTooLong reference resolver.maxHops)
      | left + 1 => do lookupWithin resolver keyword left (← resolver.table.resolve reference)
termination_by structural hops

/-- A keyword of a node. -/
def lookupNode (resolver : Resolver) (keyword : String) (node : Json) : Except Fault (Option Json) :=
  resolver.lookupWithin keyword resolver.maxHops node

/-- A keyword of the first of several nodes that has it. -/
def lookupNodes (resolver : Resolver) (keyword : String) : List Json → Except Fault (Option Json)
  | [] => .ok none
  | node :: rest => do
    match ← resolver.lookupNode keyword node with
    | some value => return some value
    | none => lookupNodes resolver keyword rest

/-- A keyword of a scope. -/
def lookup (resolver : Resolver) (scope : Scope) (keyword : String) : Except Fault (Option Json) := do
  match ← resolver.lookupNode keyword scope.node with
  | some value => return some value
  | none => if keyword = "type" then resolver.lookupNodes keyword scope.parents else return none

/-- A keyword that is on or off; anything but `true` is off. -/
def flag (resolver : Resolver) (scope : Scope) (keyword : String) : Except Fault Bool := do
  return ((← resolver.lookup scope keyword).bind Json.bool?).getD false

/-- A keyword that is a number. -/
def number? (resolver : Resolver) (scope : Scope) (keyword : String) : Except Fault (Option Binary64) := do
  return (← resolver.lookup scope keyword).bind Json.binary64?

/-- A keyword that is a limit. -/
def count? (resolver : Resolver) (scope : Scope) (keyword : String) : Except Fault (Option Nat) := do
  return (← resolver.lookup scope keyword).bind Json.count?

/-- A keyword that is a string. -/
def string? (resolver : Resolver) (scope : Scope) (keyword : String) : Except Fault (Option String) := do
  return (← resolver.lookup scope keyword).bind Json.string?

end Resolver

/-! ### Effective types -/

/-- The type that a scope asks for. -/
inductive EffectiveType where
  | known (kind : Kind)
  | unsupported (name : String)
  | undetermined
  deriving DecidableEq

/-- The type that a value of `type` stands for. -/
def EffectiveType.ofJson : Json → EffectiveType
  | .string word =>
    match Kind.ofName? word with
    | some kind => .known kind
    | none => .unsupported word
  | other => .unsupported other.text

/-- The effective type of a scope; an enclosed scope without a type is an object. -/
def Resolver.effectiveType (resolver : Resolver) (scope : Scope) : Except Fault EffectiveType := do
  match ← resolver.lookup scope "type" with
  | some value => return .ofJson value
  | none => return if scope.parents.isEmpty then .undetermined else .known .object

end ApiContract
