import ApiContract.Check.Checker

/-!
# Objects

Required properties, declared properties, `not`, counts and additional
properties, in this order; all of them are checked.
-/

namespace ApiContract
namespace Checker

/-- The strings of a list of names. -/
def namesOf (names : Option Json) : List String :=
  ((names.bind Json.array?).getD []).filterMap Json.string?

/-- The fields of a keyword that holds named schemas. -/
def fieldsOf (schemas : Option Json) : List (String × Json) :=
  (schemas.bind Json.object?).getD []

/-- Whether a declared property is out of place in the payload's direction. -/
def isMisplaced (checker : Checker) (schema : Json) : Except Fault Bool := do
  let readOnly ← checker.resolver.flag (.root schema) "readOnly"
  let writeOnly ← checker.resolver.flag (.root schema) "writeOnly"
  return checker.direction.forbids readOnly writeOnly

/-- Whether a property is out of place by its declaration; undeclared ones are not. -/
def isDeclaredMisplaced (checker : Checker) (declared : List (String × Json)) (name : String) :
    Except Fault Bool :=
  match Fields.get? declared name with
  | some schema => checker.isMisplaced schema
  | none => .ok false

/-- The verdict on a required property: present, or absent if it is out of place. -/
def presenceVerdict (checker : Checker) (present misplaced : Bool) (path : Path) (name : String) :
    Verdict :=
  match present, misplaced with
  | false, false => .reject path (.missingRequiredProperty name)
  | true, true => .reject path (checker.direction.misplaced name)
  | _, _ => .accept

/-- The verdict on the name of a required property. -/
def requiredVerdict (checker : Checker) (fields declared : List (String × Json)) (path : Path)
    (name : String) : Except Fault Verdict := do
  let misplaced ← checker.isDeclaredMisplaced declared name
  return checker.presenceVerdict (Fields.contains fields name) misplaced path name

/-- The check of a property that is declared; others pass. -/
def checkDeclared (check : Check) (declared : List (String × Json)) (path : Path)
    (field : String × Json) : Run Verdict :=
  match Fields.get? declared field.1 with
  | some schema => check (.root schema) (path.child (.key field.1)) field.2
  | none => Run.result .accept

/-- The check that a property has not a forbidden shape; what the trial found is dropped. -/
def checkForbidden (check : Check) (fields : List (String × Json)) (path : Path)
    (forbidden : String × Json) : Run Verdict :=
  match Fields.get? fields forbidden.1 with
  | none => Run.result .accept
  | some value => do
    let trial ← check (.root forbidden.2) (path.child (.key forbidden.1)) value
    return .rejectIf trial.accepted path (.disallowedPropertyShape forbidden.1)

/-- Whether `not` is enforced: it has no type, or it is about objects. -/
def isEnforced : EffectiveType → Bool
  | .undetermined => true
  | .known kind => kind = .object
  | .unsupported _ => false

/-- The check of `not`. -/
def checkNot (checker : Checker) (check : Check) (fields : List (String × Json)) (path : Path)
    (schema : Json) : Run Verdict := do
  let scope := Scope.root schema
  if !isEnforced (← Run.ofExcept (checker.resolver.effectiveType scope)) then return .accept
  else
    let required ← Run.ofExcept (checker.resolver.lookup scope "required")
    let present := (namesOf required).map (fun name =>
      Verdict.rejectIf (Fields.contains fields name) path (.forbiddenProperty name))
    let properties ← Run.ofExcept (checker.resolver.lookup scope "properties")
    let shapes ← Run.each (checkForbidden check fields path) (fieldsOf properties)
    return (Verdict.all present).and shapes

/-- The check of `not`, if there is one. -/
def checkExcluded (checker : Checker) (check : Check) (fields : List (String × Json)) (path : Path) :
    Option Json → Run Verdict
  | some schema => checker.checkNot check fields path schema
  | none => Run.result .accept

/-- The verdict on the count of properties. -/
def countVerdict (checker : Checker) (scope : Scope) (path : Path) (count : Nat) :
    Except Fault Verdict := do
  let resolver := checker.resolver
  let few ← resolver.checkAtLeast scope "minProperties" count path (.tooFewProperties count)
  let many ← resolver.checkAtMost scope "maxProperties" count path (.tooManyProperties count)
  return few.and many

/-- The check of `additionalProperties`: `false` allows declared properties only,
a schema applies to every property, the declared ones included. -/
def checkAdditional (check : Check) (fields declared : List (String × Json)) (path : Path) :
    Option Json → Run Verdict
  | some (.bool false) =>
    Run.result (.all (fields.map (fun field =>
      .rejectIf (!Fields.contains declared field.1) path (.additionalPropertyNotAllowed field.1))))
  | some (.object schema) =>
    Run.each (fun field => check (.root (.object schema)) (path.child (.key field.1)) field.2) fields
  | _ => Run.result .accept

/-- The check of an object schema; `check` checks the properties. -/
def checkObject (checker : Checker) (check : Check) : Check := fun scope path value =>
  match value.object? with
  | none => Run.result (.wrongType path "object" value)
  | some fields => do
    let resolver := checker.resolver
    let declared := fieldsOf (← Run.ofExcept (resolver.lookup scope "properties"))
    let required ← Run.ofExcept (resolver.lookup scope "required")
    let needed ← Run.each (fun name => Run.ofExcept (checker.requiredVerdict fields declared path name))
      (namesOf required)
    let properties ← Run.each (checkDeclared check declared path) fields
    let excluded ← checker.checkExcluded check fields path
      (← Run.ofExcept (resolver.lookup scope "not"))
    let counted ← Run.ofExcept (checker.countVerdict scope path fields.length)
    let additional ← checkAdditional check fields declared path
      (← Run.ofExcept (resolver.lookup scope "additionalProperties"))
    return .all [needed, properties, excluded, counted, additional]

end Checker
end ApiContract
