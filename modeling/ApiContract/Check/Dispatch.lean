import ApiContract.Check.Array
import ApiContract.Check.Branches
import ApiContract.Check.Numeric
import ApiContract.Check.Object
import ApiContract.Check.Text

/-!
# Dispatch

One check of a value against a scope: the exemption of null, `enum`, a single
combinator, and last the check of the effective type.  Checks of parts of the
value go through dispatch again, one step deeper.
-/

namespace ApiContract
namespace Checker

/-- The verdict of `enum`: a list of allowed values, or one value. -/
def enumVerdict (allowed : Json) (path : Path) (value : Json) : Verdict :=
  let isAllowed :=
    match allowed with
    | .array members => members.any (fun member => member.same value)
    | single => single.same value
  .rejectIf (!isAllowed) path (.enumMismatch value.text)

/-- Whether null is exempt from all further checks. -/
def exempts (checker : Checker) (scope : Scope) (value : Json) : Except Fault Bool :=
  if value.isNull then checker.resolver.flag scope "nullable" else .ok false

/-- The combinators that a scope declares, with their values. -/
def declaredAmong (checker : Checker) (scope : Scope) :
    List Combinator → Except Fault (List (Combinator × Json))
  | [] => .ok []
  | combinator :: rest => do
    let branches ← checker.resolver.lookup scope combinator.keyword
    let others ← checker.declaredAmong scope rest
    return match branches with
      | some branches => (combinator, branches) :: others
      | none => others

/-- The verdict on a value of a kind without parts. -/
def literalVerdict (fits : Bool) (kind : Kind) (path : Path) (value : Json) : Verdict :=
  if fits then .accept else .wrongType path kind.name value

/-- The check of a kind. -/
def checkKind (checker : Checker) (check : Check) : Kind → Check
  | .object => checker.checkObject check
  | .array => checker.checkArray check
  | .string => checker.checkString
  | .number => fun scope path value => Run.ofExcept (checker.numberVerdict scope path value)
  | .integer => fun scope path value => Run.ofExcept (checker.integerVerdict scope path value)
  | .boolean => fun _ path value => Run.result (literalVerdict value.bool?.isSome .boolean path value)
  | .null => fun _ path value => Run.result (literalVerdict value.isNull .null path value)

/-- The check of the effective type. -/
def checkType (checker : Checker) (check : Check) : Check := fun scope path value => do
  match ← Run.ofExcept (checker.resolver.effectiveType scope) with
  | .known kind => checker.checkKind check kind scope path value
  | .unsupported name => return .reject path (.unsupportedType name)
  | .undetermined => return .reject path .undeterminedType

/-- One check; `check` is the check one step deeper. -/
def checkNode (checker : Checker) (check : Check) : Check := fun scope path value => do
  match ← Run.ofExcept (checker.resolver.lookup scope "enum") with
  | some allowed => return enumVerdict allowed path value
  | none =>
    if ← Run.ofExcept (checker.exempts scope value) then return .accept
    else
      match ← Run.ofExcept (checker.declaredAmong scope Combinator.all) with
      | [] => checker.checkType check scope path value
      | [(combinator, branches)] =>
        checker.checkCombinator check combinator branches scope path value
      | _ => return .reject path .conflictingCombinators

/-- The check with `depth` steps left, this one included. -/
def checkWithin (checker : Checker) : (depth : Nat) → Check
  | 0 => fun _ path _ => Run.fault (.tooDeep path checker.settings.maxDepth)
  | depth + 1 => checker.checkNode (checker.checkWithin depth)

/-- A check that adds what it finds to a sink: whether it accepts, and the sink afterwards. -/
def checkInto (checker : Checker) (depth : Nat) (scope : Scope) (path : Path) (value : Json)
    (sink : Sink) : Run (Bool × Sink) := do
  let verdict ← checker.checkWithin depth scope path value
  return (verdict.accepted, sink.append verdict.entries)

theorem exists_verdict_of_checkInto {checker : Checker} {depth : Nat} {scope : Scope} {path : Path}
    {value : Json} {sink after : Sink} {accepted : Bool}
    (h : (checker.checkInto depth scope path value sink).outcome = .ok (accepted, after)) :
    ∃ verdict, (checker.checkWithin depth scope path value).outcome = .ok verdict ∧
      accepted = verdict.accepted ∧ after = sink.append verdict.entries := by
  unfold checkInto at h
  rw [Run.outcome_bind] at h
  cases hverdict : (checker.checkWithin depth scope path value).outcome with
  | error e =>
    rw [hverdict] at h
    cases h
  | ok verdict =>
    rw [hverdict] at h
    cases h
    exact ⟨verdict, rfl, rfl, rfl⟩

theorem sightings_checkInto (checker : Checker) (depth : Nat) (scope : Scope) (path : Path)
    (value : Json) (sink : Sink) :
    (checker.checkInto depth scope path value sink).sightings =
      (checker.checkWithin depth scope path value).sightings := by
  unfold checkInto
  rcases checker.checkWithin depth scope path value with ⟨sightings, e | verdict⟩
  · rfl
  · exact List.append_nil sightings

/-- The check of a whole document. -/
def checkRoot (checker : Checker) (schema : Json) (root : String) (value : Json) :
    Run (Bool × Sink) :=
  checker.checkInto (checker.settings.maxDepth + 1) (.root schema) (.ofRoot root) value .empty

end Checker
end ApiContract
