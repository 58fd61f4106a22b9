import ApiContract.Check.Checker

/-!
# Branches

A combinator checks a value against each of its branches, with the enclosing
schema around the branch.  A `oneOf` with a discriminator checks only the
branch that the discriminator property selects.
-/

namespace ApiContract

/-- The branches that accepted a value, described, and those that rejected it,
each with its key and its entries. -/
structure Tally where
  matched : List String
  rejected : List (String × List Entry)

namespace Tally

/-- No branches. -/
def empty : Tally := ⟨[], []⟩

/-- One accepting branch before others. -/
def accepting (description : String) (others : Tally) : Tally :=
  ⟨description :: others.matched, others.rejected⟩

/-- One rejecting branch before others. -/
def rejecting (key : String) (entries : List Entry) (others : Tally) : Tally :=
  ⟨others.matched, (key, entries) :: others.rejected⟩

/-- Whether a combinator accepts a tally. -/
def accepts (tally : Tally) : Combinator → Bool
  | .oneOf => tally.matched.length == 1
  | .anyOf => decide (1 ≤ tally.matched.length)
  | .allOf => tally.rejected.isEmpty

/-- The cause for which a combinator rejects a tally. -/
def cause (tally : Tally) : Combinator → Cause
  | .oneOf =>
    if 1 < tally.matched.length then .multipleOneOfMatches tally.matched else .noOneOfMatch
  | .anyOf => .noAnyOfMatch
  | .allOf => .allOfMismatch tally.rejected.length

/-- The rejected branches as groups; more than one match of a `oneOf` lists none. -/
def groups (tally : Tally) (combinator : Combinator) : List Entry :=
  if combinator = .oneOf ∧ 1 < tally.matched.length then []
  else tally.rejected.map (fun (key, entries) => .group key entries)

/-- The verdict of a combinator on a tally. -/
def verdict (tally : Tally) (combinator : Combinator) (path : Path) : Verdict :=
  if tally.accepts combinator then .accept
  else ⟨false, .leaf ⟨path, tally.cause combinator⟩ :: tally.groups combinator⟩

end Tally

/-- Key of the group of a rejected branch. -/
def branchKey (combinator : Combinator) (index : Nat) : String :=
  combinator.keyword ++ "[" ++ toString index ++ "]"

/-- Key of the group of a selected branch, or of the missing property. -/
def selectionKey (name : String) : String := "discriminator[" ++ name ++ "]"

namespace Checker

/-- The check of the branches from position `index` on. -/
def tallyBranches (checker : Checker) (check : Check) (combinator : Combinator) (scope : Scope)
    (path : Path) (value : Json) : (index : Nat) → List Json → Run Tally
  | _, [] => Run.result .empty
  | index, branch :: rest => do
    let inner := Scope.nested branch scope
    let verdict ← check inner (path.child (.branch index)) value
    if verdict.accepted then
      let description ← Run.ofExcept (checker.resolver.string? inner "description")
      let others ← checker.tallyBranches check combinator scope path value (index + 1) rest
      return others.accepting (description.getD (toString index))
    else
      let others ← checker.tallyBranches check combinator scope path value (index + 1) rest
      return others.rejecting (branchKey combinator index) verdict.entries

/-- The text of a discriminator property's value. -/
def selectorOf : Json → String
  | .string s => s
  | other => other.text

/-- The branch that a selector stands for: through the mapping, or as a component's name. -/
def selectedBranch (checker : Checker) (discriminator : Json) (selector : String) :
    Except Fault Json :=
  match (discriminator.get? "mapping").bind (Json.get? selector) with
  | some (.string reference) => checker.resolver.resolveReference reference
  | some inline => checker.resolver.resolve inline
  | none => checker.resolver.resolveReference selector

/-- The check of the one branch that a discriminator property selects. -/
def tallySelected (checker : Checker) (check : Check) (discriminator : Json) (property : String)
    (scope : Scope) (path : Path) (value : Json) : Run Tally :=
  match value.get? property with
  | none =>
    Run.result (Tally.empty.rejecting (selectionKey property)
      [.leaf ⟨path, .discriminatorMissing property⟩])
  | some selected => do
    let selector := selectorOf selected
    let target ← Run.ofExcept (checker.selectedBranch discriminator selector)
    let verdict ← check (.nested target scope) (path.child (.selection property selector)) value
    if verdict.accepted then return Tally.empty.accepting selector
    else return Tally.empty.rejecting (selectionKey selector) verdict.entries

/-- The discriminator of a scope, for the combinator that has one. -/
def discriminator? (checker : Checker) (combinator : Combinator) (scope : Scope) :
    Except Fault (Option Json) :=
  match combinator with
  | .oneOf => checker.resolver.lookup scope "discriminator"
  | _ => .ok none

/-- The property that a discriminator names. -/
def propertyName? (discriminator : Json) : Option String :=
  (discriminator.get? "propertyName").bind Json.string?

/-- The check of the branches: of the selected one, or of all. -/
def tally (checker : Checker) (check : Check) (combinator : Combinator) (discriminator : Option Json)
    (branches : List Json) (scope : Scope) (path : Path) (value : Json) : Run Tally :=
  match discriminator, discriminator.bind propertyName? with
  | some discriminator, some property =>
    checker.tallySelected check discriminator property scope path value
  | _, _ => checker.tallyBranches check combinator scope path value 0 branches

/-- The check of a combinator. -/
def checkCombinator (checker : Checker) (check : Check) (combinator : Combinator) (branches : Json) :
    Check := fun scope path value =>
  match branches.array? with
  | none => Run.result (.reject path (.invalidCombinator combinator.keyword))
  | some branches => do
    let discriminator ← Run.ofExcept (checker.discriminator? combinator scope)
    let tally ← checker.tally check combinator discriminator branches scope path value
    return tally.verdict combinator path

end Checker
end ApiContract
