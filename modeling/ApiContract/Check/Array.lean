import ApiContract.Check.Checker
import ApiContract.Json.Canonical

/-!
# Arrays

Counts of items, then uniqueness, then each item.  Items are duplicates when
their canonical texts are the same; only the first duplicate is reported, and
the items are checked all the same.
-/

namespace ApiContract

/-- Position of the first text that equals an earlier one, and of that earlier
one.  `seen` holds the texts before `position`, each with its own position. -/
def firstDuplicate (seen : List (List Char × Nat)) (position : Nat) :
    List (List Char) → Option (Nat × Nat)
  | [] => none
  | text :: rest =>
    match seen.lookup text with
    | some first => some (position, first)
    | none => firstDuplicate ((text, position) :: seen) (position + 1) rest

/-- The verdict of uniqueness on items. -/
def duplicateVerdict (path : Path) (items : List Json) : Verdict :=
  match firstDuplicate [] 0 (items.map Json.canonical) with
  | some (index, first) => .reject path (.duplicateItem index first)
  | none => .accept

namespace Checker

/-- The verdict of `uniqueItems`. -/
def uniqueVerdict (checker : Checker) (scope : Scope) (path : Path) (items : List Json) :
    Except Fault Verdict := do
  if ← checker.resolver.flag scope "uniqueItems" then return duplicateVerdict path items
  else return .accept

/-- The constraints on an array as a whole. -/
def itemsVerdict (checker : Checker) (scope : Scope) (path : Path) (items : List Json) :
    Except Fault Verdict := do
  let resolver := checker.resolver
  let count := items.length
  let few ← resolver.checkAtLeast scope "minItems" count path (.tooFewItems count)
  let many ← resolver.checkAtMost scope "maxItems" count path (.tooManyItems count)
  let unique ← checker.uniqueVerdict scope path items
  return .all [few, many, unique]

/-- The check of an array schema; `check` checks the items. -/
def checkArray (checker : Checker) (check : Check) : Check := fun scope path value =>
  match value.array? with
  | none => Run.result (.wrongType path "array" value)
  | some items => do
    let whole ← Run.ofExcept (checker.itemsVerdict scope path items)
    match ← Run.ofExcept (checker.resolver.lookup scope "items") with
    | none => return whole
    | some schema =>
      let each ← Run.each (fun (item, index) => check (.root schema) (path.child (.index index)) item)
        items.zipIdx
      return whole.and each

end Checker
end ApiContract
