import ApiContract.Check.Checker
import ApiContract.Format
import ApiContract.Pattern

/-!
# Strings

A string is noted first, then its length, its pattern and its format are
checked, in this order.
-/

namespace ApiContract
namespace Checker

/-- The verdict of a pattern on a string. -/
def patternVerdict (text : String) (path : Path) (pattern : String) : Verdict :=
  match Pattern.compile pattern with
  | .ok compiled => .rejectIf (!compiled.isMatch text) path (.patternMismatch text pattern)
  | .error details => .reject path (.invalidPattern pattern details)

/-- The verdict of a format on a string. -/
def formatVerdict (text : String) (path : Path) (format : String) : Verdict :=
  .rejectIf (!Format.isValid format text) path (.invalidFormat format text)

/-- The format of a scope, if formats are enforced. -/
def format? (checker : Checker) (scope : Scope) : Except Fault (Option String) :=
  if checker.settings.checkFormats then checker.resolver.string? scope "format" else .ok none

/-- The constraints on a string. -/
def textVerdict (checker : Checker) (scope : Scope) (path : Path) (text : String) :
    Except Fault Verdict := do
  let resolver := checker.resolver
  let length := text.length
  let short ← resolver.checkAtLeast scope "minLength" length path (.stringTooShort length)
  let long ← resolver.checkAtMost scope "maxLength" length path (.stringTooLong length)
  let pattern ← resolver.string? scope "pattern"
  let format ← checker.format? scope
  return .all
    [short, long, pattern.elim .accept (patternVerdict text path),
      format.elim .accept (formatVerdict text path)]

/-- The check of a string schema. -/
def checkString (checker : Checker) : Check := fun scope path value =>
  match value.string? with
  | none => Run.result (.wrongType path "string" value)
  | some text => do
    Run.meet path text
    Run.ofExcept (checker.textVerdict scope path text)

end Checker
end ApiContract
