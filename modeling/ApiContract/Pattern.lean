import ApiContract.Pattern.Blueprint
import ApiContract.Pattern.Search

/-!
# Patterns

Regular expressions that are searched for anywhere in a string.
-/

namespace ApiContract

/-- A pattern that has been read. -/
structure Pattern where
  shape : Pattern.Shape

namespace Pattern

/-- The pattern of a text, or what is wrong with it in words. -/
def compile (text : String) : Except String Pattern :=
  match Syntax.read text with
  | .error fault => .error (fault.message text)
  | .ok whole =>
    match whole.toShape .initial with
    | .error fault => .error (fault.message text)
    | .ok (shape, _) =>
      if shape.isBuildable then .ok ⟨shape⟩
      else .error ("Compiled regex exceeds size limit of " ++ toString sizeLimit ++ " bytes.")

/-- Whether a pattern matches somewhere in a string. -/
def isMatch (pattern : Pattern) (text : String) : Bool := pattern.shape.matchesIn text.toList

end Pattern
end ApiContract
