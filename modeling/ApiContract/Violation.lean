import ApiContract.Decimal.Layout
import ApiContract.Path
import ApiContract.Text.Inspected

/-!
# Violations

A violation is a place in a document and the cause why the value there is not
what its schema asks for.  All wordings are here.
-/

namespace ApiContract

/-- Why a value violates its schema. -/
inductive Cause where
  | decode (details : String)
  | invalidType (expected actual : String)
  | enumMismatch (value : String)
  | missingRequiredProperty (property : String)
  | readOnlyInRequest (property : String)
  | writeOnlyInResponse (property : String)
  | forbiddenProperty (property : String)
  | disallowedPropertyShape (property : String)
  | additionalPropertyNotAllowed (property : String)
  | tooFewProperties (count min : Nat)
  | tooManyProperties (count max : Nat)
  | tooFewItems (count min : Nat)
  | tooManyItems (count max : Nat)
  | duplicateItem (index first : Nat)
  | patternMismatch (value pattern : String)
  | stringTooShort (length min : Nat)
  | stringTooLong (length max : Nat)
  | invalidFormat (format value : String)
  | belowMinimum (value minimum : Binary64)
  | notAboveExclusiveMinimum (value minimum : Binary64)
  | aboveMaximum (value maximum : Binary64)
  | notBelowExclusiveMaximum (value maximum : Binary64)
  | notMultipleOf (value divisor : Binary64)
  | integerConstraints
  | notAnInteger (value : Binary64)
  | discriminatorMissing (property : String)
  | noOneOfMatch
  | multipleOneOfMatches (branches : List String)
  | noAnyOfMatch
  | allOfMismatch (failed : Nat)
  | conflictingCombinators
  | invalidCombinator (combinator : String)
  | undeterminedType
  | unsupportedType (typeName : String)
  | invalidPattern (pattern details : String)
  deriving DecidableEq

namespace Cause

/-- A number in a message. -/
def numeral (x : Binary64) : String := String.ofList (Layout.plain.write x)

/-- Wording of a cause. -/
def message : Cause → String
  | decode details => "unable to decode JSON document: " ++ details
  | invalidType expected actual => "expected " ++ expected ++ ", got " ++ actual
  | enumMismatch value => "value " ++ value ++ " does not match any allowed enum value"
  | missingRequiredProperty property => "required property '" ++ property ++ "' is missing"
  | readOnlyInRequest property =>
    "property '" ++ property ++ "' is readOnly and must not be sent in a request"
  | writeOnlyInResponse property =>
    "property '" ++ property ++ "' is writeOnly and must not be returned in a response"
  | forbiddenProperty property => "property '" ++ property ++ "' is not allowed"
  | disallowedPropertyShape property => "property '" ++ property ++ "' matches a disallowed schema"
  | additionalPropertyNotAllowed property =>
    "additional property '" ++ property ++ "' is not allowed"
  | tooFewProperties count min =>
    "object has " ++ toString count ++ " properties, fewer than minProperties " ++ toString min
  | tooManyProperties count max =>
    "object has " ++ toString count ++ " properties, more than maxProperties " ++ toString max
  | tooFewItems count min =>
    "array has " ++ toString count ++ " items, fewer than minItems " ++ toString min
  | tooManyItems count max =>
    "array has " ++ toString count ++ " items, more than maxItems " ++ toString max
  | duplicateItem index first =>
    "item " ++ toString index ++ " duplicates item " ++ toString first ++
      ", but uniqueItems is required"
  | patternMismatch value pattern =>
    "value '" ++ value ++ "' does not match pattern '" ++ pattern ++ "'"
  | stringTooShort length min =>
    "string length " ++ toString length ++ " is less than minLength " ++ toString min
  | stringTooLong length max =>
    "string length " ++ toString length ++ " is greater than maxLength " ++ toString max
  | invalidFormat format value => "value '" ++ value ++ "' is not a valid " ++ format
  | belowMinimum value minimum =>
    "value " ++ numeral value ++ " is less than minimum " ++ numeral minimum
  | notAboveExclusiveMinimum value minimum =>
    "value " ++ numeral value ++ " must be greater than exclusive minimum " ++ numeral minimum
  | aboveMaximum value maximum =>
    "value " ++ numeral value ++ " is greater than maximum " ++ numeral maximum
  | notBelowExclusiveMaximum value maximum =>
    "value " ++ numeral value ++ " must be less than exclusive maximum " ++ numeral maximum
  | notMultipleOf value divisor =>
    "value " ++ numeral value ++ " is not a multiple of " ++ numeral divisor
  | integerConstraints => "value does not satisfy the integer constraints"
  | notAnInteger value => "value " ++ numeral value ++ " is not an integer"
  | discriminatorMissing property => "discriminator property '" ++ property ++ "' is missing"
  | noOneOfMatch => "value does not match any oneOf schema"
  | multipleOneOfMatches branches =>
    "value matches more than one oneOf schema: " ++ String.ofList (Inspected.list branches)
  | noAnyOfMatch => "value does not match any anyOf schema"
  | allOfMismatch failed => "value does not match " ++ toString failed ++ " of the allOf schemas"
  | conflictingCombinators => "schema declares more than one of oneOf, anyOf, allOf"
  | invalidCombinator combinator => "'" ++ combinator ++ "' must be a list of schemas"
  | undeterminedType => "unable to determine schema type"
  | unsupportedType typeName => "unsupported schema type '" ++ typeName ++ "'"
  | invalidPattern pattern details => "invalid pattern '" ++ pattern ++ "': " ++ details

end Cause

/-- A cause at a place. -/
structure Violation where
  path : Path
  cause : Cause
  deriving DecidableEq

/-- The violation in words, after its path. -/
def Violation.message (violation : Violation) : String :=
  violation.path.text ++ ": " ++ violation.cause.message

end ApiContract
