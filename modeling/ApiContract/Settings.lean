import ApiContract.Json.Text
import ApiContract.Text.Inspected

/-!
# Settings

The few choices that change how values are checked, and how they are read from
JSON: as an object, where missing settings keep their defaults and unknown
members are ignored, or as a list in the order of declaration.
-/

namespace ApiContract

/-- Settings of a checker. -/
structure Settings where
  /-- Distance allowed between a quotient and the nearest integer, relative to
  the quotient; zero asks for an exact remainder of zero.  An infinite distance, or one
  that is not a number, is not represented: settings that are read from JSON are finite. -/
  multipleOfEpsilon : Binary64
  /-- Steps that a check may be away from the root. -/
  maxDepth : Nat
  /-- References that one lookup may follow. -/
  maxReferenceHops : Nat
  /-- Whether `format` is enforced. -/
  checkFormats : Bool
  deriving DecidableEq

/-- Why a JSON value is not settings. -/
inductive SettingsFault where
  | wrongType (found : Json) (wanted : String)
  | negative (found : Int)
  | tooManyItems (count : Nat)

namespace SettingsFault

/-- What was found, in words. -/
def describe : Json → String
  | .null => "null"
  | .bool b => "boolean `" ++ (if b then "true" else "false") ++ "`"
  | .number (.integer n _) => "integer `" ++ String.ofList (intText n) ++ "`"
  | .number (.real x) => "floating point `" ++ String.ofList (Layout.json.write x) ++ "`"
  | .string s => "string " ++ String.ofList (Inspected.string s)
  | .array _ => "sequence"
  | .object _ => "map"

/-- Wording of a settings fault. -/
def message : SettingsFault → String
  | wrongType found wanted => "invalid type: " ++ describe found ++ ", expected " ++ wanted
  | negative found =>
    "invalid value: integer `" ++ String.ofList (intText found) ++ "`, expected usize"
  | tooManyItems count =>
    "invalid length " ++ toString count ++ ", expected fewer elements in array"

end SettingsFault

namespace Settings

/-- The settings where nothing is set. -/
def default : Settings where
  multipleOfEpsilon := (Binary64.ofFraction 1 (10 ^ 9)).clamp
  maxDepth := 256
  maxReferenceHops := 64
  checkFormats := true

/-! ### Changes -/

/-- Sets the tolerance to the magnitude of `epsilon`. -/
def withMultipleOfEpsilon (settings : Settings) (epsilon : Binary64) : Settings :=
  { settings with multipleOfEpsilon := epsilon.abs }

/-- Asks for exact remainders. -/
def withExactMultipleOf (settings : Settings) : Settings :=
  settings.withMultipleOfEpsilon Binary64.zero

/-- Sets the depth limit. -/
def withMaxDepth (settings : Settings) (maxDepth : Nat) : Settings :=
  { settings with maxDepth := maxDepth }

/-- Sets the hop limit. -/
def withMaxReferenceHops (settings : Settings) (hops : Nat) : Settings :=
  { settings with maxReferenceHops := hops }

/-- Turns format checks on or off. -/
def withFormatChecks (settings : Settings) (enabled : Bool) : Settings :=
  { settings with checkFormats := enabled }

/-! ### Reading and writing -/

/-- A setting that is a number. -/
def readNumber : Json → Except SettingsFault Binary64
  | .number n => .ok n.toBinary64
  | other => .error (.wrongType other "f64")

/-- A setting that counts. -/
def readCount : Json → Except SettingsFault Nat
  | .number (.integer n _) => if 0 ≤ n then .ok n.toNat else .error (.negative n)
  | other => .error (.wrongType other "usize")

/-- A setting that is on or off. -/
def readFlag : Json → Except SettingsFault Bool
  | .bool b => .ok b
  | other => .error (.wrongType other "a boolean")

/-- Changes one setting, known by its member name; other names change nothing. -/
def readField (settings : Settings) (name : String) (value : Json) : Except SettingsFault Settings := do
  if name = "multipleOfEpsilon" then
    return { settings with multipleOfEpsilon := ← readNumber value }
  else if name = "maxDepth" then
    return { settings with maxDepth := ← readCount value }
  else if name = "maxReferenceHops" then
    return { settings with maxReferenceHops := ← readCount value }
  else if name = "checkFormats" then
    return { settings with checkFormats := ← readFlag value }
  else return settings

/-- Member names in the order of declaration. -/
def fieldNames : List String := ["multipleOfEpsilon", "maxDepth", "maxReferenceHops", "checkFormats"]

/-- Changes the settings that named values give, one after the other. -/
def readFields (settings : Settings) : List (String × Json) → Except SettingsFault Settings
  | [] => .ok settings
  | (name, value) :: rest => do readFields (← readField settings name value) rest

/-- The settings of a JSON value. -/
def ofJson : Json → Except SettingsFault Settings
  | .object fields => readFields default fields
  | .array items => do
    let settings ← readFields default (fieldNames.zip items)
    if fieldNames.length < items.length then .error (.tooManyItems items.length)
    else return settings
  | other => .error (.wrongType other "struct ValidatorConfig")

/-- The settings as JSON text, in the order of declaration. -/
def text (settings : Settings) : String :=
  String.ofList ("\x7b\"multipleOfEpsilon\":".toList ++ Layout.json.write settings.multipleOfEpsilon ++
    ",\"maxDepth\":".toList ++ natText settings.maxDepth ++
    ",\"maxReferenceHops\":".toList ++ natText settings.maxReferenceHops ++
    ",\"checkFormats\":".toList ++ (Json.bool settings.checkFormats).write ++ ['}'])

end Settings
end ApiContract
