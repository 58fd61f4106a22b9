import ApiContract.Unicode.Age
import ApiContract.Unicode.Break
import ApiContract.Unicode.Category
import ApiContract.Unicode.Property
import ApiContract.Unicode.Script

/-!
# Sets by name

Names of properties, categories and scripts are compared loosely: case, blanks,
hyphens, low lines and a leading `is` do not matter.  A name may be known and
still stand for no set, because its property has no two sides or its value
holds no character.
-/

namespace ApiContract
namespace Unicode

/-- Why a name stands for no set. -/
inductive Missing where
  | property
  | value
  deriving DecidableEq

/-- A name in loose form. -/
def loose (name : String) : String :=
  let chars := name.toList
  let hasIs := (chars.take 2).map Char.toLower = ['i', 's']
  let body := if hasIs then chars.drop 2 else chars
  let kept := (body.filter (fun c =>
    c != ' ' && c != '_' && c != '-' && decide (c.toNat < 128))).map Char.toLower
  if hasIs ∧ kept = ['c'] then "isc" else String.ofList kept

/-! ### Values -/

/-- Names of categories and scripts that hold no character. -/
def vacant : List String :=
  ["cs", "hrkt", "katakanaorhiragana", "surrogate", "unknown", "zzzz"]

/-- The set of a category's name; three names are no categories of their own. -/
def category? (name : String) : Option CharSet :=
  if vacant.contains name then none
  else if name = "any" then some CharSet.full
  else if name = "assigned" then some (CharSet.negation (Category.toSet .unassigned))
  else if name = "ascii" then some [⟨0, 0x7F⟩]
  else (Category.ofName? name).map Category.union

/-- The set of a script's name. -/
def script? (name : String) : Option CharSet := NamedSet.find? scripts name

/-- The set of the extension of a script's name. -/
def scriptExtension? (name : String) : Option CharSet :=
  match NamedSet.find? scriptExtensions name with
  | some set => some set
  | none => script? name

/-! ### Properties -/

/-- Properties with values, by names, with the set of a value's name. -/
def valued : List (List String × (String → Option CharSet)) :=
  [(["category", "gc", "generalcategory"], category?),
    (["sc", "script"], script?),
    (["scriptextensions", "scx"], scriptExtension?),
    (["age"], age?),
    (["gcb", "graphemeclusterbreak"], NamedSet.find? graphemeParts),
    (["wb", "wordbreak"], NamedSet.find? wordParts),
    (["sb", "sentencebreak"], NamedSet.find? sentenceParts)]

/-- Names of the other properties, of whose values none can be asked for. -/
def withoutSets : List String :=
  ["bc", "bidiclass", "bidim", "bidimirrored", "bidimirroringglyph", "bidipairedbracket",
    "bidipairedbrackettype", "blk", "block", "bmg", "bpb", "bpt", "canonicalcombiningclass",
    "casefolding", "ccc", "ce", "cf", "changeswhennfkccasefolded", "cjkaccountingnumeric",
    "cjkcompatibilityvariant", "cjkiicore", "cjkirggsource", "cjkirghsource", "cjkirgjsource",
    "cjkirgkpsource", "cjkirgksource", "cjkirgmsource", "cjkirgssource", "cjkirgtsource",
    "cjkirguksource", "cjkirgusource", "cjkirgvsource", "cjkothernumeric", "cjkprimarynumeric",
    "cjkrsunicode", "compex", "compositionexclusion", "cwkcf", "decompositionmapping",
    "decompositiontype", "dm", "dt", "ea", "eastasianwidth", "equideo",
    "equivalentunifiedideograph", "expandsonnfc", "expandsonnfd", "expandsonnfkc",
    "expandsonnfkd", "fcnfkc", "fcnfkcclosure", "fullcompositionexclusion",
    "hangulsyllabletype", "hst", "incb", "indicconjunctbreak", "indicpositionalcategory",
    "indicsyllabiccategory", "inpc", "insc", "isc", "isocomment", "jamoshortname", "jg",
    "joininggroup", "joiningtype", "jsn", "jt", "kaccountingnumeric", "kcompatibilityvariant",
    "kehcat", "kehdesc", "kehhg", "kehifao", "kehjsesh", "kehnomirror", "kehnorotate", "kiicore",
    "kirggsource", "kirghsource", "kirgjsource", "kirgkpsource", "kirgksource", "kirgmsource",
    "kirgssource", "kirgtsource", "kirguksource", "kirgusource", "kirgvsource",
    "kothernumeric", "kprimarynumeric", "krsunicode", "lb", "lc", "linebreak",
    "lowercasemapping", "na", "na1", "name", "namealias", "nfcqc", "nfcquickcheck", "nfdqc",
    "nfdquickcheck", "nfkccasefold", "nfkccf", "nfkcqc", "nfkcquickcheck", "nfkcscf",
    "nfkcsimplecasefold", "nfkdqc", "nfkdquickcheck", "nt", "numerictype", "numericvalue",
    "nv", "scf", "sfc", "simplecasefolding", "simplelowercasemapping",
    "simpletitlecasemapping", "simpleuppercasemapping", "slc", "stc", "suc", "tc",
    "titlecasemapping", "uc", "unicode1name", "unicoderadicalstroke", "uppercasemapping", "urs",
    "verticalorientation", "vo", "xonfc", "xonfd", "xonfkc", "xonfkd"]

/-- The values of a property's name. -/
def values? (name : String) : Option (String → Option CharSet) :=
  (valued.find? (fun entry => entry.1.contains name)).map Prod.snd

/-- Whether a name is that of a property. -/
def isProperty (name : String) : Bool :=
  (values? name).isSome || withoutSets.contains name ||
    Property.all.any (fun named => named.names.contains name)

/-! ### Questions -/

/-- Names that are both properties with values and categories; they mean the category. -/
def ambiguous : List String := ["cf", "sc", "lc"]

/-- The set of a name on its own: a property, a category or a script. -/
def find (name : String) : Except Missing CharSet :=
  let name := loose name
  if !ambiguous.contains name && isProperty name then
    match NamedSet.find? Property.all name with
    | some set => .ok set
    | none => .error .property
  else
    match category? name, script? name with
    | some set, _ => .ok set
    | none, some set => .ok set
    | none, none => .error (if vacant.contains name then .value else .property)

/-- The set of a value of a property. -/
def findValue (property value : String) : Except Missing CharSet :=
  let property := loose property
  match values? property with
  | some values =>
    match values (loose value) with
    | some set => .ok set
    | none => .error .value
  | none => .error (if isProperty property then .value else .property)

end Unicode
end ApiContract
