import ApiContract.Proofs.Chains
import ApiContract.Proofs.Transparency
import ApiContract.Proofs.ValueEquality

/-!
# What component tables hold

A table holds what its document gives and what is inserted after it; of several
schemas under one name, the last.  References lose one prefix on their way to a
name and names are held as they are, so every name is found behind the prefix, and
on its own unless it begins with the prefix itself.
-/

namespace ApiContract

/-! ### Fields set one after the other -/

namespace Fields
variable {α : Type} {fields : List (String × α)} {name : String}

theorem get?_foldl_set (pairs fields : List (String × α)) (name : String) :
    get? (pairs.foldl (fun fields pair => set fields pair.1 pair.2) fields) name =
      (get? pairs.reverse name).or (get? fields name) := by
  have hoverlay : pairs.foldl (fun fields pair => set fields pair.1 pair.2) fields =
      overlay pairs.reverse fields := List.foldr_reverse.symm
  rw [hoverlay, get?_overlay]

theorem isSome_get?_iff : (get? fields name).isSome = true ↔ name ∈ names fields := by
  induction fields with
  | nil => simp [get?, names]
  | cons field rest ih =>
    obtain ⟨key, held⟩ := field
    rw [names, List.map_cons, List.mem_cons, get?]
    by_cases hkey : key = name
    · rw [if_pos hkey]
      exact iff_of_true rfl (.inl hkey.symm)
    · rw [if_neg hkey, ih]
      exact (or_iff_right (Ne.symm hkey)).symm

/-- Where every name occurs once, it does not matter from which end a name is looked for. -/
theorem get?_reverse (ordered : Ordered fields) (name : String) :
    get? fields.reverse name = get? fields name := by
  cases hfound : get? fields.reverse name with
  | some value =>
    have hmember : (name, value) ∈ fields := List.mem_reverse.mp (mem_of_get? hfound)
    exact (get?_of_mem ordered hmember).symm
  | none =>
    have hnames : name ∉ names fields.reverse := by
      rw [← isSome_get?_iff, hfound]
      exact Bool.false_ne_true
    rw [names, List.map_reverse, List.mem_reverse] at hnames
    have hnone := mt isSome_get?_iff.mp hnames
    rw [Bool.not_eq_true, Option.isSome_eq_false_iff, Option.isNone_iff_eq_none] at hnone
    exact hnone.symm

end Fields

theorem Json.ordered_of_get? {node value : Json} {name : String} (ordered : node.Ordered)
    (h : node.get? name = some value) : value.Ordered := by
  cases node with
  | object fields => exact (ordered_object.mp ordered).2 _ (Fields.mem_of_get? h)
  | _ => cases h

namespace ComponentTable

/-! ### References and names -/

theorem componentName_local (name : String) : componentName (localPrefix ++ name) = name := by
  have hlead : localPrefix.toList.isPrefixOf (localPrefix ++ name).toList = true := by
    rw [String.toList_append, List.isPrefixOf_iff_prefix]
    exact List.prefix_append _ _
  unfold componentName dropLeading
  rw [if_pos hlead, String.toList_append, List.drop_left, String.ofList_toList]

theorem componentName_of_not_local {reference : String}
    (h : ∀ name, reference ≠ localPrefix ++ name) : componentName reference = reference := by
  have hlead : ¬localPrefix.toList.isPrefixOf reference.toList = true := by
    rw [List.isPrefixOf_iff_prefix]
    rintro ⟨rest, hrest⟩
    refine h (String.ofList rest) (String.toList_inj.mp ?_)
    rw [String.toList_append, String.toList_ofList, hrest]
  unfold componentName dropLeading
  rw [if_neg hlead, String.ofList_toList]

theorem resolve_eq_ok_iff {table : ComponentTable} {reference : String} {schema : Json} :
    table.resolve reference = .ok schema ↔ table.get? reference = some schema :=
  ⟨get?_of_resolve, resolve_of_get?⟩

theorem resolve_eq_error_iff {table : ComponentTable} {reference : String} {e : Fault} :
    table.resolve reference = .error e ↔
      e = .unresolved reference ∧ table.get? reference = none := by
  refine ⟨unresolved_of_resolve, ?_⟩
  rintro ⟨rfl, hmissing⟩
  exact resolve_of_missing hmissing

/-! ### Tables of documents -/

/-- The schema that a document gives to a name: in its components if it is a whole
contract, at its top if it is not. -/
def givenBy (document : Json) (name : String) : Option Json :=
  if (document.get? "openapi").isSome ∨ (document.get? "components").isSome then
    ((document.get? "components").bind (Json.get? "schemas")).bind (Json.get? name)
  else document.get? name

theorem get?_ofFields {fields : List (String × Json)} (ordered : Fields.Ordered fields)
    (name : String) : Fields.get? (ofFields fields).schemas name = Fields.get? fields name := by
  have hpairs := Fields.get?_foldl_set fields [] name
  rw [Fields.get?_reverse ordered, Fields.get?, Option.or_none] at hpairs
  exact hpairs

/-- The schemas of a whole contract are its table; without any, the table is empty. -/
theorem get?_ofDocument_of_whole {fields : List (String × Json)}
    (ordered : (Json.object fields).Ordered) {table : ComponentTable}
    (accepted : ofDocument (.object fields) = .ok table)
    (whole : (Fields.contains fields "openapi" || Fields.contains fields "components") = true)
    (name : String) :
    Fields.get? table.schemas name =
      (((Json.object fields).get? "components").bind (Json.get? "schemas")).bind (Json.get? name) := by
  unfold ofDocument at accepted
  dsimp only at accepted
  rw [if_pos whole] at accepted
  show _ = ((Fields.get? fields "components").bind (Json.get? "schemas")).bind (Json.get? name)
  cases hschemas : (Fields.get? fields "components").bind (Json.get? "schemas") with
  | none =>
    rw [hschemas] at accepted
    cases accepted
    rfl
  | some schemas =>
    obtain ⟨components, hcomponents, hmembers⟩ := Option.bind_eq_some_iff.mp hschemas
    have hcomponents' : (Json.object fields).get? "components" = some components := hcomponents
    have hordered := Json.ordered_of_get? (Json.ordered_of_get? ordered hcomponents') hmembers
    rw [hschemas] at accepted
    cases schemas with
    | object members =>
      cases accepted
      exact get?_ofFields (Json.ordered_object.mp hordered).1 name
    | _ => cases accepted

theorem get?_ofDocument {document : Json} (ordered : document.Ordered) {table : ComponentTable}
    (accepted : ofDocument document = .ok table) (name : String) :
    Fields.get? table.schemas name = givenBy document name := by
  cases document with
  | object fields =>
    have hwhole : (Fields.contains fields "openapi" || Fields.contains fields "components") = true ↔
        ((Json.object fields).get? "openapi").isSome ∨
          ((Json.object fields).get? "components").isSome := Bool.or_eq_true_iff
    unfold givenBy
    by_cases h : (Fields.contains fields "openapi" || Fields.contains fields "components") = true
    · rw [if_pos (hwhole.mp h)]
      exact get?_ofDocument_of_whole ordered accepted h name
    · -- without either key the document itself is the table
      rw [if_neg (mt hwhole.mpr h)]
      unfold ofDocument at accepted
      dsimp only at accepted
      rw [if_neg h] at accepted
      cases accepted
      exact get?_ofFields (Json.ordered_object.mp ordered).1 name
  | _ => cases accepted

/-! ### Insertions -/

/-- The table after several insertions, in order. -/
def insertAll (table : ComponentTable) (insertions : List (String × Json)) : ComponentTable :=
  insertions.foldl (fun table insertion => table.insert insertion.1 insertion.2) table

theorem schemas_insertAll (table : ComponentTable) (insertions : List (String × Json)) :
    (table.insertAll insertions).schemas =
      insertions.foldl (fun fields insertion => Fields.set fields insertion.1 insertion.2)
        table.schemas := by
  induction insertions generalizing table with
  | nil => rfl
  | cons insertion rest ih => exact ih (table.insert insertion.1 insertion.2)

/-- A reference to a table that was made of a document and added to leads to the last
schema inserted under the name that it refers to, to the one that the document gives
if there is none, and else nowhere, which is a fault that quotes the reference in
full.  No name is held twice.  Every name is found behind the prefix of references,
and on its own unless it begins with that prefix.  The objects of the document have
their members in order, as those of every document that was read. -/
theorem tables_keep_last_given {document : Json} (ordered : document.Ordered)
    {table : ComponentTable} (accepted : ofDocument document = .ok table)
    (insertions : List (String × Json)) :
    let full := table.insertAll insertions
    let given (name : String) : Option Json :=
      (Fields.get? insertions.reverse name).or (givenBy document name)
    (∀ name, componentName (localPrefix ++ name) = name) ∧
    (∀ reference, (∀ name, reference ≠ localPrefix ++ name) → componentName reference = reference) ∧
    (∀ reference, full.get? reference = given (componentName reference)) ∧
    (∀ reference schema, full.resolve reference = .ok schema ↔ full.get? reference = some schema) ∧
    (∀ reference e, full.resolve reference = .error e ↔
      e = .unresolved reference ∧ full.get? reference = none) ∧
    full.names.Nodup ∧ full.length = full.names.length ∧
    (∀ name, name ∈ full.names ↔ (given name).isSome = true) ∧
    (∀ name ∈ full.names, ∃ schema, given name = some schema ∧
      full.get? (localPrefix ++ name) = some schema ∧
      ((∀ rest, name ≠ localPrefix ++ rest) → full.get? name = some schema)) := by
  intro full given
  have hheld (name : String) : Fields.get? full.schemas name = given name := by
    show Fields.get? (table.insertAll insertions).schemas name = _
    rw [schemas_insertAll, Fields.get?_foldl_set, get?_ofDocument ordered accepted]
  have hnames (name : String) : name ∈ full.names ↔ (given name).isSome = true := by
    rw [← hheld]
    exact Fields.isSome_get?_iff.symm
  have hlookup (reference : String) : full.get? reference = given (componentName reference) :=
    hheld (componentName reference)
  refine ⟨componentName_local, fun _ => componentName_of_not_local, hlookup,
    fun _ _ => resolve_eq_ok_iff, fun _ _ => resolve_eq_error_iff,
    full.ordered.nodup_names, (List.length_map _).symm, hnames, fun name hname => ?_⟩
  obtain ⟨schema, hschema⟩ := Option.isSome_iff_exists.mp ((hnames name).mp hname)
  refine ⟨schema, hschema, ?_, fun hbare => ?_⟩
  · rw [hlookup, componentName_local, hschema]
  · rw [hlookup, componentName_of_not_local hbare, hschema]

/-- A name with the prefix in it, and a name that is inserted twice over the document's. -/
theorem tables_keep_last_given_shadowed :
    let document := Json.object [("components", .object [("schemas", .object
      [("#/components/schemas/A", .bool false), ("A", .null), ("B", .bool true)])])]
    let table : ComponentTable := ⟨[("#/components/schemas/A", .bool false), ("A", .null),
      ("B", .bool true)], by decide⟩
    let full := table.insertAll [("A", .string "first"), ("A", .string "second")]
    document.Ordered ∧ ofDocument document = .ok table ∧
      full.get? "A" = some (.string "second") ∧
      full.get? "#/components/schemas/A" = some (.string "second") ∧
      full.get? "#/components/schemas/#/components/schemas/A" = some (.bool false) ∧
      full.get? "#/components/schemas/B" = some (.bool true) ∧
      full.resolve "#/components/schemas/C" = .error (.unresolved "#/components/schemas/C") ∧
      full.names = ["#/components/schemas/A", "A", "B"] := by
  intro document table full
  have hordered : document.Ordered :=
    ⟨by decide, ⟨by decide, ⟨by decide, trivial, trivial, trivial, trivial⟩, trivial⟩, trivial⟩
  have haccepted : ofDocument document = .ok table := rfl
  obtain ⟨hlocal, -, hlookup, -, hfault, -, -, -, -⟩ := tables_keep_last_given hordered haccepted
    [("A", .string "first"), ("A", .string "second")]
  have hprefixed (name : String) := hlookup (localPrefix ++ name)
  simp only [hlocal] at hprefixed
  exact ⟨hordered, haccepted, hlookup "A", hprefixed "A", hprefixed "#/components/schemas/A",
    hprefixed "B", (hfault _ _).mpr ⟨rfl, hprefixed "C"⟩, rfl⟩

end ComponentTable
end ApiContract
