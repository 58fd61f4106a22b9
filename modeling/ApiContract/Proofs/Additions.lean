import ApiContract.Proofs.Limits

/-!
# Added components

A table with more components resolves every reference that the smaller table
resolves, and to the same component.  A validation that is not stopped by an
unresolved reference is the same validation over every larger table.
-/

namespace ApiContract

/-- The faults of references that name no component. -/
def Fault.IsUnresolved (e : Fault) : Prop := ∃ reference, e = .unresolved reference

namespace ComponentTable
variable {table more : ComponentTable}

theorem subset_insert {name : String} (schema : Json)
    (fresh : Fields.get? table.schemas name = none) :
    table.schemas ⊆ (table.insert name schema).schemas := by
  intro component hmem
  have hheld : Fields.get? table.schemas component.1 = some component.2 :=
    Fields.get?_of_mem table.ordered hmem
  have hname : name ≠ component.1 := by
    intro h
    rw [h, hheld] at fresh
    cases fresh
  apply Fields.mem_of_get?
  show Fields.get? (Fields.set table.schemas name schema) component.1 = some component.2
  rw [Fields.get?_set, if_neg hname]
  exact hheld

theorem get?_of_subset (h : table.schemas ⊆ more.schemas) {reference : String} {component : Json}
    (found : table.get? reference = some component) : more.get? reference = some component :=
  Fields.get?_of_mem more.ordered (h (Fields.mem_of_get? found))

theorem resolve_of_subset (h : table.schemas ⊆ more.schemas) (reference : String) :
    Agree Fault.IsUnresolved (table.resolve reference) (more.resolve reference) := by
  unfold resolve
  cases hfound : table.get? reference with
  | none => exact .inr ⟨_, rfl, reference, rfl⟩
  | some component =>
    rw [get?_of_subset h hfound]
    exact Agree.same _

end ComponentTable

namespace Resolver
variable {few many : Resolver} (h : few.table.schemas ⊆ many.table.schemas)
  (same : few.maxHops = many.maxHops)
include h same

theorem lookup_of_subset (scope : Scope) (keyword : String) :
    Agree Fault.IsUnresolved (few.lookup scope keyword) (many.lookup scope keyword) := by
  have hstart (node : Json) : Agree Fault.IsUnresolved (few.lookupWithin keyword 0 node)
      (many.lookupWithin keyword 0 node) := by
    unfold lookupWithin
    rw [same]
    exact Agree.same _
  have hnode (node : Json) : Agree Fault.IsUnresolved (few.lookupNode keyword node)
      (many.lookupNode keyword node) := by
    have hall := lookupWithin_agree (ComponentTable.resolve_of_subset h) 0 hstart few.maxHops node
    rw [Nat.zero_add] at hall
    unfold lookupNode
    rw [← same]
    exact hall
  exact lookup_agree (hnode scope.node) (List.forall₂_same.mpr fun node _ => hnode node)

theorem resolve_of_subset (node : Json) :
    Agree Fault.IsUnresolved (few.resolve node) (many.resolve node) := by
  have hstart (node : Json) : Agree Fault.IsUnresolved (few.resolveWithin 0 node)
      (many.resolveWithin 0 node) := by
    unfold resolveWithin
    rw [same]
    exact Agree.same _
  have hall := resolveWithin_agree (ComponentTable.resolve_of_subset h) 0 hstart few.maxHops node
  rw [Nat.zero_add] at hall
  unfold resolve
  rw [← same]
  exact hall

end Resolver

/-- Checkers of which the second has all components of the first, and maybe more. -/
theorem Checker.mirrors_of_subset {table more : ComponentTable}
    (h : table.schemas ⊆ more.schemas) (settings : Settings) (direction : Direction) :
    (Checker.mk table settings direction).Mirrors Fault.IsUnresolved ⟨more, settings, direction⟩ Eq :=
  mirrors_of_lookup (Resolver.lookup_of_subset h rfl)
    (selectedBranch_agree (Resolver.resolve_of_subset h rfl)) rfl rfl rfl

/-- A validation that does not end at an unresolved reference is the same
validation, with the same report or fault and the same callbacks, over every
table that has at least its components. -/
theorem added_components_change_nothing (table more : ComponentTable)
    (h : table.schemas ⊆ more.schemas) (settings : Settings) (value schema : Json) (root : String)
    (exchange : Exchange)
    (hne : ∀ reference, ((Validator.mk table settings).validate value schema root exchange).1 ≠
      .error (.unresolved reference)) :
    (Validator.mk more settings).validate value schema root exchange =
      (Validator.mk table settings).validate value schema root exchange := by
  have hroot := (Checker.mirrors_of_subset h settings exchange.direction).checkRoot rfl schema root
    value
  apply Validator.validate_eq_of_agree hroot
  rintro _ ⟨reference, rfl⟩
  exact hne reference

/-- A component is added that the document could have selected, and is not. -/
theorem added_components_change_nothing_unselected :
    let pet := Json.object [("required", .array [.string "x"]), ("type", .string "object")]
    let table : ComponentTable := ⟨[("Pet", pet)], by decide⟩
    let more := table.insert "Dog" (.object [("$ref", .string "Nowhere")])
    let chooser := Json.object [("discriminator", .object [("propertyName", .string "kind")]),
      ("oneOf", .array [])]
    let validate (table : ComponentTable) (kind : String) := (Validator.mk table .default).validate
      (.object [("kind", .string kind)]) chooser "body" (.ofDirection .request)
    table.schemas ⊆ more.schemas ∧
      (validate table "Dog").1 = .error (.unresolved "Dog") ∧
      (validate more "Dog").1 = .error (.unresolved "Nowhere") ∧
      (validate table "Pet").1 = .ok ⟨false, ⟨[.leaf ⟨.ofRoot "body", .noOneOfMatch⟩,
        .group "discriminator[Pet]" [.leaf ⟨⟨"body", [.selection "kind" "Pet"]⟩,
          .missingRequiredProperty "x"⟩]]⟩⟩ ∧
      validate more "Pet" = validate table "Pet" := by
  intro pet table more chooser validate
  have hsubset : table.schemas ⊆ more.schemas := ComponentTable.subset_insert _ rfl
  have hreport : (validate table "Pet").1 = .ok ⟨false, ⟨[.leaf ⟨.ofRoot "body", .noOneOfMatch⟩,
      .group "discriminator[Pet]" [.leaf ⟨⟨"body", [.selection "kind" "Pet"]⟩,
        .missingRequiredProperty "x"⟩]]⟩⟩ := rfl
  refine ⟨hsubset, rfl, rfl, hreport, ?_⟩
  apply added_components_change_nothing table more hsubset
  intro reference herr
  cases hreport.symm.trans herr

end ApiContract
