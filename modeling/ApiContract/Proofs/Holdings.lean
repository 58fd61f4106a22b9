import ApiContract.Proofs.Descent
import ApiContract.Proofs.References

/-!
# What the schema documents hold

Every node that a check comes to is a part of the schema that it began with or
of a component: keywords give parts of nodes, references give components, and
so does the choice of a discriminator.
-/

namespace ApiContract

/-- A part of a value: the value itself, or a part of an item or of a member. -/
inductive Json.Within (part : Json) : Json → Prop where
  | here : Within part part
  | item {items : List Json} {item : Json} (member : item ∈ items) (inside : Within part item) :
    Within part (.array items)
  | field {fields : List (String × Json)} {name : String} {value : Json}
    (member : (name, value) ∈ fields) (inside : Within part value) : Within part (.object fields)

namespace Json

theorem Within.trans {a b c : Json} (h : a.Within b) (h' : b.Within c) : a.Within c := by
  induction h' with
  | here => exact h
  | item member _ ih => exact .item member ih
  | field member _ ih => exact .field member ih

theorem within_of_get? {node value : Json} {name : String} (h : node.get? name = some value) :
    value.Within node := by
  cases node with
  | object fields => exact .field (Fields.mem_of_get? h) .here
  | _ => cases h

theorem within_array_iff {part : Json} {items : List Json} :
    part.Within (.array items) ↔ part = .array items ∨ ∃ item ∈ items, part.Within item := by
  constructor
  · intro h
    cases h with
    | here => exact .inl rfl
    | item member inside => exact .inr ⟨_, member, inside⟩
  · rintro (rfl | ⟨item, member, inside⟩)
    · exact .here
    · exact .item member inside

theorem within_object_iff {part : Json} {fields : List (String × Json)} :
    part.Within (.object fields) ↔ part = .object fields ∨ ∃ field ∈ fields, part.Within field.2 := by
  constructor
  · intro h
    cases h with
    | here => exact .inl rfl
    | field member inside => exact .inr ⟨_, member, inside⟩
  · rintro (rfl | ⟨field, member, inside⟩)
    · exact .here
    · exact .field member inside

theorem within_string_iff {part : Json} {text : String} :
    part.Within (.string text) ↔ part = .string text := by
  constructor
  · intro h
    cases h
    rfl
  · rintro rfl
    exact .here

theorem within_number_iff {part : Json} {n : Number} :
    part.Within (.number n) ↔ part = .number n := by
  constructor
  · intro h
    cases h
    rfl
  · rintro rfl
    exact .here

theorem within_bool_iff {part : Json} {b : Bool} : part.Within (.bool b) ↔ part = .bool b := by
  constructor
  · intro h
    cases h
    rfl
  · rintro rfl
    exact .here

end Json

/-- A node of the schema or of a component. -/
def ComponentTable.Holds (table : ComponentTable) (schema node : Json) : Prop :=
  node.Within schema ∨ ∃ component ∈ table.schemas, node.Within component.2

namespace ComponentTable.Holds
variable {table : ComponentTable} {schema node : Json}

theorem root (table : ComponentTable) (schema : Json) : table.Holds schema schema := .inl .here

theorem part {part : Json} (h : table.Holds schema node) (hpart : part.Within node) :
    table.Holds schema part := by
  rcases h with h | ⟨component, hmem, h⟩
  · exact .inl (hpart.trans h)
  · exact .inr ⟨component, hmem, hpart.trans h⟩

theorem of_get? {reference : String} (h : table.get? reference = some node) :
    table.Holds schema node := .inr ⟨_, Fields.mem_of_get? h, .here⟩

theorem walk {last : Json} {references : List String} (h : table.Holds schema node)
    (hwalk : table.Walk node references last) : table.Holds schema last := by
  induction hwalk with
  | here node => exact h
  | link _ found _ ih => exact ih (of_get? found)

end ComponentTable.Holds

/-- All nodes of a scope are held by the schema documents. -/
def Scope.HeldBy (scope : Scope) (table : ComponentTable) (schema : Json) : Prop :=
  ∀ node ∈ scope.node :: scope.parents, table.Holds schema node

theorem Scope.heldBy_self (scope : Scope) (table : ComponentTable) :
    scope.HeldBy table (.array (scope.node :: scope.parents)) := by
  intro node hmem
  exact .inl (.item hmem .here)

namespace Scope.HeldBy
variable {table : ComponentTable} {schema node : Json} {scope : Scope}

theorem root (h : table.Holds schema node) : (Scope.root node).HeldBy table schema := by
  intro other hmem
  rw [List.mem_singleton.mp hmem]
  exact h

theorem nested (h : table.Holds schema node) (houter : scope.HeldBy table schema) :
    (Scope.nested node scope).HeldBy table schema := by
  intro other hmem
  rcases List.mem_cons.mp hmem with rfl | hrest
  · exact h
  · exact houter other hrest

end Scope.HeldBy

/-! ### Lookups -/

/-- A keyword, if it was found, is a member of a node of the schema documents. -/
def ComponentTable.Gives (table : ComponentTable) (schema : Json) (keyword : String)
    (found : Option Json) : Prop :=
  ∀ value, found = some value →
    ∃ holder, table.Holds schema holder ∧ holder.get? keyword = some value

theorem ComponentTable.Gives.held {table : ComponentTable} {schema value : Json} {keyword : String}
    (h : table.Gives schema keyword (some value)) : table.Holds schema value := by
  obtain ⟨holder, hholder, hvalue⟩ := h value rfl
  exact hholder.part (Json.within_of_get? hvalue)

/-- A fault that the chain of a node of the schema documents leads to. -/
def Resolver.Blames (resolver : Resolver) (schema : Json) (e : Fault) : Prop :=
  ∃ node, resolver.table.Holds schema node ∧ resolver.Stops resolver.maxHops node e

namespace Resolver
variable {resolver : Resolver} {schema : Json}

theorem lookupNode_answers {node : Json} (h : resolver.table.Holds schema node) (keyword : String) :
    Answers (resolver.lookupNode keyword node) (resolver.Blames schema)
      (resolver.table.Gives schema keyword) := by
  refine (resolver.lookupWithin_answers keyword resolver.maxHops node).mono
    (fun _ hstops => ⟨node, h, hstops⟩) fun found hreads value hvalue => ?_
  obtain ⟨references, holder, hwalk, hholder⟩ := hreads value hvalue
  exact ⟨holder, h.walk hwalk, hholder⟩

theorem lookupNodes_answers {nodes : List Json}
    (h : ∀ node ∈ nodes, resolver.table.Holds schema node) (keyword : String) :
    Answers (resolver.lookupNodes keyword nodes) (resolver.Blames schema)
      (resolver.table.Gives schema keyword) := by
  induction nodes with
  | nil => exact Answers.ok nofun
  | cons node rest ih =>
    have hnode := lookupNode_answers (h node List.mem_cons_self) keyword
    refine Answers.andThen hnode fun found hgives => ?_
    cases found with
    | some value => exact Answers.ok hgives
    | none => exact ih fun other hmem => h other (List.mem_cons_of_mem _ hmem)

theorem lookup_answers {scope : Scope} (h : scope.HeldBy resolver.table schema) (keyword : String) :
    Answers (resolver.lookup scope keyword) (resolver.Blames schema)
      (resolver.table.Gives schema keyword) := by
  have hnode := lookupNode_answers (h scope.node List.mem_cons_self) keyword
  refine Answers.andThen hnode fun found hgives => ?_
  cases found with
  | some value => exact Answers.ok hgives
  | none =>
    by_cases htype : keyword = "type"
    · rw [if_pos htype]
      exact lookupNodes_answers (fun node hmem => h node (List.mem_cons_of_mem _ hmem)) keyword
    · rw [if_neg htype]
      exact Answers.ok hgives

theorem resolve_answers {node : Json} (h : resolver.table.Holds schema node) :
    Answers (resolver.resolve node) (resolver.Blames schema) (resolver.table.Holds schema) :=
  (resolver.resolveWithin_answers resolver.maxHops node).mono (fun _ hstops => ⟨node, h, hstops⟩)
    (fun _ ⟨_, _, hwalk⟩ => h.walk hwalk)

theorem held_of_resolveReference {reference : String} {last : Json}
    (h : resolver.resolveReference reference = .ok last) : resolver.table.Holds schema last := by
  rw [resolveReference_eq_resolve] at h
  obtain ⟨hend, references, hwalk⟩ := (resolver.resolveWithin_answers _ _).result last h
  cases hwalk with
  | here => cases hend
  | link _ found onward => exact (ComponentTable.Holds.of_get? found).walk onward

end Resolver

/-! ### Descents -/

namespace Checker
variable {checker : Checker} {schema : Json} {scope scope' : Scope} {value value' : Json}
  {step : Step}

theorem held_of_lookup {keyword : String} {node : Json} (h : scope.HeldBy checker.table schema)
    (looked : checker.resolver.lookup scope keyword = .ok (some node)) :
    checker.table.Holds schema node :=
  ((Resolver.lookup_answers h keyword).result _ looked).held

theorem eq_none_of_lookup {keyword : String} {found : Option Json}
    (unheld : ∀ node, checker.table.Holds schema node → node.get? keyword = none)
    (h : scope.HeldBy checker.table schema)
    (looked : checker.resolver.lookup scope keyword = .ok found) : found = none := by
  cases found with
  | none => rfl
  | some value =>
    obtain ⟨holder, hholder, hvalue⟩ := (Resolver.lookup_answers h keyword).result _ looked value rfl
    rw [unheld holder hholder] at hvalue
    cases hvalue

theorem within_of_mem_fieldsOf {declared : Json} {field : String × Json}
    (h : field ∈ fieldsOf (some declared)) : field.2.Within declared := by
  cases declared with
  | object fields => exact .field h .here
  | _ => cases h

theorem held_of_selectedBranch {discriminator branch : Json} {selector : String}
    (h : checker.table.Holds schema discriminator)
    (hbranch : checker.selectedBranch discriminator selector = .ok branch) :
    checker.table.Holds schema branch := by
  unfold selectedBranch at hbranch
  split at hbranch
  · exact Resolver.held_of_resolveReference hbranch
  · next inline hinline =>
    obtain ⟨mapping, hmapping, hentry⟩ := Option.bind_eq_some_iff.mp hinline
    have hpart := (Json.within_of_get? hentry).trans (Json.within_of_get? hmapping)
    exact (Resolver.resolve_answers (h.part hpart)).result branch hbranch
  · exact Resolver.held_of_resolveReference hbranch

theorem Descends.heldBy (hd : checker.Descends scope value step scope' value')
    (h : scope.HeldBy checker.table schema) : scope'.HeldBy checker.table schema := by
  cases hd with
  | property looked has _ =>
    exact .root ((held_of_lookup h looked).part (Json.within_of_get? has))
  | forbidden looked shapes has _ =>
    have hdeclared := held_of_lookup (.root (held_of_lookup h looked)) shapes
    exact .root (hdeclared.part (within_of_mem_fieldsOf has))
  | additional looked _ => exact .root (held_of_lookup h looked)
  | item looked _ => exact .root (held_of_lookup h looked)
  | branch looked here =>
    have hbranch := Json.Within.item (List.mem_of_getElem? here) .here
    exact .nested ((held_of_lookup h looked).part hbranch) h
  | selection _ looked _ _ target =>
    exact .nested (held_of_selectedBranch (held_of_lookup h looked) target) h

end Checker
end ApiContract
