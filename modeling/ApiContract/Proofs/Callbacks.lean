import ApiContract.Proofs.Holdings
import ApiContract.Proofs.Location
import ApiContract.Proofs.Pointers

/-!
# Where callbacks come from

A check meets the strings of the document at paths that lead to them.  If the
paths can be read back, a string is registered for the templates of the places
where it stands, and for no others.
-/

namespace ApiContract

/-- A note that a discriminator of the schema documents can make at a value. -/
def ComponentTable.Notes (table : ComponentTable) (schema value : Json)
    (property selector : String) : Prop :=
  ∃ node discriminator selected, table.Holds schema node ∧
    node.get? "discriminator" = some discriminator ∧
    Checker.propertyName? discriminator = some property ∧ value.get? property = some selected ∧
    selector = Checker.selectorOf selected

/-- Key and index steps lead from a value to a part of it; the notes between
them are notes that a check can make where they stand. -/
inductive ComponentTable.Traces (table : ComponentTable) (schema : Json) :
    Json → List Step → Json → Prop where
  | here (value : Json) : Traces table schema value [] value
  | key {fields : List (String × Json)} {name : String} {value last : Json} {steps : List Step}
    (member : (name, value) ∈ fields) (onward : Traces table schema value steps last) :
    Traces table schema (.object fields) (.key name :: steps) last
  | index {items : List Json} {position : Nat} {value last : Json} {steps : List Step}
    (here : items[position]? = some value) (onward : Traces table schema value steps last) :
    Traces table schema (.array items) (.index position :: steps) last
  | branch {value last : Json} {position : Nat} {steps : List Step}
    (onward : Traces table schema value steps last) :
    Traces table schema value (.branch position :: steps) last
  | selection {value last : Json} {property selector : String} {steps : List Step}
    (noted : table.Notes schema value property selector)
    (onward : Traces table schema value steps last) :
    Traces table schema value (.selection property selector :: steps) last

/-- Documents with paths that can be read back: no key has a closing bracket,
all notes have their braces balanced, and nothing in front of the first key, be
it the root marker or a note, has an opening bracket. -/
structure ComponentTable.Legible (table : ComponentTable) (schema document : Json) (root : String) :
    Prop where
  root : '[' ∉ root.toList
  keys : ∀ fields, (Json.object fields).Within document → ∀ field ∈ fields, ']' ∉ field.1.toList
  notes : ∀ part property selector, part.Within document →
    table.Notes schema part property selector →
      Pointer.Balanced (Step.selection property selector).label
  leading : ∀ property selector, table.Notes schema document property selector →
    '[' ∉ (Step.selection property selector).label

namespace ComponentTable.Traces
variable {table : ComponentTable} {schema value last : Json} {steps : List Step}

theorem leads (h : table.Traces schema value steps last) :
    value.Leads (steps.filter fun step => !step.isNote) last := by
  induction h with
  | here value => exact .here value
  | key member _ ih => exact .key member ih
  | index here _ ih => exact .index here ih
  | branch _ ih => exact ih
  | selection _ _ ih => exact ih

theorem readable {document : Json} {root : String} (legible : table.Legible schema document root)
    (h : table.Traces schema value steps last) (part : value.Within document) :
    ∀ step ∈ steps, Pointer.Readable step := by
  induction h with
  | here value => exact fun _ hmem => absurd hmem List.not_mem_nil
  | key member _ ih =>
    have hvalue := (Json.Within.field member .here).trans part
    exact List.forall_mem_cons.mpr ⟨legible.keys _ part _ member, ih hvalue⟩
  | index here _ ih =>
    have hvalue := (Json.Within.item (List.mem_of_getElem? here) .here).trans part
    exact List.forall_mem_cons.mpr ⟨Pointer.readable_index _, ih hvalue⟩
  | branch _ ih => exact List.forall_mem_cons.mpr ⟨Pointer.readable_branch _, ih part⟩
  | selection noted _ ih =>
    exact List.forall_mem_cons.mpr ⟨legible.notes _ _ _ part noted, ih part⟩

theorem leading (noted : ∀ property selector, table.Notes schema value property selector →
      '[' ∉ (Step.selection property selector).label)
    (h : table.Traces schema value steps last) :
    ∀ step ∈ steps.takeWhile Step.isNote, '[' ∉ step.label := by
  induction h with
  | here value => exact fun _ hmem => absurd hmem List.not_mem_nil
  | key _ _ _ => exact fun _ hmem => absurd hmem List.not_mem_nil
  | index _ _ _ => exact fun _ hmem => absurd hmem List.not_mem_nil
  | branch _ ih =>
    rw [List.takeWhile_cons_of_pos (by rfl)]
    refine List.forall_mem_cons.mpr ⟨?_, ih noted⟩
    simp [Step.label, Pointer.not_mem_toDigits]
  | selection hnoted _ ih =>
    rw [List.takeWhile_cons_of_pos (by rfl)]
    exact List.forall_mem_cons.mpr ⟨noted _ _ hnoted, ih noted⟩

end ComponentTable.Traces

theorem Checker.Descends.traces {checker : Checker} {schema : Json} {scope scope' : Scope}
    {value value' last : Json} {step : Step} {steps : List Step}
    (hd : checker.Descends scope value step scope' value')
    (held : scope.HeldBy checker.table schema)
    (onward : checker.table.Traces schema value' steps last) :
    checker.table.Traces schema value (step :: steps) last := by
  cases hd with
  | property _ _ member => exact .key member onward
  | forbidden _ _ _ member => exact .key member onward
  | additional _ member => exact .key member onward
  | item _ here => exact .index here onward
  | branch _ _ => exact .branch onward
  | selection _ looked named chosen _ =>
    obtain ⟨node, hnode, hmember⟩ :=
      (Resolver.lookup_answers held "discriminator").result _ looked _ rfl
    exact .selection ⟨node, _, _, hnode, hmember, named, chosen, rfl⟩ onward

/-- All strings that a check meets stand where its path leads to. -/
def Reading.placement (table : ComponentTable) (schema : Json) : Reading where
  seen scope path value sighting := scope.HeldBy table schema →
    ∃ steps, sighting.path = ⟨path.root, path.steps ++ steps⟩ ∧
      table.Traces schema value steps (.string sighting.text)
  fault _ _ _ _ := True
  entry _ _ _ _ := True

namespace Checker
variable (checker : Checker) (schema : Json)

theorem carries_placement :
    checker.Carries (.placement checker.table schema) (.placement checker.table schema) where
  seen_here _ path text _ := ⟨[], by rw [List.append_nil], .here (.string text)⟩
  seen_below hd path sighting h held := by
    obtain ⟨steps, hpath, htraces⟩ := h (hd.heldBy held)
    refine ⟨_, ?_, hd.traces held htraces⟩
    rw [hpath]
    simp [Path.child]
  fault_here _ _ := trivial
  fault_below _ _ _ _ := trivial
  leaf _ _ _ _ _ := trivial
  entry_below _ _ _ _ _ := trivial
  group _ _ _ _ _ _ := trivial
  missing _ _ _ _ := trivial

theorem exists_traces_of_sighting {depth : Nat} {path : Path} {value : Json} {sighting : Sighting}
    (h : sighting ∈ (checker.checkWithin depth (.root schema) path value).sightings) :
    ∃ steps, sighting.path = ⟨path.root, path.steps ++ steps⟩ ∧
      checker.table.Traces schema value steps (.string sighting.text) := by
  have hall := checker.checkWithin_describes (fun _ => .placement checker.table schema)
    (fun _ _ _ => trivial) (fun _ => carries_placement checker schema) depth
  exact (hall (.root schema) path value).seen sighting h (.root (.root checker.table schema))

end Checker

/-! ### Registration -/

namespace Exchange
variable {exchange : Exchange} {id : String} {governing : Json}

theorem templates_register (sighting : Sighting) :
    (exchange.register sighting).templates = exchange.templates := by
  unfold register
  split <;> rfl

theorem get?_register {sighting : Sighting}
    (h : Fields.get? (exchange.register sighting).callbacks id = some governing) :
    Fields.get? exchange.callbacks id = some governing ∨
      (sighting.text = id ∧ exchange.schemaAt? sighting.path = some governing) := by
  unfold register at h
  cases hschema : exchange.schemaAt? sighting.path with
  | none =>
    rw [hschema] at h
    exact .inl h
  | some schema =>
    rw [hschema] at h
    dsimp only at h
    rw [Fields.get?_set] at h
    by_cases htext : sighting.text = id
    · rw [if_pos htext] at h
      exact .inr ⟨htext, h⟩
    · rw [if_neg htext] at h
      exact .inl h

/-- What a run registers was met where a template names the place. -/
theorem exists_sighting_of_registerAll {sightings : List Sighting}
    (h : Fields.get? (exchange.registerAll sightings).callbacks id = some governing)
    (hnew : Fields.get? exchange.callbacks id ≠ some governing) :
    ∃ sighting ∈ sightings, sighting.text = id ∧
      exchange.schemaAt? sighting.path = some governing := by
  induction sightings generalizing exchange with
  | nil => exact absurd h hnew
  | cons sighting rest ih =>
    by_cases hhere : Fields.get? (exchange.register sighting).callbacks id = some governing
    · obtain hold | hmet := get?_register hhere
      · exact absurd hold hnew
      · exact ⟨sighting, List.mem_cons_self, hmet⟩
    · obtain ⟨other, hother, htext, hschema⟩ := ih h hhere
      unfold schemaAt? at hschema
      rw [templates_register] at hschema
      exact ⟨other, List.mem_cons_of_mem _ hother, htext, hschema⟩

end Exchange

/-- The template that names the place behind key and index steps. -/
def Pointer.expression (steps : List Step) : String :=
  "\x7b$request.body#" ++ String.ofList (ofSteps steps) ++ "\x7d"

theorem Pointer.expression_eq (steps : List Step) :
    expression steps = String.ofList (opening ++ ofSteps steps ++ ['}']) := by
  have hopening : String.ofList opening = "\x7b$request.body#" := String.ofList_toList
  have hclosing : String.ofList ['}'] = "\x7d" := rfl
  simp only [expression, String.ofList_append, hopening, hclosing]

/-- Every callback that a validation adds or changes is a string of the document
that stands at the place of its template, if the paths of the document can be
read back.  This is so for reports and for faults. -/
theorem callbacks_located (validator : Validator) (value schema : Json) (root : String)
    (exchange : Exchange) (legible : validator.table.Legible schema value root) (id : String)
    (governing : Json)
    (after : Fields.get? (validator.validate value schema root exchange).2.callbacks id =
      some governing)
    (new : Fields.get? exchange.callbacks id ≠ some governing) :
    ∃ steps, (∀ step ∈ steps, step.isNote = false) ∧ value.Leads steps (.string id) ∧
      Fields.get? exchange.templates (Pointer.expression steps) = some governing := by
  obtain ⟨sighting, hmem, rfl, hschema⟩ := Exchange.exists_sighting_of_registerAll after new
  have hseen : sighting ∈ ((validator.checker exchange.direction).checkWithin
      (validator.settings.maxDepth + 1) (.root schema) (.ofRoot root) value).sightings := by
    rw [← Checker.sightings_checkInto]
    exact hmem
  obtain ⟨steps, hpath, htraces⟩ := Checker.exists_traces_of_sighting _ _ hseen
  -- the template was read off the written path, the place is that of the steps
  have hread : Pointer.ofWritten sighting.path.write = Pointer.ofSteps steps := by
    rw [hpath]
    exact Pointer.ofWritten_write legible.root (htraces.leading legible.leading)
      (htraces.readable legible .here)
  refine ⟨steps.filter fun step => !step.isNote, ?_, htraces.leads, ?_⟩
  · intro step hstep
    simpa using (List.mem_filter.mp hstep).2
  · unfold Exchange.schemaAt? Pointer.template at hschema
    rw [hread, ← Pointer.ofSteps_filter, ← Pointer.expression_eq] at hschema
    exact hschema

theorem callbacks_located_selected :
    let link := Json.object [("type", .string "string")]
    let hook := Json.object [("properties", .object [("a/b~c", link)])]
    let table : ComponentTable := ⟨[("Hook", hook)], by decide⟩
    let schema := Json.object [("discriminator", .object [("propertyName", .string "kind")]),
      ("oneOf", .array [])]
    let document := Json.object [("a/b~c", .string "u"), ("kind", .string "Hook")]
    let event := Json.object [("type", .string "object")]
    let exchange : Exchange := ⟨.request, [("\x7b$request.body#/a~1b~0c\x7d", event)], []⟩
    let after := ((Validator.mk table .default).validate document schema "body" exchange).2
    table.Legible schema document "body" ∧ Fields.get? after.callbacks "u" = some event ∧
      Fields.get? exchange.callbacks "u" ≠ some event ∧
      ∃ steps, (∀ step ∈ steps, step.isNote = false) ∧ document.Leads steps (.string "u") ∧
        Fields.get? exchange.templates (Pointer.expression steps) = some event := by
  intro link hook table schema document event exchange after
  have hnotes (part : Json) (property selector : String) (within : part.Within document)
      (h : table.Notes schema part property selector) : property = "kind" ∧ selector = "Hook" := by
    obtain ⟨node, discriminator, selected, hnode, hdiscriminator, hproperty, hselected, rfl⟩ := h
    simp only [ComponentTable.Holds, table, schema, hook, link, Json.within_object_iff,
      Json.within_array_iff, Json.within_string_iff, List.mem_cons, List.not_mem_nil, or_false,
      false_and, exists_false, exists_eq_or_imp, exists_eq_left] at hnode
    simp only [document, Json.within_object_iff, Json.within_string_iff, List.mem_cons,
      List.not_mem_nil, or_false, exists_eq_or_imp, exists_eq_left] at within
    have hname : property = "kind" := by
      rcases hnode with (rfl | (rfl | rfl) | rfl) | rfl | rfl | rfl | rfl <;>
        cases hdiscriminator
      cases hproperty
      rfl
    subst hname
    rcases within with rfl | rfl | rfl <;> cases hselected
    exact ⟨rfl, rfl⟩
  have hlegible : table.Legible schema document "body" := by
    refine ⟨by simp, ?_, ?_, ?_⟩
    · intro fields within field hfield
      simp only [document, Json.within_object_iff, Json.within_string_iff, List.mem_cons,
        List.not_mem_nil, or_false, exists_eq_or_imp, exists_eq_left] at within
      rcases within with h | h | h <;> cases h
      rcases List.mem_cons.mp hfield with rfl | hrest
      · simp
      · rw [List.mem_singleton.mp hrest]
        simp
    · intro part property selector within h
      obtain ⟨rfl, rfl⟩ := hnotes part property selector within h
      decide
    · intro property selector h
      obtain ⟨rfl, rfl⟩ := hnotes document property selector .here h
      decide
  have hafter : Fields.get? after.callbacks "u" = some event := rfl
  exact ⟨hlegible, hafter, nofun, callbacks_located ⟨table, .default⟩ document schema "body" exchange
    hlegible "u" event hafter nofun⟩

/-- A closing bracket in a key: what is read back is no place of the document. -/
theorem callbacks_misplaced :
    let schema := Json.object [("additionalProperties", .object [("type", .string "string")]),
      ("type", .string "object")]
    let document := Json.object [("a]b", .string "u")]
    let event := Json.object [("type", .string "object")]
    let exchange : Exchange := ⟨.request, [("\x7b$request.body#/a\x7d", event)], []⟩
    let after := ((Validator.mk .empty .default).validate document schema "body" exchange).2
    Fields.get? exchange.callbacks "u" = none ∧ Fields.get? after.callbacks "u" = some event ∧
      ∀ steps, (∀ step ∈ steps, step.isNote = false) → document.Leads steps (.string "u") →
        Fields.get? exchange.templates (Pointer.expression steps) = none := by
  intro schema document event exchange after
  refine ⟨rfl, rfl, fun steps hsteps hleads => ?_⟩
  have hnotes {step : Step} (hmem : step ∈ steps) (hnote : step.isNote = true) : False := by
    cases (hsteps step hmem).symm.trans hnote
  -- the one string of the document stands behind its one key
  have hplace : (Json.object [("a]b", .string "u")]).Leads steps (.string "u") := hleads
  cases hplace with
  | key hmember honward =>
    cases List.mem_singleton.mp hmember
    cases honward with
    | here => rfl
    | note hnote _ => exact (hnotes (List.mem_cons_of_mem _ List.mem_cons_self) hnote).elim
  | note hnote _ => exact (hnotes List.mem_cons_self hnote).elim

end ApiContract
