import ApiContract.Exchange
import ApiContract.Proofs.Holdings
import ApiContract.Proofs.Traversal

/-!
# Genuine faults

A run faults over nothing but what it was given.  A reference that cannot be
resolved stands in the schema documents or is selected by the document through
a discriminator; a chain that is too long begins at such a place and is followed
as far as the hop limit allows.
-/

namespace ApiContract

/-! ### Where chains begin -/

namespace ComponentTable

/-- A discriminator of the schema documents finds its property in some object of
the document, and the property's value has this text. -/
def Chooses (table : ComponentTable) (schema document discriminator : Json) (selector : String) :
    Prop :=
  ∃ (node : Json) (property : String) (object selected : Json), table.Holds schema node ∧
    node.get? "discriminator" = some discriminator ∧
    Checker.propertyName? discriminator = some property ∧ object.Within document ∧
    object.get? property = some selected ∧ selector = Checker.selectorOf selected

/-- A reference that a discriminator selects: that of its mapping, or the text itself. -/
inductive Selects (table : ComponentTable) (schema document : Json) : String → Prop where
  | mapped {discriminator : Json} {selector reference : String}
    (chooses : table.Chooses schema document discriminator selector)
    (entry : (discriminator.get? "mapping").bind (Json.get? selector) = some (.string reference)) :
    Selects table schema document reference
  | unmapped {discriminator : Json} {selector : String}
    (chooses : table.Chooses schema document discriminator selector)
    (entry : (discriminator.get? "mapping").bind (Json.get? selector) = none) :
    Selects table schema document selector

/-- A reference that stands in the schema documents or that a discriminator selects. -/
inductive Mentions (table : ComponentTable) (schema document : Json) : String → Prop where
  | node {node : Json} {reference : String} (held : table.Holds schema node)
    (refers : node.reference? = some reference) : Mentions table schema document reference
  | selection {reference : String} (selects : table.Selects schema document reference) :
    Mentions table schema document reference

/-- Where a chain begins: at a node of the schema documents, or with a selected
reference as its first link. -/
inductive Starts (table : ComponentTable) (schema document : Json) : Json → Prop where
  | node {node : Json} (held : table.Holds schema node) : Starts table schema document node
  | selection {reference : String} (selects : table.Selects schema document reference) :
    Starts table schema document (.referring reference)

/-- All references of a chain are mentioned, that of its last node too. -/
theorem Starts.mentions {table : ComponentTable} {schema document start last : Json}
    {references : List String} {reference : String} (h : table.Starts schema document start)
    (walk : table.Walk start references last) (refers : last.reference? = some reference) :
    table.Mentions schema document reference := by
  cases h with
  | node held => exact .node (held.walk walk) refers
  | selection selects =>
    cases walk with
    | here =>
      cases refers
      exact .selection selects
    | link _ found onward => exact .node ((Holds.of_get? found).walk onward) refers

end ComponentTable

/-! ### What single checks raise -/

/-- A fault that a chain leads to, wherever the schema documents or a selection begin it. -/
def Resolver.StopsIn (resolver : Resolver) (schema document : Json) (e : Fault) : Prop :=
  ∃ start, resolver.table.Starts schema document start ∧ resolver.Stops resolver.maxHops start e

theorem Resolver.Blames.stopsIn {resolver : Resolver} {schema : Json} {e : Fault}
    (h : resolver.Blames schema e) (document : Json) : resolver.StopsIn schema document e := by
  obtain ⟨node, hnode, hstops⟩ := h
  exact ⟨node, .node hnode, hstops⟩

namespace Checker
variable {checker : Checker} {schema document : Json} {scope scope' : Scope} {value value' : Json}
  {e : Fault}

theorem Descends.within {step : Step} (h : checker.Descends scope value step scope' value') :
    value'.Within value := by
  cases h with
  | property _ _ member => exact .field member .here
  | forbidden _ _ _ member => exact .field member .here
  | additional _ member => exact .field member .here
  | item _ here => exact .item (List.mem_of_getElem? here) .here
  | branch _ _ => exact .here
  | selection _ _ _ _ _ => exact .here

theorem stopsIn_of_selectedBranch {discriminator : Json} {selector : String}
    (held : checker.table.Holds schema discriminator)
    (chooses : checker.table.Chooses schema document discriminator selector)
    (failed : checker.selectedBranch discriminator selector = .error e) :
    checker.resolver.StopsIn schema document e := by
  have hselected {reference : String} (hselects : checker.table.Selects schema document reference)
      (hfailed : checker.resolver.resolveReference reference = .error e) :
      checker.resolver.StopsIn schema document e := by
    rw [Resolver.resolveReference_eq_resolve] at hfailed
    have hstops := (checker.resolver.resolveWithin_answers _ _).fault e hfailed
    exact ⟨_, .selection hselects, hstops⟩
  unfold selectedBranch at failed
  split at failed
  · next reference hentry => exact hselected (.mapped chooses hentry) failed
  · next inline hinline =>
    obtain ⟨mapping, hmapping, hentry⟩ := Option.bind_eq_some_iff.mp hinline
    have hpart := (Json.within_of_get? hentry).trans (Json.within_of_get? hmapping)
    have hblames := (Resolver.resolve_answers (held.part hpart)).fault e failed
    exact hblames.stopsIn document
  · next hentry => exact hselected (.unmapped chooses hentry) failed

theorem Raises.stopsIn (held : scope.HeldBy checker.table schema) (within : value.Within document)
    (h : checker.Raises scope value e) : checker.resolver.StopsIn schema document e := by
  have hlookup {scope : Scope} {keyword : String} (held : scope.HeldBy checker.table schema)
      (failed : checker.resolver.lookup scope keyword = .error e) :
      checker.resolver.StopsIn schema document e :=
    ((Resolver.lookup_answers held keyword).fault e failed).stopsIn document
  cases h with
  | keyword failed => exact hlookup held failed
  | property looked has failed =>
    have hschema := (held_of_lookup held looked).part (Json.within_of_get? has)
    exact hlookup (.root hschema) failed
  | forbidden looked failed => exact hlookup (.root (held_of_lookup held looked)) failed
  | branch looked here failed =>
    have hbranch := Json.Within.item (List.mem_of_getElem? here) .here
    exact hlookup (.nested ((held_of_lookup held looked).part hbranch) held) failed
  | selection looked named chosen failed =>
    obtain ⟨node, hnode, hmember⟩ :=
      (Resolver.lookup_answers held "discriminator").result _ looked _ rfl
    exact stopsIn_of_selectedBranch (held_of_lookup held looked)
      ⟨node, _, value, _, hnode, hmember, named, within, chosen, rfl⟩ failed

end Checker

/-! ### What whole runs end in -/

/-- A fault that the schema documents, the document and the limits account for.
A table that could not be built is not among them. -/
inductive Fault.Genuine (table : ComponentTable) (settings : Settings) (schema document : Json) :
    Fault → Prop where
  | unresolved {reference : String} (missing : table.get? reference = none)
    (mentioned : table.Mentions schema document reference) :
    Genuine table settings schema document (.unresolved reference)
  | chainTooLong {start last : Json} {references : List String} {reference : String}
    (starts : table.Starts schema document start) (walk : table.Walk start references last)
    (spent : references.length = settings.maxReferenceHops)
    (refers : last.reference? = some reference) :
    Genuine table settings schema document (.chainTooLong reference settings.maxReferenceHops)
  | tooDeep (path : Path) : Genuine table settings schema document (.tooDeep path settings.maxDepth)

theorem Fault.genuine_of_stopsIn {checker : Checker} {schema document : Json} {e : Fault}
    (h : checker.resolver.StopsIn schema document e) :
    e.Genuine checker.table checker.settings schema document := by
  obtain ⟨start, hstart, hstops⟩ := h
  cases hstops with
  | dangling walk _ refers missing => exact .unresolved missing (hstart.mentions walk refers)
  | exhausted walk spent refers => exact .chainTooLong hstart walk spent refers

/-- All faults are genuine, in scopes and at values that the documents hold. -/
def Reading.genuine (table : ComponentTable) (settings : Settings) (schema document : Json) :
    Reading where
  seen _ _ _ _ := True
  fault scope _ value e := scope.HeldBy table schema → value.Within document →
    e.Genuine table settings schema document
  entry _ _ _ _ := True

theorem Checker.carries_genuine (checker : Checker) (schema document : Json) :
    checker.Carries (.genuine checker.table checker.settings schema document)
      (.genuine checker.table checker.settings schema document) where
  seen_here _ _ _ := trivial
  seen_below _ _ _ _ := trivial
  fault_here h _ held within := Fault.genuine_of_stopsIn (h.stopsIn held within)
  fault_below hd _ _ h held within := h (hd.heldBy held) (hd.within.trans within)
  leaf _ _ _ _ _ := trivial
  entry_below _ _ _ _ _ := trivial
  group _ _ _ _ _ _ := trivial
  missing _ _ _ _ := trivial

/-- Every fault that ends a validation is genuine: a missing component that the
schema documents refer to or that a discriminator selects for the document, a
chain from such a place that has one link more than there are hops, or the depth
limit. -/
theorem faults_are_genuine (table : ComponentTable) (settings : Settings) (value schema : Json)
    (root : String) (exchange : Exchange) (e : Fault)
    (h : ((Validator.mk table settings).validate value schema root exchange).1 = .error e) :
    e.Genuine table settings schema value := by
  have hrun := Validator.error_of_validate h
  let checker : Checker := ⟨table, settings, exchange.direction⟩
  have hall := checker.checkWithin_describes (fun _ => .genuine table settings schema value)
    (fun _ path _ _ _ => .tooDeep path) (fun _ => checker.carries_genuine schema value)
    (settings.maxDepth + 1)
  have hfault := (hall (.root schema) (.ofRoot root) value).ends.fault e hrun
  exact hfault (.root (.root table schema)) .here

/-- The document selects a component that there is not, and one that refers on. -/
theorem faults_are_genuine_selected :
    let table : ComponentTable := ⟨[("Dog", .referring "Base")], by decide⟩
    let schema := Json.object [("discriminator", .object [("propertyName", .string "kind")]),
      ("oneOf", .array [])]
    let settings := Settings.default.withMaxReferenceHops 1
    let document (kind : String) := Json.object [("kind", .string kind)]
    let outcome (kind : String) := ((Validator.mk table settings).validate (document kind) schema
      "body" (.ofDirection .request)).1
    outcome "Cat" = .error (.unresolved "Cat") ∧
      (Fault.unresolved "Cat").Genuine table settings schema (document "Cat") ∧
      outcome "Dog" = .error (.chainTooLong "Base" 1) ∧
      (Fault.chainTooLong "Base" 1).Genuine table settings schema (document "Dog") := by
  intro table schema settings document outcome
  have hmissing : outcome "Cat" = .error (.unresolved "Cat") := rfl
  have hlong : outcome "Dog" = .error (.chainTooLong "Base" 1) := rfl
  exact ⟨hmissing, faults_are_genuine table settings _ schema _ _ _ hmissing,
    hlong, faults_are_genuine table settings _ schema _ _ _ hlong⟩

end ApiContract
