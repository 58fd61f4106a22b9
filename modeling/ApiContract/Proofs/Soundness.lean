import ApiContract.Proofs.Blame

/-!
# Sound schema documents

Where all references resolve, no component refers back to itself and nothing is
chosen by a discriminator, a lookup with as many hops as there are components
finds its end.  So a check against such documents ends in a verdict, or at its
depth limit.
-/

namespace ApiContract

/-- A schema and a table without faults of reference. -/
structure ComponentTable.Sound (table : ComponentTable) (schema : Json) : Prop where
  undiscriminated : ∀ node, table.Holds schema node → node.get? "discriminator" = none
  resolves : ∀ node reference, table.Holds schema node → node.reference? = some reference →
    (table.get? reference).isSome
  acyclic : table.Acyclic

theorem Resolver.not_blames {resolver : Resolver} {schema : Json}
    (sound : resolver.table.Sound schema) (hops : resolver.table.length ≤ resolver.maxHops)
    (e : Fault) : ¬resolver.Blames schema e := by
  rintro ⟨node, hnode, hstops⟩
  cases hstops with
  | dangling walk _ refers missing =>
    have hsome := sound.resolves _ _ (hnode.walk walk) refers
    rw [missing] at hsome
    cases hsome
  | exhausted walk spent refers =>
    -- the reference at fault would take the walk one component past all those of the table
    have hsome := sound.resolves _ _ (hnode.walk walk) refers
    obtain ⟨next, hnext⟩ := Option.isSome_iff_exists.mp hsome
    have hlength := (walk.snoc refers hnext).length_le sound.acyclic
    rw [List.length_append, List.length_singleton] at hlength
    omega

/-- Faults are at most those of the depth limit, in scopes that the documents hold. -/
def Reading.sound (table : ComponentTable) (schema : Json) (limit : Nat) : Reading where
  seen _ _ _ _ := True
  fault scope _ _ e := scope.HeldBy table schema → ∃ path, e = .tooDeep path limit
  entry _ _ _ _ := True

namespace Checker
variable {checker : Checker} {schema : Json} (sound : checker.table.Sound schema)
  (hops : checker.table.length ≤ checker.settings.maxReferenceHops)
include sound hops

theorem not_raises {scope : Scope} {value : Json} {e : Fault}
    (held : scope.HeldBy checker.table schema) : ¬checker.Raises scope value e := by
  have hchooses (discriminator : Json) (selector : String) :
      ¬checker.table.Chooses schema value discriminator selector := by
    rintro ⟨node, _, _, _, hnode, hmember, _⟩
    rw [sound.undiscriminated node hnode] at hmember
    cases hmember
  intro h
  obtain ⟨start, hstart, hstops⟩ := h.stopsIn held .here
  cases hstart with
  | node hnode => exact Resolver.not_blames sound hops e ⟨start, hnode, hstops⟩
  | selection selects =>
    cases selects with
    | mapped chooses _ => exact hchooses _ _ chooses
    | unmapped chooses _ => exact hchooses _ _ chooses

theorem carries_sound (limit : Nat) :
    checker.Carries (.sound checker.table schema limit) (.sound checker.table schema limit) where
  seen_here _ _ _ := trivial
  seen_below _ _ _ _ := trivial
  fault_here h _ held := absurd h (not_raises sound hops held)
  fault_below hd _ _ h held := h (hd.heldBy held)
  leaf _ _ _ _ _ := trivial
  entry_below _ _ _ _ _ := trivial
  group _ _ _ _ _ _ := trivial
  missing _ _ _ _ := trivial

theorem tooDeep_of_error {depth : Nat} {path : Path} {value : Json} {e : Fault}
    (h : (checker.checkWithin depth (.root schema) path value).outcome = .error e) :
    ∃ path, e = .tooDeep path checker.settings.maxDepth := by
  have hall := checker.checkWithin_describes
    (fun _ => .sound checker.table schema checker.settings.maxDepth)
    (fun _ path _ _ => ⟨path, rfl⟩) (fun _ => carries_sound sound hops _) depth
  exact (hall (.root schema) path value).ends.fault e h (.root (.root checker.table schema))

end Checker

/-- Sound schema documents cause no fault of reference: with as many hops as
there are components, every document gets a report or ends at the depth limit. -/
theorem report_or_tooDeep_of_sound (table : ComponentTable) (schema : Json)
    (sound : table.Sound schema) (settings : Settings)
    (hops : table.length ≤ settings.maxReferenceHops) (value : Json) (root : String)
    (exchange : Exchange) :
    (∃ report, ((Validator.mk table settings).validate value schema root exchange).1 = .ok report) ∨
      ∃ path, ((Validator.mk table settings).validate value schema root exchange).1 =
        .error (.tooDeep path settings.maxDepth) := by
  cases hresult : ((Validator.mk table settings).validate value schema root exchange).1 with
  | ok report => exact .inl ⟨report, rfl⟩
  | error e =>
    have hrun := Validator.error_of_validate hresult
    obtain ⟨path, rfl⟩ := Checker.tooDeep_of_error sound hops hrun
    exact .inr ⟨path, rfl⟩

/-- Three components in a row, and the last of them refers to the first for a member. -/
theorem report_or_tooDeep_of_sound_recursive :
    let last := Json.object [("properties", .object [("next", .referring "A")]),
      ("type", .string "object")]
    let table : ComponentTable :=
      ⟨[("A", .referring "#/components/schemas/B"), ("B", .referring "C"), ("C", last)], by decide⟩
    let settings := Settings.default.withMaxReferenceHops 3
    let validate := (Validator.mk table settings).validate
      (.object [("next", .object [("next", .object [])])]) (.referring "A") "body"
      (Exchange.ofDirection .request)
    table.Sound (.referring "A") ∧ table.length ≤ settings.maxReferenceHops ∧
      ((∃ report, validate.1 = .ok report) ∨
        ∃ path, validate.1 = .error (.tooDeep path settings.maxDepth)) := by
  intro last table settings validate
  have hheld (node : Json) (h : table.Holds (.referring "A") node) :
      node.get? "discriminator" = none ∧
        ∀ reference, node.reference? = some reference → (table.get? reference).isSome := by
    simp only [ComponentTable.Holds, table, Json.referring, last, Json.within_object_iff,
      Json.within_string_iff, List.mem_cons, List.not_mem_nil, or_false, exists_eq_or_imp,
      exists_eq_left] at h
    rcases h with (rfl | rfl) | (rfl | rfl) | (rfl | rfl) | rfl | (rfl | rfl | rfl) | rfl <;>
      refine ⟨rfl, fun reference hreference => ?_⟩ <;> cases hreference <;> rfl
  have hrefers (name name' : String) (h : table.Refers name name') :
      (name = "A" ∧ name' = "B") ∨ (name = "B" ∧ name' = "C") := by
    obtain ⟨component, reference, hcomponent, hreference, rfl⟩ := h
    have hmem := Fields.mem_of_get? hcomponent
    simp only [table, List.mem_cons, Prod.mk.injEq, List.not_mem_nil, or_false] at hmem
    rcases hmem with ⟨rfl, rfl⟩ | ⟨rfl, rfl⟩ | ⟨rfl, rfl⟩ <;> cases hreference
    · exact .inl ⟨rfl, rfl⟩
    · exact .inr ⟨rfl, rfl⟩
  have hacyclic : table.Acyclic := by
    refine ComponentTable.acyclic_of_rank
      (fun name => if name = "A" then 2 else if name = "B" then 1 else 0) fun name name' h => ?_
    rcases hrefers name name' h with ⟨rfl, rfl⟩ | ⟨rfl, rfl⟩ <;> decide
  have hsound : table.Sound (.referring "A") :=
    ⟨fun node h => (hheld node h).1, fun node reference h => (hheld node h).2 reference, hacyclic⟩
  exact ⟨hsound, by decide, report_or_tooDeep_of_sound table _ hsound settings (by decide) _ _ _⟩

end ApiContract
