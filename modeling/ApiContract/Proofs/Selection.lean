import ApiContract.Proofs.Limits

/-!
# Selected branches

A discriminator goes to the end of the chain that its selector begins, and
checks the value against that node alone.  A branch that refers to the same
component is read keyword by keyword along the chain.  The two accept the same
values if the components on the way say nothing that the last one does not say;
what an alias says beside its reference is not seen by the discriminator.
-/

namespace ApiContract

/-- The reference that a selector stands for: that of the mapping, or the
selector itself if the mapping has no entry for it. -/
def selectedReference? (discriminator : Json) (selector : String) : Option String :=
  match (discriminator.get? "mapping").bind (Json.get? selector) with
  | some (.string reference) => some reference
  | some _ => none
  | none => some selector

/-- All that the components on the way from a reference to `last` say to a check, `last`
says too.  What a check does not read, a title or a description, may stand beside each
reference. -/
def ComponentTable.Repeats (table : ComponentTable) (reference : String) (last : Json) : Prop :=
  ∀ references node, table.Walk (.referring reference) references node →
    ∀ keyword ∈ constraintKeywords, ∀ value, node.get? keyword = some value →
      last.get? keyword = some value

namespace Resolver
variable {resolver : Resolver} {keyword : String} {hops : Nat} {node last : Json}

/-- A keyword read along a chain is read at its end, if no node on the way says otherwise. -/
theorem lookupWithin_of_resolveWithin (h : resolver.resolveWithin hops node = .ok last)
    (repeats : ∀ references other, resolver.table.Walk node references other →
      ∀ value, other.get? keyword = some value → last.get? keyword = some value) :
    resolver.lookupWithin keyword hops node = .ok (last.get? keyword) := by
  induction hops generalizing node with
  | zero =>
    cases hreference : node.reference? with
    | none =>
      rw [resolveWithin_of_none hreference] at h
      cases h
      exact lookupWithin_of_end hreference
    | some reference =>
      rw [resolveWithin_zero hreference] at h
      cases h
  | succ hops ih =>
    cases hreference : node.reference? with
    | none =>
      rw [resolveWithin_of_none hreference] at h
      cases h
      exact lookupWithin_of_end hreference
    | some reference =>
      cases hown : node.get? keyword with
      | some value =>
        -- found before the end of the chain, which repeats it
        rw [lookupWithin_of_get? hown, repeats [] node (.here node) value hown]
      | none =>
        rw [resolveWithin_succ hreference] at h
        obtain ⟨next, hnext, honward⟩ := exists_of_bind_eq_ok h
        have hfound := ComponentTable.get?_of_resolve hnext
        rw [lookupWithin_succ hown hreference, hnext]
        exact ih honward fun references other walk => repeats _ other (.link hreference hfound walk)

/-- The end of a chain gives the keywords that the reference gives. -/
theorem lookupNode_referring {reference : String}
    (h : resolver.resolveReference reference = .ok last)
    (repeats : resolver.table.Repeats reference last) (hk : keyword ∈ constraintKeywords) :
    resolver.lookupNode keyword last = resolver.lookupNode keyword (.referring reference) := by
  rw [resolveReference_eq_resolve] at h
  have hend : last.reference? = none := ((resolver.resolveWithin_answers _ _).result last h).1
  have hreferring : resolver.lookupNode keyword (.referring reference) = .ok (last.get? keyword) :=
    lookupWithin_of_resolveWithin h fun references other walk value hvalue =>
      repeats references other walk keyword hk value hvalue
  rw [hreferring]
  exact lookupWithin_of_end hend

end Resolver

namespace Checker
variable {checker : Checker}

theorem selectedBranch_of_reference {discriminator : Json} {selector reference : String}
    (h : selectedReference? discriminator selector = some reference) :
    checker.selectedBranch discriminator selector =
      checker.resolver.resolveReference reference := by
  unfold selectedReference? at h
  unfold selectedBranch
  cases hentry : (discriminator.get? "mapping").bind (Json.get? selector) with
  | none =>
    rw [hentry] at h
    cases h
    rfl
  | some entry =>
    rw [hentry] at h
    cases entry with
    | string text =>
      cases h
      rfl
    | _ => cases h

theorem tallySelected_verdict {check : Check} {discriminator : Json} {property selector : String}
    {scope : Scope} {path : Path} {value : Json} {tally : Tally}
    (chosen : value.get? property = some (.string selector))
    (h : (checker.tallySelected check discriminator property scope path value).outcome = .ok tally) :
    ∃ branch verdict, checker.selectedBranch discriminator selector = .ok branch ∧
      (check (.nested branch scope) (path.child (.selection property selector)) value).outcome =
        .ok verdict ∧
      (tally.verdict .oneOf path).accepted = verdict.accepted := by
  unfold tallySelected at h
  rw [chosen] at h
  obtain ⟨branch, hbranch, hrest⟩ := Run.exists_of_outcome_bind h
  obtain ⟨verdict, hverdict, htally⟩ := Run.exists_of_outcome_bind hrest
  refine ⟨branch, verdict, hbranch, hverdict, ?_⟩
  cases haccepted : verdict.accepted with
  | true =>
    rw [haccepted] at htally
    cases htally
    rfl
  | false =>
    rw [haccepted] at htally
    cases htally
    rfl

theorem checkCombinator_selected {check : Check} {discriminator : Json}
    {property selector : String} {branches : List Json} {scope : Scope} {path : Path} {value : Json}
    {verdict : Verdict}
    (found : checker.resolver.lookup scope "discriminator" = .ok (some discriminator))
    (named : propertyName? discriminator = some property)
    (chosen : value.get? property = some (.string selector))
    (h : (checker.checkCombinator check .oneOf (.array branches) scope path value).outcome =
      .ok verdict) :
    ∃ branch inner, checker.selectedBranch discriminator selector = .ok branch ∧
      (check (.nested branch scope) (path.child (.selection property selector)) value).outcome =
        .ok inner ∧ verdict.accepted = inner.accepted := by
  obtain ⟨discriminator', hdiscriminator, hrest⟩ := Run.exists_of_outcome_bind h
  cases found.symm.trans hdiscriminator
  obtain ⟨counted, hcounted, hverdict⟩ := Run.exists_of_outcome_bind hrest
  have hselected : (checker.tallySelected check discriminator property scope path value).outcome =
      .ok counted := by
    unfold tally at hcounted
    rw [Option.bind_some, named] at hcounted
    exact hcounted
  cases hverdict
  exact tallySelected_verdict chosen hselected

/-- More steps change no check that does not end at its last step. -/
theorem checkWithin_le (checker : Checker) {depth depth' : Nat} (h : depth ≤ depth') (scope : Scope)
    (path : Path) (value : Json) :
    Run.Agree Fault.IsTooDeep (checker.checkWithin depth scope path value)
      (checker.checkWithin depth' scope path value) := by
  have hall := (checker.mirrors_of_depth checker.settings.maxDepth
    checker.settings.maxDepth).checkWithin (depth' - depth)
    (fun _ path _ => .inr ⟨_, rfl, path, _, rfl⟩) depth (rfl : scope = scope) path value
  rw [Nat.sub_add_cancel h] at hall
  exact hall

/-- Two checks that both end in a verdict, with whatever steps left, end in the same one. -/
theorem verdict_eq_of_depths {depth depth' : Nat} {scope : Scope} {path : Path} {value : Json}
    {verdict verdict' : Verdict}
    (h : (checker.checkWithin depth scope path value).outcome = .ok verdict)
    (h' : (checker.checkWithin depth' scope path value).outcome = .ok verdict') :
    verdict = verdict' := by
  rcases Nat.le_total depth depth' with hle | hle
  · have heq := (checker.checkWithin_le hle scope path value).eq_of_not_excused fun e _ he => by
      cases h.symm.trans he
    rw [heq, h] at h'
    exact Except.ok.inj h'
  · have heq := (checker.checkWithin_le hle scope path value).eq_of_not_excused fun e _ he => by
      cases h'.symm.trans he
    rw [heq, h'] at h
    exact (Except.ok.inj h).symm

/-- Two checks of a value against a scope that both end in a verdict, wherever
they stand and with whatever steps left, both accept it or both reject it. -/
theorem accepted_eq {depth depth' : Nat} {scope : Scope} {path path' : Path} {value : Json}
    {verdict verdict' : Verdict}
    (h : (checker.checkWithin depth scope path value).outcome = .ok verdict)
    (h' : (checker.checkWithin depth' scope path' value).outcome = .ok verdict') :
    verdict.accepted = verdict'.accepted := by
  rcases checker.checkWithin_elsewhere depth scope path path' value with ⟨_, hmoved⟩ | ⟨_, _, hfalse⟩
  · rw [h] at hmoved
    cases hthere : (checker.checkWithin depth scope path' value).outcome with
    | error e =>
      rw [hthere] at hmoved
      cases hmoved
    | ok there =>
      rw [hthere] at hmoved
      cases hmoved with
      | ok results => rw [results.accepted, verdict_eq_of_depths hthere h']
  · exact hfalse.elim

end Checker

/-- Whether a discriminator accepts a value is whether the branch with the
selected reference accepts it, if both come to a verdict and the components on
the way to the end of the chain say nothing to a check that the end does not say. -/
theorem selection_agrees_with_branch (checker : Checker) (scope : Scope)
    (discriminator : Json) (property : String) (value : Json) (selector reference : String)
    (branches : List Json)
    (found : checker.resolver.lookup scope "discriminator" = .ok (some discriminator))
    (named : Checker.propertyName? discriminator = some property)
    (chosen : value.get? property = some (.string selector))
    (stands : selectedReference? discriminator selector = some reference)
    (repeats : ∀ last, checker.resolver.resolveReference reference = .ok last →
      checker.table.Repeats reference last)
    (depth depth' : Nat) (path path' : Path) (verdict verdict' : Verdict)
    (selected : (checker.checkCombinator (checker.checkWithin depth) .oneOf (.array branches) scope
      path value).outcome = .ok verdict)
    (branch : (checker.checkWithin depth' (.nested (.referring reference) scope) path'
      value).outcome = .ok verdict') :
    verdict.accepted = verdict'.accepted := by
  obtain ⟨last, inner, hlast, hinner, haccepted⟩ :=
    Checker.checkCombinator_selected found named chosen selected
  rw [Checker.selectedBranch_of_reference stands] at hlast
  have hsame (keyword : String) (hk : keyword ∈ constraintKeywords) : Agree (fun _ => False)
      (checker.resolver.lookupNode keyword last)
      (checker.resolver.lookupNode keyword (.referring reference)) :=
    .inl (Resolver.lookupNode_referring hlast (repeats last hlast) hk)
  -- the discriminator checks against the end of the chain, the branch against its beginning
  have hreplaced := (Checker.checkWithin_replaced hsame depth (.here (scope.node :: scope.parents))
    (path.child (.selection property selector)) value).eq_of_not_excused fun _ h => h.elim
  have hbranch : (checker.checkWithin depth (.nested (.referring reference) scope)
      (path.child (.selection property selector)) value).outcome = .ok inner :=
    (congrArg Run.outcome hreplaced).trans hinner
  rw [haccepted, Checker.accepted_eq hbranch branch]

/-- An alias that has nothing but a description of its own, selected through a mapping. -/
theorem selection_agrees_with_branch_alias :
    let base := Json.object [("required", .array [.string "x"]), ("type", .string "object")]
    let pet := Json.object [("$ref", .string "Base"), ("description", .string "a pet")]
    let table : ComponentTable := ⟨[("Alias", pet), ("Base", base)], by decide⟩
    let checker := Checker.mk table .default .request
    let discriminator := Json.object [("mapping", .object [("a", .string "Alias")]),
      ("propertyName", .string "kind")]
    let scope := Scope.root (.object [("discriminator", discriminator), ("oneOf", .array [])])
    let value := Json.object [("kind", .string "a")]
    let path := Path.ofRoot "body"
    ∃ verdict verdict',
      (checker.checkCombinator (checker.checkWithin 8) .oneOf (.array []) scope path value).outcome =
        .ok verdict ∧
      (checker.checkWithin 8 (.nested (.referring "Alias") scope) (path.child (.branch 0))
        value).outcome = .ok verdict' ∧
      verdict.accepted = false ∧ verdict.accepted = verdict'.accepted := by
  intro base pet table checker discriminator scope value path
  have hselected : (checker.checkCombinator (checker.checkWithin 8) .oneOf (.array []) scope path
      value).outcome = .ok ⟨false, [.leaf ⟨path, .noOneOfMatch⟩, .group "discriminator[a]"
        [.leaf ⟨path.child (.selection "kind" "a"), .missingRequiredProperty "x"⟩]]⟩ := rfl
  have hbranch : (checker.checkWithin 8 (.nested (.referring "Alias") scope)
      (path.child (.branch 0)) value).outcome =
        .ok ⟨false, [.leaf ⟨path.child (.branch 0), .missingRequiredProperty "x"⟩]⟩ := rfl
  refine ⟨_, _, hselected, hbranch, rfl, ?_⟩
  refine selection_agrees_with_branch checker scope discriminator "kind" value "a" "Alias" []
    rfl rfl rfl rfl ?_ 8 8 path _ _ _ hselected hbranch
  -- the walk stops at the reference, at the alias or at the component that the alias refers to
  rintro last ⟨⟩ references node walk keyword hk held hheld
  have href : "$ref" ≠ keyword := (ne_of_mem_constraintKeywords hk (by decide)).symm
  have hdescription : "description" ≠ keyword := (ne_of_mem_constraintKeywords hk (by decide)).symm
  have hreferring : (Json.referring "Alias").get? keyword = none := if_neg href
  have hpet : pet.get? keyword = none := (if_neg href).trans (if_neg hdescription)
  rcases walk with _ | ⟨⟨⟩, ⟨⟩, walk⟩
  · cases hreferring.symm.trans hheld
  rcases walk with _ | ⟨⟨⟩, ⟨⟩, walk⟩
  · cases hpet.symm.trans hheld
  rcases walk with _ | ⟨⟨⟩, _, _⟩
  exact hheld

/-- A selector that names an alias with a keyword beside its reference: the
discriminator accepts what the branch with that reference rejects. -/
theorem selection_skips_alias :
    let pet := Json.object [("$ref", .string "Base"), ("required", .array [.string "x"])]
    let table : ComponentTable :=
      ⟨[("Alias", pet), ("Base", .object [("type", .string "object")])], by decide⟩
    let checker := Checker.mk table .default .request
    let discriminator := Json.object [("propertyName", .string "kind")]
    let branches := [Json.referring "Alias"]
    let scope := Scope.root (.object [("discriminator", discriminator), ("oneOf", .array branches)])
    let value := Json.object [("kind", .string "Alias")]
    let path := Path.ofRoot "body"
    let inside := path.child (.selection "kind" "Alias")
    checker.resolver.lookup scope "discriminator" = .ok (some discriminator) ∧
      Checker.propertyName? discriminator = some "kind" ∧
      value.get? "kind" = some (.string "Alias") ∧
      selectedReference? discriminator "Alias" = some "Alias" ∧
      (checker.checkCombinator (checker.checkWithin 8) .oneOf (.array branches) scope path
        value).outcome = .ok .accept ∧
      (checker.checkWithin 8 (.nested (.referring "Alias") scope) inside value).outcome =
        .ok (.reject inside (.missingRequiredProperty "x")) :=
  ⟨rfl, rfl, rfl, rfl, rfl, rfl⟩

end ApiContract
