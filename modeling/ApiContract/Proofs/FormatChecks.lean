import ApiContract.Proofs.Correspondence
import ApiContract.Proofs.Holdings
import ApiContract.Proofs.Keywords

/-!
# Checks without formats

Where no schema is negated and no matches are counted, accepting more of the parts
is accepting more of the whole, so a check without formats accepts all that a
check with formats accepts.  A branch that it alone accepts it also describes.
That lookup does not fail: a branch comes to its type, or to branches of its own,
only after its chain was walked to the end for `enum`.
-/

namespace ApiContract

/-- No object of the schema documents has `oneOf` or `not`. -/
structure ComponentTable.Positive (table : ComponentTable) (schema : Json) : Prop where
  uncounted : ∀ node, table.Holds schema node → node.get? "oneOf" = none
  unnegated : ∀ node, table.Holds schema node → node.get? "not" = none

/-- The checker with format checks turned on or off. -/
def Checker.withFormats (checker : Checker) (enabled : Bool) : Checker :=
  { checker with settings := checker.settings.withFormatChecks enabled }

/-! ### Wider acceptance -/

/-- The second verdict accepts if the first one does. -/
def Verdict.Implies (first second : Verdict) : Prop :=
  first.accepted = true → second.accepted = true

/-- Verdicts on a scope of which the second accepts if the first one does; it accepts
more only where the scope has no `enum`. -/
structure Verdict.Widens (resolver : Resolver) (scope : Scope) (first second : Verdict) : Prop where
  implies : first.Implies second
  unlisted : first.accepted = second.accepted ∨ resolver.lookup scope "enum" = .ok none

/-- The second tally has no fewer matches and no more rejections. -/
structure Tally.Implies (first second : Tally) : Prop where
  matched : first.matched.length ≤ second.matched.length
  rejected : second.rejected.length ≤ first.rejected.length

/-- Two runs that meet the same strings, the second with a verdict that accepts if
that of the first one does.  The first one may end in any fault. -/
abbrev Run.Implies : Run Verdict → Run Verdict → Prop :=
  Run.Corresponds (fun _ => True) Eq Verdict.Implies

/-- Two runs that check a scope, the second with a wider verdict. -/
abbrev Run.Widens (resolver : Resolver) (scope : Scope) : Run Verdict → Run Verdict → Prop :=
  Run.Corresponds (fun _ => True) Eq (Verdict.Widens resolver scope)

namespace Verdict.Implies
variable {first second first' second' : Verdict}

theorem refl (verdict : Verdict) : verdict.Implies verdict := id

theorem and (hf : first.Implies first') (hs : second.Implies second') :
    (first.and second).Implies (first'.and second') := by
  intro haccepted
  obtain ⟨hfirst, hsecond⟩ := (Bool.and_eq_true _ _).mp haccepted
  exact (Bool.and_eq_true _ _).mpr ⟨hf hfirst, hs hsecond⟩

theorem compositional : Compositional Verdict.Implies := ⟨refl .accept, and⟩

end Verdict.Implies

theorem Verdict.Widens.refl {resolver : Resolver} {scope : Scope} (verdict : Verdict) :
    verdict.Widens resolver scope verdict := ⟨.refl verdict, .inl rfl⟩

/-- A branch that only the second verdict accepts can be described. -/
theorem Verdict.Widens.exists_string? {resolver : Resolver} {scope : Scope} {first second : Verdict}
    (h : first.Widens resolver scope second) (differ : first.accepted ≠ second.accepted)
    {keyword : String} (untyped : keyword ≠ "type") :
    ∃ found, resolver.string? scope keyword = .ok found := by
  have hunlisted := h.unlisted.resolve_left differ
  obtain ⟨found, hfound⟩ := Resolver.exists_lookup_of_missing (by decide) untyped hunlisted
  refine ⟨found.bind Json.string?, ?_⟩
  unfold Resolver.string?
  rw [hfound]
  rfl

theorem Tally.accepted_verdict (tally : Tally) (combinator : Combinator) (path : Path) :
    (tally.verdict combinator path).accepted = tally.accepts combinator := by
  unfold verdict
  split
  · next haccepts => exact haccepts.symm
  · next hrejects => exact (Bool.eq_false_iff.mpr hrejects).symm

namespace Tally.Implies
variable {first second : Tally} (h : first.Implies second)
include h

theorem accepting (description : String) :
    (first.accepting description).Implies (second.accepting description) :=
  ⟨Nat.succ_le_succ h.matched, h.rejected⟩

theorem rejecting (key : String) (entries entries' : List Entry) :
    (first.rejecting key entries).Implies (second.rejecting key entries') :=
  ⟨h.matched, Nat.succ_le_succ h.rejected⟩

theorem admitting (key : String) (entries : List Entry) (description : String) :
    (first.rejecting key entries).Implies (second.accepting description) :=
  ⟨Nat.le_succ_of_le h.matched, Nat.le_succ_of_le h.rejected⟩

theorem accepts {combinator : Combinator} (uncounted : combinator ≠ .oneOf)
    (haccepts : first.accepts combinator = true) : second.accepts combinator = true := by
  cases combinator with
  | oneOf => exact absurd rfl uncounted
  | anyOf =>
    have hfirst : 1 ≤ first.matched.length := of_decide_eq_true haccepts
    exact decide_eq_true (Nat.le_trans hfirst h.matched)
  | allOf =>
    have hfirst : first.rejected.length = 0 := List.isEmpty_iff_length_eq_zero.mp haccepts
    exact List.isEmpty_iff_length_eq_zero.mpr (Nat.le_zero.mp (hfirst ▸ h.rejected))

theorem verdict {combinator : Combinator} (uncounted : combinator ≠ .oneOf) (path : Path) :
    (first.verdict combinator path).Implies (second.verdict combinator path) := by
  intro haccepted
  rw [accepted_verdict] at haccepted ⊢
  exact h.accepts uncounted haccepted

end Tally.Implies

theorem Run.Implies.refl (run : Run Verdict) : Run.Implies run run :=
  Run.Corresponds.refl (fun _ => rfl) Verdict.Implies.refl run

theorem Run.Widens.implies {resolver : Resolver} {scope : Scope} {first second : Run Verdict}
    (h : Run.Widens resolver scope first second) : Run.Implies first second :=
  h.imp fun _ _ hverdicts => hverdicts.implies

/-! ### Checks with and without formats -/

namespace Checker
variable {checker : Checker} {schema : Json} {check check' : Check} {scope : Scope} (path : Path)
  (value : Json)

theorem textVerdict_implies (text : String) :
    Corresponds (fun _ => True) Eq Verdict.Implies
      ((checker.withFormats true).textVerdict scope path text)
      ((checker.withFormats false).textVerdict scope path text) := by
  refine .lookup (Agree.same _) fun short => ?_
  refine .lookup (Agree.same _) fun long => ?_
  refine .lookup (Agree.same _) fun pattern => ?_
  have hchecked : (checker.withFormats true).format? scope =
      checker.resolver.string? scope "format" := rfl
  have hunchecked : (checker.withFormats false).format? scope = .ok none := rfl
  rw [hchecked, hunchecked]
  cases checker.resolver.string? scope "format" with
  | error e => exact .excused trivial _
  | ok format =>
    refine .ok (Verdict.Implies.compositional.all ?_)
    exact .cons (.refl short) (.cons (.refl long) (.cons (.refl _) (.cons (fun _ => rfl) .nil)))

theorem checkString_implies :
    Run.Implies ((checker.withFormats true).checkString scope path value)
      ((checker.withFormats false).checkString scope path value) := by
  cases value with
  | string text =>
    refine (Run.Corresponds.refl (fun _ => rfl) (fun _ => rfl) (Run.meet path text)).bind
      fun _ _ _ => ?_
    exact .ofExcept (textVerdict_implies path text)
  | _ => exact .refl _

section Parts
variable (below : ∀ {scope}, scope.HeldBy checker.table schema → ∀ path value,
    Run.Widens checker.resolver scope (check scope path value) (check' scope path value))
  (held : scope.HeldBy checker.table schema)
include below held

theorem checkArray_implies :
    Run.Implies ((checker.withFormats true).checkArray check scope path value)
      ((checker.withFormats false).checkArray check' scope path value) := by
  cases value with
  | array items =>
    refine .lookup (Agree.same _) fun whole _ => ?_
    refine .lookup (Agree.same _) fun found hfound => ?_
    cases found with
    | none => exact .result (.refl whole)
    | some node =>
      have hnode := Scope.HeldBy.root (held_of_lookup held hfound)
      have heach := Run.Corresponds.each_pair Verdict.Implies.compositional
        (List.forall₂_same.mpr fun (item : Json × Nat) (_ : item ∈ items.zipIdx) =>
          (below hnode (path.child (.index item.2)) item.1).implies)
      exact heach.bind fun _ _ hitems => .result ((Verdict.Implies.refl whole).and hitems)
  | _ => exact .refl _

theorem checkDeclared_implies {declared : Option Json}
    (looked : checker.resolver.lookup scope "properties" = .ok declared) (field : String × Json) :
    Run.Implies (checkDeclared check (fieldsOf declared) path field)
      (checkDeclared check' (fieldsOf declared) path field) := by
  unfold checkDeclared
  cases hfound : Fields.get? (fieldsOf declared) field.1 with
  | none => exact .refl _
  | some node =>
    obtain ⟨found, rfl, hnode⟩ := exists_of_get?_fieldsOf hfound
    have hpart := (held_of_lookup held looked).part (Json.within_of_get? hnode)
    exact (below (.root hpart) _ field.2).implies

theorem checkAdditional_implies (fields declared : List (String × Json)) {additional : Option Json}
    (looked : checker.resolver.lookup scope "additionalProperties" = .ok additional) :
    Run.Implies (checkAdditional check fields declared path additional)
      (checkAdditional check' fields declared path additional) := by
  unfold checkAdditional
  split
  · exact .refl _
  · have hnode := Scope.HeldBy.root (held_of_lookup held looked)
    refine .each_pair Verdict.Implies.compositional (List.forall₂_same.mpr fun field _ => ?_)
    exact (below hnode _ field.2).implies
  · exact .refl _

theorem checkObject_implies (positive : checker.table.Positive schema) :
    Run.Implies ((checker.withFormats true).checkObject check scope path value)
      ((checker.withFormats false).checkObject check' scope path value) := by
  cases value with
  | object fields =>
    refine .lookup (Agree.same _) fun declared hdeclared => ?_
    refine .lookup (Agree.same _) fun required _ => ?_
    refine (Run.Implies.refl _).bind fun _ _ hneeded => ?_
    have hfields := Run.Corresponds.each_pair Verdict.Implies.compositional
      (List.forall₂_same.mpr fun field (_ : field ∈ fields) =>
        checkDeclared_implies path below held hdeclared field)
    refine hfields.bind fun _ _ hproperties => ?_
    refine .lookup (Agree.same _) fun excluded hexcluded => ?_
    obtain rfl := eq_none_of_lookup positive.unnegated held hexcluded
    refine (Run.Implies.refl (.result .accept)).bind fun _ _ hshapes => ?_
    refine .lookup (Agree.same _) fun counted _ => ?_
    refine .lookup (Agree.same _) fun additional hadditional => ?_
    refine (checkAdditional_implies path below held _ _ hadditional).bind fun _ _ hmore => ?_
    exact .result (Verdict.Implies.compositional.all (.cons hneeded (.cons hproperties
      (.cons hshapes (.cons (.refl counted) (.cons hmore .nil))))))
  | _ => exact .refl _

theorem checkType_implies (positive : checker.table.Positive schema) :
    Run.Implies ((checker.withFormats true).checkType check scope path value)
      ((checker.withFormats false).checkType check' scope path value) := by
  refine .lookup (Agree.same _) fun effective _ => ?_
  cases effective with
  | known kind =>
    cases kind with
    | object => exact checkObject_implies path value below held positive
    | array => exact checkArray_implies path value below held
    | string => exact checkString_implies path value
    | _ => exact Run.Implies.refl _
  | _ => exact Run.Implies.refl _

/-! ### Branches -/

omit below held in
theorem discriminator?_of_ne_oneOf {combinator : Combinator} (uncounted : combinator ≠ .oneOf) :
    checker.discriminator? combinator scope = .ok none := by
  cases combinator with
  | oneOf => exact absurd rfl uncounted
  | anyOf => rfl
  | allOf => rfl

theorem tallyBranches_implies {combinator : Combinator} {branches : List Json}
    (hbranches : ∀ branch ∈ branches, checker.table.Holds schema branch) (index : Nat) :
    Run.Corresponds (fun _ => True) Eq Tally.Implies
      ((checker.withFormats true).tallyBranches check combinator scope path value index branches)
      ((checker.withFormats false).tallyBranches check' combinator scope path value index
        branches) := by
  induction branches generalizing index with
  | nil => exact .result ⟨Nat.le_refl _, Nat.le_refl _⟩
  | cons branch rest ih =>
    have hinner := Scope.HeldBy.nested (hbranches branch List.mem_cons_self) held
    have hrest := ih (fun other hmem => hbranches other (List.mem_cons_of_mem _ hmem)) (index + 1)
    refine (below hinner _ value).bind fun verdict verdict' hverdict => ?_
    by_cases haccepted : verdict.accepted = true
    · rw [if_pos haccepted, if_pos (hverdict.implies haccepted)]
      refine .lookup (Agree.same _) fun description _ => ?_
      exact hrest.bind fun _ _ hothers => .result (hothers.accepting _)
    · rw [if_neg haccepted]
      by_cases haccepted' : verdict'.accepted = true
      · -- accepted without formats only: the one lookup that has no counterpart
        have hdiffer : verdict.accepted ≠ verdict'.accepted := fun hsame =>
          haccepted (hsame.trans haccepted')
        have huntyped : "description" ≠ "type" := by decide
        obtain ⟨description, hdescription⟩ := hverdict.exists_string? hdiffer huntyped
        rw [if_pos haccepted']
        show Run.Corresponds _ _ _ _ (Run.ofExcept (checker.resolver.string? _ _) >>= _)
        rw [hdescription]
        exact hrest.bind fun _ _ hothers => .result (hothers.admitting _ _ _)
      · rw [if_neg haccepted']
        exact hrest.bind fun _ _ hothers => .result (hothers.rejecting _ _ _)

theorem checkCombinator_implies (positive : checker.table.Positive schema) {combinator : Combinator}
    {branches : Json}
    (looked : checker.resolver.lookup scope combinator.keyword = .ok (some branches)) :
    Run.Implies ((checker.withFormats true).checkCombinator check combinator branches scope path value)
      ((checker.withFormats false).checkCombinator check' combinator branches scope path value) := by
  have huncounted : combinator ≠ .oneOf := by
    rintro rfl
    cases eq_none_of_lookup positive.uncounted held looked
  cases branches with
  | array branches =>
    have hbranches (branch : Json) (hmem : branch ∈ branches) : checker.table.Holds schema branch :=
      (held_of_lookup held looked).part (.item hmem .here)
    refine .lookup (Agree.same _) fun discriminator hfound => ?_
    obtain rfl : none = discriminator :=
      Except.ok.inj ((discriminator?_of_ne_oneOf huncounted).symm.trans hfound)
    exact (tallyBranches_implies path value below held hbranches 0).bind fun _ _ htally =>
      .result (htally.verdict huncounted path)
  | _ => exact .refl _

theorem checkNode_widens (positive : checker.table.Positive schema) :
    Run.Widens checker.resolver scope ((checker.withFormats true).checkNode check scope path value)
      ((checker.withFormats false).checkNode check' scope path value) := by
  refine .lookup (Agree.same _) fun allowed hallowed => ?_
  cases allowed with
  | some allowed => exact .result (.refl _)
  | none =>
    have hwidens (first second : Verdict) (h : first.Implies second) :
        first.Widens checker.resolver scope second := ⟨h, .inr hallowed⟩
    refine .lookup (Agree.same _) fun exempt _ => ?_
    by_cases hexempt : exempt = true
    · rw [if_pos hexempt, if_pos hexempt]
      exact .result (.refl .accept)
    · rw [if_neg hexempt, if_neg hexempt]
      refine .lookup (Agree.same _) fun declared hdeclared => ?_
      split
      · exact (checkType_implies path value below held positive).imp hwidens
      · have looked := lookup_of_declaredAmong hdeclared List.mem_cons_self
        exact (checkCombinator_implies path value below held positive looked).imp hwidens
      · exact .result (.refl _)

end Parts

/-- At every depth the check without formats is the wider one. -/
theorem checkWithin_widens (positive : checker.table.Positive schema) (depth : Nat)
    (held : scope.HeldBy checker.table schema) :
    Run.Widens checker.resolver scope ((checker.withFormats true).checkWithin depth scope path value)
      ((checker.withFormats false).checkWithin depth scope path value) := by
  -- along the depth, for every scope that the documents hold
  induction depth generalizing scope path value with
  | zero => exact Run.Corresponds.refl (fun _ => rfl) .refl _
  | succ depth ih =>
    exact checkNode_widens path value (fun held path value => ih path value held) held positive

end Checker

/-- Where no object of the schema documents has `oneOf` or `not`, a validation
without format checks accepts what one with them accepts, and wherever that one
gives a report it gives one too, and registers the same callbacks. -/
theorem unchecked_formats_accept_more (table : ComponentTable) (schema : Json)
    (positive : table.Positive schema) (settings : Settings) (value : Json) (root : String)
    (exchange : Exchange) :
    let validate (enabled : Bool) :=
      (Validator.mk table (settings.withFormatChecks enabled)).validate value schema root exchange
    ∀ report, (validate true).1 = .ok report →
      ∃ report', (validate false).1 = .ok report' ∧
        (report.valid = true → report'.valid = true) ∧ (validate false).2 = (validate true).2 := by
  intro validate report hreport
  let checker : Checker := ⟨table, settings, exchange.direction⟩
  have hheld : (Scope.root schema).HeldBy table schema := .root (.root table schema)
  have hwidens := checker.checkWithin_widens (.ofRoot root) value positive (settings.maxDepth + 1) hheld
  have hvalidate (enabled : Bool) : validate enabled =
      let run := (checker.withFormats enabled).checkWithin (settings.maxDepth + 1) (.root schema)
        (.ofRoot root) value
      (run.outcome.map Verdict.report, exchange.registerAll run.sightings) :=
    Validator.validate_eq ..
  obtain ⟨verdict, hverdict, rfl⟩ := Validator.exists_verdict_of_validate hreport
  obtain ⟨hmet, verdict', hverdict', haccepts⟩ := hwidens.exists_of_ok hverdict
  refine ⟨verdict'.report, ?_, haccepts.implies, ?_⟩
  · rw [hvalidate]
    dsimp only
    rw [hverdict']
    rfl
  · rw [hvalidate, hvalidate]
    dsimp only
    rw [hmet]

/-- A host name is no address; without formats the branch for addresses accepts it too,
and its description is looked up behind a reference. -/
theorem unchecked_formats_accept_more_host :
    let address := Json.object [("format", .string "ipv4"), ("type", .string "string")]
    let name := Json.object [("type", .string "string")]
    let table : ComponentTable := ⟨[("Address", address)], by decide⟩
    let host := Json.object [("anyOf", .array [.object [("$ref", .string "Address")], name])]
    let schema := Json.object [("properties", .object [("host", host)]), ("type", .string "object")]
    let exchange : Exchange := ⟨.request, [("\x7b$request.body#/host\x7d", name)], []⟩
    let value := Json.object [("host", .string "example")]
    let validate (enabled : Bool) := (Validator.mk table
      (Settings.default.withFormatChecks enabled)).validate value schema "body" exchange
    table.Positive schema ∧ (validate true).1 = .ok ⟨true, ⟨[]⟩⟩ ∧
      Fields.names (validate true).2.callbacks = ["example"] ∧
      ∃ report, (validate false).1 = .ok report ∧ report.valid = true ∧
        (validate false).2 = (validate true).2 := by
  intro address name table host schema exchange value validate
  have hpositive : table.Positive schema := by
    constructor
    all_goals
      intro node h
      simp only [ComponentTable.Holds, table, schema, host, name, address, Json.within_object_iff,
        Json.within_array_iff, Json.within_string_iff, List.mem_cons, List.not_mem_nil, or_false,
        exists_eq_or_imp, exists_eq_left] at h
      rcases h with (rfl | (rfl | rfl | rfl | (rfl | rfl) | rfl | rfl) | rfl) | rfl | rfl | rfl <;> rfl
  have hchecked : (validate true).1 = .ok ⟨true, ⟨[]⟩⟩ := rfl
  obtain ⟨report, hreport, hvalid, hexchange⟩ :=
    unchecked_formats_accept_more table schema hpositive .default value "body" exchange _ hchecked
  exact ⟨hpositive, hchecked, by decide +kernel, report, hreport, hvalid rfl, hexchange⟩

end ApiContract
