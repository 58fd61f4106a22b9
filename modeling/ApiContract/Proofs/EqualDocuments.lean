import ApiContract.Proofs.Holdings
import ApiContract.Proofs.Likeness
import ApiContract.Proofs.Outline

/-!
# Equal documents

Equal documents are checked alike, whatever form their numbers have: one check
makes the same lookups for both, decides the same, and comes to equal parts.
Only a discriminator reads the text of a number, to select a branch.
-/

namespace ApiContract

/-- No object of the schema documents has a discriminator. -/
def ComponentTable.Undiscriminated (table : ComponentTable) (schema : Json) : Prop :=
  ∀ node, table.Holds schema node → node.get? "discriminator" = none

/-! ### Verdicts on equal values -/

namespace Verdict.Alike
variable {path : Path}

theorem wrongType (wanted : String) (a b : Json) :
    (Verdict.wrongType path wanted a).Alike (.wrongType path wanted b) := reject rfl

theorem enumVerdict (allowed : Json) {a b : Json} (h : a.Alike b) :
    (Checker.enumVerdict allowed path a).Alike (Checker.enumVerdict allowed path b) := by
  refine rejectIf (congrArg (!·) ?_) rfl
  cases allowed with
  | array members => exact congrArg members.any (funext fun member => member.same_congr h)
  | _ => exact Json.same_congr _ h

theorem literalVerdict {fits fits' : Bool} (hfits : fits = fits') (kind : Kind) (a b : Json) :
    (Checker.literalVerdict fits kind path a).Alike (Checker.literalVerdict fits' kind path b) := by
  subst hfits
  cases fits with
  | true => exact refl .accept
  | false => exact wrongType _ a b

theorem duplicateVerdict {as bs : List Json} (h : List.Forall₂ Json.Alike as bs) :
    (ApiContract.duplicateVerdict path as).Alike (ApiContract.duplicateVerdict path bs) := by
  unfold ApiContract.duplicateVerdict
  rw [Json.canonical_congr h]
  exact refl _

section Bounds
variable {x y : Binary64} (h : x.units = y.units)
include h

theorem minimumVerdict (minimum? : Option Binary64) (exclusive : Bool) :
    (Checker.minimumVerdict x minimum? exclusive path).Alike
      (Checker.minimumVerdict y minimum? exclusive path) := by
  cases minimum? with
  | none => exact refl .accept
  | some minimum =>
    cases exclusive with
    | true => exact rejectIf (Binary64.le_congr_left h minimum) rfl
    | false => exact rejectIf (Binary64.lt_congr_left h minimum) rfl

theorem exclusiveMinimumVerdict (minimum? : Option Binary64) :
    (Checker.exclusiveMinimumVerdict x minimum? path).Alike
      (Checker.exclusiveMinimumVerdict y minimum? path) := by
  cases minimum? with
  | none => exact refl .accept
  | some minimum => exact rejectIf (Binary64.le_congr_left h minimum) rfl

theorem maximumVerdict (maximum? : Option Binary64) (exclusive : Bool) :
    (Checker.maximumVerdict x maximum? exclusive path).Alike
      (Checker.maximumVerdict y maximum? exclusive path) := by
  cases maximum? with
  | none => exact refl .accept
  | some maximum =>
    cases exclusive with
    | true => exact rejectIf (Binary64.le_congr_right h maximum) rfl
    | false => exact rejectIf (Binary64.lt_congr_right h maximum) rfl

theorem exclusiveMaximumVerdict (maximum? : Option Binary64) :
    (Checker.exclusiveMaximumVerdict x maximum? path).Alike
      (Checker.exclusiveMaximumVerdict y maximum? path) := by
  cases maximum? with
  | none => exact refl .accept
  | some maximum => exact rejectIf (Binary64.le_congr_right h maximum) rfl

theorem multipleVerdict (epsilon : Binary64) (divisor? : Option Binary64) :
    (Checker.multipleVerdict epsilon x divisor? path).Alike
      (Checker.multipleVerdict epsilon y divisor? path) := by
  cases divisor? with
  | none => exact refl .accept
  | some divisor =>
    refine rejectIf ?_ rfl
    rw [Binary64.isMultipleOf_congr h]

end Bounds
end Verdict.Alike

/-! ### Checks of equal values -/

namespace Checker
variable {checker : Checker} {schema : Json} {check : Check} {scope : Scope} (path : Path)
  {a b : Json}

theorem rangeVerdict_alike {x y : Binary64} (h : x.units = y.units) :
    Alike (checker.rangeVerdict scope path x) (checker.rangeVerdict scope path y) := by
  refine .lookup (Agree.same _) fun low => ?_
  refine .lookup (Agree.same _) fun high => ?_
  refine .lookup (Agree.same _) fun minimum => ?_
  refine .lookup (Agree.same _) fun maximum => ?_
  refine .lookup (Agree.same _) fun divisor => .ok (.all ?_)
  exact .cons (.minimumVerdict h _ _) (.cons (.exclusiveMinimumVerdict h _)
    (.cons (.maximumVerdict h _ _) (.cons (.exclusiveMaximumVerdict h _)
      (.cons (.multipleVerdict h _ _) .nil))))

theorem numberVerdict_alike (h : a.Alike b) :
    Alike (checker.numberVerdict scope path a) (checker.numberVerdict scope path b) := by
  have hvalue := h.binary64?
  unfold numberVerdict
  generalize a.binary64? = x?, b.binary64? = y? at hvalue ⊢
  cases hvalue with
  | none => exact .ok (.wrongType _ a b)
  | some hunits => exact rangeVerdict_alike path hunits

theorem integerVerdict_alike (h : a.Alike b) :
    Alike (checker.integerVerdict scope path a) (checker.integerVerdict scope path b) := by
  have hvalue := h.binary64?
  refine (numberVerdict_alike path h).bind fun verdict verdict' hverdict => ?_
  rw [hverdict.accepted]
  by_cases hrejected : (!verdict'.accepted) = true
  · rw [if_pos hrejected, if_pos hrejected]
    exact .ok (hverdict.and (.refl _))
  · rw [if_neg hrejected, if_neg hrejected]
    generalize a.binary64? = x?, b.binary64? = y? at hvalue ⊢
    cases hvalue with
    | none => exact .ok (hverdict.and (.refl _))
    | some hunits =>
      have hwhole := congrArg (!·) (Binary64.isWhole_congr hunits)
      exact .ok (hverdict.and (.rejectIf hwhole rfl))

theorem checkString_alike (h : a.Alike b) :
    Run.Alike (checker.checkString scope path a) (checker.checkString scope path b) := by
  cases h.pair with
  | string text => exact .refl _
  | _ => exact .result (.wrongType _ _ _)

theorem itemsVerdict_alike {as bs : List Json} (h : List.Forall₂ Json.Alike as bs) :
    Alike (checker.itemsVerdict scope path as) (checker.itemsVerdict scope path bs) := by
  have hunique : Alike (checker.uniqueVerdict scope path as) (checker.uniqueVerdict scope path bs) := by
    refine .lookup (Agree.same _) fun flag => ?_
    cases flag with
    | true => exact .ok (.duplicateVerdict h)
    | false => exact .ok (.refl .accept)
  unfold itemsVerdict
  rw [h.length_eq]
  refine .lookup (Agree.same _) fun few => ?_
  refine .lookup (Agree.same _) fun many => ?_
  exact hunique.bind fun _ _ hall => .ok (.all (.cons (.refl few) (.cons (.refl many) (.cons hall .nil))))

/-! ### Parts of equal values -/

section Parts
variable (below : ∀ {scope}, scope.HeldBy checker.table schema → ∀ path {a b : Json}, a.Alike b →
    Run.Alike (check scope path a) (check scope path b))
  (held : scope.HeldBy checker.table schema)
include below held

theorem checkArray_alike (h : a.Alike b) :
    Run.Alike (checker.checkArray check scope path a) (checker.checkArray check scope path b) := by
  cases h.pair with
  | array items =>
    refine (Run.Corresponds.ofExcept (itemsVerdict_alike path items)).bind fun _ _ hwhole => ?_
    refine .lookup (Agree.same _) fun found hfound => ?_
    cases found with
    | none => exact .result hwhole
    | some node =>
      have hnode := Scope.HeldBy.root (held_of_lookup held hfound)
      refine (Run.Alike.each ?_).bind fun _ _ heach => .result (hwhole.and heach)
      refine (forall₂_zipIdx items 0).imp fun x y hxy => ?_
      dsimp only
      rw [hxy.2]
      exact below hnode _ hxy.1
  | _ => exact .result (.wrongType _ _ _)

section Members
variable {as bs : List (String × Json)}
  (members : List.Forall₂ (fun f g => f.1 = g.1 ∧ f.2.Alike g.2) as bs)
include members

theorem checkDeclared_alike {declared : Option Json}
    (looked : checker.resolver.lookup scope "properties" = .ok declared) :
    Run.Alike (Run.each (checkDeclared check (fieldsOf declared) path) as)
      (Run.each (checkDeclared check (fieldsOf declared) path) bs) := by
  refine .each (members.imp fun f g hfg => ?_)
  obtain ⟨hname, halike⟩ := hfg
  unfold checkDeclared
  rw [hname]
  cases hfound : Fields.get? (fieldsOf declared) g.1 with
  | none => exact .refl _
  | some node =>
    obtain ⟨found, rfl, hnode⟩ := exists_of_get?_fieldsOf hfound
    have hpart := (held_of_lookup held looked).part (Json.within_of_get? hnode)
    exact below (.root hpart) _ halike

theorem checkForbidden_alike {excluded : Json} {declared : Option Json}
    (looked : checker.resolver.lookup scope "not" = .ok (some excluded))
    (shapes : checker.resolver.lookup (.root excluded) "properties" = .ok declared)
    {forbidden : String × Json} (has : forbidden ∈ fieldsOf declared) :
    Run.Alike (checkForbidden check as path forbidden) (checkForbidden check bs path forbidden) := by
  have hvalue := Fields.get?_of_forall₂ members forbidden.1
  unfold checkForbidden
  generalize Fields.get? as forbidden.1 = a?, Fields.get? bs forbidden.1 = b? at hvalue ⊢
  cases hvalue with
  | none => exact .refl _
  | some halike =>
    cases declared with
    | none => exact absurd has List.not_mem_nil
    | some node =>
      have hnode := held_of_lookup (.root (held_of_lookup held looked)) shapes
      have hpart := hnode.part (within_of_mem_fieldsOf has)
      refine (below (.root hpart) _ halike).bind fun trial trial' htrial => ?_
      exact .result (.rejectIf htrial.accepted rfl)

theorem checkExcluded_alike {excluded : Option Json}
    (looked : checker.resolver.lookup scope "not" = .ok excluded) :
    Run.Alike (checker.checkExcluded check as path excluded)
      (checker.checkExcluded check bs path excluded) := by
  cases excluded with
  | none => exact .refl _
  | some node =>
    have hcontains : Fields.contains as = Fields.contains bs :=
      funext (Fields.contains_of_forall₂ members)
    refine .lookup (Agree.same _) fun effective _ => ?_
    by_cases hskip : (!isEnforced effective) = true
    · rw [if_pos hskip, if_pos hskip]
      exact .result (.refl .accept)
    · rw [if_neg hskip, if_neg hskip]
      refine .lookup (Agree.same _) fun required _ => ?_
      refine .lookup (Agree.same _) fun properties hproperties => ?_
      have hshapes := Run.Alike.each (List.forall₂_same.mpr fun forbidden hforbidden =>
        checkForbidden_alike path below held members looked hproperties hforbidden)
      rw [hcontains]
      exact hshapes.bind fun _ _ hfound => .result ((Verdict.Alike.refl _).and hfound)

theorem checkAdditional_alike (declared : List (String × Json)) {additional : Option Json}
    (looked : checker.resolver.lookup scope "additionalProperties" = .ok additional) :
    Run.Alike (checkAdditional check as declared path additional)
      (checkAdditional check bs declared path additional) := by
  unfold checkAdditional
  split
  · refine .result (.all (List.forall₂_map_left_iff.mpr (List.forall₂_map_right_iff.mpr ?_)))
    refine members.imp fun f g hfg => ?_
    rw [hfg.1]
    exact .refl _
  · refine .each (members.imp fun f g hfg => ?_)
    rw [hfg.1]
    exact below (.root (held_of_lookup held looked)) _ hfg.2
  · exact .refl _

theorem checkObject_alike_of_members :
    Run.Alike (checker.checkObject check scope path (.object as))
      (checker.checkObject check scope path (.object bs)) := by
  have hrequired (declared : List (String × Json)) (name : String) :
      checker.requiredVerdict as declared path name = checker.requiredVerdict bs declared path name := by
    unfold requiredVerdict
    rw [Fields.contains_of_forall₂ members]
  refine .lookup (Agree.same _) fun declared hdeclared => ?_
  refine .lookup (Agree.same _) fun required _ => ?_
  simp only [hrequired, members.length_eq]
  refine (Run.Alike.refl _).bind fun _ _ hneeded => ?_
  refine (checkDeclared_alike path below held members hdeclared).bind fun _ _ hproperties => ?_
  refine .lookup (Agree.same _) fun excluded hexcluded => ?_
  refine (checkExcluded_alike path below held members hexcluded).bind fun _ _ hshapes => ?_
  refine .lookup (Agree.same _) fun counted _ => ?_
  refine .lookup (Agree.same _) fun additional hadditional => ?_
  refine (checkAdditional_alike path below held members _ hadditional).bind fun _ _ hmore => ?_
  exact .result (.all (.cons hneeded (.cons hproperties (.cons hshapes (.cons (.refl counted)
    (.cons hmore .nil))))))

end Members

theorem checkObject_alike (h : a.Alike b) :
    Run.Alike (checker.checkObject check scope path a) (checker.checkObject check scope path b) := by
  cases h.pair with
  | object members => exact checkObject_alike_of_members path below held members
  | _ => exact .result (.wrongType _ _ _)

/-! ### Branches and types -/

theorem tallyBranches_alike {combinator : Combinator} {branches : List Json}
    (hbranches : ∀ branch ∈ branches, checker.table.Holds schema branch) (h : a.Alike b)
    (index : Nat) :
    Run.Corresponds (fun _ => False) Eq Tally.Alike
      (checker.tallyBranches check combinator scope path a index branches)
      (checker.tallyBranches check combinator scope path b index branches) := by
  induction branches generalizing index with
  | nil => exact .result ⟨rfl, rfl⟩
  | cons branch rest ih =>
    have hinner := Scope.HeldBy.nested (hbranches branch List.mem_cons_self) held
    have hrest := ih (fun other hmem => hbranches other (List.mem_cons_of_mem _ hmem)) (index + 1)
    refine (below hinner _ h).bind fun verdict verdict' hverdict => ?_
    rw [hverdict.accepted]
    by_cases haccepted : verdict'.accepted = true
    · rw [if_pos haccepted, if_pos haccepted]
      refine .lookup (Agree.same _) fun description _ => ?_
      exact hrest.bind fun _ _ hothers => .result (hothers.accepting _)
    · rw [if_neg haccepted, if_neg haccepted]
      exact hrest.bind fun _ _ hothers => .result (hothers.rejecting _ hverdict.entries)

theorem checkCombinator_alike (plain : checker.table.Undiscriminated schema) {combinator : Combinator}
    {branches : Json}
    (looked : checker.resolver.lookup scope combinator.keyword = .ok (some branches))
    (h : a.Alike b) :
    Run.Alike (checker.checkCombinator check combinator branches scope path a)
      (checker.checkCombinator check combinator branches scope path b) := by
  cases branches with
  | array branches =>
    have hbranches (branch : Json) (hmem : branch ∈ branches) : checker.table.Holds schema branch :=
      (held_of_lookup held looked).part (.item hmem .here)
    refine .lookup (Agree.same _) fun discriminator hfound => ?_
    -- nothing selects a branch, so all of them are tried
    have hnone : discriminator = none := by
      cases combinator with
      | oneOf => exact eq_none_of_lookup plain held hfound
      | anyOf =>
        cases hfound
        rfl
      | allOf =>
        cases hfound
        rfl
    subst hnone
    exact (tallyBranches_alike path below held hbranches h 0).bind fun _ _ htally =>
      .result (htally.verdict combinator path)
  | _ => exact .refl _

theorem checkType_alike (h : a.Alike b) :
    Run.Alike (checker.checkType check scope path a) (checker.checkType check scope path b) := by
  refine .lookup (Agree.same _) fun effective _ => ?_
  cases effective with
  | known kind =>
    cases kind with
    | object => exact checkObject_alike path below held h
    | array => exact checkArray_alike path below held h
    | string => exact checkString_alike path h
    | number => exact .ofExcept (numberVerdict_alike path h)
    | integer => exact .ofExcept (integerVerdict_alike path h)
    | boolean => exact .result (.literalVerdict (congrArg Option.isSome h.bool?) _ a b)
    | null => exact .result (.literalVerdict h.isNull _ a b)
  | unsupported name => exact .result (.refl _)
  | undetermined => exact .result (.refl _)

theorem checkNode_alike (plain : checker.table.Undiscriminated schema) (h : a.Alike b) :
    Run.Alike (checker.checkNode check scope path a) (checker.checkNode check scope path b) := by
  have hexempts : checker.exempts scope a = checker.exempts scope b := by
    unfold exempts
    rw [h.isNull]
  refine .lookup (Agree.same _) fun allowed _ => ?_
  cases allowed with
  | some allowed => exact .result (.enumVerdict allowed h)
  | none =>
    dsimp only
    rw [hexempts]
    refine .lookup (Agree.same _) fun exempt _ => ?_
    by_cases hexempt : exempt = true
    · rw [if_pos hexempt, if_pos hexempt]
      exact .result (.refl .accept)
    · rw [if_neg hexempt, if_neg hexempt]
      refine .lookup (Agree.same _) fun declared hdeclared => ?_
      split
      · exact checkType_alike path below held h
      · have looked := lookup_of_declaredAmong hdeclared List.mem_cons_self
        exact checkCombinator_alike path below held plain looked h
      · exact .result (.refl _)

end Parts

theorem checkWithin_alike (plain : checker.table.Undiscriminated schema) (depth : Nat)
    (held : scope.HeldBy checker.table schema) (h : a.Alike b) :
    Run.Alike (checker.checkWithin depth scope path a) (checker.checkWithin depth scope path b) := by
  induction depth generalizing scope path a b with
  | zero => exact .refl _
  | succ depth ih => exact checkNode_alike path (fun held path _ _ h => ih path held h) held plain h

end Checker

/-- Where no object of the schema documents has a discriminator, equal documents
get the same fault or reports of the same outline, and the same callbacks. -/
theorem equal_documents_checked_alike (table : ComponentTable) (schema : Json)
    (undiscriminated : table.Undiscriminated schema) (settings : Settings) (root : String)
    (exchange : Exchange) {a b : Json} (ha : a.Ordered) (hb : b.Ordered) (same : a.same b = true) :
    let validator := Validator.mk table settings
    (validator.validate a schema root exchange).1.map Report.outline =
        (validator.validate b schema root exchange).1.map Report.outline ∧
      (validator.validate a schema root exchange).2 = (validator.validate b schema root exchange).2 := by
  intro validator
  have hplain : (validator.checker exchange.direction).table.Undiscriminated schema := undiscriminated
  have hheld : (Scope.root schema).HeldBy table schema := .root (.root table schema)
  exact Validator.outline_validate_eq
    (Checker.checkWithin_alike (.ofRoot root) hplain (settings.maxDepth + 1) hheld ⟨same, ha, hb⟩)

/-- One, minus zero and zero as doubles, and one and zero as integers. -/
theorem equal_documents_checked_alike_minus_zero :
    let word := Json.object [("type", .string "string")]
    let count := Json.object [("minimum", .ofInt 1), ("type", .string "integer")]
    let counts := Json.object [("items", count), ("type", .string "array"), ("uniqueItems", .bool true)]
    let schema := Json.object
      [("properties", .object [("id", word), ("n", counts)]), ("type", .string "object")]
    let doubles := Json.object [("id", .string "u"), ("n", .array
      [.number (.real .one), .number (.real .negativeZero), .number (.real .zero)])]
    let integers := Json.object [("id", .string "u"), ("n", .array [.ofInt 1, .ofInt 0, .ofInt 0])]
    let table : ComponentTable := ⟨[], by decide⟩
    let exchange : Exchange := ⟨.request, [("\x7b$request.body#/id\x7d", word)], []⟩
    let validate (value : Json) := (Validator.mk table .default).validate value schema "body" exchange
    let places (report : Report) := report.sink.leaves.map fun violation => violation.path.text
    table.Undiscriminated schema ∧ doubles.Ordered ∧ integers.Ordered ∧ doubles.same integers = true ∧
      (validate doubles).1.map Report.outline = (validate integers).1.map Report.outline ∧
      (validate doubles).2 = (validate integers).2 ∧
      (validate doubles).1.toOption.map places =
        some ["body[n]", "body[n][1]", "body[n][1]", "body[n][2]", "body[n][2]"] ∧
      Fields.names (validate doubles).2.callbacks = ["u"] := by
  intro word count counts schema doubles integers table exchange validate places
  have hplain : table.Undiscriminated schema := by
    intro node h
    simp only [ComponentTable.Holds, table, schema, counts, count, word, Json.ofInt,
      Json.within_object_iff, Json.within_string_iff, Json.within_number_iff, Json.within_bool_iff,
      List.mem_cons, List.not_mem_nil, or_false, false_and, exists_false, exists_eq_or_imp,
      exists_eq_left] at h
    rcases h with rfl | (rfl | (rfl | rfl) | (rfl | (rfl | rfl | rfl) | rfl | rfl)) | rfl <;> rfl
  have hdoubles : doubles.Ordered :=
    ⟨by decide, trivial, ⟨trivial, trivial, trivial, trivial⟩, trivial⟩
  have hintegers : integers.Ordered :=
    ⟨by decide, trivial, ⟨trivial, trivial, trivial, trivial⟩, trivial⟩
  have hsame : doubles.same integers = true := by decide +kernel
  obtain ⟨hreports, hexchanges⟩ := equal_documents_checked_alike table schema hplain .default "body"
    exchange hdoubles hintegers hsame
  exact ⟨hplain, hdoubles, hintegers, hsame, hreports, hexchanges, by decide +kernel, by decide +kernel⟩

end ApiContract
