import ApiContract.Proofs.Correspondence

/-!
# Checkers side by side

Two checkers whose lookups agree have checks that correspond, wherever they
stand: what one check one step deeper does at corresponding places carries over
to the check itself, and so to all depths.
-/

namespace ApiContract

variable {excused : Fault → Prop} {places : Path → Path → Prop}

namespace Checker.Mirrors
variable {left right : Checker} {related : Scope → Scope → Prop}
  (mirrors : left.Mirrors excused right related) {check check' : Check}
  (child : ∀ {p q}, places p q → ∀ step, places (p.child step) (q.child step))
  (below : ∀ {s t}, related s t → ∀ {p q}, places p q → ∀ value,
    Run.Moved excused places (check s p value) (check' t q value))
  {s t : Scope} (hst : related s t) {path path' : Path} (place : places path path') (value : Json)
include mirrors hst place

/-! ### Verdicts from lookups -/

theorem checkAtLeast (keyword : String) (hk : keyword ∈ constraintKeywords) (count : Nat) (cause : Nat → Cause) :
    Moved excused places (left.resolver.checkAtLeast s keyword count path cause)
      (right.resolver.checkAtLeast t keyword count path' cause) := by
  refine .lookup ((mirrors.lookup hst keyword hk).view _) fun limit => ?_
  cases limit with
  | none => exact .ok .accept
  | some limit => exact .ok (.rejectIf place _ _)

theorem checkAtMost (keyword : String) (hk : keyword ∈ constraintKeywords) (count : Nat) (cause : Nat → Cause) :
    Moved excused places (left.resolver.checkAtMost s keyword count path cause)
      (right.resolver.checkAtMost t keyword count path' cause) := by
  refine .lookup ((mirrors.lookup hst keyword hk).view _) fun limit => ?_
  cases limit with
  | none => exact .ok .accept
  | some limit => exact .ok (.rejectIf place _ _)

theorem textVerdict (text : String) :
    Moved excused places (left.textVerdict s path text) (right.textVerdict t path' text) := by
  have hformat : Agree excused (left.format? s) (right.format? t) := by
    unfold Checker.format?
    rw [mirrors.formats]
    split
    · exact (mirrors.lookup hst _ (by decide)).view _
    · exact Agree.same _
  refine (mirrors.checkAtLeast hst place _ (by decide) _ _).bind fun _ _ hshort => ?_
  refine (mirrors.checkAtMost hst place _ (by decide) _ _).bind fun _ _ hlong => ?_
  refine .lookup ((mirrors.lookup hst _ (by decide)).view _) fun pattern => ?_
  refine .lookup hformat fun format => .ok (.all ?_)
  refine .cons hshort (.cons hlong (.cons ?_ (.cons ?_ .nil)))
  · cases pattern with
    | none => exact .accept
    | some pattern => exact .patternVerdict place text pattern
  · cases format with
    | none => exact .accept
    | some format => exact .rejectIf place _ _

theorem checkString :
    Run.Moved excused places (left.checkString s path value) (right.checkString t path' value) := by
  cases value with
  | string text =>
    have hmeet : Run.Corresponds excused places Eq (Run.meet path text) (Run.meet path' text) :=
      .inl ⟨.cons ⟨place, rfl⟩ .nil, .ok rfl⟩
    exact hmeet.bind fun _ _ _ => .ofExcept (mirrors.textVerdict hst place text)
  | _ => exact .result (.reject place _)

theorem rangeVerdict (x : Binary64) :
    Moved excused places (left.rangeVerdict s path x) (right.rangeVerdict t path' x) := by
  refine .lookup (mirrors.lookup hst _ (by decide)) fun low => ?_
  refine .lookup (mirrors.lookup hst _ (by decide)) fun high => ?_
  refine .lookup ((mirrors.lookup hst _ (by decide)).view _) fun minimum => ?_
  refine .lookup ((mirrors.lookup hst _ (by decide)).view _) fun maximum => ?_
  refine .lookup ((mirrors.lookup hst _ (by decide)).view _) fun divisor => ?_
  rw [mirrors.epsilon]
  exact .ok (.all (.cons (.minimumVerdict place x _ _) (.cons (.exclusiveMinimumVerdict place x _)
    (.cons (.maximumVerdict place x _ _) (.cons (.exclusiveMaximumVerdict place x _)
      (.cons (.multipleVerdict place _ x _) .nil))))))

theorem numberVerdict :
    Moved excused places (left.numberVerdict s path value) (right.numberVerdict t path' value) := by
  unfold Checker.numberVerdict
  split
  · exact .ok (.reject place _)
  · exact mirrors.rangeVerdict hst place _

theorem integerVerdict :
    Moved excused places (left.integerVerdict s path value) (right.integerVerdict t path' value) := by
  refine (mirrors.numberVerdict hst place value).bind fun verdict verdict' hverdict => ?_
  rw [hverdict.accepted]
  split
  · exact .ok (hverdict.and (.reject place _))
  · split
    · exact .ok (hverdict.and (.rejectIf place _ _))
    · exact .ok (hverdict.and (.reject place _))

theorem itemsVerdict (items : List Json) :
    Moved excused places (left.itemsVerdict s path items) (right.itemsVerdict t path' items) := by
  have hunique : Moved excused places (left.uniqueVerdict s path items)
      (right.uniqueVerdict t path' items) := by
    refine .lookup ((mirrors.lookup hst _ (by decide)).view _) fun flag => ?_
    split
    · exact .ok (.duplicateVerdict place items)
    · exact .ok .accept
  refine (mirrors.checkAtLeast hst place _ (by decide) _ _).bind fun _ _ hfew => ?_
  refine (mirrors.checkAtMost hst place _ (by decide) _ _).bind fun _ _ hmany => ?_
  exact hunique.bind fun _ _ hall => .ok (.all (.cons hfew (.cons hmany (.cons hall .nil))))

theorem countVerdict (count : Nat) :
    Moved excused places (left.countVerdict s path count) (right.countVerdict t path' count) := by
  refine (mirrors.checkAtLeast hst place _ (by decide) _ _).bind fun _ _ hfew => ?_
  exact (mirrors.checkAtMost hst place _ (by decide) _ _).bind fun _ _ hmany => .ok (hfew.and hmany)

omit place in
theorem effectiveType :
    Agree excused (left.resolver.effectiveType s) (right.resolver.effectiveType t) := by
  refine (mirrors.lookup hst _ (by decide)).bind fun found _ => ?_
  cases found with
  | some word => exact Agree.same _
  | none =>
    rw [mirrors.parents hst]
    exact Agree.same _

omit place in
theorem declaredAmong (combinators : List Combinator) :
    Agree excused (left.declaredAmong s combinators) (right.declaredAmong t combinators) := by
  induction combinators with
  | nil => exact Agree.same _
  | cons combinator rest ih =>
    have hk : combinator.keyword ∈ constraintKeywords := by cases combinator <;> decide
    exact (mirrors.lookup hst _ hk).bind fun _ _ => ih.bind fun _ _ => Agree.same _

theorem requiredVerdict {declared : Option Json}
    (looked : left.resolver.lookup s "properties" = .ok declared) (fields : List (String × Json))
    (name : String) :
    Moved excused places (left.requiredVerdict fields (fieldsOf declared) path name)
      (right.requiredVerdict fields (fieldsOf declared) path' name) := by
  have hplace : Moved excused places (right.requiredVerdict fields (fieldsOf declared) path name)
      (right.requiredVerdict fields (fieldsOf declared) path' name) :=
    .lookup (Agree.same _) fun misplaced => .ok (.presenceVerdict place right _ misplaced name)
  exact .of_agree_left (mirrors.required hst looked fields path name) hplace

/-! ### Parts of values -/

section Parts
include child below

theorem part_moved {step : Step} {s' : Scope} {value' : Json}
    (h : left.Descends s value step s' value') (hn : step.isNote = false) :
    Run.Moved excused places (check s' (path.child step) value')
      (check' s' (path'.child step) value') :=
  below (mirrors.part hst h hn) (child place step) value'

theorem checkArray :
    Run.Moved excused places (left.checkArray check s path value)
      (right.checkArray check' t path' value) := by
  cases value with
  | array items =>
    refine (Run.Corresponds.ofExcept (mirrors.itemsVerdict hst place items)).bind
      fun whole whole' hwhole => ?_
    refine .lookup (mirrors.lookup hst _ (by decide)) fun found hfound => ?_
    cases found with
    | none => exact .result hwhole
    | some schema =>
      refine (Run.Corresponds.each fun member hm => ?_).bind fun _ _ heach =>
        .result (hwhole.and heach)
      have hitem : items[member.2]? = some member.1 := List.mem_zipIdx_iff_getElem?.mp hm
      exact mirrors.part_moved child below hst place _ (.item hfound hitem) rfl
  | _ => exact .result (.reject place _)

theorem checkDeclared {fields : List (String × Json)} {declared : Option Json}
    (looked : left.resolver.lookup s "properties" = .ok declared) {field : String × Json}
    (member : field ∈ fields) :
    Run.Moved excused places (Checker.checkDeclared check (fieldsOf declared) path field)
      (Checker.checkDeclared check' (fieldsOf declared) path' field) := by
  unfold Checker.checkDeclared
  split
  case h_2 => exact .result .accept
  case h_1 schema hschema =>
    obtain ⟨found, rfl, has⟩ := exists_of_get?_fieldsOf hschema
    exact mirrors.part_moved child below hst place (.object fields) (.property looked has member) rfl

theorem checkForbidden {fields : List (String × Json)} {excluded : Json} {declared : Option Json}
    (looked : left.resolver.lookup s "not" = .ok (some excluded))
    (shapes : left.resolver.lookup (.root excluded) "properties" = .ok declared)
    {forbidden : String × Json} (has : forbidden ∈ fieldsOf declared) :
    Run.Moved excused places (Checker.checkForbidden check fields path forbidden)
      (Checker.checkForbidden check' fields path' forbidden) := by
  unfold Checker.checkForbidden
  split
  case h_1 => exact .result .accept
  case h_2 value hvalue =>
    cases declared with
    | none => exact absurd has List.not_mem_nil
    | some found =>
      have hpart := mirrors.part_moved child below hst place (.object fields)
        (.forbidden looked shapes has (Fields.mem_of_get? hvalue)) rfl
      refine hpart.bind fun trial trial' htrial => .result ?_
      rw [htrial.accepted]
      exact .rejectIf place _ _

theorem checkExcluded {fields : List (String × Json)} {excluded : Option Json}
    (looked : left.resolver.lookup s "not" = .ok excluded) :
    Run.Moved excused places (left.checkExcluded check fields path excluded)
      (right.checkExcluded check' fields path' excluded) := by
  cases excluded with
  | none => exact .result .accept
  | some schema =>
    have hroot := mirrors.excluded hst looked
    refine .lookup (mirrors.effectiveType hroot) fun found _ => ?_
    split
    · exact .result .accept
    · refine .lookup (mirrors.lookup hroot _ (by decide)) fun required _ => ?_
      refine .lookup (mirrors.lookup hroot _ (by decide)) fun properties hproperties => ?_
      refine (Run.Corresponds.each fun forbidden hforbidden =>
        mirrors.checkForbidden child below hst place looked hproperties hforbidden).bind
          fun shapes shapes' hshapes => ?_
      have hpresent (name : String) := Verdict.Moved.rejectIf place
        (Fields.contains fields name) (.forbiddenProperty name)
      exact .result ((Verdict.Moved.all_map hpresent).and hshapes)

theorem checkAdditional {fields : List (String × Json)} (declared : List (String × Json))
    {additional : Option Json}
    (looked : left.resolver.lookup s "additionalProperties" = .ok additional) :
    Run.Moved excused places (Checker.checkAdditional check fields declared path additional)
      (Checker.checkAdditional check' fields declared path' additional) := by
  unfold Checker.checkAdditional
  split
  · exact .result (.all_map fun field => .rejectIf place _ _)
  · refine .each fun field hfield => ?_
    exact mirrors.part_moved child below hst place (.object fields) (.additional looked hfield) rfl
  · exact .result .accept

theorem checkObject :
    Run.Moved excused places (left.checkObject check s path value)
      (right.checkObject check' t path' value) := by
  cases value with
  | object fields =>
    refine .lookup (mirrors.lookup hst _ (by decide)) fun declared hdeclared => ?_
    refine .lookup (mirrors.lookup hst _ (by decide)) fun required _ => ?_
    refine (Run.Corresponds.each fun name _ => .ofExcept
      (mirrors.requiredVerdict hst place hdeclared fields name)).bind fun _ _ hneeded => ?_
    refine (Run.Corresponds.each fun field hfield =>
      mirrors.checkDeclared child below hst place hdeclared hfield).bind fun _ _ hproperties => ?_
    refine .lookup (mirrors.lookup hst _ (by decide)) fun excluded hexcluded => ?_
    refine (mirrors.checkExcluded child below hst place hexcluded).bind fun _ _ hshapes => ?_
    refine (Run.Corresponds.ofExcept (mirrors.countVerdict hst place _)).bind
      fun _ _ hcounted => ?_
    refine .lookup (mirrors.lookup hst _ (by decide)) fun additional hadditional => ?_
    refine (mirrors.checkAdditional child below hst place _ hadditional).bind fun _ _ hmore => ?_
    exact .result (.all (.cons hneeded (.cons hproperties (.cons hshapes (.cons hcounted
      (.cons hmore .nil))))))
  | _ => exact .result (.reject place _)

/-! ### Branches -/

theorem tallyBranches {combinator : Combinator} {branches : List Json}
    (looked : left.resolver.lookup s combinator.keyword = .ok (some (.array branches)))
    (rest : List Json) (index : Nat)
    (here : ∀ offset branch, rest[offset]? = some branch →
      branches[index + offset]? = some branch) :
    Run.Corresponds excused places (Tally.Moved places)
      (left.tallyBranches check combinator s path value index rest)
      (right.tallyBranches check' combinator t path' value index rest) := by
  induction rest generalizing index with
  | nil => exact .result ⟨rfl, .nil⟩
  | cons branch rest ih =>
    have hstep : left.Descends s value (.branch index) (.nested branch s) value :=
      .branch looked (here 0 branch rfl)
    have hinner : related (.nested branch s) (.nested branch t) := mirrors.branch hst hstep
    have hrest := ih (index + 1) fun offset found hfound => by
      rw [Nat.add_right_comm]
      exact here (offset + 1) found hfound
    refine (below hinner (child place (.branch index)) value).bind fun _ _ hverdict => ?_
    rw [hverdict.accepted]
    split
    · refine .lookup ((mirrors.description hst hstep).view _) fun description _ => ?_
      exact hrest.bind fun _ _ hothers => .result (hothers.accepting _)
    · exact hrest.bind fun _ _ hothers => .result (hothers.rejecting _ hverdict.entries)

theorem tallySelected {discriminator : Json} {property : String} {branches : List Json}
    (declared : left.resolver.lookup s Combinator.oneOf.keyword = .ok (some (.array branches)))
    (looked : left.resolver.lookup s "discriminator" = .ok (some discriminator))
    (named : propertyName? discriminator = some property) :
    Run.Corresponds excused places (Tally.Moved places)
      (left.tallySelected check discriminator property s path value)
      (right.tallySelected check' discriminator property t path' value) := by
  have hempty : Tally.empty.Moved places .empty := ⟨rfl, .nil⟩
  unfold Checker.tallySelected
  split
  case h_1 => exact .result (hempty.rejecting _ (.cons (.leaf place _) .nil))
  case h_2 selected hchosen =>
    refine .lookup (mirrors.selected _ _) fun branch htarget => ?_
    have hinner := mirrors.branch hst (.selection declared looked named hchosen htarget)
    refine (below hinner (child place _) value).bind fun verdict verdict' hverdict => ?_
    rw [hverdict.accepted]
    split
    · exact .result (hempty.accepting _)
    · exact .result (hempty.rejecting _ hverdict.entries)

theorem checkCombinator {combinator : Combinator} {branches : Json}
    (looked : left.resolver.lookup s combinator.keyword = .ok (some branches)) :
    Run.Moved excused places (left.checkCombinator check combinator branches s path value)
      (right.checkCombinator check' combinator branches t path' value) := by
  cases branches with
  | array branches =>
    have hall : ∀ offset branch, branches[offset]? = some branch →
        branches[0 + offset]? = some branch := fun offset branch h => by rw [Nat.zero_add]; exact h
    have hbranches := mirrors.tallyBranches child below hst place value looked branches 0 hall
    have hdiscriminator : Agree excused (left.discriminator? combinator s)
        (right.discriminator? combinator t) := by
      cases combinator with
      | oneOf => exact mirrors.lookup hst _ (by decide)
      | anyOf => exact Agree.same _
      | allOf => exact Agree.same _
    refine .lookup hdiscriminator fun discriminator hfound => ?_
    have htallies : Run.Corresponds excused places (Tally.Moved places)
        (left.tally check combinator discriminator branches s path value)
        (right.tally check' combinator discriminator branches t path' value) := by
      unfold Checker.tally
      split
      case h_1 discriminator property hnamed =>
        cases combinator with
        | oneOf => exact mirrors.tallySelected child below hst place value looked hfound hnamed
        | anyOf => cases hfound
        | allOf => cases hfound
      case h_2 => exact hbranches
    exact htallies.bind fun _ _ htally => .result (htally.verdict place combinator)
  | _ => exact .result (.reject place _)

/-! ### Dispatch -/

theorem checkKind (kind : Kind) :
    Run.Moved excused places (left.checkKind check kind s path value)
      (right.checkKind check' kind t path' value) := by
  cases kind with
  | object => exact mirrors.checkObject child below hst place value
  | array => exact mirrors.checkArray child below hst place value
  | string => exact mirrors.checkString hst place value
  | number => exact .ofExcept (mirrors.numberVerdict hst place value)
  | integer => exact .ofExcept (mirrors.integerVerdict hst place value)
  | boolean => exact .result (.literalVerdict place _ _ value)
  | null => exact .result (.literalVerdict place _ _ value)

theorem checkType :
    Run.Moved excused places (left.checkType check s path value)
      (right.checkType check' t path' value) := by
  refine .lookup (mirrors.effectiveType hst) fun effective _ => ?_
  cases effective with
  | known kind => exact mirrors.checkKind child below hst place value kind
  | unsupported name => exact .result (.reject place _)
  | undetermined => exact .result (.reject place _)

theorem checkNode :
    Run.Moved excused places (left.checkNode check s path value)
      (right.checkNode check' t path' value) := by
  refine .lookup (mirrors.lookup hst _ (by decide)) fun allowed _ => ?_
  cases allowed with
  | some allowed => exact .result (.enumVerdict place allowed value)
  | none =>
    have hexempts : Agree excused (left.exempts s value) (right.exempts t value) := by
      unfold Checker.exempts
      split
      · exact (mirrors.lookup hst _ (by decide)).view _
      · exact Agree.same _
    refine .lookup hexempts fun exempt _ => ?_
    split
    · exact .result .accept
    · refine .lookup (mirrors.declaredAmong hst _) fun declared hdeclared => ?_
      split
      · exact mirrors.checkType child below hst place value
      · exact mirrors.checkCombinator child below hst place value
          (lookup_of_declaredAmong hdeclared List.mem_cons_self)
      · exact .result (.reject place _)

end Parts

include child in
omit hst place in
/-- Correspondence at the last step carries up to all depths; the second check
may have more steps left than the first. -/
theorem checkWithin_moved (extra : Nat)
    (start : ∀ {s t}, related s t → ∀ {p q}, places p q → ∀ value,
      Run.Moved excused places (left.checkWithin 0 s p value) (right.checkWithin extra t q value))
    (depth : Nat) {s t : Scope} (hst : related s t) {path path' : Path} (place : places path path')
    (value : Json) :
    Run.Moved excused places (left.checkWithin depth s path value)
      (right.checkWithin (extra + depth) t path' value) := by
  induction depth generalizing s t path path' value with
  | zero => exact start hst place value
  | succ depth ih =>
    exact mirrors.checkNode child (fun hst _ _ place value => ih hst place value) hst place value

omit hst place in
/-- Agreement at the last step carries up to all depths; the second check may
have more steps left than the first. -/
theorem checkWithin (extra : Nat)
    (start : ∀ {s t}, related s t → ∀ path value,
      Run.Agree excused (left.checkWithin 0 s path value) (right.checkWithin extra t path value))
    (depth : Nat) {s t : Scope} (hst : related s t) (path : Path) (value : Json) :
    Run.Agree excused (left.checkWithin depth s path value)
      (right.checkWithin (extra + depth) t path value) := by
  -- equal places stay equal under a step, so nothing moves
  refine (mirrors.checkWithin_moved (fun hpq step => hpq ▸ rfl) extra ?_ depth hst rfl value).agree
  rintro s t hst p _ rfl value
  exact Run.Corresponds.of_agree (start hst p value)

end Checker.Mirrors

/-! ### Elsewhere -/

/-- The places that the same steps lead to from two others. -/
def Path.Beside (base base' path path' : Path) : Prop :=
  ∃ steps, path = ⟨base.root, base.steps ++ steps⟩ ∧ path' = ⟨base'.root, base'.steps ++ steps⟩

namespace Path.Beside
variable {base base' path path' : Path}

theorem start (base base' : Path) : Path.Beside base base' base base' :=
  ⟨[], by rw [List.append_nil], by rw [List.append_nil]⟩

theorem child (h : Path.Beside base base' path path') (step : Step) :
    Path.Beside base base' (path.child step) (path'.child step) := by
  obtain ⟨steps, rfl, rfl⟩ := h
  refine ⟨steps ++ [step], ?_, ?_⟩
  · simp [Path.child]
  · simp [Path.child]

end Path.Beside

/-- A check stands at one place as it does at another. -/
theorem Checker.checkWithin_elsewhere (checker : Checker) (depth : Nat) (scope : Scope)
    (base base' : Path) (value : Json) :
    Run.Moved (fun _ => False) (Path.Beside base base') (checker.checkWithin depth scope base value)
      (checker.checkWithin depth scope base' value) := by
  have mirrors : checker.Mirrors (fun _ => False) checker Eq :=
    mirrors_of_lookup (fun _ _ => Agree.same _) (fun _ _ => Agree.same _) rfl rfl rfl
  have hall := mirrors.checkWithin_moved (fun h step => h.child step) 0
    (fun _ _ _ place _ => .inl ⟨.nil, .error (.tooDeep place _)⟩) depth (rfl : scope = scope)
    (Path.Beside.start base base') value
  rw [Nat.zero_add] at hall
  exact hall

/-! ### Whole documents -/

/-- Checkers that stop at one depth check whole documents alike if their lookups agree. -/
theorem Checker.Mirrors.checkRoot {left right : Checker} (mirrors : left.Mirrors excused right Eq)
    (limit : left.settings.maxDepth = right.settings.maxDepth) (schema : Json) (root : String)
    (value : Json) :
    Run.Agree excused (left.checkRoot schema root value) (right.checkRoot schema root value) := by
  have hstart {s t : Scope} (hst : s = t) (path : Path) (value : Json) :
      Run.Agree excused (left.checkWithin 0 s path value) (right.checkWithin 0 t path value) := by
    unfold Checker.checkWithin
    rw [limit]
    exact Run.Agree.same _
  have hall := mirrors.checkWithin 0 hstart (left.settings.maxDepth + 1)
    (rfl : Scope.root schema = _) (.ofRoot root) value
  rw [Nat.zero_add] at hall
  unfold Checker.checkRoot Checker.checkInto
  rw [← limit]
  exact hall.bind fun _ _ => Run.Agree.same _

/-- Validations whose runs agree are the same, callbacks included, unless the
first ends in an excused fault. -/
theorem Validator.validate_eq_of_agree {left right : Validator} {value schema schema' : Json}
    {root : String} {exchange : Exchange}
    (h : Run.Agree excused ((left.checker exchange.direction).checkRoot schema root value)
      ((right.checker exchange.direction).checkRoot schema' root value))
    (hne : ∀ e, excused e → (left.validate value schema root exchange).1 ≠ .error e) :
    right.validate value schema' root exchange = left.validate value schema root exchange := by
  have hsame := h.eq_of_not_excused fun e he herr => by
    refine hne e he ?_
    show Except.map _ _ = _
    rw [herr]
    rfl
  unfold validate
  rw [hsame]

end ApiContract
