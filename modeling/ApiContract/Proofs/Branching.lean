import ApiContract.Proofs.Descent
import ApiContract.Proofs.Parts
import Mathlib.Data.List.Basic
import Mathlib.Data.List.FinRange

/-!
# Branches, one by one

What a combinator says of a value, put together from what its branches say.  The
branches are numbered; the value is checked against each of them on its own, and
the combinator counts the acceptances and lists descriptions or entries in the
order of the branches.
-/

namespace ApiContract

/-! ### Counting branches -/

section Counting
variable {n : Nat}

/-- Numbers of the branches that accept, in order. -/
def acceptedAt (verdicts : Fin n → Verdict) : List (Fin n) :=
  (List.finRange n).filter fun i => (verdicts i).accepted

/-- Numbers of the branches that reject, in order. -/
def rejectedAt (verdicts : Fin n → Verdict) : List (Fin n) :=
  (List.finRange n).filter fun i => !(verdicts i).accepted

theorem length_acceptedAt_add (verdicts : Fin n → Verdict) :
    (acceptedAt verdicts).length + (rejectedAt verdicts).length = n := by
  have hlength := (List.finRange n).length_eq_length_filter_add fun i => (verdicts i).accepted
  rw [List.length_finRange] at hlength
  exact hlength.symm

theorem filter_finRange_succ (p : Fin (n + 1) → Bool) :
    (List.finRange (n + 1)).filter p =
      (if p 0 then [0] else []) ++ ((List.finRange n).filter fun i => p i.succ).map Fin.succ := by
  rw [List.finRange_succ, List.filter_cons, List.filter_map]
  cases p 0 <;> rfl

theorem acceptedAt_cons (verdict : Verdict) (verdicts : Fin n → Verdict) :
    acceptedAt (Fin.cons verdict verdicts : Fin (n + 1) → Verdict) =
      (if verdict.accepted then [0] else []) ++ (acceptedAt verdicts).map Fin.succ :=
  filter_finRange_succ _

theorem rejectedAt_cons (verdict : Verdict) (verdicts : Fin n → Verdict) :
    rejectedAt (Fin.cons verdict verdicts : Fin (n + 1) → Verdict) =
      (if !verdict.accepted then [0] else []) ++ (rejectedAt verdicts).map Fin.succ :=
  filter_finRange_succ _

end Counting

/-- Whether a combinator accepts so many of its branches. -/
def Combinator.Meets (combinator : Combinator) (accepted total : Nat) : Prop :=
  match combinator with
  | oneOf => accepted = 1
  | anyOf => 1 ≤ accepted
  | allOf => accepted = total

/-- The cause that a combinator gives for too few acceptances. -/
def Combinator.shortfall (combinator : Combinator) (rejected : Nat) : Cause :=
  match combinator with
  | oneOf => .noOneOfMatch
  | anyOf => .noAnyOfMatch
  | allOf => .allOfMismatch rejected

/-- How the verdict of a combinator comes from the verdicts of its branches. -/
structure Combinator.Reports (combinator : Combinator) (path : Path) {n : Nat}
    (describe : Fin n → String) (verdicts : Fin n → Verdict) (outcome : Verdict) : Prop where
  accepted_iff : outcome.accepted = true ↔ combinator.Meets (acceptedAt verdicts).length n
  of_accepted : outcome.accepted = true → outcome.entries = []
  of_many : combinator = .oneOf → 2 ≤ (acceptedAt verdicts).length → outcome.entries =
    [.leaf ⟨path, .multipleOneOfMatches ((acceptedAt verdicts).map describe)⟩]
  of_few : outcome.accepted = false → ¬(combinator = .oneOf ∧ 2 ≤ (acceptedAt verdicts).length) →
    outcome.entries = .leaf ⟨path, combinator.shortfall (rejectedAt verdicts).length⟩ ::
      (rejectedAt verdicts).map fun i => .group (combinator.groupKey i) (verdicts i).entries

/-! ### Tallies of verdicts -/

namespace Tally
variable {n : Nat}

/-- The tally of numbered verdicts, with a description and a key for each number. -/
def ofVerdicts (describe key : Fin n → String) (verdicts : Fin n → Verdict) : Tally :=
  ⟨(acceptedAt verdicts).map describe, (rejectedAt verdicts).map fun i => (key i, (verdicts i).entries)⟩

theorem ofVerdicts_cons_accepted (describe key : Fin (n + 1) → String) {verdict : Verdict}
    (h : verdict.accepted = true) (verdicts : Fin n → Verdict) :
    ofVerdicts describe key (Fin.cons verdict verdicts : Fin (n + 1) → Verdict) =
      (ofVerdicts (fun i => describe i.succ) (fun i => key i.succ) verdicts).accepting
        (describe 0) := by
  unfold ofVerdicts accepting
  rw [acceptedAt_cons, rejectedAt_cons, h]
  simp [Function.comp_def]

theorem ofVerdicts_cons_rejected (describe key : Fin (n + 1) → String) {verdict : Verdict}
    (h : verdict.accepted = false) (verdicts : Fin n → Verdict) :
    ofVerdicts describe key (Fin.cons verdict verdicts : Fin (n + 1) → Verdict) =
      (ofVerdicts (fun i => describe i.succ) (fun i => key i.succ) verdicts).rejecting
        (key 0) verdict.entries := by
  unfold ofVerdicts rejecting
  rw [acceptedAt_cons, rejectedAt_cons, h]
  simp [Function.comp_def]

variable (describe key : Fin n → String) (verdicts : Fin n → Verdict) (combinator : Combinator)

theorem accepts_ofVerdicts :
    (ofVerdicts describe key verdicts).accepts combinator = true ↔
      combinator.Meets (acceptedAt verdicts).length n := by
  have htotal := length_acceptedAt_add verdicts
  cases combinator with
  | oneOf => simp [ofVerdicts, accepts, Combinator.Meets]
  | anyOf => simp [ofVerdicts, accepts, Combinator.Meets]
  | allOf =>
    simp only [ofVerdicts, accepts, Combinator.Meets, List.isEmpty_iff_length_eq_zero,
      List.length_map]
    omega

theorem cause_ofVerdicts (few : ¬(combinator = .oneOf ∧ 2 ≤ (acceptedAt verdicts).length)) :
    (ofVerdicts describe key verdicts).cause combinator =
      combinator.shortfall (rejectedAt verdicts).length := by
  cases combinator with
  | oneOf =>
    refine if_neg fun h => few ⟨rfl, ?_⟩
    rw [ofVerdicts, List.length_map] at h
    omega
  | anyOf => rfl
  | allOf => simp only [ofVerdicts, cause, Combinator.shortfall, List.length_map]

theorem reports_ofVerdicts (path : Path) :
    combinator.Reports path describe verdicts
      ((ofVerdicts describe (fun i => combinator.groupKey i) verdicts).verdict combinator path) := by
  have haccepts := accepts_ofVerdicts describe (fun i => combinator.groupKey i) verdicts combinator
  generalize htally : ofVerdicts describe (fun i => combinator.groupKey i) verdicts = tally
    at haccepts ⊢
  have hmatched : tally.matched.length = (acceptedAt verdicts).length := by
    rw [← htally, ofVerdicts, List.length_map]
  unfold verdict
  by_cases h : tally.accepts combinator = true
  · rw [if_pos h]
    have hmeets := haccepts.mp h
    refine ⟨iff_of_true rfl hmeets, fun _ => rfl, fun hone hmany => ?_, nofun⟩
    rw [hone] at hmeets
    have hexact : (acceptedAt verdicts).length = 1 := hmeets
    omega
  · rw [if_neg h]
    refine ⟨iff_of_false Bool.false_ne_true fun hmeets => h (haccepts.mpr hmeets), nofun,
      fun hone hmany => ?_, fun _ few => ?_⟩
    · have hlt : 1 < tally.matched.length := by omega
      unfold groups
      rw [hone, if_pos ⟨rfl, hlt⟩, cause, if_pos hlt, ← htally]
      rfl
    · have hnone : ¬(combinator = .oneOf ∧ 1 < tally.matched.length) := by
        rw [hmatched]
        exact few
      unfold groups
      rw [if_neg hnone, ← htally, cause_ofVerdicts _ _ _ _ few, ofVerdicts, List.map_map]
      rfl

end Tally

/-! ### Checking branches -/

/-- Whether a scope declares one combinator, with these branches, and no other. -/
def Checker.Declares (checker : Checker) (scope : Scope) (combinator : Combinator)
    (branches : List Json) : Prop :=
  checker.resolver.lookup scope combinator.keyword = .ok (some (.array branches)) ∧
    ∀ other, other ≠ combinator → checker.resolver.lookup scope other.keyword = .ok none

/-- The description of a branch, or else its number. -/
def Checker.describe (checker : Checker) (branch : Json) (index : Nat) : String :=
  match checker.resolver.string? (.root branch) "description" with
  | .ok (some text) => text
  | _ => toString index

theorem Resolver.string?_nested (resolver : Resolver) (branch : Json) (scope : Scope)
    {keyword : String} (hk : keyword ≠ "type") :
    resolver.string? (.nested branch scope) keyword = resolver.string? (.root branch) keyword := by
  have hlookup : resolver.lookup (.nested branch scope) keyword =
      resolver.lookup (.root branch) keyword := by
    unfold lookup
    simp only [if_neg hk]
    rfl
  unfold string?
  rw [hlookup]

namespace Checker
variable {checker : Checker} {check : Check} {combinator : Combinator} {branches : List Json}
  {scope : Scope} {path : Path} {value : Json}

theorem describe_eq {branch : Json} {index : Nat} {description : Option String}
    (h : checker.resolver.string? (.nested branch scope) "description" = .ok description) :
    checker.describe branch index = description.getD (toString index) := by
  rw [Resolver.string?_nested _ _ _ (by decide)] at h
  unfold describe
  rw [h]
  cases description <;> rfl

/-- The branches from position `index` on, each with the verdict of its own check. -/
theorem exists_verdicts_of_tallyBranches {index : Nat} {tally : Tally}
    (h : (checker.tallyBranches check combinator scope path value index branches).outcome =
      .ok tally) :
    ∃ verdicts : Fin branches.length → Verdict,
      (∀ i : Fin branches.length,
        (check (.nested branches[i] scope) (path.child (.branch (index + i))) value).outcome =
          .ok (verdicts i)) ∧
      tally = .ofVerdicts (fun i => checker.describe branches[i] (index + i))
        (fun i => combinator.groupKey (index + i)) verdicts := by
  induction branches generalizing index tally with
  | nil =>
    cases h
    exact ⟨fun i => i.elim0, fun i => i.elim0, rfl⟩
  | cons branch rest ih =>
    obtain ⟨verdict, hverdict, hrest⟩ := Run.exists_of_outcome_bind h
    -- the rest is numbered from the next position on
    have hshift (i : Nat) : index + 1 + i = index + (i + 1) := by omega
    let describe (i : Fin (rest.length + 1)) := checker.describe (branch :: rest)[i] (index + i)
    let key (i : Fin (rest.length + 1)) := combinator.groupKey (index + i)
    cases haccepted : verdict.accepted with
    | true =>
      rw [haccepted, if_pos rfl] at hrest
      obtain ⟨description, hdescription, hmore⟩ := Run.exists_of_outcome_bind hrest
      obtain ⟨others, hothers, hdone⟩ := Run.exists_of_outcome_bind hmore
      cases hdone
      obtain ⟨verdicts, hchecks, htally⟩ := ih hothers
      simp only [hshift] at hchecks htally
      refine ⟨Fin.cons verdict verdicts, Fin.cases hverdict hchecks, ?_⟩
      have hdescribe : checker.describe branch index = description.getD (toString index) :=
        describe_eq hdescription
      rw [htally, ← hdescribe]
      exact (Tally.ofVerdicts_cons_accepted describe key haccepted verdicts).symm
    | false =>
      rw [haccepted, if_neg nofun] at hrest
      obtain ⟨others, hothers, hdone⟩ := Run.exists_of_outcome_bind hrest
      cases hdone
      obtain ⟨verdicts, hchecks, htally⟩ := ih hothers
      simp only [hshift] at hchecks htally
      refine ⟨Fin.cons verdict verdicts, Fin.cases hverdict hchecks, ?_⟩
      rw [htally, branchKey_eq_groupKey]
      exact (Tally.ofVerdicts_cons_rejected describe key haccepted verdicts).symm

theorem declaredAmong_of_declares (h : checker.Declares scope combinator branches) :
    checker.declaredAmong scope Combinator.all = .ok [(combinator, .array branches)] := by
  obtain ⟨hown, hothers⟩ := h
  cases combinator with
  | oneOf =>
    simp only [Combinator.all, declaredAmong, hown, hothers .anyOf nofun, hothers .allOf nofun]
    rfl
  | anyOf =>
    simp only [Combinator.all, declaredAmong, hown, hothers .oneOf nofun, hothers .allOf nofun]
    rfl
  | allOf =>
    simp only [Combinator.all, declaredAmong, hown, hothers .oneOf nofun, hothers .anyOf nofun]
    rfl

/-- A scope without `enum` that declares one combinator is checked by it alone. -/
theorem checkNode_of_declares (unlisted : checker.resolver.lookup scope "enum" = .ok none)
    (unexempt : checker.exempts scope value = .ok false)
    (declares : checker.Declares scope combinator branches) :
    (checker.checkNode check scope path value).outcome =
      (checker.checkCombinator check combinator (.array branches) scope path value).outcome := by
  unfold checkNode
  rw [unlisted, unexempt, declaredAmong_of_declares declares]
  rfl

theorem exists_tally_of_checkCombinator {verdict : Verdict}
    (undirected : combinator = .oneOf → ∀ discriminator,
      checker.resolver.lookup scope "discriminator" = .ok (some discriminator) →
        propertyName? discriminator = none)
    (h : (checker.checkCombinator check combinator (.array branches) scope path value).outcome =
      .ok verdict) :
    ∃ tally, (checker.tallyBranches check combinator scope path value 0 branches).outcome = .ok tally ∧
      verdict = tally.verdict combinator path := by
  obtain ⟨discriminator, hdiscriminator, hrest⟩ := Run.exists_of_outcome_bind h
  obtain ⟨tally, htally, hdone⟩ := Run.exists_of_outcome_bind hrest
  cases hdone
  refine ⟨tally, ?_, rfl⟩
  have hnone : discriminator.bind propertyName? = none := by
    cases discriminator with
    | none => rfl
    | some discriminator =>
      cases combinator with
      | oneOf => exact undirected rfl discriminator hdiscriminator
      | anyOf => cases hdiscriminator
      | allOf => cases hdiscriminator
  unfold Checker.tally at htally
  rw [hnone] at htally
  cases discriminator <;> exact htally

end Checker

/-- A value is checked against a scope that has one combinator, no `enum` and no
property that selects a branch.  If the check comes to a verdict, so does the
check against each branch alone, with the scope around it.  The combinator accepts
by the count of accepting branches and then adds nothing to the sink.  More than
one match of a `oneOf` adds the descriptions of the accepting branches; any other
rejection adds its cause and a group for each rejecting branch. -/
theorem combinator_reports (checker : Checker) (depth : Nat) (scope : Scope) (path : Path)
    (value : Json) (combinator : Combinator) (branches : List Json) (sink after : Sink)
    (accepted : Bool)
    (unlisted : checker.resolver.lookup scope "enum" = .ok none)
    (unexempt : checker.exempts scope value = .ok false)
    (declares : checker.Declares scope combinator branches)
    (undirected : combinator = .oneOf → ∀ discriminator,
      checker.resolver.lookup scope "discriminator" = .ok (some discriminator) →
        Checker.propertyName? discriminator = none)
    (h : (checker.checkInto (depth + 1) scope path value sink).outcome = .ok (accepted, after)) :
    ∃ (verdicts : Fin branches.length → Verdict) (added : List Entry),
      (∀ i : Fin branches.length, (checker.checkInto depth (.nested branches[i] scope)
        (path.child (.branch i)) value .empty).outcome =
          .ok ((verdicts i).accepted, ⟨(verdicts i).entries⟩)) ∧
      after.entries = sink.entries ++ added ∧
      combinator.Reports path (fun i => checker.describe branches[i] i) verdicts ⟨accepted, added⟩ := by
  obtain ⟨verdict, hverdict, rfl, rfl⟩ := Checker.exists_verdict_of_checkInto h
  have hcombined : (checker.checkCombinator (checker.checkWithin depth) combinator (.array branches)
      scope path value).outcome = .ok verdict :=
    (Checker.checkNode_of_declares unlisted unexempt declares).symm.trans hverdict
  obtain ⟨tally, htally, rfl⟩ := Checker.exists_tally_of_checkCombinator undirected hcombined
  obtain ⟨verdicts, hchecks, rfl⟩ := Checker.exists_verdicts_of_tallyBranches htally
  simp only [Nat.zero_add] at hchecks ⊢
  exact ⟨verdicts, _, fun i => Checker.checkInto_empty (hchecks i), rfl,
    Tally.reports_ofVerdicts _ verdicts combinator path⟩

/-- Two of three branches match: a `oneOf` lists them, the first by the description of the
component that it refers to, and an `allOf` has a group for the branch between them. -/
theorem combinator_reports_two_matches :
    let word := Json.object [("description", .string "a word"), ("type", .string "string")]
    let table : ComponentTable := ⟨[("Word", word)], by decide⟩
    let checker := Checker.mk table .default .request
    let branches := [Json.object [("$ref", .string "Word")], .object [("type", .string "number")],
      .object [("type", .string "string")]]
    let scope (combinator : Combinator) := Scope.root (.object [(combinator.keyword, .array branches)])
    let path := Path.ofRoot "body"
    let listed := [Entry.leaf ⟨path, .multipleOneOfMatches ["a word", "2"]⟩]
    let grouped := [Entry.leaf ⟨path, .allOfMismatch 1⟩,
      .group "allOf[1]" [.leaf ⟨⟨"body", [.branch 1]⟩, .invalidType "number" "string"⟩]]
    let reported (combinator : Combinator) (entries : List Entry) : Prop :=
      ∃ (verdicts : Fin branches.length → Verdict) (added : List Entry),
        (∀ i : Fin branches.length, (checker.checkInto 1 (.nested branches[i] (scope combinator))
          (path.child (.branch i)) (.string "x") .empty).outcome =
            .ok ((verdicts i).accepted, ⟨(verdicts i).entries⟩)) ∧
        entries = [] ++ added ∧
        combinator.Reports path (fun i => checker.describe branches[i] i) verdicts ⟨false, added⟩
    (checker.checkInto 2 (scope .oneOf) path (.string "x") .empty).outcome =
        .ok (false, ⟨listed⟩) ∧ reported .oneOf listed ∧
      (checker.checkInto 2 (scope .allOf) path (.string "x") .empty).outcome =
        .ok (false, ⟨grouped⟩) ∧ reported .allOf grouped := by
  intro word table checker branches scope path listed grouped reported
  have hdeclares (combinator : Combinator) : checker.Declares (scope combinator) combinator branches := by
    constructor
    · cases combinator <;> rfl
    · intro other hother
      cases combinator <;> cases other <;> first | rfl | exact absurd rfl hother
  have hundirected : Combinator.oneOf = .oneOf → ∀ discriminator,
      checker.resolver.lookup (scope .oneOf) "discriminator" = .ok (some discriminator) →
        Checker.propertyName? discriminator = none := by
    rintro _ discriminator ⟨⟩
  have hlisted : (checker.checkInto 2 (scope .oneOf) path (.string "x") .empty).outcome =
      .ok (false, ⟨listed⟩) := rfl
  have hgrouped : (checker.checkInto 2 (scope .allOf) path (.string "x") .empty).outcome =
      .ok (false, ⟨grouped⟩) := rfl
  exact ⟨hlisted, combinator_reports checker 1 (scope .oneOf) path (.string "x") .oneOf branches
      .empty _ false rfl rfl (hdeclares .oneOf) hundirected hlisted,
    hgrouped, combinator_reports checker 1 (scope .allOf) path (.string "x") .allOf branches
      .empty _ false rfl rfl (hdeclares .allOf) nofun hgrouped⟩

end ApiContract
