import ApiContract.Check.Dispatch
import ApiContract.Proofs.Outcome

/-!
# Where a check leads

All that one check of a value against a scope can reach: the parts of the value
that it hands to the check one step deeper, with their scopes, and the faults
that it can raise by itself.  Properties of whole checks are read off these two
relations and never off the code of the single checks.
-/

namespace ApiContract

/-- Whether a step notes a combinator and stays at its place in the document. -/
def Step.isNote : Step → Bool
  | .branch _ => true
  | .selection _ _ => true
  | _ => false

/-- The key of the group of a rejected branch, spelled for each combinator. -/
def Combinator.groupKey (combinator : Combinator) (index : Nat) : String :=
  match combinator with
  | oneOf => "oneOf[" ++ toString index ++ "]"
  | anyOf => "anyOf[" ++ toString index ++ "]"
  | allOf => "allOf[" ++ toString index ++ "]"

theorem branchKey_eq_groupKey (combinator : Combinator) (index : Nat) :
    branchKey combinator index = combinator.groupKey index := by
  cases combinator <;> rfl

/-- A note and the key of the group that a rejection behind it is put under. -/
inductive Step.Marks : Step → String → Prop where
  | branch (combinator : Combinator) (index : Nat) :
    Marks (.branch index) (combinator.groupKey index)
  | selection (property selector : String) :
    Marks (.selection property selector) ("discriminator[" ++ selector ++ "]")

/-- The causes that a check finds at its own place.  A missing discriminator is
found one group deeper, and only a scope that nothing encloses has no type. -/
def Cause.FoundAt (scope : Scope) : Cause → Prop
  | .discriminatorMissing _ => False
  | .undeterminedType => scope.parents = []
  | _ => True

namespace Resolver
variable {resolver : Resolver} {scope : Scope}

theorem lookup_of_effectiveType_error {e : Fault} (h : resolver.effectiveType scope = .error e) :
    resolver.lookup scope "type" = .error e := by
  unfold effectiveType at h
  cases hfound : resolver.lookup scope "type" with
  | error e' =>
    rw [hfound] at h
    cases h
    rfl
  | ok found =>
    rw [hfound] at h
    cases found <;> cases h

theorem parents_of_undetermined (h : resolver.effectiveType scope = .ok .undetermined) :
    scope.parents = [] := by
  unfold effectiveType at h
  cases hfound : resolver.lookup scope "type" with
  | error e =>
    rw [hfound] at h
    cases h
  | ok found =>
    rw [hfound] at h
    cases found with
    | none =>
      have hempty : (if scope.parents.isEmpty then EffectiveType.undetermined else .known .object) =
        .undetermined := Except.ok.inj h
      split at hempty
      · next hp => exact List.isEmpty_iff.mp hp
      · cases hempty
    | some word =>
      have hword : EffectiveType.ofJson word = .undetermined := Except.ok.inj h
      unfold EffectiveType.ofJson at hword
      split at hword
      · split at hword <;> cases hword
      · cases hword

end Resolver

namespace Checker

/-- One step from a value and its scope to a part of the value and the scope of
the part; all schemas of the step come from lookups of the enclosing scope. -/
inductive Descends (checker : Checker) : Scope → Json → Step → Scope → Json → Prop where
  | property {scope : Scope} {fields : List (String × Json)} {declared schema value : Json}
      {name : String} (looked : checker.resolver.lookup scope "properties" = .ok (some declared))
      (has : declared.get? name = some schema) (member : (name, value) ∈ fields) :
      Descends checker scope (.object fields) (.key name) (.root schema) value
  | forbidden {scope : Scope} {fields : List (String × Json)} {excluded declared schema value : Json}
      {name : String} (looked : checker.resolver.lookup scope "not" = .ok (some excluded))
      (shapes : checker.resolver.lookup (.root excluded) "properties" = .ok (some declared))
      (has : (name, schema) ∈ fieldsOf (some declared)) (member : (name, value) ∈ fields) :
      Descends checker scope (.object fields) (.key name) (.root schema) value
  | additional {scope : Scope} {fields : List (String × Json)} {schema value : Json} {name : String}
      (looked : checker.resolver.lookup scope "additionalProperties" = .ok (some schema))
      (member : (name, value) ∈ fields) :
      Descends checker scope (.object fields) (.key name) (.root schema) value
  | item {scope : Scope} {items : List Json} {schema value : Json} {index : Nat}
      (looked : checker.resolver.lookup scope "items" = .ok (some schema))
      (here : items[index]? = some value) :
      Descends checker scope (.array items) (.index index) (.root schema) value
  | branch {scope : Scope} {value branch : Json} {combinator : Combinator} {branches : List Json}
      {index : Nat}
      (looked : checker.resolver.lookup scope combinator.keyword = .ok (some (.array branches)))
      (here : branches[index]? = some branch) :
      Descends checker scope value (.branch index) (.nested branch scope) value
  | selection {scope : Scope} {value discriminator selected branch : Json} {property : String}
      {branches : List Json}
      (declared : checker.resolver.lookup scope Combinator.oneOf.keyword =
        .ok (some (.array branches)))
      (looked : checker.resolver.lookup scope "discriminator" = .ok (some discriminator))
      (named : propertyName? discriminator = some property)
      (chosen : value.get? property = some selected)
      (target : checker.selectedBranch discriminator (selectorOf selected) = .ok branch) :
      Descends checker scope value (.selection property (selectorOf selected)) (.nested branch scope)
        value

/-- The faults that the check of a value against a scope can raise by itself. -/
inductive Raises (checker : Checker) : Scope → Json → Fault → Prop where
  | keyword {scope : Scope} {value : Json} {keyword : String} {e : Fault}
      (failed : checker.resolver.lookup scope keyword = .error e) : Raises checker scope value e
  | property {scope : Scope} {value declared schema : Json} {name keyword : String} {e : Fault}
      (looked : checker.resolver.lookup scope "properties" = .ok (some declared))
      (has : declared.get? name = some schema)
      (failed : checker.resolver.lookup (.root schema) keyword = .error e) :
      Raises checker scope value e
  | forbidden {scope : Scope} {value excluded : Json} {keyword : String} {e : Fault}
      (looked : checker.resolver.lookup scope "not" = .ok (some excluded))
      (failed : checker.resolver.lookup (.root excluded) keyword = .error e) :
      Raises checker scope value e
  | branch {scope : Scope} {value branch : Json} {combinator : Combinator} {branches : List Json}
      {index : Nat} {keyword : String} {e : Fault}
      (looked : checker.resolver.lookup scope combinator.keyword = .ok (some (.array branches)))
      (here : branches[index]? = some branch)
      (failed : checker.resolver.lookup (.nested branch scope) keyword = .error e) :
      Raises checker scope value e
  | selection {scope : Scope} {value discriminator selected : Json} {property : String} {e : Fault}
      (looked : checker.resolver.lookup scope "discriminator" = .ok (some discriminator))
      (named : propertyName? discriminator = some property)
      (chosen : value.get? property = some selected)
      (failed : checker.selectedBranch discriminator (selectorOf selected) = .error e) :
      Raises checker scope value e

/-! ### What lookups gave -/

theorem exists_of_get?_fieldsOf {found : Option Json} {name : String} {schema : Json}
    (h : Fields.get? (fieldsOf found) name = some schema) :
    ∃ declared, found = some declared ∧ declared.get? name = some schema := by
  cases found with
  | none => cases h
  | some declared =>
    refine ⟨declared, rfl, ?_⟩
    cases declared with
    | object fields => exact h
    | _ => cases h

theorem lookup_of_declaredAmong {checker : Checker} {scope : Scope} {combinators : List Combinator}
    {found : List (Combinator × Json)} {declaration : Combinator × Json}
    (h : checker.declaredAmong scope combinators = .ok found) (member : declaration ∈ found) :
    checker.resolver.lookup scope declaration.1.keyword = .ok (some declaration.2) := by
  induction combinators generalizing found with
  | nil =>
    cases h
    cases member
  | cons combinator rest ih =>
    obtain ⟨branches, hbranches, hmore⟩ := exists_of_bind_eq_ok h
    obtain ⟨others, hothers, hfound⟩ := exists_of_bind_eq_ok hmore
    cases branches with
    | none =>
      cases hfound
      exact ih hothers member
    | some branches =>
      cases hfound
      rcases List.mem_cons.mp member with rfl | hrest
      · exact hbranches
      · exact ih hothers hrest

end Checker

/-- A verdict whose entries back it: none for an acceptance, and a violation of
its own, outside all groups, for a rejection. -/
structure Verdict.Backed (verdict : Verdict) : Prop where
  none_of_accepted : verdict.accepted = true → verdict.entries = []
  leaf_of_rejected : verdict.accepted = false → ∃ violation, Entry.leaf violation ∈ verdict.entries

namespace Verdict.Backed

theorem accept : Verdict.accept.Backed := ⟨fun _ => rfl, nofun⟩

theorem of_head {violation : Violation} {rest : List Entry} :
    (⟨false, .leaf violation :: rest⟩ : Verdict).Backed :=
  ⟨nofun, fun _ => ⟨violation, List.mem_cons_self⟩⟩

theorem and {first second : Verdict} (hf : first.Backed) (hs : second.Backed) :
    (first.and second).Backed := by
  constructor
  · intro h
    obtain ⟨h1, h2⟩ := Bool.and_eq_true_iff.mp h
    show first.entries ++ second.entries = []
    rw [hf.none_of_accepted h1, hs.none_of_accepted h2]
    rfl
  · intro h
    rcases (Bool.and_eq_false_iff).mp h with h1 | h2
    · obtain ⟨violation, hv⟩ := hf.leaf_of_rejected h1
      exact ⟨violation, List.mem_append_left _ hv⟩
    · obtain ⟨violation, hv⟩ := hs.leaf_of_rejected h2
      exact ⟨violation, List.mem_append_right _ hv⟩

theorem accepted_iff {verdict : Verdict} (h : verdict.Backed) :
    verdict.accepted = true ↔ verdict.entries = [] := by
  refine ⟨h.none_of_accepted, fun hnone => ?_⟩
  cases ha : verdict.accepted with
  | true => rfl
  | false =>
    obtain ⟨violation, hv⟩ := h.leaf_of_rejected ha
    rw [hnone] at hv
    exact absurd hv List.not_mem_nil

end Verdict.Backed
end ApiContract
