import ApiContract.Exchange
import ApiContract.Proofs.Descent
import Mathlib.Data.List.Forall2

/-!
# Two runs side by side

Two runs agree if they are the same run, or if the first one ends in a fault of
a kind that is excused.  Two checkers whose lookups agree at related scopes
mirror each other; which scopes are related is up to them.
-/

namespace ApiContract

/-- Two outcomes are the same unless the first is an excused fault. -/
def Agree {α : Type} (excused : Fault → Prop) (first second : Except Fault α) : Prop :=
  first = second ∨ ∃ e, first = .error e ∧ excused e

/-- Two runs are the same unless the first ends in an excused fault. -/
def Run.Agree {α : Type} (excused : Fault → Prop) (first second : Run α) : Prop :=
  first = second ∨ ∃ e, first.outcome = .error e ∧ excused e

variable {α β : Type} {excused : Fault → Prop}

namespace Agree

theorem same (outcome : Except Fault α) : Agree excused outcome outcome := .inl rfl

theorem bind {first second : Except Fault α} {next next' : α → Except Fault β}
    (h : Agree excused first second)
    (hn : ∀ a, first = .ok a → Agree excused (next a) (next' a)) :
    Agree excused (first >>= next) (second >>= next') := by
  rcases h with rfl | ⟨e, rfl, he⟩
  · cases first with
    | error e => exact .inl rfl
    | ok a => exact hn a rfl
  · exact .inr ⟨e, rfl, he⟩

/-- Agreement of lookups whose values are only viewed. -/
theorem view {first second : Except Fault α} (h : Agree excused first second) (view : α → β) :
    Agree excused (do return view (← first)) (do return view (← second)) :=
  h.bind fun _ _ => same _

end Agree

namespace Run.Agree

theorem same (run : Run α) : Run.Agree excused run run := .inl rfl

theorem bind {first second : Run α} {next next' : α → Run β} (h : Run.Agree excused first second)
    (hn : ∀ a, first.outcome = .ok a → Run.Agree excused (next a) (next' a)) :
    Run.Agree excused (first >>= next) (second >>= next') := by
  obtain ⟨sightings, outcome⟩ := first
  rcases h with rfl | ⟨e, he, hexcused⟩
  · cases outcome with
    | error e => exact same _
    | ok a =>
      rw [bind_ok, bind_ok]
      rcases hn a rfl with h | ⟨e, he, hexcused⟩
      · rw [h]
        exact same _
      · exact .inr ⟨e, he, hexcused⟩
  · cases he
    exact .inr ⟨e, rfl, hexcused⟩

/-- A run that ends in no excused fault is the run it agrees with. -/
theorem eq_of_not_excused {first second : Run α} (h : Run.Agree excused first second)
    (hne : ∀ e, excused e → first.outcome ≠ .error e) : second = first := by
  rcases h with heq | ⟨e, he, hexcused⟩
  · exact heq.symm
  · exact absurd he (hne e hexcused)

end Run.Agree

/-! ### Lookups -/

namespace Resolver
variable {left right : Resolver} {keyword : String}

section Chains
variable (resolves : ∀ reference, Agree excused (left.table.resolve reference)
  (right.table.resolve reference)) (more : Nat)
include resolves

/-- Lookups that agree where the first one has no hop left agree with any hops left. -/
theorem lookupWithin_agree
    (start : ∀ node, Agree excused (left.lookupWithin keyword 0 node)
      (right.lookupWithin keyword more node)) (hops : Nat) (node : Json) :
    Agree excused (left.lookupWithin keyword hops node)
      (right.lookupWithin keyword (more + hops) node) := by
  induction hops generalizing node with
  | zero => exact start node
  | succ hops ih =>
    rw [← Nat.add_assoc]
    unfold lookupWithin
    cases node.get? keyword with
    | some value => exact Agree.same _
    | none =>
      cases node.reference? with
      | none => exact Agree.same _
      | some reference => exact (resolves reference).bind fun component _ => ih component

theorem resolveWithin_agree
    (start : ∀ node, Agree excused (left.resolveWithin 0 node) (right.resolveWithin more node))
    (hops : Nat) (node : Json) :
    Agree excused (left.resolveWithin hops node) (right.resolveWithin (more + hops) node) := by
  induction hops generalizing node with
  | zero => exact start node
  | succ hops ih =>
    rw [← Nat.add_assoc]
    unfold resolveWithin
    cases node.reference? with
    | none => exact Agree.same _
    | some reference => exact (resolves reference).bind fun component _ => ih component

end Chains

theorem lookupNodes_agree {nodes nodes' : List Json}
    (h : List.Forall₂ (fun a b =>
      Agree excused (left.lookupNode keyword a) (right.lookupNode keyword b)) nodes nodes') :
    Agree excused (left.lookupNodes keyword nodes) (right.lookupNodes keyword nodes') := by
  induction h with
  | nil => exact Agree.same _
  | cons head _ ih =>
    refine head.bind fun found _ => ?_
    cases found with
    | some value => exact Agree.same _
    | none => exact ih

/-- Lookups agree if they agree at the nodes of the two scopes, one by one. -/
theorem lookup_agree {s t : Scope}
    (hnode : Agree excused (left.lookupNode keyword s.node) (right.lookupNode keyword t.node))
    (hparents : List.Forall₂ (fun a b =>
      Agree excused (left.lookupNode keyword a) (right.lookupNode keyword b)) s.parents t.parents) :
    Agree excused (left.lookup s keyword) (right.lookup t keyword) := by
  refine hnode.bind fun found _ => ?_
  cases found with
  | some value => exact Agree.same _
  | none =>
    by_cases htype : keyword = "type"
    · rw [if_pos htype, if_pos htype]
      exact lookupNodes_agree hparents
    · rw [if_neg htype, if_neg htype]
      exact Agree.same _

end Resolver

/-! ### Checkers -/

/-- The keywords that a check reads of the schema it checks against.  References are only
followed, and other keywords are read of a branch or of a declared property, if at all. -/
def constraintKeywords : List String :=
  ["enum", "nullable", "oneOf", "anyOf", "allOf", "discriminator", "type", "properties", "required",
    "not", "minProperties", "maxProperties", "additionalProperties", "items", "minItems", "maxItems",
    "uniqueItems", "minLength", "maxLength", "pattern", "format", "minimum", "maximum",
    "exclusiveMinimum", "exclusiveMaximum", "multipleOf"]

theorem ne_of_mem_constraintKeywords {keyword other : String} (h : keyword ∈ constraintKeywords)
    (unread : other ∉ constraintKeywords) : keyword ≠ other := by
  rintro rfl
  exact unread h

/-- Two checkers whose lookups agree at related scopes.  The relation holds again
of all scopes that the first checker comes to from related ones.  What a branch has
for a description is looked up after its check. -/
structure Checker.Mirrors (excused : Fault → Prop) (left right : Checker)
    (related : Scope → Scope → Prop) : Prop where
  lookup : ∀ {s t}, related s t → ∀ keyword ∈ constraintKeywords,
    Agree excused (left.resolver.lookup s keyword) (right.resolver.lookup t keyword)
  description : ∀ {s t value step node}, related s t →
    left.Descends s value step (.nested node s) value →
    Agree excused (left.resolver.lookup (.nested node s) "description")
      (right.resolver.lookup (.nested node t) "description")
  parents : ∀ {s t}, related s t → s.parents.isEmpty = t.parents.isEmpty
  part : ∀ {s t value step s' value'}, related s t → left.Descends s value step s' value' →
    step.isNote = false → related s' s'
  branch : ∀ {s t value step node}, related s t →
    left.Descends s value step (.nested node s) value → related (.nested node s) (.nested node t)
  excluded : ∀ {s t schema}, related s t → left.resolver.lookup s "not" = .ok (some schema) →
    related (.root schema) (.root schema)
  required : ∀ {s t declared}, related s t → left.resolver.lookup s "properties" = .ok declared →
    ∀ fields path name, Agree excused (left.requiredVerdict fields (fieldsOf declared) path name)
      (right.requiredVerdict fields (fieldsOf declared) path name)
  selected : ∀ discriminator selector,
    Agree excused (left.selectedBranch discriminator selector)
      (right.selectedBranch discriminator selector)
  epsilon : left.settings.multipleOfEpsilon = right.settings.multipleOfEpsilon
  formats : left.settings.checkFormats = right.settings.checkFormats

/-- Checkers of one direction agree on what must be present if their lookups agree. -/
theorem Checker.requiredVerdict_agree {left right : Checker}
    (direction : left.direction = right.direction)
    (h : ∀ schema keyword, Agree excused (left.resolver.lookup (.root schema) keyword)
      (right.resolver.lookup (.root schema) keyword))
    (fields declared : List (String × Json)) (path : Path) (name : String) :
    Agree excused (left.requiredVerdict fields declared path name)
      (right.requiredVerdict fields declared path name) := by
  have hmisplaced : Agree excused (left.isDeclaredMisplaced declared name)
      (right.isDeclaredMisplaced declared name) := by
    unfold isDeclaredMisplaced
    split
    · unfold isMisplaced
      rw [direction]
      exact ((h _ _).view _).bind fun _ _ => ((h _ _).view _).bind fun _ _ => Agree.same _
    · exact Agree.same _
  refine hmisplaced.bind fun misplaced _ => ?_
  unfold presenceVerdict
  rw [direction]
  exact Agree.same _

/-- Checkers whose lookups agree at every scope; the scopes are related to themselves. -/
theorem Checker.mirrors_of_lookup {left right : Checker}
    (lookup : ∀ s keyword, Agree excused (left.resolver.lookup s keyword)
      (right.resolver.lookup s keyword))
    (selected : ∀ discriminator selector, Agree excused (left.selectedBranch discriminator selector)
      (right.selectedBranch discriminator selector))
    (direction : left.direction = right.direction)
    (epsilon : left.settings.multipleOfEpsilon = right.settings.multipleOfEpsilon)
    (formats : left.settings.checkFormats = right.settings.checkFormats) :
    left.Mirrors excused right Eq where
  lookup h keyword _ := h ▸ lookup _ keyword
  description h _ := h ▸ lookup _ _
  parents h := h ▸ rfl
  part _ _ _ := rfl
  branch h _ := h ▸ rfl
  excluded _ _ := rfl
  required _ _ fields path name :=
    requiredVerdict_agree direction (fun _ _ => lookup _ _) fields _ path name
  selected := selected
  epsilon := epsilon
  formats := formats

end ApiContract
