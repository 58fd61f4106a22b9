import ApiContract.Exchange
import ApiContract.Proofs.Mirroring
import ApiContract.Proofs.References

/-!
# Transparency of references

A node with a reference stands for one object: the members of the component,
overridden by those beside the reference.  Putting that object in the node's
place saves one hop of every lookup and changes nothing else.
-/

namespace ApiContract

/-! ### Members laid over members -/

namespace Fields
variable {α : Type}

/-- The members of `upper`, and those of `lower` that they do not hide. -/
def overlay (upper lower : List (String × α)) : List (String × α) :=
  upper.foldr (fun field fields => set fields field.1 field.2) lower

theorem get?_overlay (upper lower : List (String × α)) (name : String) :
    get? (overlay upper lower) name = (get? upper name).or (get? lower name) := by
  induction upper with
  | nil => rfl
  | cons field rest ih =>
    obtain ⟨key, held⟩ := field
    show get? (set (overlay rest lower) key held) name = _
    rw [get?_set, ih, get?]
    split <;> rfl

theorem get?_filter_ne (fields : List (String × α)) (left name : String) :
    get? (fields.filter fun field => field.1 ≠ left) name =
      if name = left then none else get? fields name := by
  induction fields with
  | nil => simp [get?]
  | cons field rest ih =>
    rw [List.filter_cons]
    by_cases hleft : field.1 = left
    · rw [if_neg (by simpa using hleft), ih]
      by_cases hname : name = left
      · rw [if_pos hname, if_pos hname]
      · have hne : ¬field.1 = name := fun h => hname (h.symm.trans hleft)
        rw [if_neg hname, if_neg hname, get?, if_neg hne]
    · rw [if_pos (by simpa using hleft), get?, get?, ih]
      by_cases hfield : field.1 = name
      · have hne : ¬name = left := fun h => hleft (hfield.trans h)
        rw [if_pos hfield, if_neg hne, if_pos hfield]
      · rw [if_neg hfield, if_neg hfield]

end Fields

/-- The object that a node with a reference stands for: its members without the
reference, then those of the target under other names, its reference included. -/
def Json.inlined (fields : List (String × Json)) (target : Json) : Json :=
  .object (Fields.overlay (fields.filter fun field => field.1 ≠ "$ref") (target.object?.getD []))

theorem Json.get?_inlined (fields : List (String × Json)) (target : Json) (name : String) :
    (inlined fields target).get? name =
      (if name = "$ref" then none else Fields.get? fields name).or (target.get? name) := by
  have htarget : Fields.get? (target.object?.getD []) name = target.get? name := by
    cases target <;> rfl
  show Fields.get? (Fields.overlay _ _) name = _
  rw [Fields.get?_overlay, Fields.get?_filter_ne, htarget]

/-! ### Lookups -/

/-- The faults of lookups that ran out of hops. -/
def Fault.IsChainTooLong (e : Fault) : Prop := ∃ reference hops, e = .chainTooLong reference hops

namespace Resolver

/-- More hops change no lookup that the hops suffice for. -/
theorem lookupWithin_le {few many : Resolver} (same : few.table = many.table) (keyword : String)
    {hops hops' : Nat} (h : hops ≤ hops') (node : Json) :
    Agree Fault.IsChainTooLong (few.lookupWithin keyword hops node)
      (many.lookupWithin keyword hops' node) := by
  have hresolves (reference : String) : Agree Fault.IsChainTooLong (few.table.resolve reference)
      (many.table.resolve reference) := by
    rw [same]
    exact Agree.same _
  -- without a hop left, a lookup that has to follow a reference is excused
  have hstart (node : Json) : Agree Fault.IsChainTooLong (few.lookupWithin keyword 0 node)
      (many.lookupWithin keyword (hops' - hops) node) := by
    unfold lookupWithin
    cases node.get? keyword with
    | some value => exact Agree.same _
    | none =>
      cases node.reference? with
      | none => exact Agree.same _
      | some reference => exact .inr ⟨_, rfl, reference, _, rfl⟩
  have hall := lookupWithin_agree hresolves (hops' - hops) hstart hops node
  rw [Nat.sub_add_cancel h] at hall
  exact hall

variable (resolver : Resolver) (keyword : String)

/-- A lookup sees of a node only the keyword and the reference. -/
theorem lookupWithin_congr {node node' : Json} (hkeyword : node.get? keyword = node'.get? keyword)
    (hreference : node.reference? = node'.reference?) (hops : Nat) :
    resolver.lookupWithin keyword hops node = resolver.lookupWithin keyword hops node' := by
  cases hops <;> unfold lookupWithin <;> rw [hkeyword, hreference]

variable {resolver keyword}
variable {fields : List (String × Json)} {reference : String} {target : Json}
  (href : Fields.get? fields "$ref" = some (.string reference))
  (htarget : resolver.table.get? reference = some target)
include href htarget

theorem lookupWithin_inlined (hk : keyword ≠ "$ref") (hops : Nat) :
    Agree Fault.IsChainTooLong (resolver.lookupWithin keyword hops (.object fields))
      (resolver.lookupWithin keyword hops (Json.inlined fields target)) := by
  have hget := Json.get?_inlined fields target keyword
  rw [if_neg hk] at hget
  have hown : Json.reference? (.object fields) = some reference := by
    show (Fields.get? fields "$ref").bind Json.string? = _
    rw [href]
    rfl
  have hresolve : resolver.table.resolve reference = .ok target := by
    unfold ComponentTable.resolve
    rw [htarget]
  cases hfound : Fields.get? fields keyword with
  | some value =>
    -- the node's own keyword is read on both sides before any reference
    rw [hfound, Option.some_or] at hget
    have hobject : Json.get? keyword (.object fields) = some value := hfound
    rw [lookupWithin_of_get? hobject, lookupWithin_of_get? hget]
    exact Agree.same _
  | none =>
    -- the node stands before its target, the inlined object is read as the target
    rw [hfound, Option.none_or] at hget
    have hinlined : (Json.inlined fields target).reference? = target.reference? := by
      unfold Json.reference?
      rw [Json.get?_inlined, if_pos rfl, Option.none_or]
    rw [lookupWithin_congr resolver keyword hget hinlined]
    have hobject : Json.get? keyword (.object fields) = none := hfound
    cases hops with
    | zero =>
      rw [lookupWithin_zero hobject hown]
      exact .inr ⟨_, rfl, reference, _, rfl⟩
    | succ left =>
      rw [lookupWithin_succ hobject hown, hresolve]
      exact lookupWithin_le rfl keyword (Nat.le_succ left) target

end Resolver

/-! ### Scopes -/

/-- Two scopes that are the same but for `now` in the place of some nodes `was`. -/
structure Scope.Replaces (was now : Json) (s t : Scope) : Prop where
  node : s.node = t.node ∨ (s.node = was ∧ t.node = now)
  parents : List.Forall₂ (fun a b => a = b ∨ (a = was ∧ b = now)) s.parents t.parents

namespace Scope.Replaces
variable {was now : Json}

theorem same (s : Scope) : s.Replaces was now s :=
  ⟨.inl rfl, List.forall₂_same.mpr fun _ _ => .inl rfl⟩

theorem here (parents : List Json) : (Scope.mk was parents).Replaces was now ⟨now, parents⟩ :=
  ⟨.inr ⟨rfl, rfl⟩, List.forall₂_same.mpr fun _ _ => .inl rfl⟩

theorem nested {s t : Scope} (h : s.Replaces was now t) (branch : Json) :
    (Scope.nested branch s).Replaces was now (.nested branch t) :=
  ⟨.inl rfl, List.Forall₂.cons h.node h.parents⟩

theorem isEmpty_parents {s t : Scope} (h : s.Replaces was now t) :
    s.parents.isEmpty = t.parents.isEmpty := by
  have hlength := h.parents.length_eq
  rw [Bool.eq_iff_iff, List.isEmpty_iff_length_eq_zero, List.isEmpty_iff_length_eq_zero, hlength]

end Scope.Replaces

namespace Checker
variable {excused : Fault → Prop} {checker : Checker} {was now : Json}
  (hnow : ∀ keyword ∈ constraintKeywords, Agree excused (checker.resolver.lookupNode keyword was)
    (checker.resolver.lookupNode keyword now))
include hnow

theorem lookup_replaced {s t : Scope} (h : s.Replaces was now t) {keyword : String}
    (hk : keyword ∈ constraintKeywords) :
    Agree excused (checker.resolver.lookup s keyword) (checker.resolver.lookup t keyword) := by
  have hnode {a b : Json} (hab : a = b ∨ (a = was ∧ b = now)) :
      Agree excused (checker.resolver.lookupNode keyword a)
        (checker.resolver.lookupNode keyword b) := by
    rcases hab with rfl | ⟨rfl, rfl⟩
    · exact Agree.same _
    · exact hnow keyword hk
  exact Resolver.lookup_agree (hnode h.node) (h.parents.imp fun _ _ hab => hnode hab)

theorem mirrors_replaced : checker.Mirrors excused checker (Scope.Replaces was now) where
  lookup h _ hk := lookup_replaced hnow h hk
  description _ _ := by
    -- only the branch itself is read, and it is the same on both sides
    rw [Resolver.lookup_of_untyped (by decide), Resolver.lookup_of_untyped (by decide)]
    exact Agree.same _
  parents h := h.isEmpty_parents
  part _ _ _ := .same _
  branch h _ := h.nested _
  excluded _ _ := .same _
  required _ _ _ _ _ := Agree.same _
  selected _ _ := Agree.same _
  epsilon := rfl
  formats := rfl

/-- A node may be replaced by one that gives the same keywords, wherever it stands in a scope. -/
theorem checkWithin_replaced (depth : Nat) {s t : Scope} (h : s.Replaces was now t) (path : Path)
    (value : Json) :
    Run.Agree excused (checker.checkWithin depth s path value)
      (checker.checkWithin depth t path value) := by
  have hall := (mirrors_replaced hnow).checkWithin 0 (fun _ _ _ => Run.Agree.same _) depth h path value
  rw [Nat.zero_add] at hall
  exact hall

end Checker

theorem Checker.lookupNode_inlined (checker : Checker) {fields : List (String × Json)}
    {reference : String} {target : Json}
    (href : Fields.get? fields "$ref" = some (.string reference))
    (htarget : checker.table.get? reference = some target) (keyword : String)
    (hk : keyword ∈ constraintKeywords) :
    Agree Fault.IsChainTooLong (checker.resolver.lookupNode keyword (.object fields))
      (checker.resolver.lookupNode keyword (.inlined fields target)) :=
  Resolver.lookupWithin_inlined href htarget (ne_of_mem_constraintKeywords hk (by decide)) _

/-- A node with a reference to a component may be replaced by the object that it
stands for, at the root or anywhere among nested schemas: a check that does not
run out of hops is the same check afterwards, with the same sightings, and so
are the report or fault and the callbacks of a whole document. -/
theorem reference_transparent (table : ComponentTable) (fields : List (String × Json))
    (reference : String) (target : Json)
    (href : Fields.get? fields "$ref" = some (.string reference))
    (htarget : table.get? reference = some target) :
    (∀ (settings : Settings) (direction : Direction) (depth : Nat) (s t : Scope),
      s.Replaces (.object fields) (Json.inlined fields target) t → ∀ (path : Path) (value : Json),
      let checker := Checker.mk table settings direction
      (∀ reference hops, (checker.checkWithin depth s path value).outcome ≠
        .error (.chainTooLong reference hops)) →
      checker.checkWithin depth t path value = checker.checkWithin depth s path value) ∧
    (∀ (settings : Settings) (value : Json) (root : String) (exchange : Exchange),
      let validator := Validator.mk table settings
      (∀ reference hops, (validator.validate value (.object fields) root exchange).1 ≠
        .error (.chainTooLong reference hops)) →
      validator.validate value (Json.inlined fields target) root exchange =
        validator.validate value (.object fields) root exchange) := by
  constructor
  · intro settings direction depth s t h path value checker hne
    have hnow := checker.lookupNode_inlined href htarget
    refine (Checker.checkWithin_replaced hnow depth h path value).eq_of_not_excused ?_
    rintro _ ⟨reference, hops, rfl⟩
    exact hne reference hops
  · intro settings value root exchange validator hne
    have hnow := (validator.checker exchange.direction).lookupNode_inlined href htarget
    have hroot : Run.Agree Fault.IsChainTooLong
        ((validator.checker exchange.direction).checkRoot (.object fields) root value)
        ((validator.checker exchange.direction).checkRoot (Json.inlined fields target) root value) :=
      (Checker.checkWithin_replaced hnow _ (.here []) _ value).bind fun _ _ => .same _
    refine Validator.validate_eq_of_agree hroot ?_
    rintro _ ⟨reference, hops, rfl⟩
    exact hne reference hops

theorem reference_transparent_sibling_override :
    let two := Json.number (.ofInt 2)
    let base := Json.object [("minLength", .number (.ofInt 3)), ("type", .string "string")]
    let pet := Json.object [("$ref", .string "#/components/schemas/Base")]
    let table := ComponentTable.ofFields [("Base", base), ("Pet", pet)]
    let fields := [("$ref", Json.string "Pet"), ("minLength", two)]
    let merged := Json.inlined fields pet
    let validator := Validator.mk table .default
    let checker := Checker.mk table .default .request
    let exchange : Exchange := ⟨.request, [("\x7b$request.body#\x7d", base)], []⟩
    let short : Violation := ⟨.ofRoot "body", .stringTooShort 1 2⟩
    let branch := Json.object [("minLength", two)]
    merged = .object [("$ref", .string "#/components/schemas/Base"), ("minLength", two)] ∧
      (validator.validate (.string "x") (.object fields) "body" exchange).1 =
        .ok ⟨false, ⟨[.leaf short]⟩⟩ ∧
      (validator.validate (.string "x") (.object fields) "body" exchange).2.callbacks =
        [("x", base)] ∧
      validator.validate (.string "x") merged "body" exchange =
        validator.validate (.string "x") (.object fields) "body" exchange ∧
      (checker.checkWithin 1 ⟨branch, [.object fields]⟩ (.ofRoot "body") (.string "x")).outcome =
        .ok ⟨false, [.leaf short]⟩ ∧
      checker.checkWithin 1 ⟨branch, [merged]⟩ (.ofRoot "body") (.string "x") =
        checker.checkWithin 1 ⟨branch, [.object fields]⟩ (.ofRoot "body") (.string "x") := by
  refine ⟨rfl, rfl, rfl, ?_, rfl, ?_⟩
  · refine (reference_transparent _ _ "Pet" _ ?_ ?_).2 _ _ _ _ fun _ _ h => ?_
    · rfl
    · rfl
    · have hreport : Except.ok
          (⟨false, ⟨[.leaf ⟨.ofRoot "body", .stringTooShort 1 2⟩]⟩⟩ : Report) = _ := h
      cases hreport
  · refine (reference_transparent _ _ "Pet" _ ?_ ?_).1 _ _ _ _ _
      ((Scope.Replaces.here []).nested _) _ _ fun _ _ h => ?_
    · rfl
    · rfl
    · have hverdict : Except.ok
          (⟨false, [.leaf ⟨.ofRoot "body", .stringTooShort 1 2⟩]⟩ : Verdict) = _ := h
      cases hverdict

end ApiContract
