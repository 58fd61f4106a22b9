import ApiContract.Proofs.Descent
import ApiContract.Proofs.Outcome

/-!
# Properties of whole checks

A reading says what may be met, raised and reported by the check of a value
against a scope at a path.  If one check turns a reading of the check one step
deeper into a reading of its own, then the readings hold at all depths.  What
has to be shown for that, `Checker.Carries`, speaks of descents, faults and
entries alone.
-/

namespace ApiContract

/-- What is said of the strings, the faults and the entries of a check. -/
structure Reading where
  seen : Scope → Path → Json → Sighting → Prop
  fault : Scope → Path → Json → Fault → Prop
  entry : Scope → Path → Json → Entry → Prop

namespace Reading

/-- A verdict that a reading allows. -/
structure Admits (reading : Reading) (scope : Scope) (path : Path) (value : Json)
    (verdict : Verdict) : Prop where
  backed : verdict.Backed
  entries : ∀ entry ∈ verdict.entries, reading.entry scope path value entry

namespace Admits
variable {reading : Reading} {scope : Scope} {path : Path} {value : Json}

theorem accept : reading.Admits scope path value .accept :=
  ⟨.accept, fun _ h => absurd h List.not_mem_nil⟩

theorem and {first second : Verdict} (hf : reading.Admits scope path value first)
    (hs : reading.Admits scope path value second) :
    reading.Admits scope path value (first.and second) := by
  refine ⟨hf.backed.and hs.backed, fun entry he => ?_⟩
  rcases List.mem_append.mp he with h | h
  · exact hf.entries entry h
  · exact hs.entries entry h

theorem all {verdicts : List Verdict}
    (h : ∀ verdict ∈ verdicts, reading.Admits scope path value verdict) :
    reading.Admits scope path value (.all verdicts) := by
  induction verdicts with
  | nil => exact accept
  | cons verdict rest ih =>
    have hrest := ih (fun v hv => h v (List.mem_cons_of_mem _ hv))
    exact and (h verdict List.mem_cons_self) hrest

end Admits

/-- A tally whose rejections a reading allows as groups. -/
def Groups (reading : Reading) (scope : Scope) (path : Path) (value : Json) (tally : Tally) : Prop :=
  ∀ rejection ∈ tally.rejected, reading.entry scope path value (.group rejection.1 rejection.2)

/-- What a reading asks of one run of a check. -/
abbrev Run (reading : Reading) (scope : Scope) (path : Path) (value : Json)
    (run : ApiContract.Run Verdict) : Prop :=
  run.Satisfies (reading.seen scope path value) (reading.fault scope path value)
    (reading.Admits scope path value)

theorem each {reading : Reading} {scope : Scope} {path : Path} {value : Json} {α : Type}
    {visit : α → ApiContract.Run Verdict} {items : List α}
    (h : ∀ a ∈ items, reading.Run scope path value (visit a)) :
    reading.Run scope path value (ApiContract.Run.each visit items) :=
  Run.Satisfies.each h Admits.accept (fun _ _ hf hs => hf.and hs)

/-- A check of which a reading holds. -/
def Describes (reading : Reading) (check : Check) : Prop :=
  ∀ scope path value, reading.Run scope path value (check scope path value)

end Reading

/-- One check turns the reading `inner` of the check one step deeper into the
reading `outer`. -/
structure Checker.Carries (checker : Checker) (inner outer : Reading) : Prop where
  seen_here : ∀ scope path text, outer.seen scope path (.string text) ⟨path, text⟩
  seen_below : ∀ {scope value step scope' value'}, checker.Descends scope value step scope' value' →
    ∀ path sighting, inner.seen scope' (path.child step) value' sighting →
      outer.seen scope path value sighting
  fault_here : ∀ {scope value e}, checker.Raises scope value e → ∀ path, outer.fault scope path value e
  fault_below : ∀ {scope value step scope' value'}, checker.Descends scope value step scope' value' →
    ∀ path e, inner.fault scope' (path.child step) value' e → outer.fault scope path value e
  leaf : ∀ scope path value {cause : Cause}, cause.FoundAt scope →
    outer.entry scope path value (.leaf ⟨path, cause⟩)
  entry_below : ∀ {scope value step scope' value'}, checker.Descends scope value step scope' value' →
    step.isNote = false → ∀ path entry, inner.entry scope' (path.child step) value' entry →
      outer.entry scope path value entry
  group : ∀ {scope value step scope' value' key}, checker.Descends scope value step scope' value' →
    step.Marks key → ∀ path {entries : List Entry}, (∃ violation, .leaf violation ∈ entries) →
      (∀ entry ∈ entries, inner.entry scope' (path.child step) value' entry) →
        outer.entry scope path value (.group key entries)
  missing : ∀ scope path value property, outer.entry scope path value
    (.group (selectionKey property) [.leaf ⟨path, .discriminatorMissing property⟩])

namespace Checker.Carries
variable {checker : Checker} {inner outer : Reading} (carries : checker.Carries inner outer)
  {check : Check} (below : inner.Describes check) (scope : Scope) (path : Path) (value : Json)
include carries

/-! ### Causes found in place -/

theorem reject {cause : Cause} (h : cause.FoundAt scope) :
    outer.Admits scope path value (.reject path cause) := by
  refine ⟨Verdict.Backed.of_head, fun entry he => ?_⟩
  rw [List.mem_singleton.mp he]
  exact carries.leaf scope path value h

theorem rejectIf (applies : Bool) {cause : Cause} (h : cause.FoundAt scope) :
    outer.Admits scope path value (.rejectIf applies path cause) := by
  cases applies with
  | true => exact carries.reject scope path value h
  | false => exact Reading.Admits.accept

/-! ### Lookups -/

theorem keyword (keyword : String) :
    ∀ e, checker.resolver.lookup scope keyword = .error e → outer.fault scope path value e :=
  fun _ h => carries.fault_here (.keyword h) path

/-- A keyword that is read as a value of some type. -/
theorem asked {α : Type} (keyword : String) (view : Option Json → α) :
    Answers (do return view (← checker.resolver.lookup scope keyword))
      (outer.fault scope path value) (fun _ => True) :=
  Answers.bind (carries.keyword scope path value keyword) (fun _ _ => Answers.ok trivial)

theorem checkAtLeast (keyword : String) (count : Nat) {cause : Nat → Cause}
    (h : ∀ limit, (cause limit).FoundAt scope) :
    Answers (checker.resolver.checkAtLeast scope keyword count path cause)
      (outer.fault scope path value) (outer.Admits scope path value) := by
  refine Answers.andThen (carries.asked scope path value keyword _) (fun limit _ => ?_)
  cases limit with
  | none => exact Answers.ok Reading.Admits.accept
  | some limit => exact Answers.ok (carries.rejectIf scope path value _ (h limit))

theorem checkAtMost (keyword : String) (count : Nat) {cause : Nat → Cause}
    (h : ∀ limit, (cause limit).FoundAt scope) :
    Answers (checker.resolver.checkAtMost scope keyword count path cause)
      (outer.fault scope path value) (outer.Admits scope path value) := by
  refine Answers.andThen (carries.asked scope path value keyword _) (fun limit _ => ?_)
  cases limit with
  | none => exact Answers.ok Reading.Admits.accept
  | some limit => exact Answers.ok (carries.rejectIf scope path value _ (h limit))

/-! ### Values without parts -/

theorem patternVerdict (text pattern : String) :
    outer.Admits scope path value (Checker.patternVerdict text path pattern) := by
  unfold Checker.patternVerdict
  split
  · exact carries.rejectIf scope path value _ trivial
  · exact carries.reject scope path value trivial

theorem textVerdict (text : String) :
    Answers (checker.textVerdict scope path text) (outer.fault scope path value)
      (outer.Admits scope path value) := by
  refine Answers.andThen (carries.checkAtLeast scope path value _ _ fun _ => trivial) fun short hs => ?_
  refine Answers.andThen (carries.checkAtMost scope path value _ _ fun _ => trivial) fun long hl => ?_
  refine Answers.andThen (carries.asked scope path value _ _) fun pattern _ => ?_
  have hformat : Answers (checker.format? scope) (outer.fault scope path value) (fun _ => True) := by
    unfold Checker.format?
    split
    · exact carries.asked scope path value _ _
    · exact Answers.ok trivial
  refine Answers.andThen hformat fun format _ => Answers.ok (Reading.Admits.all ?_)
  have hp : outer.Admits scope path value (pattern.elim .accept (Checker.patternVerdict text path)) := by
    cases pattern with
    | none => exact Reading.Admits.accept
    | some pattern => exact carries.patternVerdict scope path value text pattern
  have hf : outer.Admits scope path value (format.elim .accept (Checker.formatVerdict text path)) := by
    cases format with
    | none => exact Reading.Admits.accept
    | some format => exact carries.rejectIf scope path value _ trivial
  simp only [List.forall_mem_cons]
  exact ⟨hs, hl, hp, hf, nofun⟩

theorem checkString : outer.Run scope path value (checker.checkString scope path value) := by
  cases value with
  | string text =>
    refine Run.Satisfies.bind (Run.Satisfies.meet (carries.seen_here scope path text)) fun _ _ => ?_
    exact Run.Satisfies.ofExcept (carries.textVerdict scope path (.string text) text)
  | _ => exact Run.Satisfies.ok (carries.reject scope path _ trivial)

theorem rangeVerdict (x : Binary64) :
    Answers (checker.rangeVerdict scope path x) (outer.fault scope path value)
      (outer.Admits scope path value) := by
  refine Answers.bind (carries.keyword scope path value _) fun low _ => ?_
  refine Answers.bind (carries.keyword scope path value _) fun high _ => ?_
  refine Answers.andThen (carries.asked scope path value _ _) fun minimum _ => ?_
  refine Answers.andThen (carries.asked scope path value _ _) fun maximum _ => ?_
  refine Answers.andThen (carries.asked scope path value _ _) fun divisor _ => ?_
  refine Answers.ok (Reading.Admits.all ?_)
  have hbound (applies : Bool) {cause : Cause} (h : cause.FoundAt scope) :=
    carries.rejectIf scope path value applies h
  have hmin : outer.Admits scope path value (minimumVerdict x minimum (isOn low) path) := by
    unfold minimumVerdict
    split
    · exact Reading.Admits.accept
    · split <;> exact hbound _ trivial
  have hemin : outer.Admits scope path value
      (exclusiveMinimumVerdict x (low.bind Json.binary64?) path) := by
    unfold exclusiveMinimumVerdict
    split
    · exact Reading.Admits.accept
    · exact hbound _ trivial
  have hmax : outer.Admits scope path value (maximumVerdict x maximum (isOn high) path) := by
    unfold maximumVerdict
    split
    · exact Reading.Admits.accept
    · split <;> exact hbound _ trivial
  have hemax : outer.Admits scope path value
      (exclusiveMaximumVerdict x (high.bind Json.binary64?) path) := by
    unfold exclusiveMaximumVerdict
    split
    · exact Reading.Admits.accept
    · exact hbound _ trivial
  have hdiv : outer.Admits scope path value
      (multipleVerdict checker.settings.multipleOfEpsilon x divisor path) := by
    unfold multipleVerdict
    split
    · exact Reading.Admits.accept
    · exact hbound _ trivial
  simp only [List.forall_mem_cons]
  exact ⟨hmin, hemin, hmax, hemax, hdiv, nofun⟩

theorem numberVerdict :
    Answers (checker.numberVerdict scope path value) (outer.fault scope path value)
      (outer.Admits scope path value) := by
  unfold Checker.numberVerdict
  split
  · exact Answers.ok (carries.reject scope path value trivial)
  · exact carries.rangeVerdict scope path value _

theorem integerVerdict :
    Answers (checker.integerVerdict scope path value) (outer.fault scope path value)
      (outer.Admits scope path value) := by
  refine Answers.andThen (carries.numberVerdict scope path value) fun verdict hv => ?_
  split
  · exact Answers.ok (hv.and (carries.reject scope path value trivial))
  · split
    · exact Answers.ok (hv.and (carries.rejectIf scope path value _ trivial))
    · exact Answers.ok (hv.and (carries.reject scope path value trivial))

theorem literalVerdict (fits : Bool) (kind : Kind) :
    outer.Admits scope path value (Checker.literalVerdict fits kind path value) := by
  cases fits with
  | true => exact Reading.Admits.accept
  | false => exact carries.reject scope path value trivial

/-! ### Parts of values

The check one step deeper is described by `inner`; what it meets and raises is
met and raised here, and so are its entries unless they go into a group. -/

section Parts
include below

theorem trial {scope : Scope} {value : Json} {step : Step} {scope' : Scope} {value' : Json}
    (h : checker.Descends scope value step scope' value') (path : Path) :
    (check scope' (path.child step) value').Satisfies (outer.seen scope path value)
      (outer.fault scope path value) (inner.Admits scope' (path.child step) value') :=
  (below scope' (path.child step) value').mono (carries.seen_below h path) (carries.fault_below h path)
    (fun _ hv => hv)

theorem part {scope : Scope} {value : Json} {step : Step} {scope' : Scope} {value' : Json}
    (h : checker.Descends scope value step scope' value') (hn : step.isNote = false) (path : Path) :
    outer.Run scope path value (check scope' (path.child step) value') :=
  (carries.trial below h path).mono (fun _ hs => hs) (fun _ he => he)
    (fun _ hv => ⟨hv.backed, fun entry he => carries.entry_below h hn path entry (hv.entries entry he)⟩)

end Parts

/-! ### Arrays -/

theorem itemsVerdict (items : List Json) :
    Answers (checker.itemsVerdict scope path items) (outer.fault scope path value)
      (outer.Admits scope path value) := by
  refine Answers.andThen (carries.checkAtLeast scope path value _ _ fun _ => trivial) fun few hf => ?_
  refine Answers.andThen (carries.checkAtMost scope path value _ _ fun _ => trivial) fun many hm => ?_
  have hunique : Answers (checker.uniqueVerdict scope path items) (outer.fault scope path value)
      (outer.Admits scope path value) := by
    refine Answers.andThen (carries.asked scope path value _ _) fun flag _ => ?_
    split
    · refine Answers.ok ?_
      unfold duplicateVerdict
      split
      · exact carries.reject scope path value trivial
      · exact Reading.Admits.accept
    · exact Answers.ok Reading.Admits.accept
  refine Answers.andThen hunique fun unique hu => Answers.ok (Reading.Admits.all ?_)
  simp only [List.forall_mem_cons]
  exact ⟨hf, hm, hu, nofun⟩

include below in
theorem checkArray : outer.Run scope path value (checker.checkArray check scope path value) := by
  cases value with
  | array items =>
    refine Run.Satisfies.bind (Run.Satisfies.ofExcept (carries.itemsVerdict scope path _ items)) ?_
    intro whole hwhole
    refine Run.Satisfies.lookup (carries.keyword scope path _ _) fun found hfound => ?_
    cases found with
    | none => exact Run.Satisfies.ok hwhole
    | some schema =>
      refine Run.Satisfies.bind (Reading.each fun member hm => ?_)
        fun each heach => Run.Satisfies.ok (hwhole.and heach)
      have hitem : items[member.2]? = some member.1 := List.mem_zipIdx_iff_getElem?.mp hm
      exact carries.part below (.item hfound hitem) rfl path
  | _ => exact Run.Satisfies.ok (carries.reject scope path _ trivial)

/-! ### Objects -/

theorem requiredVerdict {declared : Option Json} {fields : List (String × Json)}
    (looked : checker.resolver.lookup scope "properties" = .ok declared) (name : String) :
    Answers (checker.requiredVerdict fields (fieldsOf declared) path name)
      (outer.fault scope path value) (outer.Admits scope path value) := by
  have hmisplaced : Answers (checker.isDeclaredMisplaced (fieldsOf declared) name)
      (outer.fault scope path value) (fun _ => True) := by
    unfold isDeclaredMisplaced
    split
    case h_2 => exact Answers.ok trivial
    case h_1 schema hschema =>
      obtain ⟨found, rfl, has⟩ := exists_of_get?_fieldsOf hschema
      have hflag (keyword : String) : Answers (checker.resolver.flag (.root schema) keyword)
          (outer.fault scope path value) (fun _ => True) :=
        Answers.bind (fun _ he => carries.fault_here (.property looked has he) path)
          (fun _ _ => Answers.ok trivial)
      exact Answers.andThen (hflag "readOnly") fun _ _ =>
        Answers.andThen (hflag "writeOnly") fun _ _ => Answers.ok trivial
  refine Answers.andThen hmisplaced fun misplaced _ => Answers.ok ?_
  unfold presenceVerdict
  split
  · exact carries.reject scope path value trivial
  · refine carries.reject scope path value ?_
    cases checker.direction <;> exact trivial
  · exact Reading.Admits.accept

theorem countVerdict (count : Nat) :
    Answers (checker.countVerdict scope path count) (outer.fault scope path value)
      (outer.Admits scope path value) := by
  refine Answers.andThen (carries.checkAtLeast scope path value _ _ fun _ => trivial) fun few hf => ?_
  refine Answers.andThen (carries.checkAtMost scope path value _ _ fun _ => trivial) fun many hm => ?_
  exact Answers.ok (hf.and hm)

section Objects
include below

theorem checkDeclared {fields : List (String × Json)} {declared : Option Json}
    (looked : checker.resolver.lookup scope "properties" = .ok declared) {field : String × Json}
    (member : field ∈ fields) :
    outer.Run scope path (.object fields) (Checker.checkDeclared check (fieldsOf declared) path field) := by
  unfold Checker.checkDeclared
  split
  case h_2 => exact Run.Satisfies.ok Reading.Admits.accept
  case h_1 schema hschema =>
    obtain ⟨found, rfl, has⟩ := exists_of_get?_fieldsOf hschema
    exact carries.part below (.property looked has member) rfl path

theorem checkForbidden {fields : List (String × Json)} {excluded : Json} {declared : Option Json}
    (looked : checker.resolver.lookup scope "not" = .ok (some excluded))
    (shapes : checker.resolver.lookup (.root excluded) "properties" = .ok declared)
    {forbidden : String × Json} (has : forbidden ∈ fieldsOf declared) :
    outer.Run scope path (.object fields) (Checker.checkForbidden check fields path forbidden) := by
  unfold Checker.checkForbidden
  split
  case h_1 => exact Run.Satisfies.ok Reading.Admits.accept
  case h_2 value hvalue =>
    cases declared with
    | none => exact absurd has List.not_mem_nil
    | some found =>
      refine Run.Satisfies.bind (carries.trial below (.forbidden looked shapes has
        (Fields.mem_of_get? hvalue)) path) fun trial _ => Run.Satisfies.ok ?_
      exact carries.rejectIf scope path _ _ trivial

theorem checkExcluded {fields : List (String × Json)} {excluded : Option Json}
    (looked : checker.resolver.lookup scope "not" = .ok excluded) :
    outer.Run scope path (.object fields) (checker.checkExcluded check fields path excluded) := by
  cases excluded with
  | none => exact Run.Satisfies.ok Reading.Admits.accept
  | some schema =>
    have hkeyword (keyword : String) : ∀ e, checker.resolver.lookup (.root schema) keyword = .error e →
        outer.fault scope path (.object fields) e :=
      fun _ he => carries.fault_here (.forbidden looked he) path
    have htype : ∀ e, checker.resolver.effectiveType (.root schema) = .error e →
        outer.fault scope path (.object fields) e :=
      fun e he => hkeyword "type" e (Resolver.lookup_of_effectiveType_error he)
    refine Run.Satisfies.lookup htype fun found _ => ?_
    split
    · exact Run.Satisfies.ok Reading.Admits.accept
    · refine Run.Satisfies.lookup (hkeyword "required") fun required _ => ?_
      refine Run.Satisfies.lookup (hkeyword "properties") fun properties hproperties => ?_
      refine Run.Satisfies.bind (Reading.each fun forbidden hforbidden =>
        carries.checkForbidden below scope path looked hproperties hforbidden) fun shapes hshapes => ?_
      refine Run.Satisfies.ok (Reading.Admits.and (Reading.Admits.all fun verdict hv => ?_) hshapes)
      obtain ⟨name, _, rfl⟩ := List.mem_map.mp hv
      exact carries.rejectIf scope path _ _ trivial

theorem checkAdditional {fields : List (String × Json)} (declared : List (String × Json))
    {additional : Option Json}
    (looked : checker.resolver.lookup scope "additionalProperties" = .ok additional) :
    outer.Run scope path (.object fields)
      (Checker.checkAdditional check fields declared path additional) := by
  unfold Checker.checkAdditional
  split
  · refine Run.Satisfies.ok (Reading.Admits.all fun verdict hv => ?_)
    obtain ⟨field, _, rfl⟩ := List.mem_map.mp hv
    exact carries.rejectIf scope path _ _ trivial
  · exact Reading.each fun field hfield => carries.part below (.additional looked hfield) rfl path
  · exact Run.Satisfies.ok Reading.Admits.accept

theorem checkObject : outer.Run scope path value (checker.checkObject check scope path value) := by
  cases value with
  | object fields =>
    refine Run.Satisfies.lookup (carries.keyword scope path _ _) fun declared hdeclared => ?_
    refine Run.Satisfies.lookup (carries.keyword scope path _ _) fun required _ => ?_
    refine Run.Satisfies.bind (Reading.each fun name _ => Run.Satisfies.ofExcept
      (carries.requiredVerdict scope path (.object fields) hdeclared name)) fun needed hneeded => ?_
    refine Run.Satisfies.bind (Reading.each fun field hfield =>
      carries.checkDeclared below scope path hdeclared hfield) fun properties hproperties => ?_
    refine Run.Satisfies.lookup (carries.keyword scope path _ _) fun excluded hexcluded => ?_
    refine Run.Satisfies.bind (carries.checkExcluded below scope path hexcluded) fun shapes hshapes => ?_
    refine Run.Satisfies.bind (Run.Satisfies.ofExcept (carries.countVerdict scope path _ _))
      fun counted hcounted => ?_
    refine Run.Satisfies.lookup (carries.keyword scope path _ _) fun additional hadditional => ?_
    refine Run.Satisfies.bind (carries.checkAdditional below scope path _ hadditional)
      fun others hothers => Run.Satisfies.ok (Reading.Admits.all ?_)
    simp only [List.forall_mem_cons]
    exact ⟨hneeded, hproperties, hshapes, hcounted, hothers, nofun⟩
  | _ => exact Run.Satisfies.ok (carries.reject scope path _ trivial)

end Objects

/-! ### Branches -/

theorem verdict {tally : Tally} (h : outer.Groups scope path value tally) (combinator : Combinator) :
    outer.Admits scope path value (tally.verdict combinator path) := by
  unfold Tally.verdict
  split
  · exact Reading.Admits.accept
  · refine ⟨Verdict.Backed.of_head, fun entry he => ?_⟩
    rcases List.mem_cons.mp he with rfl | hgroup
    · refine carries.leaf scope path value ?_
      unfold Tally.cause
      split
      · split <;> exact trivial
      · exact trivial
      · exact trivial
    · unfold Tally.groups at hgroup
      split at hgroup
      · exact absurd hgroup List.not_mem_nil
      · obtain ⟨rejection, hr, rfl⟩ := List.mem_map.mp hgroup
        exact h rejection hr

section Branches
include below

/-- The branches from position `index` on; `branches` holds all of them. -/
theorem tallyBranches {combinator : Combinator} {branches : List Json}
    (looked : checker.resolver.lookup scope combinator.keyword = .ok (some (.array branches)))
    (rest : List Json) (index : Nat)
    (here : ∀ offset branch, rest[offset]? = some branch → branches[index + offset]? = some branch) :
    (checker.tallyBranches check combinator scope path value index rest).Satisfies
      (outer.seen scope path value) (outer.fault scope path value) (outer.Groups scope path value) := by
  induction rest generalizing index with
  | nil => exact Run.Satisfies.ok (fun _ h => absurd h List.not_mem_nil)
  | cons branch rest ih =>
    have hbranch : branches[index]? = some branch := here 0 branch rfl
    have hdescend : checker.Descends scope value (.branch index) (.nested branch scope) value :=
      .branch looked hbranch
    have hrest := ih (index + 1) fun offset found hfound => by
      rw [Nat.add_right_comm]
      exact here (offset + 1) found hfound
    refine Run.Satisfies.bind (carries.trial below hdescend path) fun verdict hv => ?_
    -- an accepted branch costs one more lookup, a rejected one leaves its entries
    cases haccepted : verdict.accepted with
    | true =>
      rw [if_pos rfl]
      refine Run.Satisfies.bind (Run.Satisfies.ofExcept (?_ : Answers _ _ fun _ => True))
        fun description _ => ?_
      · exact Answers.bind (fun _ he => carries.fault_here (.branch looked hbranch he) path)
          (fun _ _ => Answers.ok trivial)
      · exact Run.Satisfies.bind hrest fun others ho => Run.Satisfies.ok ho
    | false =>
      rw [if_neg nofun]
      refine Run.Satisfies.bind hrest fun others ho => Run.Satisfies.ok fun rejection hr => ?_
      rcases List.mem_cons.mp hr with rfl | hr
      · rw [branchKey_eq_groupKey]
        exact carries.group hdescend (.branch combinator index) path
          (hv.backed.leaf_of_rejected haccepted) hv.entries
      · exact ho rejection hr

theorem tallySelected {discriminator : Json} {property : String} {branches : List Json}
    (declared : checker.resolver.lookup scope Combinator.oneOf.keyword = .ok (some (.array branches)))
    (looked : checker.resolver.lookup scope "discriminator" = .ok (some discriminator))
    (named : propertyName? discriminator = some property) :
    (checker.tallySelected check discriminator property scope path value).Satisfies
      (outer.seen scope path value) (outer.fault scope path value) (outer.Groups scope path value) := by
  unfold Checker.tallySelected
  split
  case h_1 =>
    refine Run.Satisfies.ok fun rejection hr => ?_
    rw [List.mem_singleton.mp hr]
    exact carries.missing scope path value property
  case h_2 selected hchosen =>
    refine Run.Satisfies.lookup
      (fun _ he => carries.fault_here (.selection looked named hchosen he) path) fun branch htarget => ?_
    have hdescend := Descends.selection declared looked named hchosen htarget
    refine Run.Satisfies.bind (carries.trial below hdescend path) fun verdict hv => ?_
    cases haccepted : verdict.accepted with
    | true => exact Run.Satisfies.ok (fun _ h => absurd h List.not_mem_nil)
    | false =>
      refine Run.Satisfies.ok fun rejection hr => ?_
      rw [List.mem_singleton.mp hr]
      exact carries.group hdescend (.selection property (selectorOf selected)) path
        (hv.backed.leaf_of_rejected haccepted) hv.entries

theorem checkCombinator {combinator : Combinator} {branches : Json}
    (looked : checker.resolver.lookup scope combinator.keyword = .ok (some branches)) :
    outer.Run scope path value (checker.checkCombinator check combinator branches scope path value) := by
  cases branches with
  | array branches =>
    have hall : ∀ offset branch, branches[offset]? = some branch →
        branches[0 + offset]? = some branch := fun offset branch h => by rw [Nat.zero_add]; exact h
    have hbranches := carries.tallyBranches below scope path value looked branches 0 hall
    refine Run.Satisfies.lookup (fun e he => ?_) fun discriminator hdiscriminator =>
      Run.Satisfies.bind ?_ fun tally ht => Run.Satisfies.ok (carries.verdict scope path value ht combinator)
    · cases combinator with
      | oneOf => exact carries.keyword scope path value _ e he
      | anyOf => cases he
      | allOf => cases he
    · unfold Checker.tally
      split
      case h_1 discriminator property hnamed =>
        cases combinator with
        | oneOf => exact carries.tallySelected below scope path value looked hdiscriminator hnamed
        | anyOf => cases hdiscriminator
        | allOf => cases hdiscriminator
      case h_2 => exact hbranches
  | _ => exact Run.Satisfies.ok (carries.reject scope path value trivial)

end Branches

/-! ### Dispatch -/

theorem enumVerdict (allowed : Json) :
    outer.Admits scope path value (Checker.enumVerdict allowed path value) :=
  carries.rejectIf scope path value _ trivial

theorem declaredAmong (combinators : List Combinator) :
    Answers (checker.declaredAmong scope combinators) (outer.fault scope path value)
      (fun _ => True) := by
  induction combinators with
  | nil => exact Answers.ok trivial
  | cons combinator rest ih =>
    refine Answers.bind (carries.keyword scope path value _) fun branches _ => ?_
    exact Answers.andThen ih fun others _ => Answers.ok trivial

section Dispatch
include below

theorem checkKind (kind : Kind) :
    outer.Run scope path value (checker.checkKind check kind scope path value) := by
  cases kind with
  | object => exact carries.checkObject below scope path value
  | array => exact carries.checkArray below scope path value
  | string => exact carries.checkString scope path value
  | number => exact Run.Satisfies.ofExcept (carries.numberVerdict scope path value)
  | integer => exact Run.Satisfies.ofExcept (carries.integerVerdict scope path value)
  | boolean => exact Run.Satisfies.ok (carries.literalVerdict scope path value _ .boolean)
  | null => exact Run.Satisfies.ok (carries.literalVerdict scope path value _ .null)

theorem checkType : outer.Run scope path value (checker.checkType check scope path value) := by
  have hfault : ∀ e, checker.resolver.effectiveType scope = .error e → outer.fault scope path value e :=
    fun e he => carries.keyword scope path value "type" e (Resolver.lookup_of_effectiveType_error he)
  refine Run.Satisfies.lookup hfault fun effective heffective => ?_
  cases effective with
  | known kind => exact carries.checkKind below scope path value kind
  | unsupported name => exact Run.Satisfies.ok (carries.reject scope path value trivial)
  | undetermined =>
    exact Run.Satisfies.ok (carries.reject scope path value
      (Resolver.parents_of_undetermined heffective))

theorem checkNode : outer.Run scope path value (checker.checkNode check scope path value) := by
  refine Run.Satisfies.lookup (carries.keyword scope path value _) fun allowed _ => ?_
  cases allowed with
  | some allowed => exact Run.Satisfies.ok (carries.enumVerdict scope path value allowed)
  | none =>
    have hexempts : Answers (checker.exempts scope value) (outer.fault scope path value)
        (fun _ => True) := by
      unfold Checker.exempts
      split
      · exact carries.asked scope path value _ _
      · exact Answers.ok trivial
    refine Run.Satisfies.bind (Run.Satisfies.ofExcept hexempts) fun exempt _ => ?_
    cases exempt with
    | true => exact Run.Satisfies.ok Reading.Admits.accept
    | false =>
      refine Run.Satisfies.lookup (carries.declaredAmong scope path value _).fault
        fun declared hdeclared => ?_
      split
      · exact carries.checkType below scope path value
      · exact carries.checkCombinator below scope path value
          (lookup_of_declaredAmong hdeclared List.mem_cons_self)
      · exact Run.Satisfies.ok (carries.reject scope path value trivial)

end Dispatch
end Checker.Carries

/-- Readings that each depth hands on to the next hold of the check at every
depth; a check with no steps left only faults. -/
theorem Checker.checkWithin_describes (checker : Checker) (readings : Nat → Reading)
    (start : ∀ scope path value,
      (readings 0).fault scope path value (.tooDeep path checker.settings.maxDepth))
    (step : ∀ depth, checker.Carries (readings depth) (readings (depth + 1))) (depth : Nat) :
    (readings depth).Describes (checker.checkWithin depth) := by
  induction depth with
  | zero => exact fun scope path value => Run.Satisfies.error (start scope path value)
  | succ depth ih => exact fun scope path value => (step depth).checkNode ih scope path value

/-! ### Readings of violations -/

/-- A reading of violations alone, each with the keys of the groups around it. -/
def Reading.ofLeaves (located : Scope → Path → Json → List String → Violation → Prop) : Reading where
  seen _ _ _ _ := True
  fault _ _ _ _ := True
  entry scope path value entry := ∀ keys violation, Entry.At (.leaf violation) keys [entry] →
    located scope path value keys violation

/-- What a check has to keep of a reading of violations: those that it finds in place,
those from one step deeper, and those that it puts under a key. -/
theorem Checker.carries_ofLeaves {checker : Checker}
    {located : Scope → Path → Json → List String → Violation → Prop}
    (here : ∀ scope path value {cause : Cause}, cause.FoundAt scope →
      located scope path value [] ⟨path, cause⟩)
    (below : ∀ {scope value step scope' value'}, checker.Descends scope value step scope' value' →
      step.isNote = false → ∀ path keys violation,
        located scope' (path.child step) value' keys violation →
          located scope path value keys violation)
    (group : ∀ {scope value step scope' value' key},
      checker.Descends scope value step scope' value' → step.Marks key → ∀ path keys violation,
        located scope' (path.child step) value' keys violation →
          located scope path value (key :: keys) violation)
    (missing : ∀ scope path value property,
      located scope path value [selectionKey property] ⟨path, .discriminatorMissing property⟩) :
    checker.Carries (.ofLeaves located) (.ofLeaves located) where
  seen_here _ _ _ := trivial
  seen_below _ _ _ _ := trivial
  fault_here _ _ := trivial
  fault_below _ _ _ _ := trivial
  leaf scope path value cause hcause keys violation hat := by
    obtain ⟨rfl, hleaf⟩ := Entry.at_leaf_iff.mp hat
    cases hleaf
    exact here scope path value hcause
  entry_below hd hn path entry h keys violation hat :=
    below hd hn path keys violation (h keys violation hat)
  group hd hm path entries _ h keys violation hat := by
    rcases Entry.at_group_iff.mp hat with ⟨_, hgroup⟩ | ⟨rest, rfl, hrest⟩
    · cases hgroup
    · obtain ⟨entry, hentry, hat'⟩ := hrest.exists_mem
      exact group hd hm path rest violation (h entry hentry rest violation hat')
  missing scope path value property keys violation hat := by
    rcases Entry.at_group_iff.mp hat with ⟨_, hgroup⟩ | ⟨rest, rfl, hrest⟩
    · cases hgroup
    · obtain ⟨rfl, hleaf⟩ := Entry.at_leaf_iff.mp hrest
      cases hleaf
      exact missing scope path value property

end ApiContract
