import ApiContract.Proofs.Agreement

/-!
# Runs at corresponding places

Two runs correspond if they meet the same strings and come to the same verdict
or fault, all at corresponding places, or if the first one ends in a fault of a
kind that is excused.  At the same places such runs agree.
-/

namespace ApiContract

/-- Entries that are the same but for their places. -/
inductive Entry.Moved (places : Path → Path → Prop) : Entry → Entry → Prop where
  | leaf {path path' : Path} (place : places path path') (cause : Cause) :
    Moved places (.leaf ⟨path, cause⟩) (.leaf ⟨path', cause⟩)
  | group (key : String) {entries entries' : List Entry}
    (inner : List.Forall₂ (Moved places) entries entries') :
    Moved places (.group key entries) (.group key entries')

/-- Verdicts that are the same but for the places of their entries. -/
structure Verdict.Moved (places : Path → Path → Prop) (first second : Verdict) : Prop where
  accepted : first.accepted = second.accepted
  entries : List.Forall₂ (Entry.Moved places) first.entries second.entries

/-- Tallies that are the same but for the places of the entries. -/
structure Tally.Moved (places : Path → Path → Prop) (first second : Tally) : Prop where
  matched : first.matched = second.matched
  rejected : List.Forall₂ (fun a b => a.1 = b.1 ∧ List.Forall₂ (Entry.Moved places) a.2 b.2)
    first.rejected second.rejected

/-- The same string at corresponding places. -/
structure Sighting.Moved (places : Path → Path → Prop) (first second : Sighting) : Prop where
  place : places first.path second.path
  text : first.text = second.text

/-- The same fault, or the depth limit at corresponding places. -/
inductive Fault.Moved (places : Path → Path → Prop) : Fault → Fault → Prop where
  | same (e : Fault) : Moved places e e
  | tooDeep {path path' : Path} (place : places path path') (limit : Nat) :
    Moved places (.tooDeep path limit) (.tooDeep path' limit)

/-- Two outcomes with related results or with corresponding faults, unless the
first is an excused fault. -/
inductive Corresponds {α β : Type} (excused : Fault → Prop) (places : Path → Path → Prop)
    (related : α → β → Prop) : Except Fault α → Except Fault β → Prop where
  | ok {a : α} {b : β} (results : related a b) : Corresponds excused places related (.ok a) (.ok b)
  | error {e e' : Fault} (faults : e.Moved places e') :
    Corresponds excused places related (.error e) (.error e')
  | excused {e : Fault} (h : excused e) (other : Except Fault β) :
    Corresponds excused places related (.error e) other

/-- Two runs that meet the same strings at corresponding places and end in
corresponding outcomes, unless the first ends in an excused fault. -/
def Run.Corresponds {α β : Type} (excused : Fault → Prop) (places : Path → Path → Prop)
    (related : α → β → Prop) (first : Run α) (second : Run β) : Prop :=
  (List.Forall₂ (Sighting.Moved places) first.sightings second.sightings ∧
      ApiContract.Corresponds excused places related first.outcome second.outcome) ∨
    ∃ e, first.outcome = .error e ∧ excused e

/-- A relation between verdicts that holds of two acceptances, and of verdicts
put together from related ones. -/
structure Verdict.Compositional (related : Verdict → Verdict → Prop) : Prop where
  accept : related .accept .accept
  and {first second first' second' : Verdict} (hf : related first first')
    (hs : related second second') : related (first.and second) (first'.and second')

/-- Two outcomes of verdicts that correspond. -/
abbrev Moved (excused : Fault → Prop) (places : Path → Path → Prop) :
    Except Fault Verdict → Except Fault Verdict → Prop :=
  Corresponds excused places (Verdict.Moved places)

/-- Two runs to verdicts that correspond. -/
abbrev Run.Moved (excused : Fault → Prop) (places : Path → Path → Prop) :
    Run Verdict → Run Verdict → Prop :=
  Run.Corresponds excused places (Verdict.Moved places)

variable {α β γ δ : Type} {excused : Fault → Prop} {places : Path → Path → Prop}

/-! ### The same place -/

mutual

theorem Entry.eq_of_moved : (first : Entry) → {second : Entry} → first.Moved Eq second →
    first = second
  | .leaf _, _, .leaf place _ => by rw [place]
  | .group _ entries, _, .group _ inner => by rw [eq_of_forall_moved entries inner]

theorem Entry.eq_of_forall_moved : (first : List Entry) → {second : List Entry} →
    List.Forall₂ (Moved Eq) first second → first = second
  | [], _, .nil => rfl
  | entry :: rest, _, .cons head tail => by
    rw [eq_of_moved entry head, eq_of_forall_moved rest tail]

end

mutual

theorem Entry.moved_self : (entry : Entry) → entry.Moved Eq entry
  | .leaf violation => .leaf rfl violation.cause
  | .group key entries => .group key (forall_moved_self entries)

theorem Entry.forall_moved_self : (entries : List Entry) → List.Forall₂ (Moved Eq) entries entries
  | [] => .nil
  | entry :: rest => .cons (moved_self entry) (forall_moved_self rest)

end

theorem Verdict.moved_self (verdict : Verdict) : verdict.Moved Eq verdict :=
  ⟨rfl, Entry.forall_moved_self verdict.entries⟩

theorem Verdict.eq_of_moved {first second : Verdict} (h : first.Moved Eq second) :
    first = second := by
  obtain ⟨accepted, entries⟩ := first
  obtain ⟨haccepted, hentries⟩ := h
  cases haccepted
  cases Entry.eq_of_forall_moved entries hentries
  rfl

theorem Fault.eq_of_moved {e e' : Fault} (h : e.Moved Eq e') : e = e' := by
  cases h with
  | same e => rfl
  | tooDeep place limit => rw [place]

theorem Sighting.eq_of_moved {first second : Sighting} (h : first.Moved Eq second) :
    first = second := by
  obtain ⟨path, text⟩ := first
  obtain ⟨hplace, htext⟩ := h
  cases hplace
  cases htext
  rfl

theorem Sighting.eq_of_forall_moved {first second : List Sighting}
    (h : List.Forall₂ (Moved Eq) first second) : first = second :=
  List.forall₂_eq_eq_eq ▸ h.imp fun _ _ hmoved => eq_of_moved hmoved

/-- Verdicts of runs that correspond at the same places are the same. -/
theorem Run.Corresponds.agree {first second : Run Verdict}
    (h : Run.Moved excused Eq first second) : Run.Agree excused first second := by
  obtain ⟨sightings, outcome⟩ := first
  obtain ⟨sightings', outcome'⟩ := second
  rcases h with ⟨hsightings, houtcome⟩ | hexcused
  · have hmet : sightings = sightings' := by
      have hsame := hsightings.imp fun _ _ hmoved => Sighting.eq_of_moved hmoved
      exact List.forall₂_eq_eq_eq ▸ hsame
    dsimp only at houtcome
    cases houtcome with
    | ok results => rw [hmet, Verdict.eq_of_moved results]; exact .inl rfl
    | error faults => rw [hmet, Fault.eq_of_moved faults]; exact .inl rfl
    | excused h other => exact .inr ⟨_, rfl, h⟩
  · exact .inr hexcused

/-- Where the first run succeeds the second one does, after meeting the same strings. -/
theorem Run.Corresponds.exists_of_ok {related : α → β → Prop} {first : Run α} {second : Run β} {a : α}
    (h : Run.Corresponds excused Eq related first second) (hok : first.outcome = .ok a) :
    first.sightings = second.sightings ∧ ∃ b, second.outcome = .ok b ∧ related a b := by
  obtain ⟨sightings, outcome⟩ := first
  obtain ⟨sightings', outcome'⟩ := second
  cases hok
  rcases h with ⟨hsightings, houtcome⟩ | ⟨e, he, _⟩
  · refine ⟨Sighting.eq_of_forall_moved hsightings, ?_⟩
    dsimp only at houtcome ⊢
    cases houtcome with
    | ok results => exact ⟨_, rfl, results⟩
  · cases he

/-- A run corresponds to itself if places and results do. -/
theorem Run.Corresponds.refl {related : α → α → Prop} (hplaces : ∀ path, places path path)
    (hrelated : ∀ a, related a a) (run : Run α) :
    Run.Corresponds excused places related run run := by
  refine .inl ⟨List.forall₂_same.mpr fun sighting _ => ⟨hplaces sighting.path, rfl⟩, ?_⟩
  cases run.outcome with
  | error e => exact .error (.same e)
  | ok a => exact .ok (hrelated a)

theorem Run.Corresponds.of_agree {first second : Run Verdict} (h : Run.Agree excused first second) :
    Run.Moved excused Eq first second := by
  rcases h with rfl | hexcused
  · exact refl (fun _ => rfl) Verdict.moved_self first
  · exact .inr hexcused

/-! ### Outcomes -/

namespace Corresponds
variable {related : α → β → Prop} {related' : γ → δ → Prop}

theorem of_agree {first second : Except Fault α} (h : Agree excused first second) :
    Corresponds excused places Eq first second := by
  rcases h with rfl | ⟨e, rfl, he⟩
  · cases first with
    | error e => exact .error (.same e)
    | ok a => exact .ok rfl
  · exact .excused he second

theorem bind {first : Except Fault α} {second : Except Fault β} {next : α → Except Fault γ}
    {next' : β → Except Fault δ} (h : Corresponds excused places related first second)
    (hn : ∀ a b, related a b → Corresponds excused places related' (next a) (next' b)) :
    Corresponds excused places related' (first >>= next) (second >>= next') := by
  cases h with
  | ok results => exact hn _ _ results
  | error faults => exact .error faults
  | excused h other => exact .excused h _

theorem lookup {first second : Except Fault α} {next : α → Except Fault γ}
    {next' : α → Except Fault δ} (h : Agree excused first second)
    (hn : ∀ a, Corresponds excused places related' (next a) (next' a)) :
    Corresponds excused places related' (first >>= next) (second >>= next') :=
  (of_agree h).bind fun a _ hsame => hsame ▸ hn a

/-- A first run in place of one that it agrees with. -/
theorem of_agree_left {first second : Except Fault α} {third : Except Fault β}
    (h : Agree excused first second) (h' : Corresponds excused places related second third) :
    Corresponds excused places related first third := by
  rcases h with rfl | ⟨e, rfl, he⟩
  · exact h'
  · exact .excused he third

end Corresponds

/-! ### Verdicts -/

theorem Verdict.Compositional.all {related : Verdict → Verdict → Prop} (h : Compositional related)
    {verdicts verdicts' : List Verdict} (hall : List.Forall₂ related verdicts verdicts') :
    related (Verdict.all verdicts) (.all verdicts') := by
  induction hall with
  | nil => exact h.accept
  | cons head _ ih => exact h.and head ih

namespace Verdict.Moved
variable {path path' : Path} (place : places path path')

theorem accept : Verdict.accept.Moved places .accept := ⟨rfl, .nil⟩

theorem of_head {cause : Cause} {entries entries' : List Entry} (place : places path path')
    (h : List.Forall₂ (Entry.Moved places) entries entries') :
    Verdict.Moved places ⟨false, .leaf ⟨path, cause⟩ :: entries⟩
      ⟨false, .leaf ⟨path', cause⟩ :: entries'⟩ :=
  ⟨rfl, .cons (.leaf place cause) h⟩

theorem and {first second first' second' : Verdict} (hf : first.Moved places first')
    (hs : second.Moved places second') : (first.and second).Moved places (first'.and second') := by
  refine ⟨?_, List.rel_append hf.entries hs.entries⟩
  show (first.accepted && second.accepted) = (first'.accepted && second'.accepted)
  rw [hf.accepted, hs.accepted]

theorem compositional : Compositional (Verdict.Moved places) := ⟨accept, and⟩

theorem all {verdicts verdicts' : List Verdict}
    (h : List.Forall₂ (Verdict.Moved places) verdicts verdicts') :
    (Verdict.all verdicts).Moved places (.all verdicts') := compositional.all h

theorem all_map {items : List α} {verdict verdict' : α → Verdict}
    (h : ∀ a, (verdict a).Moved places (verdict' a)) :
    (Verdict.all (items.map verdict)).Moved places (.all (items.map verdict')) := by
  refine all (List.forall₂_map_left_iff.mpr (List.forall₂_map_right_iff.mpr ?_))
  exact List.forall₂_same.mpr fun a _ => h a

include place

theorem reject (cause : Cause) : (Verdict.reject path cause).Moved places (.reject path' cause) :=
  of_head place .nil

theorem rejectIf (applies : Bool) (cause : Cause) :
    (Verdict.rejectIf applies path cause).Moved places (.rejectIf applies path' cause) := by
  cases applies with
  | true => exact reject place cause
  | false => exact accept

theorem patternVerdict (text pattern : String) :
    (Checker.patternVerdict text path pattern).Moved places
      (Checker.patternVerdict text path' pattern) := by
  unfold Checker.patternVerdict
  split
  · exact rejectIf place _ _
  · exact reject place _

theorem minimumVerdict (x : Binary64) (minimum? : Option Binary64) (exclusive : Bool) :
    (Checker.minimumVerdict x minimum? exclusive path).Moved places
      (Checker.minimumVerdict x minimum? exclusive path') := by
  unfold Checker.minimumVerdict
  split
  · exact accept
  · split <;> exact rejectIf place _ _

theorem exclusiveMinimumVerdict (x : Binary64) (minimum? : Option Binary64) :
    (Checker.exclusiveMinimumVerdict x minimum? path).Moved places
      (Checker.exclusiveMinimumVerdict x minimum? path') := by
  unfold Checker.exclusiveMinimumVerdict
  split
  · exact accept
  · exact rejectIf place _ _

theorem maximumVerdict (x : Binary64) (maximum? : Option Binary64) (exclusive : Bool) :
    (Checker.maximumVerdict x maximum? exclusive path).Moved places
      (Checker.maximumVerdict x maximum? exclusive path') := by
  unfold Checker.maximumVerdict
  split
  · exact accept
  · split <;> exact rejectIf place _ _

theorem exclusiveMaximumVerdict (x : Binary64) (maximum? : Option Binary64) :
    (Checker.exclusiveMaximumVerdict x maximum? path).Moved places
      (Checker.exclusiveMaximumVerdict x maximum? path') := by
  unfold Checker.exclusiveMaximumVerdict
  split
  · exact accept
  · exact rejectIf place _ _

theorem multipleVerdict (epsilon x : Binary64) (divisor? : Option Binary64) :
    (Checker.multipleVerdict epsilon x divisor? path).Moved places
      (Checker.multipleVerdict epsilon x divisor? path') := by
  unfold Checker.multipleVerdict
  split
  · exact accept
  · exact rejectIf place _ _

theorem duplicateVerdict (items : List Json) :
    (ApiContract.duplicateVerdict path items).Moved places
      (ApiContract.duplicateVerdict path' items) := by
  unfold ApiContract.duplicateVerdict
  split
  · exact reject place _
  · exact accept

theorem presenceVerdict (checker : Checker) (present misplaced : Bool) (name : String) :
    (checker.presenceVerdict present misplaced path name).Moved places
      (checker.presenceVerdict present misplaced path' name) := by
  unfold Checker.presenceVerdict
  split
  · exact reject place _
  · exact reject place _
  · exact accept

theorem literalVerdict (fits : Bool) (kind : Kind) (value : Json) :
    (Checker.literalVerdict fits kind path value).Moved places
      (Checker.literalVerdict fits kind path' value) := by
  cases fits with
  | true => exact accept
  | false => exact reject place _

theorem enumVerdict (allowed value : Json) :
    (Checker.enumVerdict allowed path value).Moved places
      (Checker.enumVerdict allowed path' value) := rejectIf place _ _

end Verdict.Moved

/-! ### Runs -/

namespace Run.Corresponds
variable {related : α → β → Prop} {related' : γ → δ → Prop}

theorem result {a : α} {b : β} (h : related a b) :
    Run.Corresponds excused places related (Run.result a) (Run.result b) :=
  .inl ⟨.nil, .ok h⟩

theorem ofExcept {first : Except Fault α} {second : Except Fault β}
    (h : ApiContract.Corresponds excused places related first second) :
    Run.Corresponds excused places related (Run.ofExcept first) (Run.ofExcept second) :=
  .inl ⟨.nil, h⟩

theorem bind {first : Run α} {second : Run β} {next : α → Run γ} {next' : β → Run δ}
    (h : Run.Corresponds excused places related first second)
    (hn : ∀ a b, related a b → Run.Corresponds excused places related' (next a) (next' b)) :
    Run.Corresponds excused places related' (first >>= next) (second >>= next') := by
  obtain ⟨sightings, outcome⟩ := first
  obtain ⟨sightings', outcome'⟩ := second
  rcases h with ⟨hsightings, houtcome⟩ | ⟨e, he, hexcused⟩
  · dsimp only at hsightings houtcome
    cases houtcome with
    | ok results =>
      rw [bind_ok, bind_ok]
      rcases hn _ _ results with ⟨hmore, hlast⟩ | hexcused
      · exact .inl ⟨List.rel_append hsightings hmore, hlast⟩
      · exact .inr hexcused
    | error faults => exact .inl ⟨hsightings, .error faults⟩
    | excused h other => exact .inr ⟨_, rfl, h⟩
  · cases he
    exact .inr ⟨e, rfl, hexcused⟩

/-- A lookup before a run; the run may use what the lookup gave. -/
theorem lookup {first second : Except Fault α} {next : α → Run γ} {next' : α → Run δ}
    (h : ApiContract.Agree excused first second)
    (hn : ∀ a, first = .ok a → Run.Corresponds excused places related' (next a) (next' a)) :
    Run.Corresponds excused places related' (Run.ofExcept first >>= next)
      (Run.ofExcept second >>= next') := by
  rcases h with rfl | ⟨e, rfl, he⟩
  · cases first with
    | error e => exact .inl ⟨.nil, .error (.same e)⟩
    | ok a => exact hn a rfl
  · exact .inr ⟨e, rfl, he⟩

theorem imp {related' : α → β → Prop} {first : Run α} {second : Run β}
    (h : Run.Corresponds excused places related first second)
    (himp : ∀ a b, related a b → related' a b) :
    Run.Corresponds excused places related' first second := by
  obtain ⟨sightings, outcome⟩ := first
  obtain ⟨sightings', outcome'⟩ := second
  rcases h with ⟨hsightings, houtcome⟩ | hexcused
  · refine .inl ⟨hsightings, ?_⟩
    dsimp only at houtcome ⊢
    cases houtcome with
    | ok results => exact .ok (himp _ _ results)
    | error faults => exact .error faults
    | excused h other => exact .excused h _
  · exact .inr hexcused

/-- Several checks in order, on things that go in pairs. -/
theorem each_pair {verdicts : Verdict → Verdict → Prop} (hverdicts : Verdict.Compositional verdicts)
    {check : α → Run Verdict} {check' : β → Run Verdict} {as : List α} {bs : List β}
    (h : List.Forall₂ (fun a b => Run.Corresponds excused places verdicts (check a) (check' b)) as bs) :
    Run.Corresponds excused places verdicts (Run.each check as) (Run.each check' bs) := by
  induction h with
  | nil => exact result hverdicts.accept
  | cons head _ ih =>
    exact head.bind fun _ _ hfirst => ih.bind fun _ _ hothers => result (hverdicts.and hfirst hothers)

theorem each {check check' : α → Run Verdict} {items : List α}
    (h : ∀ a ∈ items, Run.Moved excused places (check a) (check' a)) :
    Run.Moved excused places (Run.each check items) (Run.each check' items) :=
  each_pair Verdict.Moved.compositional (List.forall₂_same.mpr h)

end Run.Corresponds

/-! ### Tallies -/

namespace Tally
variable {first second : Tally} (hmatched : first.matched = second.matched)
  (hlength : first.rejected.length = second.rejected.length)
include hmatched hlength

theorem accepts_congr (combinator : Combinator) :
    first.accepts combinator = second.accepts combinator := by
  cases combinator with
  | oneOf => simp [accepts, hmatched]
  | anyOf => simp [accepts, hmatched]
  | allOf =>
    show first.rejected.isEmpty = second.rejected.isEmpty
    rw [Bool.eq_iff_iff, List.isEmpty_iff_length_eq_zero, List.isEmpty_iff_length_eq_zero, hlength]

theorem cause_congr (combinator : Combinator) : first.cause combinator = second.cause combinator := by
  cases combinator with
  | oneOf => simp [cause, hmatched]
  | anyOf => rfl
  | allOf => simp [cause, hlength]

end Tally

namespace Tally.Moved
variable {first second : Tally} (h : first.Moved places second)
include h

theorem accepting (description : String) :
    (first.accepting description).Moved places (second.accepting description) :=
  ⟨congrArg (description :: ·) h.matched, h.rejected⟩

theorem rejecting (key : String) {entries entries' : List Entry}
    (inner : List.Forall₂ (Entry.Moved places) entries entries') :
    (first.rejecting key entries).Moved places (second.rejecting key entries') :=
  ⟨h.matched, .cons ⟨rfl, inner⟩ h.rejected⟩

theorem groups (combinator : Combinator) :
    List.Forall₂ (Entry.Moved places) (first.groups combinator) (second.groups combinator) := by
  unfold Tally.groups
  rw [h.matched]
  split
  · exact .nil
  · refine List.forall₂_map_left_iff.mpr (List.forall₂_map_right_iff.mpr ?_)
    refine h.rejected.imp fun a b hab => ?_
    obtain ⟨key, entries⟩ := a
    obtain ⟨rfl, hinner⟩ := hab
    exact .group _ hinner

theorem verdict {path path' : Path} (place : places path path') (combinator : Combinator) :
    (first.verdict combinator path).Moved places (second.verdict combinator path') := by
  have hlength := h.rejected.length_eq
  unfold Tally.verdict
  rw [accepts_congr h.matched hlength, cause_congr h.matched hlength]
  split
  · exact .accept
  · exact .of_head place (h.groups combinator)

end Tally.Moved

end ApiContract
