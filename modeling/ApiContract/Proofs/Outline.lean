import ApiContract.Exchange
import ApiContract.Proofs.Correspondence

/-!
# Outlines of reports

The outline of a report is its verdict and the tree of what was found: the keys
of the groups and, of each violation, the place and the kind of its cause.  The
numbers and texts that a message names are left out.
-/

namespace ApiContract

/-- Position of a cause's kind among the kinds of causes. -/
def Cause.variant (cause : Cause) : Nat := cause.ctorIdx

/-- An entry without the particulars of its causes. -/
inductive Outline where
  | leaf (path : Path) (variant : Nat)
  | group (key : String) (inner : List Outline)

namespace Entry

mutual

def outline : Entry → Outline
  | leaf violation => .leaf violation.path violation.cause.variant
  | group key entries => .group key (outlines entries)

def outlines : List Entry → List Outline
  | [] => []
  | entry :: rest => outline entry :: outlines rest

end

theorem outlines_eq_map (entries : List Entry) : outlines entries = entries.map outline := by
  induction entries with
  | nil => rfl
  | cons entry rest ih => rw [outlines, ih, List.map_cons]

theorem outlines_append (front back : List Entry) :
    outlines (front ++ back) = outlines front ++ outlines back := by
  rw [outlines_eq_map, outlines_eq_map, outlines_eq_map, List.map_append]

end Entry

/-- The verdict and the outlines of what was found. -/
def Verdict.outline (verdict : Verdict) : Bool × List Outline :=
  (verdict.accepted, Entry.outlines verdict.entries)

/-- The verdict of a report and the outlines of what was found. -/
def Report.outline (report : Report) : Bool × List Outline :=
  (report.valid, Entry.outlines report.sink.entries)

/-- Verdicts of the same outline. -/
def Verdict.Alike (first second : Verdict) : Prop := first.outline = second.outline

/-- Tallies that matched the same branches and rejected others with the same outlines. -/
structure Tally.Alike (first second : Tally) : Prop where
  matched : first.matched = second.matched
  rejected : first.rejected.map (fun (key, entries) => (Entry.group key entries).outline) =
    second.rejected.map (fun (key, entries) => (Entry.group key entries).outline)

/-- Two outcomes with the same fault or with verdicts of the same outline. -/
abbrev Alike : Except Fault Verdict → Except Fault Verdict → Prop :=
  Corresponds (fun _ => False) Eq Verdict.Alike

/-- Two runs that meet the same strings, to the same fault or to verdicts of the
same outline. -/
abbrev Run.Alike : Run Verdict → Run Verdict → Prop :=
  Run.Corresponds (fun _ => False) Eq Verdict.Alike

/-! ### Verdicts -/

namespace Verdict.Alike
variable {first second first' second' : Verdict} {path : Path}

theorem refl (verdict : Verdict) : verdict.Alike verdict := Eq.refl _

theorem accepted (h : first.Alike second) : first.accepted = second.accepted :=
  congrArg Prod.fst h

theorem entries (h : first.Alike second) :
    Entry.outlines first.entries = Entry.outlines second.entries := congrArg Prod.snd h

theorem of_head {cause cause' : Cause} {entries entries' : List Entry}
    (hvariant : cause.variant = cause'.variant)
    (h : Entry.outlines entries = Entry.outlines entries') :
    Verdict.Alike ⟨false, .leaf ⟨path, cause⟩ :: entries⟩ ⟨false, .leaf ⟨path, cause'⟩ :: entries'⟩ := by
  unfold Verdict.Alike outline
  rw [Entry.outlines, Entry.outlines, Entry.outline, Entry.outline, h, hvariant]

theorem reject {cause cause' : Cause} (hvariant : cause.variant = cause'.variant) :
    (Verdict.reject path cause).Alike (.reject path cause') := of_head hvariant rfl

theorem rejectIf {applies applies' : Bool} {cause cause' : Cause} (happlies : applies = applies')
    (hvariant : cause.variant = cause'.variant) :
    (Verdict.rejectIf applies path cause).Alike (.rejectIf applies' path cause') := by
  subst happlies
  cases applies with
  | true => exact reject hvariant
  | false => exact refl .accept

theorem and (hf : first.Alike first') (hs : second.Alike second') :
    (first.and second).Alike (first'.and second') := by
  unfold Verdict.Alike outline Verdict.and
  rw [Entry.outlines_append, Entry.outlines_append, hf.accepted, hs.accepted, hf.entries, hs.entries]

theorem compositional : Compositional Verdict.Alike := ⟨refl .accept, and⟩

theorem all {verdicts verdicts' : List Verdict} (h : List.Forall₂ Verdict.Alike verdicts verdicts') :
    (Verdict.all verdicts).Alike (.all verdicts') := compositional.all h

end Verdict.Alike

/-! ### Tallies -/

namespace Tally.Alike
variable {first second : Tally} (h : first.Alike second)
include h

theorem accepting (description : String) :
    (first.accepting description).Alike (second.accepting description) :=
  ⟨congrArg (description :: ·) h.matched, h.rejected⟩

theorem rejecting (key : String) {entries entries' : List Entry}
    (inner : Entry.outlines entries = Entry.outlines entries') :
    (first.rejecting key entries).Alike (second.rejecting key entries') := by
  refine ⟨h.matched, ?_⟩
  show (Entry.group key entries).outline :: _ = (Entry.group key entries').outline :: _
  rw [h.rejected, Entry.outline, Entry.outline, inner]

theorem length_rejected : first.rejected.length = second.rejected.length := by
  have hlength := congrArg List.length h.rejected
  rwa [List.length_map, List.length_map] at hlength

theorem groups (combinator : Combinator) :
    Entry.outlines (first.groups combinator) = Entry.outlines (second.groups combinator) := by
  unfold Tally.groups
  rw [h.matched]
  split
  · rfl
  · rw [Entry.outlines_eq_map, Entry.outlines_eq_map, List.map_map, List.map_map]
    exact h.rejected

theorem verdict (combinator : Combinator) (path : Path) :
    (first.verdict combinator path).Alike (second.verdict combinator path) := by
  unfold Tally.verdict
  rw [accepts_congr h.matched h.length_rejected, cause_congr h.matched h.length_rejected]
  split
  · exact .refl .accept
  · exact .of_head rfl (h.groups combinator)

end Tally.Alike

/-! ### Runs -/

namespace Run.Alike

theorem refl (run : Run Verdict) : Run.Alike run run :=
  Run.Corresponds.refl (fun _ => rfl) Verdict.Alike.refl run

theorem result {first second : Verdict} (h : first.Alike second) :
    Run.Alike (Run.result first) (Run.result second) := Run.Corresponds.result h

theorem each {α β : Type} {check : α → Run Verdict} {check' : β → Run Verdict} {as : List α}
    {bs : List β} (h : List.Forall₂ (fun a b => Run.Alike (check a) (check' b)) as bs) :
    Run.Alike (Run.each check as) (Run.each check' bs) :=
  Run.Corresponds.each_pair Verdict.Alike.compositional h

variable {first second : Run Verdict}

theorem sightings_eq (h : Run.Alike first second) : first.sightings = second.sightings := by
  rcases h with ⟨hmet, _⟩ | ⟨_, _, hfalse⟩
  · exact Sighting.eq_of_forall_moved hmet
  · exact hfalse.elim

theorem outline_eq (h : Run.Alike first second) :
    first.outcome.map Verdict.outline = second.outcome.map Verdict.outline := by
  obtain ⟨sightings, outcome⟩ := first
  obtain ⟨sightings', outcome'⟩ := second
  rcases h with ⟨_, hends⟩ | ⟨_, _, hfalse⟩
  · dsimp only at hends ⊢
    cases hends with
    | ok results => exact congrArg Except.ok results
    | error faults => rw [Fault.eq_of_moved faults]
    | excused hfalse _ => exact hfalse.elim
  · exact hfalse.elim

end Run.Alike

/-! ### Validations -/

/-- Runs that are alike end in the same fault or in reports of the same outline,
and register the same callbacks. -/
theorem Validator.outline_validate_eq {validator : Validator} {schema : Json} {root : String}
    {exchange : Exchange} {value value' : Json}
    (h : Run.Alike
      ((validator.checker exchange.direction).checkWithin (validator.settings.maxDepth + 1)
        (.root schema) (.ofRoot root) value)
      ((validator.checker exchange.direction).checkWithin (validator.settings.maxDepth + 1)
        (.root schema) (.ofRoot root) value')) :
    (validator.validate value schema root exchange).1.map Report.outline =
        (validator.validate value' schema root exchange).1.map Report.outline ∧
      (validator.validate value schema root exchange).2 =
        (validator.validate value' schema root exchange).2 := by
  have hreport (outcome : Except Fault Verdict) :
      (outcome.map Verdict.report).map Report.outline = outcome.map Verdict.outline := by
    cases outcome <;> rfl
  rw [validate_eq, validate_eq]
  dsimp only
  rw [hreport, hreport]
  exact ⟨h.outline_eq, by rw [h.sightings_eq]⟩

end ApiContract
