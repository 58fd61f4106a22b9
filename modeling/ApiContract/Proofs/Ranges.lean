import ApiContract.Proofs.Integers

/-!
# Ranges of integers

Bounds are compared as doubles.  The conversion keeps the order of integers, so
what it can get wrong is only an integer that becomes the double of a bound: it
passes an inclusive bound and fails an exclusive one.  Below `2 ^ 53`, and away
from the bounds, ranges are exact.
-/

namespace ApiContract

/-- How a schema states the bounds of a range: as they are, with flags that exclude
them, or as numbers that are excluded by themselves. -/
inductive BoundForm where
  | inclusive
  | flagged
  | numeric
  deriving DecidableEq

/-- What lies between two bounds. -/
def BoundForm.Admits (form : BoundForm) (low x high : Int) : Prop :=
  if form = .inclusive then low ≤ x ∧ x ≤ high else low < x ∧ x < high

/-- The schema of the integers between two bounds. -/
def Json.integersWithin (form : BoundForm) (low high : Int) : Json :=
  match form with
  | .inclusive => .object
    [("maximum", .ofInt high), ("minimum", .ofInt low), ("type", .string "integer")]
  | .flagged => .object
    [("exclusiveMaximum", .bool true), ("exclusiveMinimum", .bool true),
      ("maximum", .ofInt high), ("minimum", .ofInt low), ("type", .string "integer")]
  | .numeric => .object
    [("exclusiveMaximum", .ofInt high), ("exclusiveMinimum", .ofInt low),
      ("type", .string "integer")]

theorem Json.integersWithin_asksInteger (form : BoundForm) (low high : Int) :
    (integersWithin form low high).AsksInteger where
  final := by cases form <;> rfl
  integer := by cases form <;> rfl
  unlisted := by cases form <;> rfl
  uncombined combinator := by cases form <;> cases combinator <;> rfl

/-! ### Integers and their doubles -/

/-- Integers that do not become one double unless they are one: one of them is below
`2 ^ 53`, or they are farther apart than the rounding of both. -/
def ToldApart (m n : Int) : Prop :=
  m = n ∨ |m| < 2 ^ 53 ∨ |n| < 2 ^ 53 ∨ |m| + |n| < 2 ^ 53 * |m - n|

instance (m n : Int) : Decidable (ToldApart m n) := inferInstanceAs (Decidable (_ ∨ _ ∨ _ ∨ _))

section Doubles
variable {m n : Int}

theorem ToldApart.symm (h : ToldApart m n) : ToldApart n m := by
  unfold ToldApart at h ⊢
  rw [abs_sub_comm n m, add_comm |n|]
  tauto

theorem FitsWord.natAbs_le (h : FitsWord n) : n.natAbs ≤ 2 ^ 64 := by
  obtain ⟨hlow, hhigh⟩ := h
  omega

variable (hm : FitsWord m) (hn : FitsWord n) (told : ToldApart m n)
include hm hn told

theorem units_ofInt_lt_iff : (Binary64.ofInt m).units < (Binary64.ofInt n).units ↔ m < n := by
  refine ⟨Binary64.lt_of_units_ofInt_lt, fun hlt => ?_⟩
  rcases told with heq | hsmall | hsmall | hfar
  · exact absurd heq hlt.ne
  · refine Binary64.units_ofInt_lt_of_small hlt (.inl ?_)
    rw [← Int.natCast_natAbs] at hsmall
    omega
  · refine Binary64.units_ofInt_lt_of_small hlt (.inr ?_)
    rw [← Int.natCast_natAbs] at hsmall
    omega
  · rw [abs_sub_comm, abs_of_pos (sub_pos.mpr hlt)] at hfar
    exact Binary64.units_ofInt_lt_of_far hm.natAbs_le hn.natAbs_le hfar

theorem units_ofInt_le_iff : (Binary64.ofInt m).units ≤ (Binary64.ofInt n).units ↔ m ≤ n := by
  rw [← Int.not_lt, units_ofInt_lt_iff hn hm told.symm, Int.not_lt]

end Doubles

/-! ### Verdicts -/

theorem Verdict.accepted_rejectIf (applies : Bool) (path : Path) (cause : Cause) :
    (rejectIf applies path cause).accepted = !applies := by
  cases applies <;> rfl

namespace Checker
variable {checker : Checker} {path : Path} {form : BoundForm} {low high : Int}

theorem accepted_ownVerdict (node : Json) (n : Int) :
    (checker.ownVerdict node path n).accepted = (checker.ownRanges node path (.ofInt n)).accepted := by
  unfold ownVerdict
  cases haccepted : (checker.ownRanges node path (.ofInt n)).accepted with
  | true => simp [haccepted]
  | false => simp [haccepted, Verdict.and]

/-- The bounds of a range are the only constraints that its schema has. -/
theorem ownRanges_integersWithin (x : Binary64) :
    checker.ownRanges (.integersWithin form low high) path x =
      match form with
      | .inclusive => .all [minimumVerdict x (some (.ofInt low)) false path, .accept,
          maximumVerdict x (some (.ofInt high)) false path, .accept, .accept]
      | .flagged => .all [minimumVerdict x (some (.ofInt low)) true path, .accept,
          maximumVerdict x (some (.ofInt high)) true path, .accept, .accept]
      | .numeric => .all [.accept, exclusiveMinimumVerdict x (some (.ofInt low)) path, .accept,
          exclusiveMaximumVerdict x (some (.ofInt high)) path, .accept] := by
  rw [← Json.binary64?_ofInt low, ← Json.binary64?_ofInt high]
  cases form <;> rfl

theorem accepted_ownRanges_integersWithin (x : Binary64) :
    (checker.ownRanges (.integersWithin form low high) path x).accepted = true ↔
      form.Admits (Binary64.ofInt low).units x.units (Binary64.ofInt high).units := by
  rw [ownRanges_integersWithin]
  cases form <;>
    simp [Verdict.accepted_all, Verdict.accepted_rejectIf, Verdict.accept, minimumVerdict,
      exclusiveMinimumVerdict, maximumVerdict, exclusiveMaximumVerdict, Binary64.lt, Binary64.le,
      BoundForm.Admits]

end Checker

/-! ### Reports -/

section Reports
variable (validator : Validator) (root : String) (exchange : Exchange) (form : BoundForm)
  {n low high : Int}

/-- The report on an integer compares the double of it with those of the bounds. -/
theorem exists_report_of_integersWithin (n low high : Int) :
    ∃ report,
      (validator.validate (.ofInt n) (.integersWithin form low high) root exchange).1 = .ok report ∧
      (report.valid = true ↔ form.Admits (Binary64.ofInt low).units (Binary64.ofInt n).units
        (Binary64.ofInt high).units) := by
  have hreport :=
    validator.validate_integer root exchange (Json.integersWithin_asksInteger form low high) n
  refine ⟨_, hreport, ?_⟩
  show (Checker.ownVerdict _ _ _ n).accepted = true ↔ _
  rw [Checker.accepted_ownVerdict, Checker.accepted_ownRanges_integersWithin]

/-- An integer of 64 bits is compared with its bounds as a double.  An inclusive range
accepts all integers between its bounds, and an exclusive range accepts no others.
Both are exact where the conversion tells the integer from the bounds. -/
theorem ranges_reported (hn : FitsWord n) (hlow : FitsWord low) (hhigh : FitsWord high) :
    ∃ report,
      (validator.validate (.ofInt n) (.integersWithin form low high) root exchange).1 = .ok report ∧
      (report.valid = true ↔ form.Admits (Binary64.ofInt low).units (Binary64.ofInt n).units
        (Binary64.ofInt high).units) ∧
      (form = .inclusive → form.Admits low n high → report.valid = true) ∧
      (form ≠ .inclusive → report.valid = true → form.Admits low n high) ∧
      (ToldApart low n → ToldApart n high → (report.valid = true ↔ form.Admits low n high)) := by
  obtain ⟨report, hreport, hvalid⟩ :=
    exists_report_of_integersWithin validator root exchange form n low high
  refine ⟨report, hreport, hvalid, ?_, ?_, ?_⟩
  · rintro rfl ⟨habove, hbelow⟩
    exact hvalid.mpr ⟨Binary64.units_ofInt_mono habove, Binary64.units_ofInt_mono hbelow⟩
  · intro hstrict haccepted
    have hunits := hvalid.mp haccepted
    unfold BoundForm.Admits at hunits ⊢
    rw [if_neg hstrict] at hunits ⊢
    exact ⟨Binary64.lt_of_units_ofInt_lt hunits.1, Binary64.lt_of_units_ofInt_lt hunits.2⟩
  · intro hbelow habove
    rw [hvalid]
    unfold BoundForm.Admits
    split
    · exact and_congr (units_ofInt_le_iff hlow hn hbelow) (units_ofInt_le_iff hn hhigh habove)
    · exact and_congr (units_ofInt_lt_iff hlow hn hbelow) (units_ofInt_lt_iff hn hhigh habove)

end Reports

/-- An unsigned integer between the least and the greatest integers of 64 bits. -/
theorem ranges_reported_widest :
    FitsWord (2 ^ 63) ∧ FitsWord (-2 ^ 63) ∧ FitsWord (2 ^ 64 - 1) ∧
      ToldApart (-2 ^ 63) (2 ^ 63) ∧ ToldApart (2 ^ 63) (2 ^ 64 - 1) ∧
      ∃ report,
        ((Validator.mk .empty .default).validate (.ofInt (2 ^ 63))
          (.integersWithin .flagged (-2 ^ 63) (2 ^ 64 - 1)) "body" (.ofDirection .request)).1 =
            .ok report ∧
        report.valid = true := by
  have hn : FitsWord (2 ^ 63) := by decide
  have hlow : FitsWord (-2 ^ 63) := by decide
  have hhigh : FitsWord (2 ^ 64 - 1) := by decide
  have hbelow : ToldApart (-2 ^ 63) (2 ^ 63) := by decide
  have habove : ToldApart (2 ^ 63) (2 ^ 64 - 1) := by decide
  obtain ⟨report, hreport, -, -, -, hexact⟩ :=
    ranges_reported ⟨.empty, .default⟩ "body" (.ofDirection .request) .flagged hn hlow hhigh
  have hadmits : BoundForm.flagged.Admits (-2 ^ 63) (2 ^ 63) (2 ^ 64 - 1) := by
    unfold BoundForm.Admits
    decide
  exact ⟨hn, hlow, hhigh, hbelow, habove, report, hreport, (hexact hbelow habove).mpr hadmits⟩

/-- An integer above its maximum is accepted: both become the same double. -/
theorem integer_above_maximum_accepted :
    FitsWord (2 ^ 53 + 1) ∧ FitsWord 0 ∧ FitsWord (2 ^ 53) ∧
      ∃ report,
        ((Validator.mk .empty .default).validate (.ofInt (2 ^ 53 + 1))
          (.integersWithin .inclusive 0 (2 ^ 53)) "body" (.ofDirection .request)).1 = .ok report ∧
        ¬(report.valid = true ↔ BoundForm.inclusive.Admits 0 (2 ^ 53 + 1) (2 ^ 53)) := by
  obtain ⟨report, hreport, hvalid⟩ := exists_report_of_integersWithin ⟨.empty, .default⟩ "body"
    (.ofDirection .request) .inclusive (2 ^ 53 + 1) 0 (2 ^ 53)
  have hsame : (Binary64.ofInt (2 ^ 53 + 1)).units = (Binary64.ofInt (2 ^ 53)).units := by
    decide +kernel
  have haccepted : report.valid = true :=
    hvalid.mpr ⟨Binary64.units_ofInt_mono (by decide), hsame.le⟩
  refine ⟨by decide, by decide, by decide, report, hreport, fun hiff => ?_⟩
  exact absurd (hiff.mp haccepted).2 (by decide)

end ApiContract
