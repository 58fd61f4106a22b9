import ApiContract.Proofs.Integers
import ApiContract.Proofs.RoundingError

/-!
# Multiples of integers

With a tolerance, the test of a multiple compares a rounded distance with a
rounded share of the quotient.  For integers that doubles hold exactly the test
can be decided without rounding, except close to the tolerance itself: far from
all multiples an integer is rejected, near a multiple it is accepted, and large
integers are near a multiple although the divisor does not divide them.  Without
a tolerance the test is a remainder, and for these integers it is divisibility.
-/

namespace ApiContract
namespace Binary64

/-! ### The test -/

/-- A tolerance that can be compared with rounded distances: above zero, not
tiny, and at most one. -/
structure Tolerates (epsilon : Binary64) : Prop where
  positive : epsilon.negative = false
  normal : 2 ^ 52 ≤ epsilon.magnitude
  atMostOne : epsilon.size ≤ 1

section Test
variable {epsilon x divisor quotient : Binary64}

theorem eq_zero_iff : x.eq zero = true ↔ x.magnitude = 0 := by
  rw [eq_eq_true, units_zero, ← Int.natAbs_eq_zero, natAbs_units]

theorem size_eq_zero_iff : x.size = 0 ↔ x.magnitude = 0 := by
  have hpos := cast_unitsOfOne_pos
  unfold size
  rw [div_eq_zero_iff, or_iff_left hpos.ne', Nat.cast_eq_zero]

/-- How the test comes to its answer: it compares the distance to the nearest whole
number, which must not be zero, with the tolerance.  The quotient, the distance
and the tolerance are rounded once each. -/
inductive Weighs (epsilon exact : ℚ) (accepted : Bool) : Prop where
  | mk (quotient distance allowed : ℚ) (whole : Nat) (divided : RoundedFrom quotient exact)
    (nearest : ∀ n : Nat, |quotient - whole| ≤ |quotient - n|)
    (measured : RoundedFrom distance |quotient - whole|)
    (scaled : RoundedFrom allowed (epsilon * Max.max quotient 1))
    (decides : accepted = true ↔ whole ≠ 0 ∧ distance ≤ allowed) : Weighs epsilon exact accepted

theorem weighs_isMultipleOf {exact : ℚ} (tolerates : epsilon.Tolerates) (hx : x.magnitude ≠ 0)
    (hdiv : x.div divisor = .finite quotient) (herror : RoundedFrom quotient.size exact)
    (hquotient : quotient.size ≤ 2 ^ 53 + 1) :
    Weighs epsilon.size exact (isMultipleOf epsilon x divisor) := by
  obtain ⟨whole, hsign, hwhole, hhalf, hnearest⟩ := quotient.exists_nearest
  obtain ⟨hscaleSign, hscale⟩ := quotient.size_max_abs_one
  have hwholeTop : quotient.round.size ≤ 2 ^ 54 := by
    have hnear := (abs_le.mp hhalf).1
    rw [hwhole]
    linarith
  have hscaleTop : (quotient.abs.max one).size ≤ 2 ^ 54 := by
    rw [hscale]
    exact max_le (by linarith) (by norm_num)
  have hscaleOne : 1 ≤ (quotient.abs.max one).size := by
    rw [hscale]
    exact le_max_right _ _
  -- the bounds keep the subtraction and the scaling in range, so each is rounded once
  obtain ⟨distance, hdistance, hdistanceError⟩ :=
    exists_sub hsign.symm (show quotient.size ≤ 2 ^ 54 by linarith) hwholeTop
  obtain ⟨allowed, hallowed, hallowedSign, hallowedError⟩ :=
    exists_mul tolerates.normal tolerates.atMostOne hscaleOne hscaleTop
  rw [hwhole] at hdistanceError
  rw [hscale] at hallowedError
  rw [tolerates.positive, hscaleSign] at hallowedSign
  refine .mk quotient.size distance.size allowed.size whole herror hnearest hdistanceError
    hallowedError ?_
  have hepsilon : ¬epsilon.eq zero = true := by
    have hnormal := tolerates.normal
    rw [eq_zero_iff]
    omega
  have hnearestZero : quotient.round.eq zero = true ↔ whole = 0 := by
    rw [eq_zero_iff, ← size_eq_zero_iff, hwhole, Nat.cast_eq_zero]
  unfold isMultipleOf
  rw [if_neg hepsilon, hdiv]
  dsimp only
  by_cases hzero : whole = 0
  · rw [if_pos (hnearestZero.mpr hzero), eq_zero_iff]
    constructor
    · exact fun h => absurd h hx
    · exact fun h => absurd hzero h.1
  · rw [if_neg (mt hnearestZero.mp hzero), hdistance, hallowed]
    dsimp only
    rw [isAtLeast_abs hallowedSign]
    exact (and_iff_right hzero).symm

end Test

/-! ### Clear cases -/

namespace Weighs
variable {epsilon exact : ℚ} {accepted : Bool} (hexact : 0 < exact)
  (hepsilon : RoundedFrom epsilon (1 / 10 ^ 9)) (weighs : Weighs epsilon exact accepted)
include hexact hepsilon weighs

/-- Clearly nearer to a whole number than the tolerance allows, rounding changes nothing. -/
theorem accepted_of_near {n : Nat} (hnear : 10 ^ 15 * |exact - n| ≤ 999999 * exact) :
    accepted = true := by
  obtain ⟨quotient, distance, allowed, whole, hquotient, hnearest, hdistance, hallowed, hdecides⟩ :=
    weighs
  obtain ⟨hquotientLow, hquotientHigh⟩ := abs_le.mp hquotient
  obtain ⟨hepsilonLow, hepsilonHigh⟩ := abs_le.mp hepsilon
  obtain ⟨-, hdistanceHigh⟩ := abs_le.mp hdistance
  obtain ⟨hallowedLow, -⟩ := abs_le.mp hallowed
  have hclose : |quotient - whole| ≤ exact / 2 ^ 53 + 999999 / 10 ^ 15 * exact := by
    have hother := hnearest n
    have htriangle := abs_sub_le quotient exact n
    have herror : |quotient - exact| ≤ exact / 2 ^ 53 := hquotient
    linarith
  have hscaled : epsilon * quotient ≤ epsilon * Max.max quotient 1 :=
    mul_le_mul_of_nonneg_left (le_max_left _ _) (by linarith)
  have hshare : (1 / 10 ^ 9 - 1 / 10 ^ 9 / 2 ^ 53) * (exact - exact / 2 ^ 53) ≤
      epsilon * quotient :=
    mul_le_mul (by linarith) (by linarith) (by linarith) (by linarith)
  refine hdecides.mpr ⟨?_, by linarith⟩
  intro hzero
  rw [hzero, Nat.cast_zero, sub_zero, abs_of_pos (by linarith)] at hclose
  linarith

/-- Clearly farther from all whole numbers than the tolerance allows, rounding changes nothing. -/
theorem rejected_of_far (hfar : ∀ n : Nat, 1000001 * exact < 10 ^ 15 * |exact - n|) :
    accepted = false := by
  obtain ⟨quotient, distance, allowed, whole, hquotient, -, hdistance, hallowed, hdecides⟩ :=
    weighs
  rw [Bool.eq_false_iff, Ne, hdecides]
  rintro ⟨hwhole, hle⟩
  obtain ⟨hquotientLow, hquotientHigh⟩ := abs_le.mp hquotient
  obtain ⟨hepsilonLow, hepsilonHigh⟩ := abs_le.mp hepsilon
  obtain ⟨hdistanceLow, -⟩ := abs_le.mp hdistance
  obtain ⟨-, hallowedHigh⟩ := abs_le.mp hallowed
  have hapart := hfar whole
  have hdistant : |exact - whole| - exact / 2 ^ 53 ≤ |quotient - whole| := by
    have htriangle := abs_sub_le exact quotient whole
    have herror : |quotient - exact| ≤ exact / 2 ^ 53 := hquotient
    rw [abs_sub_comm exact quotient] at htriangle
    linarith
  by_cases hlarge : 1 ≤ quotient
  · have hshare : epsilon * quotient ≤
        (1 / 10 ^ 9 + 1 / 10 ^ 9 / 2 ^ 53) * (exact + exact / 2 ^ 53) :=
      mul_le_mul (by linarith) (by linarith) (by linarith) (by norm_num)
    rw [max_eq_left hlarge] at hallowedHigh
    linarith
  · -- the tolerance is not scaled down with the quotient, but the nearest number is one or more
    rw [not_le] at hlarge
    rw [max_eq_right hlarge.le, mul_one] at hallowedHigh
    have hone : (1 : ℚ) ≤ whole := by exact_mod_cast Nat.one_le_iff_ne_zero.mpr hwhole
    have hbelow : whole - exact ≤ |exact - whole| := by
      rw [abs_sub_comm]
      exact le_abs_self _
    linarith

end Weighs
end Binary64

/-! ### Integers -/

/-- An integer clearly nearer to a multiple than the tolerance of `1e-9`, relative to it. -/
def NearMultiple (n d : Int) : Prop := ∃ k, 10 ^ 15 * |n - d * k| ≤ 999999 * |n|

/-- An integer clearly farther from all multiples than the tolerance of `1e-9`, relative to it. -/
def FarFromMultiples (n d : Int) : Prop := ∀ k, 1000001 * |n| < 10 ^ 15 * |n - d * k|

theorem nearMultiple_of_dvd {n d : Int} (h : d ∣ n) : NearMultiple n d := by
  obtain ⟨k, rfl⟩ := h
  refine ⟨k, ?_⟩
  rw [sub_self, abs_zero, mul_zero]
  exact mul_nonneg (by decide) (abs_nonneg _)

/-- Below `1e9` an integer that is no multiple is far from all multiples. -/
theorem farFromMultiples_of_not_dvd {n d : Int} (h : ¬d ∣ n) (hn : |n| ≤ 999999000) :
    FarFromMultiples n d := by
  intro k
  have hne : n - d * k ≠ 0 := fun heq => h ⟨k, sub_eq_zero.mp heq⟩
  have hone : 1 ≤ |n - d * k| := Int.one_le_abs hne
  linarith

theorem FarFromMultiples.ne_zero {n d : Int} (h : FarFromMultiples n d) : n ≠ 0 := by
  rintro rfl
  have hzero := h 0
  simp at hzero

/-- A multiple may have the other sign, which only makes it farther. -/
theorem NearMultiple.exists_natAbs {n d : Int} (h : NearMultiple n d) :
    ∃ k : Nat, 10 ^ 15 * |(n.natAbs : Int) - d.natAbs * k| ≤ 999999 * n.natAbs := by
  obtain ⟨k, hk⟩ := h
  refine ⟨k.natAbs, ?_⟩
  have hsides : |(|n| - |d| * |k|)| ≤ |n - d * k| := by
    rw [← abs_mul]
    exact abs_abs_sub_abs_le n (d * k)
  rw [Int.natCast_natAbs, Int.natCast_natAbs, Int.natCast_natAbs]
  linarith

theorem FarFromMultiples.natAbs {n d : Int} (hd : 0 < d) (h : FarFromMultiples n d) (k : Nat) :
    1000001 * (n.natAbs : Int) < 10 ^ 15 * |(n.natAbs : Int) - d.natAbs * k| := by
  -- the multiple on the side of zero where the integer is
  have hsplit : n - d * (n.sign * k) = n.sign * (n.natAbs - d.natAbs * k) := by
    have hsign : n.sign * n.natAbs = n := Int.sign_mul_natAbs n
    have hdabs : (d.natAbs : Int) = d := by omega
    rw [mul_sub, hsign, hdabs]
    ring
  have hunit : |n.sign| = 1 := Int.abs_sign_of_ne_zero h.ne_zero
  have hthere := h (n.sign * k)
  rw [hsplit, abs_mul, hunit, one_mul] at hthere
  rw [Int.natCast_natAbs n] at hthere ⊢
  exact hthere

namespace Binary64

theorem default_tolerates :
    Settings.default.multipleOfEpsilon.Tolerates ∧
      RoundedFrom Settings.default.multipleOfEpsilon.size (1 / 10 ^ 9) := by
  obtain ⟨z, hz, hsign, hsize⟩ := exists_ofFraction (show 0 < 1 by decide)
    (show 1 ≤ 2 ^ 53 by decide) (show 0 < 10 ^ 9 by decide) (show 10 ^ 9 ≤ 2 ^ 53 by decide)
  have hdefault : Settings.default.multipleOfEpsilon = z := by
    unfold Settings.default
    dsimp only
    rw [hz]
    rfl
  have herror : RoundedFrom z.size (1 / 10 ^ 9) := by
    simpa only [Nat.cast_one, Nat.cast_pow, Nat.cast_ofNat] using hsize
  obtain ⟨hlow, hhigh⟩ := abs_le.mp herror
  have hnormal : 2 ^ 52 ≤ z.magnitude := by
    have hunits := le_mul_unitsOfOne Nat.one_pos (le_refl (2 ^ 53))
    have hunits' : (2 : ℚ) ^ 52 * 2 ^ 53 ≤ unitsOfOne := by
      rw [Nat.one_mul] at hunits
      exact_mod_cast hunits
    have hmagnitude : (2 : ℚ) ^ 52 ≤ z.magnitude := by
      rw [magnitude_eq_size_mul]
      calc (2 : ℚ) ^ 52 = 1 / 2 ^ 53 * (2 ^ 52 * 2 ^ 53) := by norm_num
        _ ≤ z.size * unitsOfOne :=
          mul_le_mul (by linarith) hunits' (by positivity) z.size_nonneg
    exact_mod_cast hmagnitude
  rw [hdefault]
  exact ⟨⟨hsign, hnormal, by linarith⟩, herror⟩

/-! ### The same in whole numbers -/

section Quotient
variable {n d k : Nat} (hd : 0 < d)
include hd

theorem abs_quotient_sub : |(n : ℚ) / d - k| = |(n : ℚ) - d * k| / d := by
  have hpos : (0 : ℚ) < d := by exact_mod_cast hd
  have hsplit : (n : ℚ) / d - k = (n - d * k) / d := by
    rw [sub_div, mul_div_cancel_left₀ _ hpos.ne']
  rw [hsplit, abs_div, abs_of_pos hpos]

theorem quotient_near (h : 10 ^ 15 * |(n : Int) - d * k| ≤ 999999 * n) :
    10 ^ 15 * |(n : ℚ) / d - k| ≤ 999999 * (n / d) := by
  have hcast := Int.cast_le (R := ℚ).mpr h
  push_cast at hcast
  rw [abs_quotient_sub hd, ← mul_div_assoc, ← mul_div_assoc]
  refine div_le_div_of_nonneg_right ?_ (Nat.cast_nonneg d)
  linarith

theorem quotient_far (h : 1000001 * n < 10 ^ 15 * |(n : Int) - d * k|) :
    1000001 * ((n : ℚ) / d) < 10 ^ 15 * |(n : ℚ) / d - k| := by
  have hcast := Int.cast_lt (R := ℚ).mpr h
  push_cast at hcast
  rw [abs_quotient_sub hd, ← mul_div_assoc, ← mul_div_assoc]
  refine div_lt_div_of_pos_right ?_ (by exact_mod_cast hd)
  linarith

end Quotient

section Integers
variable {n d : Int} (hd : 0 < d) (hd' : d ≤ 2 ^ 53) (hn : n.natAbs ≤ 2 ^ 53)
include hd hd' hn

theorem weighs_ofInt (hne : n ≠ 0) :
    Weighs Settings.default.multipleOfEpsilon.size (n.natAbs / d.natAbs)
      (isMultipleOf Settings.default.multipleOfEpsilon (ofInt n) (ofInt d)) := by
  have hnumber := magnitude_ofInt hn
  have hdivisor := magnitude_ofInt (show d.natAbs ≤ 2 ^ 53 by omega)
  obtain ⟨quotient, hdiv, -, herror⟩ := exists_div hnumber hdivisor (show 0 < n.natAbs by omega)
    hn (show 0 < d.natAbs by omega) (show d.natAbs ≤ 2 ^ 53 by omega)
  have hnonzero : (ofInt n).magnitude ≠ 0 := by
    rw [hnumber]
    exact Nat.mul_ne_zero (by omega) unitsOfOne_pos.ne'
  have hquotient : quotient.size ≤ 2 ^ 53 + 1 := by
    have htop : (n.natAbs : ℚ) / d.natAbs ≤ 2 ^ 53 := by
      have hone : (1 : ℚ) ≤ d.natAbs := by exact_mod_cast (show 1 ≤ d.natAbs by omega)
      have hmost : (n.natAbs : ℚ) ≤ 2 ^ 53 := by exact_mod_cast hn
      exact (div_le_self (Nat.cast_nonneg _) hone).trans hmost
    have hhigh := (abs_le.mp herror).2
    linarith
  exact weighs_isMultipleOf default_tolerates.1 hnonzero hdiv herror hquotient

omit hd' hn in
theorem quotient_pos (hne : n ≠ 0) : (0 : ℚ) < n.natAbs / d.natAbs :=
  div_pos (Nat.cast_pos.mpr (by omega)) (Nat.cast_pos.mpr (by omega))

theorem isMultipleOf_of_near (near : NearMultiple n d) :
    isMultipleOf Settings.default.multipleOfEpsilon (ofInt n) (ofInt d) = true := by
  by_cases hzero : n = 0
  · have hrank : (ofInt n).rank = 0 := by
      by_contra hne
      have hpos : 0 < (ofInt n).magnitude := unitsOfRank_pos hne
      rw [magnitude_ofInt hn, hzero, Int.natAbs_zero, Nat.zero_mul] at hpos
      exact Nat.lt_irrefl 0 hpos
    exact isMultipleOf_of_rank_zero hrank _ _
  · obtain ⟨k, hk⟩ := near.exists_natAbs
    have hclose := quotient_near (show 0 < d.natAbs by omega) hk
    have hweighs := weighs_ofInt hd hd' hn hzero
    exact hweighs.accepted_of_near (quotient_pos hd hzero) default_tolerates.2 hclose

theorem not_isMultipleOf_of_far (far : FarFromMultiples n d) :
    isMultipleOf Settings.default.multipleOfEpsilon (ofInt n) (ofInt d) = false := by
  have hapart (k : Nat) := quotient_far (show 0 < d.natAbs by omega) (far.natAbs hd k)
  have hweighs := weighs_ofInt hd hd' hn far.ne_zero
  exact hweighs.rejected_of_far (quotient_pos hd far.ne_zero) default_tolerates.2 hapart

omit hn in
theorem not_ofInt_le_zero : (ofInt d).le zero = false := by
  have hunits := units_ofInt_of_le (show d.natAbs ≤ 2 ^ 53 by omega)
  have hone : (0 : Int) < unitsOfOne := by exact_mod_cast unitsOfOne_pos
  rw [Bool.eq_false_iff, Ne, le_eq_true, hunits, units_zero]
  exact not_le.mpr (Int.mul_pos hd hone)

end Integers
end Binary64

/-! ### Reports -/

/-- The schema of the integers that are multiples of a divisor. -/
def Json.multiplesOf (divisor : Int) : Json :=
  .object [("multipleOf", .ofInt divisor), ("type", .string "integer")]

theorem Json.multiplesOf_asksInteger (divisor : Int) : (multiplesOf divisor).AsksInteger where
  final := rfl
  integer := rfl
  unlisted := rfl
  uncombined combinator := by cases combinator <;> rfl

namespace Checker
variable {checker : Checker} {path : Path} {n d : Int} (hd : 0 < d) (hd' : d ≤ 2 ^ 53)
include hd hd'

theorem ownRanges_multiplesOf (x : Binary64) :
    checker.ownRanges (.multiplesOf d) path x =
      .rejectIf (!Binary64.isMultipleOf checker.settings.multipleOfEpsilon x (.ofInt d)) path
        (.notMultipleOf x (.ofInt d)) := by
  have hdivisor : ((Json.multiplesOf d).get? "multipleOf").bind Json.binary64? =
      some (.ofInt d) := Json.binary64?_ofInt d
  have hmultiple : multipleVerdict checker.settings.multipleOfEpsilon x (some (.ofInt d)) path =
      .rejectIf (!Binary64.isMultipleOf checker.settings.multipleOfEpsilon x (.ofInt d)) path
        (.notMultipleOf x (.ofInt d)) := by
    unfold multipleVerdict
    dsimp only
    rw [Binary64.not_ofInt_le_zero hd hd']
    rfl
  have hunbounded : (Json.multiplesOf d).get? "minimum" = none ∧
      (Json.multiplesOf d).get? "maximum" = none ∧
      (Json.multiplesOf d).get? "exclusiveMinimum" = none ∧
      (Json.multiplesOf d).get? "exclusiveMaximum" = none := ⟨rfl, rfl, rfl, rfl⟩
  obtain ⟨hminimum, hmaximum, hexclusiveMinimum, hexclusiveMaximum⟩ := hunbounded
  unfold ownRanges
  dsimp only
  rw [hdivisor, hmultiple, hminimum, hmaximum, hexclusiveMinimum, hexclusiveMaximum]
  exact Verdict.and_accept _

/-- An integer is accepted as a multiple, or rejected with two entries. -/
theorem ownVerdict_multiplesOf :
    checker.ownVerdict (.multiplesOf d) path n =
      if Binary64.isMultipleOf checker.settings.multipleOfEpsilon (.ofInt n) (.ofInt d) then .accept
      else ⟨false, [.leaf ⟨path, .notMultipleOf (.ofInt n) (.ofInt d)⟩,
        .leaf ⟨path, .integerConstraints⟩]⟩ := by
  unfold ownVerdict
  rw [ownRanges_multiplesOf hd hd']
  cases Binary64.isMultipleOf checker.settings.multipleOfEpsilon (.ofInt n) (.ofInt d) <;> rfl

end Checker

section Reports
variable {n d : Int} (hd : 0 < d) (hd' : d ≤ 2 ^ 53) (hn : |n| ≤ 2 ^ 53)
include hd hd' hn

omit hn in
/-- The report on an integer holds nothing where the test of a multiple passes, and
two entries where it fails. -/
theorem validate_multiplesOf (validator : Validator) (root : String) (exchange : Exchange) :
    (validator.validate (.ofInt n) (.multiplesOf d) root exchange).1 =
      .ok (if Binary64.isMultipleOf validator.settings.multipleOfEpsilon (.ofInt n) (.ofInt d) then
          Verdict.accept
        else ⟨false, [.leaf ⟨.ofRoot root, .notMultipleOf (.ofInt n) (.ofInt d)⟩,
          .leaf ⟨.ofRoot root, .integerConstraints⟩]⟩).report := by
  rw [validator.validate_integer root exchange (Json.multiplesOf_asksInteger d) n,
    Checker.ownVerdict_multiplesOf hd hd']
  rfl

omit hn in
/-- The report on an integer says what the test of a multiple says. -/
theorem exists_report_of_multiplesOf (validator : Validator) (root : String) (exchange : Exchange) :
    ∃ report, (validator.validate (.ofInt n) (.multiplesOf d) root exchange).1 = .ok report ∧
      report.valid =
        Binary64.isMultipleOf validator.settings.multipleOfEpsilon (.ofInt n) (.ofInt d) := by
  refine ⟨_, validate_multiplesOf hd hd' validator root exchange, ?_⟩
  cases Binary64.isMultipleOf validator.settings.multipleOfEpsilon (.ofInt n) (.ofInt d) <;> rfl

/-- Under the default settings multiples are accepted, and so is what is near a
multiple.  An integer that is far from all multiples is rejected, and so is every
integer up to `999999000` that is no multiple. -/
theorem multiples_reported (table : ComponentTable) (root : String) (exchange : Exchange) :
    ∃ report,
      ((Validator.mk table .default).validate (.ofInt n) (.multiplesOf d) root exchange).1 =
        .ok report ∧
      (d ∣ n → report.valid = true) ∧
      (|n| ≤ 999999000 ∨ FarFromMultiples n d → report.valid = true → d ∣ n) ∧
      (NearMultiple n d → report.valid = true) := by
  have hsize : n.natAbs ≤ 2 ^ 53 := by
    rw [← Int.natCast_natAbs] at hn
    omega
  obtain ⟨report, hreport, hvalid⟩ :=
    exists_report_of_multiplesOf hd hd' ⟨table, .default⟩ root exchange
  have hnear (near : NearMultiple n d) : report.valid = true := by
    rw [hvalid]
    exact Binary64.isMultipleOf_of_near hd hd' hsize near
  refine ⟨report, hreport, fun hdvd => hnear (nearMultiple_of_dvd hdvd), fun hclear haccepted => ?_,
    hnear⟩
  by_contra hdvd
  have hfar : FarFromMultiples n d := hclear.elim (farFromMultiples_of_not_dvd hdvd) id
  have hrejected : report.valid = false :=
    hvalid.trans (Binary64.not_isMultipleOf_of_far hd hd' hsize hfar)
  rw [haccepted] at hrejected
  cases hrejected

end Reports

/-- Seven is no multiple of two. -/
theorem multiples_reported_seven :
    (0 : Int) < 2 ∧ (2 : Int) ≤ 2 ^ 53 ∧ |(7 : Int)| ≤ 2 ^ 53 ∧
      ∃ report,
        ((Validator.mk .empty .default).validate (.ofInt 7) (.multiplesOf 2) "body"
          (.ofDirection .request)).1 = .ok report ∧
        report.valid = false := by
  have hd : (0 : Int) < 2 := by decide
  have hd' : (2 : Int) ≤ 2 ^ 53 := by decide
  have hn : |(7 : Int)| ≤ 2 ^ 53 := by decide
  obtain ⟨report, hreport, -, hsound, -⟩ :=
    multiples_reported hd hd' hn .empty "body" (.ofDirection .request)
  have hrejected : ¬report.valid = true := fun haccepted =>
    absurd (hsound (.inl (by decide)) haccepted) (by decide)
  exact ⟨hd, hd', hn, report, hreport, Bool.eq_false_iff.mpr hrejected⟩

/-- An odd number is accepted as a multiple of two: half a unit is within the tolerance
relative to the quotient. -/
theorem odd_number_tolerated :
    (0 : Int) < 2 ∧ (2 : Int) ≤ 2 ^ 53 ∧ |(3000000001 : Int)| ≤ 2 ^ 53 ∧
      ∃ report,
        ((Validator.mk .empty .default).validate (.ofInt 3000000001) (.multiplesOf 2) "body"
          (.ofDirection .request)).1 = .ok report ∧
        ¬(report.valid = true ↔ (2 : Int) ∣ 3000000001) := by
  have hd : (0 : Int) < 2 := by decide
  have hd' : (2 : Int) ≤ 2 ^ 53 := by decide
  have hn : |(3000000001 : Int)| ≤ 2 ^ 53 := by decide
  have hnear : NearMultiple 3000000001 2 := ⟨1500000000, by decide⟩
  obtain ⟨report, hreport, hvalid⟩ :=
    exists_report_of_multiplesOf hd hd' ⟨.empty, .default⟩ "body" (.ofDirection .request)
  have haccepted : report.valid = true := by
    rw [hvalid]
    exact Binary64.isMultipleOf_of_near hd hd' (by decide) hnear
  have hodd : ¬(2 : Int) ∣ 3000000001 := by decide
  exact ⟨hd, hd', hn, report, hreport, fun hiff => hodd (hiff.mp haccepted)⟩

/-! ### Without a tolerance -/

theorem Settings.withExactMultipleOf_exact (settings : Settings) :
    settings.withExactMultipleOf.multipleOfEpsilon.eq .zero = true := by
  show Binary64.zero.abs.eq Binary64.zero = true
  decide

namespace Binary64

/-- Integers that doubles hold exactly are counted in units of one, so the remainder
of the units is the remainder of the integers. -/
theorem divides_ofInt_iff {n d : Int} (hn : n.natAbs ≤ 2 ^ 53) (hd : d.natAbs ≤ 2 ^ 53) :
    (ofInt d).divides (ofInt n) = true ↔ d ∣ n := by
  unfold divides
  rw [beq_iff_eq, magnitude_ofInt hn, magnitude_ofInt hd, ← Nat.dvd_iff_mod_eq_zero,
    Nat.mul_dvd_mul_iff_right unitsOfOne_pos, Int.natAbs_dvd_natAbs]

theorem isMultipleOf_exact {epsilon : Binary64} (exact : epsilon.eq zero = true)
    (x divisor : Binary64) : isMultipleOf epsilon x divisor = divisor.divides x :=
  if_pos exact

end Binary64

/-- Without a tolerance exactly the multiples are accepted.  Any other integer is
rejected with two entries at the root, for the divisor and for the integer. -/
theorem exact_multiples_reported {n d : Int} (hd : 0 < d) (hd' : d ≤ 2 ^ 53) (hn : |n| ≤ 2 ^ 53)
    (table : ComponentTable) (settings : Settings)
    (exact : settings.multipleOfEpsilon.eq .zero = true) (root : String) (exchange : Exchange) :
    ∃ report,
      ((Validator.mk table settings).validate (.ofInt n) (.multiplesOf d) root exchange).1 =
        .ok report ∧
      (report.valid = true ↔ d ∣ n) ∧
      (d ∣ n → report.sink.entries = []) ∧
      (¬d ∣ n → report.sink.entries =
        [.leaf ⟨.ofRoot root, .notMultipleOf (.ofInt n) (.ofInt d)⟩,
          .leaf ⟨.ofRoot root, .integerConstraints⟩]) := by
  have hsize : n.natAbs ≤ 2 ^ 53 := by
    rw [← Int.natCast_natAbs] at hn
    omega
  have htest : Binary64.isMultipleOf settings.multipleOfEpsilon (.ofInt n) (.ofInt d) = true ↔
      d ∣ n := by
    rw [Binary64.isMultipleOf_exact exact]
    exact Binary64.divides_ofInt_iff hsize (by omega)
  refine ⟨_, validate_multiplesOf hd hd' ⟨table, settings⟩ root exchange, ?_⟩
  by_cases hdvd : d ∣ n
  · rw [if_pos (htest.mpr hdvd)]
    exact ⟨iff_of_true rfl hdvd, fun _ => rfl, fun hnot => absurd hdvd hnot⟩
  · rw [if_neg (mt htest.mp hdvd)]
    exact ⟨iff_of_false Bool.false_ne_true hdvd, fun h => absurd h hdvd, fun _ => rfl⟩

/-- The odd number that the default tolerance accepts as a multiple of two is rejected,
also with its sign changed. -/
theorem exact_multiples_reported_odd :
    (0 : Int) < 2 ∧ (2 : Int) ≤ 2 ^ 53 ∧ |(-3000000001 : Int)| ≤ 2 ^ 53 ∧
      Settings.default.withExactMultipleOf.multipleOfEpsilon.eq .zero = true ∧
      ∃ report,
        ((Validator.mk .empty Settings.default.withExactMultipleOf).validate (.ofInt (-3000000001))
          (.multiplesOf 2) "body" (.ofDirection .request)).1 = .ok report ∧
        report.valid = false ∧
        report.sink.entries =
          [.leaf ⟨.ofRoot "body", .notMultipleOf (.ofInt (-3000000001)) (.ofInt 2)⟩,
            .leaf ⟨.ofRoot "body", .integerConstraints⟩] := by
  have hd : (0 : Int) < 2 := by decide
  have hd' : (2 : Int) ≤ 2 ^ 53 := by decide
  have hn : |(-3000000001 : Int)| ≤ 2 ^ 53 := by decide
  have hexact := Settings.withExactMultipleOf_exact .default
  have hodd : ¬(2 : Int) ∣ -3000000001 := by decide
  obtain ⟨report, hreport, hvalid, -, hentries⟩ :=
    exact_multiples_reported hd hd' hn .empty _ hexact "body" (.ofDirection .request)
  exact ⟨hd, hd', hn, hexact, report, hreport, Bool.eq_false_iff.mpr (mt hvalid.mp hodd),
    hentries hodd⟩

end ApiContract
