import ApiContract.Proofs.ExactRounding
import Mathlib.Algebra.Order.Field.Basic
import Mathlib.Tactic.FieldSimp
import Mathlib.Tactic.Linarith
import Mathlib.Tactic.Positivity
import Mathlib.Tactic.Ring

/-!
# The error of one rounding

A ratio that is neither tiny nor beyond the largest double is rounded to a
double within the relative distance `2 ^ -53`.  Each operation makes that error
once, on its exact result; the nearest whole number is exact.
-/

namespace ApiContract
namespace Binary64

/-! ### The significand -/

/-- The nearest natural is the quotient, or the one after it. -/
theorem nearestEven_cases (num den : Nat) :
    (nearestEven num den = num / den ∧ 2 * (num % den) ≤ den) ∨
      (nearestEven num den = num / den + 1 ∧ den ≤ 2 * (num % den)) := by
  unfold nearestEven
  dsimp only
  by_cases hbelow : 2 * (num % den) < den
  · rw [if_pos hbelow]
    exact .inl ⟨rfl, hbelow.le⟩
  · rw [if_neg hbelow]
    by_cases habove : den < 2 * (num % den)
    · rw [if_pos habove]
      exact .inr ⟨rfl, habove.le⟩
    · -- a tie, which may go either way
      rw [if_neg habove]
      split
      · exact .inl ⟨rfl, by omega⟩
      · exact .inr ⟨rfl, by omega⟩

theorem nearestEven_bounds (num : Nat) {den : Nat} (h : 0 < den) :
    2 * num ≤ 2 * (nearestEven num den * den) + den ∧
      2 * (nearestEven num den * den) ≤ 2 * num + den := by
  have hsplit := Nat.div_add_mod' num den
  have hrest := Nat.mod_lt num h
  rcases nearestEven_cases num den with ⟨hvalue, hnear⟩ | ⟨hvalue, hnear⟩
  · rw [hvalue]
    constructor <;> omega
  · have hnext : (num / den + 1) * den = num / den * den + den := Nat.succ_mul _ _
    rw [hvalue, hnext]
    constructor <;> omega

theorem le_nearestEven {num den n : Nat} (h : 0 < den) (hn : n * den ≤ num) :
    n ≤ nearestEven num den := by
  have hquotient := (Nat.le_div_iff_mul_le h).mpr hn
  have hcases := nearestEven_cases num den
  omega

theorem nearestEven_le {num den n : Nat} (h : 0 < den) (hn : num < n * den) :
    nearestEven num den ≤ n := by
  have hquotient := (Nat.div_lt_iff_lt_mul h).mpr hn
  have hcases := nearestEven_cases num den
  omega

/-- Ranks are exponent and significand side by side, also where the significand
has grown to `2 ^ 53`. -/
theorem unitsOfRank_significand {shift significand : Nat} (high : significand ≤ 2 ^ 53)
    (low : shift = 0 ∨ 2 ^ 52 ≤ significand) :
    unitsOfRank (shift * 2 ^ 52 + significand) = significand * 2 ^ shift := by
  by_cases hnormal : 2 ^ 52 ≤ significand
  · by_cases hcarry : significand = 2 ^ 53
    · have hbinade := unitsOfRank_binade (shift + 1) (show 0 < 2 ^ 52 by decide)
      rw [show shift * 2 ^ 52 + significand = (shift + 1 + 1) * 2 ^ 52 + 0 by omega, hbinade,
        hcarry, Nat.pow_succ 2 shift]
      ring
    · have hplace : significand - 2 ^ 52 < 2 ^ 52 := by omega
      have hbinade := unitsOfRank_binade shift hplace
      rw [show shift * 2 ^ 52 + significand = (shift + 1) * 2 ^ 52 + (significand - 2 ^ 52) by omega,
        hbinade, Nat.add_sub_of_le hnormal]
  · have hshift : shift = 0 := by omega
    have hrank : unitsOfRank significand = significand := unitsOfRank_of_lt (by omega)
    rw [hshift, Nat.zero_mul, Nat.zero_add, hrank, Nat.pow_zero, Nat.mul_one]

/-! ### The rank -/

section Ratio
variable {num den : Nat}

/-- The spacing of the magnitudes around a ratio: small against the ratio,
unless it is the least spacing there is. -/
theorem exists_spacing (num : Nat) (hden : 0 < den) :
    ∃ shift, rankOfRatio num den = shift * 2 ^ 52 + nearestEven num (den * 2 ^ shift) ∧
      num < 2 ^ 53 * (den * 2 ^ shift) ∧ (shift = 0 ∨ 2 ^ 52 * (den * 2 ^ shift) ≤ num) := by
  -- the shift is what the quotient's length has over 53 bits
  refine ⟨(num / den).log2 - 52, rfl, ?_, ?_⟩
  · have hlog : (num / den).log2 + 1 ≤ 53 + ((num / den).log2 - 52) := by omega
    have hquotient : num / den < 2 ^ (53 + ((num / den).log2 - 52)) :=
      Nat.lt_of_lt_of_le Nat.lt_log2_self (Nat.pow_le_pow_right (by decide) hlog)
    have hnum := (Nat.div_lt_iff_lt_mul hden).mp hquotient
    rw [Nat.pow_add] at hnum
    calc num < 2 ^ 53 * 2 ^ ((num / den).log2 - 52) * den := hnum
      _ = 2 ^ 53 * (den * 2 ^ ((num / den).log2 - 52)) := by ring
  · by_cases hshift : (num / den).log2 - 52 = 0
    · exact .inl hshift
    · refine .inr ?_
      have hne : num / den ≠ 0 := by
        intro hzero
        rw [hzero] at hshift
        exact hshift rfl
      have hlog : 52 + ((num / den).log2 - 52) = (num / den).log2 := by omega
      have hquotient : 2 ^ (52 + ((num / den).log2 - 52)) ≤ num / den := by
        rw [hlog]
        exact Nat.log2_self_le hne
      have hnum := (Nat.le_div_iff_mul_le hden).mp hquotient
      rw [Nat.pow_add] at hnum
      calc 2 ^ 52 * (den * 2 ^ ((num / den).log2 - 52))
          = 2 ^ 52 * 2 ^ ((num / den).log2 - 52) * den := by ring
        _ ≤ num := hnum

/-- Ratios with a rounding error that is small against them: whole numbers of
units, which need none up to `2 ^ 53`, and what has 53 bits before the point. -/
def Roundable (num den : Nat) : Prop := 0 < den ∧ (den = 1 ∨ 2 ^ 52 * den ≤ num)

theorem unitsOfRank_rankOfRatio_bounds (h : Roundable num den) :
    2 ^ 53 * num ≤ 2 ^ 53 * (unitsOfRank (rankOfRatio num den) * den) + num ∧
      2 ^ 53 * (unitsOfRank (rankOfRatio num den) * den) ≤ 2 ^ 53 * num + num := by
  obtain ⟨hden, hlarge⟩ := h
  obtain ⟨shift, hrank, hhigh, hlow⟩ := exists_spacing num hden
  have hspacing : 0 < den * 2 ^ shift := Nat.mul_pos hden (Nat.two_pow_pos shift)
  have hmost := nearestEven_le hspacing hhigh
  have hleast : shift = 0 ∨ 2 ^ 52 ≤ nearestEven num (den * 2 ^ shift) :=
    hlow.imp_right (le_nearestEven hspacing)
  have hunits : unitsOfRank (rankOfRatio num den) * den =
      nearestEven num (den * 2 ^ shift) * (den * 2 ^ shift) := by
    rw [hrank, unitsOfRank_significand hmost hleast]
    ring
  have hbounds := nearestEven_bounds num hspacing
  rw [hunits]
  -- either the spacing is small against the ratio, or nothing is rounded
  have hcases : 2 ^ 52 * (den * 2 ^ shift) ≤ num ∨ den * 2 ^ shift = 1 := by
    rcases hlow with rfl | hsmall
    · rw [Nat.pow_zero, Nat.mul_one]
      exact hlarge.symm
    · exact .inl hsmall
  rcases hcases with hsmall | hexact
  · constructor <;> omega
  · have hround := nearestEven_mul num Nat.one_pos
    rw [Nat.mul_one] at hround
    rw [hexact, hround]
    constructor <;> omega

end Ratio

/-! ### Sizes -/

/-- The magnitude of a double as a rational number. -/
def size (x : Binary64) : ℚ := x.magnitude / unitsOfOne

/-- Within the relative error of one rounding. -/
def RoundedFrom (v w : ℚ) : Prop := |v - w| ≤ w / 2 ^ 53

theorem cast_unitsOfOne_pos : (0 : ℚ) < unitsOfOne := by exact_mod_cast unitsOfOne_pos

theorem size_nonneg (x : Binary64) : 0 ≤ x.size := by
  unfold size
  positivity

theorem size_one : one.size = 1 := by
  have hone : one.magnitude = 2 ^ 0 * unitsOfOne := unitsOfRank_rankOfPower 0
  have hpos := cast_unitsOfOne_pos
  unfold size
  rw [hone, Nat.pow_zero, Nat.one_mul, div_self hpos.ne']

theorem size_of_magnitude {x : Binary64} {n : Nat} (h : x.magnitude = n * unitsOfOne) :
    x.size = n := by
  have hpos := cast_unitsOfOne_pos
  unfold size
  rw [h, Nat.cast_mul, mul_div_cancel_right₀ _ hpos.ne']

theorem magnitude_eq_size_mul (x : Binary64) : (x.magnitude : ℚ) = x.size * unitsOfOne := by
  have hpos := cast_unitsOfOne_pos
  unfold size
  rw [div_mul_cancel₀ _ hpos.ne']

theorem magnitude_le_iff {x y : Binary64} : x.magnitude ≤ y.magnitude ↔ x.size ≤ y.size := by
  have hpos := cast_unitsOfOne_pos
  unfold size
  rw [div_le_div_iff_of_pos_right hpos, Nat.cast_le]

theorem magnitude_le_of_size_le {x : Binary64} {n : Nat} (h : x.size ≤ n) :
    x.magnitude ≤ n * unitsOfOne := by
  have hpos := cast_unitsOfOne_pos
  unfold size at h
  rw [div_le_iff₀ hpos] at h
  exact_mod_cast h

theorem units_of_positive {x : Binary64} (h : x.negative = false) : x.units = x.magnitude := by
  unfold units
  rw [h]
  rfl

/-- Every whole number up to `2 ^ 53` is the magnitude of a double. -/
theorem exists_magnitude {n : Nat} (h : n ≤ 2 ^ 53) :
    ∃ x : Binary64, x.magnitude = n * unitsOfOne := by
  obtain ⟨r, hr⟩ := exists_rank_of_le h
  have hpower : r < rankOfPower 54 := by
    rw [lt_rankOfPower_iff, hr]
    exact Nat.mul_lt_mul_of_pos_right (by omega) unitsOfOne_pos
  exact ⟨⟨false, r, Nat.lt_trans hpower (by unfold rankOfPower; decide)⟩, hr⟩

/-- Integers up to `2 ^ 53` are converted exactly. -/
theorem units_ofInt_of_le {n : Int} (h : n.natAbs ≤ 2 ^ 53) :
    (ofInt n).units = n * unitsOfOne := by
  obtain ⟨x, hx⟩ := exists_magnitude h
  exact units_ofInt hx

theorem magnitude_ofInt {n : Int} (h : n.natAbs ≤ 2 ^ 53) :
    (ofInt n).magnitude = n.natAbs * unitsOfOne := by
  rw [← natAbs_units, units_ofInt_of_le h, Int.natAbs_mul, Int.natAbs_natCast]

/-- A roundable ratio below `2 ^ 64` becomes a finite double near it. -/
theorem exists_ofRatio (negative : Bool) {num den : Nat} (h : Roundable num den)
    (hbound : num ≤ 2 ^ 64 * unitsOfOne * den) :
    ∃ x, ofRatio negative num den = .finite x ∧ x.negative = negative ∧
      RoundedFrom x.size (num / (den * unitsOfOne)) := by
  obtain ⟨hlow, hhigh⟩ := unitsOfRank_rankOfRatio_bounds h
  have hunits : unitsOfRank (rankOfRatio num den) * den < 2 ^ 66 * unitsOfOne * den := by
    have hpos : 0 < unitsOfOne * den := Nat.mul_pos unitsOfOne_pos h.1
    rw [Nat.mul_assoc] at hbound ⊢
    omega
  have hpower : rankOfRatio num den < rankOfPower 66 :=
    lt_rankOfPower_iff.mpr (Nat.lt_of_mul_lt_mul_right hunits)
  have hfinite : rankOfRatio num den < 2047 * 2 ^ 52 :=
    Nat.lt_trans hpower (by unfold rankOfPower; decide)
  refine ⟨⟨negative, rankOfRatio num den, hfinite⟩, ?_, rfl, ?_⟩
  · unfold ofRatio
    simp only [hfinite, dite_true]
  · have hone := cast_unitsOfOne_pos
    have hden : (0 : ℚ) < den := by exact_mod_cast h.1
    have hlow' : (2 : ℚ) ^ 53 * num ≤ 2 ^ 53 * (unitsOfRank (rankOfRatio num den) * den) + num := by
      exact_mod_cast hlow
    have hhigh' : (2 : ℚ) ^ 53 * (unitsOfRank (rankOfRatio num den) * den) ≤ 2 ^ 53 * num + num := by
      exact_mod_cast hhigh
    show |(unitsOfRank (rankOfRatio num den) : ℚ) / unitsOfOne - num / (den * unitsOfOne)| ≤ _
    have hdistance : (unitsOfRank (rankOfRatio num den) : ℚ) / unitsOfOne - num / (den * unitsOfOne)
        = (unitsOfRank (rankOfRatio num den) * den - num) / (den * unitsOfOne) := by
      field_simp
    have hprod : 0 < (den : ℚ) * unitsOfOne := mul_pos hden hone
    rw [hdistance, abs_div, abs_of_pos hprod, div_right_comm, div_le_div_iff_of_pos_right hprod,
      abs_le]
    constructor <;> linarith

/-! ### Operations -/

section Operations
variable {x y : Binary64}

/-- One unit is so small that quotients of whole numbers are rounded to 53 bits. -/
theorem le_mul_unitsOfOne {n d : Nat} (hn : 0 < n) (hd : d ≤ 2 ^ 53) :
    2 ^ 52 * d ≤ n * unitsOfOne := by
  obtain ⟨k, hk⟩ : ∃ k, k = 1074 := ⟨1074, rfl⟩
  calc 2 ^ 52 * d ≤ 2 ^ 105 := by omega
    _ ≤ 2 ^ k := Nat.pow_le_pow_right (by decide) (by omega)
    _ = unitsOfOne := (unitsOfOne_eq hk).symm
    _ ≤ n * unitsOfOne := Nat.le_mul_of_pos_left _ hn

theorem exists_ofFraction {n d : Nat} (hn : 0 < n) (hn' : n ≤ 2 ^ 53) (hd : 0 < d)
    (hd' : d ≤ 2 ^ 53) :
    ∃ z, ofFraction n d = .finite z ∧ z.negative = false ∧ RoundedFrom z.size (n / d) := by
  have hbound : n * unitsOfOne ≤ 2 ^ 64 * unitsOfOne * d := by
    calc n * unitsOfOne ≤ 2 ^ 64 * unitsOfOne := Nat.mul_le_mul_right _ (by omega)
      _ ≤ 2 ^ 64 * unitsOfOne * d := Nat.le_mul_of_pos_right _ hd
  have hroundable : Roundable (n * unitsOfOne) d := ⟨hd, .inr (le_mul_unitsOfOne hn hd')⟩
  obtain ⟨z, hz, hsign, hsize⟩ := exists_ofRatio false hroundable hbound
  refine ⟨z, hz, hsign, ?_⟩
  have hpos := cast_unitsOfOne_pos
  rw [Nat.cast_mul, mul_div_mul_right _ _ hpos.ne'] at hsize
  exact hsize

theorem exists_div {n d : Nat} (hx : x.magnitude = n * unitsOfOne) (hy : y.magnitude = d * unitsOfOne)
    (hn : 0 < n) (hn' : n ≤ 2 ^ 53) (hd : 0 < d) (hd' : d ≤ 2 ^ 53) :
    ∃ z, x.div y = .finite z ∧ z.negative = (x.negative != y.negative) ∧
      RoundedFrom z.size (n / d) := by
  have hone := unitsOfOne_pos
  have hroundable : Roundable (n * unitsOfOne * unitsOfOne) (d * unitsOfOne) := by
    refine ⟨Nat.mul_pos hd hone, .inr ?_⟩
    rw [← Nat.mul_assoc]
    exact Nat.mul_le_mul_right _ (le_mul_unitsOfOne hn hd')
  have hbound : n * unitsOfOne * unitsOfOne ≤ 2 ^ 64 * unitsOfOne * (d * unitsOfOne) := by
    rw [← Nat.mul_assoc]
    refine Nat.mul_le_mul_right _ ?_
    calc n * unitsOfOne ≤ 2 ^ 64 * unitsOfOne := Nat.mul_le_mul_right _ (by omega)
      _ ≤ 2 ^ 64 * unitsOfOne * d := Nat.le_mul_of_pos_right _ hd
  obtain ⟨z, hz, hsign, hsize⟩ := exists_ofRatio (x.negative != y.negative) hroundable hbound
  refine ⟨z, ?_, hsign, ?_⟩
  · unfold div
    rw [hx, hy]
    exact hz
  · have hpos := cast_unitsOfOne_pos
    have hquotient : ((n * unitsOfOne * unitsOfOne : Nat) : ℚ) / ((d * unitsOfOne : Nat) * unitsOfOne)
        = n / d := by
      push_cast
      field_simp
    rw [hquotient] at hsize
    exact hsize

theorem cast_natAbs_units_sub (hsign : x.negative = y.negative) :
    ((x.units - y.units).natAbs : ℚ) = |x.size - y.size| * unitsOfOne := by
  have hpos := cast_unitsOfOne_pos
  have habs : |x.units - y.units| = |(x.magnitude : Int) - y.magnitude| := by
    unfold units
    rw [hsign]
    split
    · rw [neg_sub_neg, abs_sub_comm]
    · rfl
  have hcast : ((x.units - y.units).natAbs : ℚ) = |(x.magnitude : ℚ) - y.magnitude| := by
    rw [Nat.cast_natAbs, habs]
    push_cast
    rfl
  rw [hcast, magnitude_eq_size_mul, magnitude_eq_size_mul, ← sub_mul, abs_mul, abs_of_pos hpos]

theorem exists_sub (hsign : x.negative = y.negative) (hx : x.size ≤ 2 ^ 54) (hy : y.size ≤ 2 ^ 54) :
    ∃ z, x.sub y = .finite z ∧ RoundedFrom z.size |x.size - y.size| := by
  have hpos := cast_unitsOfOne_pos
  have hdistance := cast_natAbs_units_sub hsign
  have hsmall : |x.size - y.size| ≤ 2 ^ 54 := by
    have hx' := x.size_nonneg
    have hy' := y.size_nonneg
    rw [abs_le]
    constructor <;> linarith
  have hbound : (x.units - y.units).natAbs ≤ 2 ^ 64 * unitsOfOne * 1 := by
    have hcast : ((x.units - y.units).natAbs : ℚ) ≤ ((2 ^ 64 * unitsOfOne : Nat) : ℚ) := by
      rw [hdistance, Nat.cast_mul]
      exact mul_le_mul_of_nonneg_right (hsmall.trans (by norm_num)) hpos.le
    rw [Nat.mul_one]
    exact Nat.cast_le.mp hcast
  have hroundable : Roundable (x.units - y.units).natAbs 1 := ⟨Nat.one_pos, .inl rfl⟩
  obtain ⟨z, hz, -, hsize⟩ :=
    exists_ofRatio (decide (x.units - y.units < 0)) hroundable hbound
  refine ⟨z, by unfold sub; exact hz, ?_⟩
  rwa [hdistance, Nat.cast_one, one_mul, mul_div_cancel_right₀ _ hpos.ne'] at hsize

theorem exists_mul (hx : 2 ^ 52 ≤ x.magnitude) (hx' : x.size ≤ 1) (hy : 1 ≤ y.size)
    (hy' : y.size ≤ 2 ^ 54) :
    ∃ z, x.mul y = .finite z ∧ z.negative = (x.negative != y.negative) ∧
      RoundedFrom z.size (x.size * y.size) := by
  have hone := unitsOfOne_pos
  have hpos := cast_unitsOfOne_pos
  have hxone : x.magnitude ≤ 1 * unitsOfOne := magnitude_le_of_size_le (by exact_mod_cast hx')
  have hytop : y.magnitude ≤ 2 ^ 54 * unitsOfOne := by
    have hmost : y.size ≤ ((2 ^ 54 : Nat) : ℚ) := by exact_mod_cast hy'
    exact magnitude_le_of_size_le hmost
  have hyone : unitsOfOne ≤ y.magnitude := by
    have hleast : (unitsOfOne : ℚ) ≤ y.magnitude := by
      rw [magnitude_eq_size_mul]
      exact le_mul_of_one_le_left hpos.le hy
    exact_mod_cast hleast
  have hlarge : 2 ^ 52 * unitsOfOne ≤ x.magnitude * y.magnitude := Nat.mul_le_mul hx hyone
  have hbound : x.magnitude * y.magnitude ≤ 2 ^ 64 * unitsOfOne * unitsOfOne := by
    calc x.magnitude * y.magnitude ≤ 1 * unitsOfOne * (2 ^ 54 * unitsOfOne) :=
          Nat.mul_le_mul hxone hytop
      _ = 2 ^ 54 * (unitsOfOne * unitsOfOne) := by ring
      _ ≤ 2 ^ 64 * (unitsOfOne * unitsOfOne) := Nat.mul_le_mul_right _ (by decide)
      _ = 2 ^ 64 * unitsOfOne * unitsOfOne := by ring
  obtain ⟨z, hz, hsign, hsize⟩ :=
    exists_ofRatio (x.negative != y.negative) ⟨hone, .inr hlarge⟩ hbound
  refine ⟨z, hz, hsign, ?_⟩
  have hproduct : ((x.magnitude * y.magnitude : Nat) : ℚ) / (unitsOfOne * unitsOfOne) =
      x.size * y.size := by
    rw [Nat.cast_mul, mul_div_mul_comm]
    rfl
  rwa [hproduct] at hsize

/-! ### The nearest whole number -/

/-- Rounding to a whole number keeps the sign and is exact. -/
theorem exists_round (x : Binary64) :
    ∃ whole : Nat, x.round.negative = x.negative ∧ x.round.magnitude = whole * unitsOfOne ∧
      2 * unitsOfOne * whole ≤ 2 * x.magnitude + unitsOfOne ∧
      2 * x.magnitude + unitsOfOne < 2 * unitsOfOne * (whole + 1) := by
  have hone := unitsOfOne_pos
  have htwo : 0 < 2 * unitsOfOne := by omega
  have hfloor := Nat.mul_div_le (2 * x.magnitude + unitsOfOne) (2 * unitsOfOne)
  have hceil := Nat.lt_mul_div_succ (2 * x.magnitude + unitsOfOne) htwo
  refine ⟨(2 * x.magnitude + unitsOfOne) / (2 * unitsOfOne), ?_⟩
  obtain ⟨y, hy⟩ : ∃ y : Binary64, y.magnitude =
      (2 * x.magnitude + unitsOfOne) / (2 * unitsOfOne) * unitsOfOne := by
    by_cases hlarge : rankOfPower 52 ≤ x.rank
    · -- all magnitudes are whole from here on
      obtain ⟨whole, hwhole⟩ := dvd_unitsOfRank hlarge
      have hmagnitude : x.magnitude = unitsOfOne * whole := hwhole
      have hvalue : (2 * x.magnitude + unitsOfOne) / (2 * unitsOfOne) = whole := by
        rw [hmagnitude, show 2 * (unitsOfOne * whole) + unitsOfOne =
          unitsOfOne + 2 * unitsOfOne * whole by ring, Nat.add_mul_div_left _ _ htwo,
          Nat.div_eq_of_lt (by omega), Nat.zero_add]
      exact ⟨x, by rw [hvalue, hmagnitude, Nat.mul_comm]⟩
    · have hsmall : x.magnitude < 2 ^ 52 * unitsOfOne := lt_rankOfPower_iff.mp (by omega)
      have hwhole : (2 * x.magnitude + unitsOfOne) / (2 * unitsOfOne) < 2 ^ 53 := by
        rw [Nat.div_lt_iff_lt_mul htwo]
        omega
      exact exists_magnitude hwhole.le
  have hround : x.round = ⟨x.negative, y.rank, y.finite⟩ := by
    unfold round
    dsimp only
    rw [← hy, ofRatio_magnitude]
    rfl
  rw [hround]
  exact ⟨rfl, hy, hfloor, hceil⟩

/-- No whole number is nearer than the one rounded to. -/
theorem exists_nearest (x : Binary64) :
    ∃ whole : Nat, x.round.negative = x.negative ∧ x.round.size = whole ∧
      |x.size - whole| ≤ 1 / 2 ∧ ∀ n : Nat, |x.size - whole| ≤ |x.size - n| := by
  obtain ⟨whole, hsign, hmagnitude, hlow, hhigh⟩ := x.exists_round
  have hpos := cast_unitsOfOne_pos
  have hhalf : |x.size - whole| ≤ 1 / 2 := by
    have hlow' : 2 * (unitsOfOne : ℚ) * whole ≤ 2 * (x.size * unitsOfOne) + unitsOfOne := by
      rw [← magnitude_eq_size_mul]
      exact_mod_cast hlow
    have hhigh' : 2 * (x.size * unitsOfOne) + unitsOfOne < 2 * (unitsOfOne : ℚ) * (whole + 1) := by
      rw [← magnitude_eq_size_mul]
      exact_mod_cast hhigh
    rw [abs_le]
    constructor
    · refine le_of_mul_le_mul_right ?_ hpos
      linarith
    · refine le_of_mul_le_mul_right ?_ hpos
      linarith
  refine ⟨whole, hsign, size_of_magnitude hmagnitude, hhalf, fun n => ?_⟩
  by_cases hsame : n = whole
  · rw [hsame]
  · -- another whole number is at least one away from this one
    have hapart : (1 : ℚ) ≤ |(n : ℚ) - whole| := by
      have hint : (1 : Int) ≤ |(n : Int) - whole| := Int.one_le_abs (by omega)
      exact_mod_cast hint
    have htriangle := abs_sub_le (n : ℚ) x.size whole
    rw [abs_sub_comm (n : ℚ) x.size] at htriangle
    linarith

/-! ### Comparison -/

theorem size_max_abs_one (x : Binary64) :
    (x.abs.max one).negative = false ∧ (x.abs.max one).size = Max.max x.size 1 := by
  have habs : x.abs.units = x.magnitude := units_of_positive rfl
  have hone : one.units = one.magnitude := units_of_positive rfl
  have hsize : x.abs.size = x.size := rfl
  unfold Binary64.max
  by_cases hlt : x.abs.lt one = true
  · rw [if_pos hlt]
    rw [lt_eq_true, habs, hone, Int.ofNat_lt] at hlt
    have hle := magnitude_le_iff.mp hlt.le
    rw [size_one] at hle
    exact ⟨rfl, by rw [size_one, max_eq_right hle]⟩
  · rw [if_neg hlt]
    rw [lt_eq_true, habs, hone, Int.ofNat_lt, not_lt] at hlt
    have hle := magnitude_le_iff.mp hlt
    rw [size_one] at hle
    exact ⟨rfl, by rw [hsize, max_eq_left hle]⟩

theorem isAtLeast_abs (hy : y.negative = false) :
    (Rounded.finite y).isAtLeast x.abs = true ↔ x.size ≤ y.size := by
  have habs : x.abs.units = x.magnitude := units_of_positive rfl
  show x.abs.le y = true ↔ _
  rw [le_eq_true, habs, units_of_positive hy, Int.ofNat_le]
  exact magnitude_le_iff

end Operations
end Binary64
end ApiContract
