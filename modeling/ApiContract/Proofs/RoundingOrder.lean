import ApiContract.Proofs.RoundingError

/-!
# Rounding and order

Rounding never turns two ratios round: a greater ratio has no lesser rank.  So
integers convert to doubles in order.  Two integers can become one double, but
only large ones that are close to each other.
-/

namespace ApiContract
namespace Binary64

/-! ### Ranks -/

theorem nearestEven_mono {num num' den : Nat} (h : num ≤ num') :
    nearestEven num den ≤ nearestEven num' den := by
  have hquotient := Nat.div_le_div_right (c := den) h
  by_cases hsame : num / den = num' / den
  · -- the same quotient: the remainder decides, and a tie goes the same way
    have hsplit := Nat.div_add_mod num den
    have hsplit' := Nat.div_add_mod num' den
    have hrest : num % den ≤ num' % den := by
      rw [hsame] at hsplit
      omega
    unfold nearestEven
    dsimp only
    rw [hsame]
    split_ifs <;> omega
  · have hcases := nearestEven_cases num den
    have hcases' := nearestEven_cases num' den
    omega

theorem rankOfRatio_mono {num num' den : Nat} (hden : 0 < den) (h : num ≤ num') :
    rankOfRatio num den ≤ rankOfRatio num' den := by
  obtain ⟨shift, hrank, hhigh, hlow⟩ := exists_spacing num hden
  obtain ⟨shift', hrank', hhigh', hlow'⟩ := exists_spacing num' hden
  have hspacing (n : Nat) : 0 < den * 2 ^ n := Nat.mul_pos hden (Nat.two_pow_pos n)
  have hmost : nearestEven num (den * 2 ^ shift) ≤ 2 ^ 53 := nearestEven_le (hspacing shift) hhigh
  rw [hrank, hrank']
  rcases Nat.lt_trichotomy shift shift' with hlt | rfl | hgt
  · -- a wider spacing opens a higher binade
    have hleast : 2 ^ 52 ≤ nearestEven num' (den * 2 ^ shift') :=
      le_nearestEven (hspacing shift') (hlow'.resolve_left (by omega))
    omega
  · exact Nat.add_le_add_left (nearestEven_mono h) _
  · exfalso
    have hwide : 2 * (den * 2 ^ shift') ≤ den * 2 ^ shift := by
      have hpower : 2 ^ (shift' + 1) ≤ 2 ^ shift := Nat.pow_le_pow_right (by decide) hgt
      calc 2 * (den * 2 ^ shift') = den * 2 ^ (shift' + 1) := by ring
        _ ≤ den * 2 ^ shift := Nat.mul_le_mul_left den hpower
    have hlow := hlow.resolve_left (by omega)
    omega

theorem rankOfRatio_two_pow (k : Nat) : rankOfRatio (2 ^ k * unitsOfOne) 1 = rankOfPower k := by
  rw [← unitsOfRank_rankOfPower, rankOfRatio_unitsOfRank]

/-! ### Integers -/

section Integers
variable {m n : Int}

theorem negative_ofInt (n : Int) : (ofInt n).negative = decide (n < 0) := by
  unfold ofInt ofRatio
  dsimp only
  split <;> rfl

theorem rank_ofInt (n : Int) :
    (ofInt n).rank = min (rankOfRatio (n.natAbs * unitsOfOne) 1) (2047 * 2 ^ 52 - 1) := by
  unfold ofInt ofRatio
  dsimp only
  split
  · next hfinite =>
    show rankOfRatio (n.natAbs * unitsOfOne) 1 = _
    omega
  · next hinfinite =>
    show 2047 * 2 ^ 52 - 1 = _
    omega

/-- The size of an integer decides the size of its double. -/
theorem magnitude_ofInt_mono (h : m.natAbs ≤ n.natAbs) :
    (ofInt m).magnitude ≤ (ofInt n).magnitude := by
  have hsize : m.natAbs * unitsOfOne ≤ n.natAbs * unitsOfOne := Nat.mul_le_mul_right _ h
  have hrank := rankOfRatio_mono Nat.one_pos hsize
  refine unitsOfRank_strictMono.monotone ?_
  rw [rank_ofInt, rank_ofInt]
  exact min_le_min_right _ hrank

theorem units_ofInt_of_nonneg (h : 0 ≤ n) : (ofInt n).units = (ofInt n).magnitude := by
  refine units_of_positive ?_
  rw [negative_ofInt]
  exact decide_eq_false (by omega)

theorem units_ofInt_of_neg (h : n < 0) : (ofInt n).units = -((ofInt n).magnitude : Int) := by
  unfold units
  rw [negative_ofInt, if_pos (decide_eq_true h)]

/-- Integers convert to doubles in order. -/
theorem units_ofInt_mono (h : m ≤ n) : (ofInt m).units ≤ (ofInt n).units := by
  by_cases hm : m < 0
  · rw [units_ofInt_of_neg hm]
    by_cases hn : n < 0
    · have hsize : n.natAbs ≤ m.natAbs := by omega
      have hmagnitude := magnitude_ofInt_mono hsize
      rw [units_ofInt_of_neg hn]
      omega
    · rw [units_ofInt_of_nonneg (by omega)]
      omega
  · have hsize : m.natAbs ≤ n.natAbs := by omega
    have hmagnitude := magnitude_ofInt_mono hsize
    rw [units_ofInt_of_nonneg (by omega), units_ofInt_of_nonneg (by omega)]
    omega

/-- Doubles that are in order come from integers that are in order. -/
theorem lt_of_units_ofInt_lt (h : (ofInt m).units < (ofInt n).units) : m < n := by
  by_contra hge
  exact absurd (units_ofInt_mono (Int.not_lt.mp hge)) (not_le.mpr h)

/-- Every integer converts to a whole number. -/
theorem isWhole_ofInt (n : Int) : (ofInt n).isWhole = true := by
  rw [isWhole_iff]
  by_cases hsmall : n.natAbs ≤ 2 ^ 53
  · rw [magnitude_ofInt hsmall]
    exact Nat.dvd_mul_left _ _
  · refine dvd_unitsOfRank ?_
    have hsize : 2 ^ 53 * unitsOfOne ≤ n.natAbs * unitsOfOne := Nat.mul_le_mul_right _ (by omega)
    have hrank := rankOfRatio_mono Nat.one_pos hsize
    rw [rankOfRatio_two_pow] at hrank
    rw [rank_ofInt]
    unfold rankOfPower at hrank ⊢
    omega

/-! ### Integers that stay apart -/

/-- Next to an integer below `2 ^ 53` no other one becomes the same double. -/
theorem units_ofInt_lt_of_small (h : m < n) (small : m.natAbs < 2 ^ 53 ∨ n.natAbs < 2 ^ 53) :
    (ofInt m).units < (ofInt n).units := by
  have hone : (0 : Int) < unitsOfOne := by exact_mod_cast unitsOfOne_pos
  have hstep (i : Int) : i * (unitsOfOne : Int) < (i + 1) * unitsOfOne :=
    Int.mul_lt_mul_of_pos_right (by omega) hone
  rcases small with hm | hn
  · have hnext : (m + 1).natAbs ≤ 2 ^ 53 := by omega
    calc (ofInt m).units = m * unitsOfOne := units_ofInt_of_le hm.le
      _ < (m + 1) * unitsOfOne := hstep m
      _ = (ofInt (m + 1)).units := (units_ofInt_of_le hnext).symm
      _ ≤ (ofInt n).units := units_ofInt_mono h
  · have hlast : (n - 1).natAbs ≤ 2 ^ 53 := by omega
    calc (ofInt m).units ≤ (ofInt (n - 1)).units := units_ofInt_mono (by omega)
      _ = (n - 1) * unitsOfOne := units_ofInt_of_le hlast
      _ < (n - 1 + 1) * unitsOfOne := hstep (n - 1)
      _ = n * unitsOfOne := by rw [Int.sub_add_cancel]
      _ = (ofInt n).units := (units_ofInt_of_le hn.le).symm

/-- An integer of up to 64 bits is converted within the error of one rounding. -/
theorem units_ofInt_bounds (h : n.natAbs ≤ 2 ^ 64) :
    2 ^ 53 * (n * unitsOfOne) - |n| * unitsOfOne ≤ 2 ^ 53 * (ofInt n).units ∧
      2 ^ 53 * (ofInt n).units ≤ 2 ^ 53 * (n * unitsOfOne) + |n| * unitsOfOne := by
  have hsize : n.natAbs * unitsOfOne ≤ 2 ^ 64 * unitsOfOne := Nat.mul_le_mul_right _ h
  have htop := rankOfRatio_mono Nat.one_pos hsize
  rw [rankOfRatio_two_pow] at htop
  have hrank : (ofInt n).rank = rankOfRatio (n.natAbs * unitsOfOne) 1 := by
    rw [rank_ofInt]
    unfold rankOfPower at htop
    omega
  obtain ⟨hlow, hhigh⟩ := unitsOfRank_rankOfRatio_bounds
    (show Roundable (n.natAbs * unitsOfOne) 1 from ⟨Nat.one_pos, .inl rfl⟩)
  rw [← hrank, Nat.mul_one] at hlow hhigh
  have hlow' : (2 : Int) ^ 53 * (|n| * unitsOfOne) ≤
      2 ^ 53 * (ofInt n).magnitude + |n| * unitsOfOne := by
    rw [← Int.natCast_natAbs]
    exact_mod_cast hlow
  have hhigh' : (2 : Int) ^ 53 * (ofInt n).magnitude ≤
      2 ^ 53 * (|n| * unitsOfOne) + |n| * unitsOfOne := by
    rw [← Int.natCast_natAbs]
    exact_mod_cast hhigh
  by_cases hneg : n < 0
  · rw [units_ofInt_of_neg hneg]
    rw [abs_of_neg hneg] at hlow' hhigh' ⊢
    constructor <;> linarith
  · rw [units_ofInt_of_nonneg (by omega)]
    rw [abs_of_nonneg (by omega)] at hlow' hhigh' ⊢
    constructor <;> linarith

/-- Integers that are farther apart than the errors of their conversions stay apart. -/
theorem units_ofInt_lt_of_far (hm : m.natAbs ≤ 2 ^ 64) (hn : n.natAbs ≤ 2 ^ 64)
    (far : |m| + |n| < 2 ^ 53 * (n - m)) : (ofInt m).units < (ofInt n).units := by
  obtain ⟨-, hhigh⟩ := units_ofInt_bounds hm
  obtain ⟨hlow, -⟩ := units_ofInt_bounds hn
  have hone : (0 : Int) < unitsOfOne := by exact_mod_cast unitsOfOne_pos
  have hscaled := Int.mul_lt_mul_of_pos_right far hone
  linarith

end Integers
end Binary64
end ApiContract
