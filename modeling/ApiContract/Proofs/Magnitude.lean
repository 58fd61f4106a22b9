import ApiContract.Binary64
import Mathlib.Order.Monotone.Basic

/-!
# Magnitudes of doubles

Units by rank.  A rank is a binade and a place among its `2 ^ 52` magnitudes;
greater ranks have more units, and every whole number up to `2 ^ 53` is the
magnitude of some rank.
-/

namespace ApiContract
namespace Binary64

/-! ### Binades -/

theorem unitsOfRank_of_lt {r : Nat} (h : r < 2 ^ 52) : unitsOfRank r = r := if_pos h

theorem unitsOfRank_binade (e : Nat) {place : Nat} (h : place < 2 ^ 52) :
    unitsOfRank ((e + 1) * 2 ^ 52 + place) = (2 ^ 52 + place) * 2 ^ e := by
  have hge : ¬(e + 1) * 2 ^ 52 + place < 2 ^ 52 := by omega
  have hmod : ((e + 1) * 2 ^ 52 + place) % 2 ^ 52 = place := by omega
  have hdiv : ((e + 1) * 2 ^ 52 + place) / 2 ^ 52 - 1 = e := by omega
  rw [unitsOfRank, if_neg hge, hmod, hdiv]

/-- A rank is below the first binade, or in the binade of some exponent. -/
theorem lt_or_exists_binade (r : Nat) :
    r < 2 ^ 52 ∨ ∃ e place, place < 2 ^ 52 ∧ r = (e + 1) * 2 ^ 52 + place := by
  by_cases h : r < 2 ^ 52
  · exact .inl h
  · exact .inr ⟨r / 2 ^ 52 - 1, r % 2 ^ 52, by omega, by omega⟩

/-! ### Order -/

theorem unitsOfRank_lt_succ (r : Nat) : unitsOfRank r < unitsOfRank (r + 1) := by
  obtain h | ⟨e, place, hplace, rfl⟩ := lt_or_exists_binade r
  · rw [unitsOfRank_of_lt h]
    by_cases hnext : r + 1 < 2 ^ 52
    · rw [unitsOfRank_of_lt hnext]
      exact Nat.lt_succ_self r
    · have hfirst := unitsOfRank_binade 0 (show 0 < 2 ^ 52 by decide)
      rw [show r + 1 = (0 + 1) * 2 ^ 52 + 0 by omega, hfirst]
      omega
  · rw [unitsOfRank_binade e hplace]
    by_cases hnext : place + 1 < 2 ^ 52
    · rw [Nat.add_assoc, unitsOfRank_binade e hnext]
      exact Nat.mul_lt_mul_of_pos_right (by omega) (Nat.two_pow_pos e)
    · -- the next rank opens the binade above, whose spacing is twice as wide
      have hopen := unitsOfRank_binade (e + 1) (show 0 < 2 ^ 52 by decide)
      have hwide : 2 ^ (e + 1) = 2 * 2 ^ e := Nat.pow_succ'
      rw [show (e + 1) * 2 ^ 52 + place + 1 = (e + 1 + 1) * 2 ^ 52 + 0 by omega, hopen, hwide,
        ← Nat.mul_assoc]
      exact Nat.mul_lt_mul_of_pos_right (by omega) (Nat.two_pow_pos e)

theorem unitsOfRank_strictMono : StrictMono unitsOfRank :=
  strictMono_nat_of_lt_succ unitsOfRank_lt_succ

theorem unitsOfRank_inj {r r' : Nat} : unitsOfRank r = unitsOfRank r' ↔ r = r' :=
  unitsOfRank_strictMono.injective.eq_iff

theorem unitsOfRank_pos {r : Nat} (h : r ≠ 0) : 0 < unitsOfRank r :=
  unitsOfRank_strictMono (Nat.pos_of_ne_zero h)

/-! ### Whole numbers -/

theorem unitsOfOne_eq {n : Nat} (h : n = 1074) : unitsOfOne = 2 ^ n := by
  rw [h, unitsOfOne]

theorem unitsOfOne_pos : 0 < unitsOfOne := by
  obtain ⟨n, hn⟩ : ∃ n, n = 1074 := ⟨1074, rfl⟩
  rw [unitsOfOne_eq hn]
  exact Nat.two_pow_pos n

theorem two_pow_mul_unitsOfOne (n : Nat) : 2 ^ n * unitsOfOne = 2 ^ (n + 1074) := by
  rw [unitsOfOne, Nat.pow_add]


/-- The rank of `2 ^ n`. -/
def rankOfPower (n : Nat) : Nat := (n + 1023) * 2 ^ 52

theorem unitsOfRank_rankOfPower (n : Nat) : unitsOfRank (rankOfPower n) = 2 ^ n * unitsOfOne := by
  have hbinade := unitsOfRank_binade (n + 1022) (show 0 < 2 ^ 52 by decide)
  rw [rankOfPower, show (n + 1023) * 2 ^ 52 = (n + 1022 + 1) * 2 ^ 52 + 0 by omega, hbinade,
    Nat.add_zero, two_pow_mul_unitsOfOne, ← Nat.pow_add, show 52 + (n + 1022) = n + 1074 by omega]

theorem lt_rankOfPower_iff {r n : Nat} :
    r < rankOfPower n ↔ unitsOfRank r < 2 ^ n * unitsOfOne := by
  rw [← unitsOfRank_rankOfPower, unitsOfRank_strictMono.lt_iff_lt]

/-- Every whole number up to `2 ^ 53` is a magnitude. -/
theorem exists_rank_of_le {n : Nat} (h : n ≤ 2 ^ 53) : ∃ r, unitsOfRank r = n * unitsOfOne := by
  by_cases hzero : n = 0
  · exact ⟨0, by rw [hzero, Nat.zero_mul]; rfl⟩
  · by_cases hlast : n = 2 ^ 53
    · exact ⟨rankOfPower 53, by rw [unitsOfRank_rankOfPower, hlast]⟩
    · have hlow := Nat.log2_self_le hzero
      have hhigh := @Nat.lt_log2_self n
      have hlog : n.log2 ≤ 52 := by
        have hlt := (Nat.log2_lt hzero (k := 53)).mpr (by omega)
        omega
      -- the significand: `n` moved up until it has 53 bits
      have hsplit : 2 ^ n.log2 * 2 ^ (52 - n.log2) = 2 ^ 52 := by
        rw [← Nat.pow_add]
        congr 1
        omega
      have hge : 2 ^ 52 ≤ n * 2 ^ (52 - n.log2) := by
        rw [← hsplit]
        exact Nat.mul_le_mul_right _ hlow
      have hlt : n * 2 ^ (52 - n.log2) < 2 ^ 53 := by
        have hmul := Nat.mul_lt_mul_of_pos_right hhigh (Nat.two_pow_pos (52 - n.log2))
        rw [Nat.pow_succ, Nat.mul_assoc, Nat.mul_comm 2, ← Nat.mul_assoc, hsplit] at hmul
        omega
      have hplace : n * 2 ^ (52 - n.log2) - 2 ^ 52 < 2 ^ 52 := by omega
      have hbinade := unitsOfRank_binade (n.log2 + 1022) hplace
      refine ⟨_, hbinade.trans ?_⟩
      have hone := unitsOfOne_eq (show 52 - n.log2 + (n.log2 + 1022) = 1074 by omega)
      rw [Nat.add_sub_of_le hge, Nat.mul_assoc, ← Nat.pow_add, hone]

/-- From `2 ^ 52` on all magnitudes are whole. -/
theorem dvd_unitsOfRank {r : Nat} (h : rankOfPower 52 ≤ r) : unitsOfOne ∣ unitsOfRank r := by
  unfold rankOfPower at h
  have hge : ¬r < 2 ^ 52 := by omega
  obtain ⟨k, hk⟩ : ∃ k, r / 2 ^ 52 - 1 = k + 1074 := ⟨r / 2 ^ 52 - 1 - 1074, by omega⟩
  rw [unitsOfRank, if_neg hge, hk, ← two_pow_mul_unitsOfOne, ← Nat.mul_assoc]
  exact Nat.dvd_mul_left _ _

theorem isWhole_iff {x : Binary64} : x.isWhole = true ↔ unitsOfOne ∣ x.magnitude := by
  rw [isWhole, beq_iff_eq, Nat.dvd_iff_mod_eq_zero]

theorem natAbs_units (x : Binary64) : x.units.natAbs = x.magnitude := by
  unfold units
  split <;> simp

theorem natAbs_truncate (x : Binary64) : x.truncate.natAbs = x.magnitude / unitsOfOne := by
  rw [truncate, Int.natAbs_tdiv, natAbs_units, Int.natAbs_natCast]
  rfl

theorem natAbs_truncate_lt {x : Binary64} {n : Nat} (h : x.rank < rankOfPower n) :
    x.truncate.natAbs < 2 ^ n := by
  rw [natAbs_truncate, Nat.div_lt_iff_lt_mul unitsOfOne_pos]
  exact lt_rankOfPower_iff.mp h

end Binary64
end ApiContract
