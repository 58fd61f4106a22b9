import ApiContract.Check.Numeric
import ApiContract.Json.Canonical
import ApiContract.Proofs.Magnitude

/-!
# Rounding what needs no rounding

A magnitude rounds to itself, so an integer that is the value of a double
converts to that double.  Doubles of the same value are one double or the two
zeros, and the constraints on numbers do not tell the zeros apart.
-/

namespace ApiContract
namespace Binary64

/-! ### Magnitudes -/

theorem nearestEven_mul (n : Nat) {den : Nat} (h : 0 < den) : nearestEven (n * den) den = n := by
  have hrest : n * den % den = 0 := Nat.mul_mod_left n den
  have hquotient : n * den / den = n := Nat.mul_div_cancel n h
  unfold nearestEven
  rw [hrest, hquotient]
  exact if_pos h

theorem log2_binade (e : Nat) {place : Nat} (h : place < 2 ^ 52) :
    ((2 ^ 52 + place) * 2 ^ e).log2 = 52 + e := by
  have hpos := Nat.two_pow_pos e
  have hne : (2 ^ 52 + place) * 2 ^ e ≠ 0 := Nat.mul_ne_zero (by omega) (by omega)
  rw [Nat.log2_eq_iff hne, Nat.pow_add, Nat.add_right_comm, Nat.pow_add]
  constructor
  · exact Nat.mul_le_mul_right _ (by omega)
  · exact Nat.mul_lt_mul_of_pos_right (by omega) hpos

theorem rankOfRatio_unitsOfRank (r : Nat) : rankOfRatio (unitsOfRank r) 1 = r := by
  unfold rankOfRatio
  simp only [Nat.div_one, Nat.one_mul]
  obtain h | ⟨e, place, hplace, rfl⟩ := lt_or_exists_binade r
  · have hshift : r.log2 - 52 = 0 := by
      by_cases hzero : r = 0
      · rw [hzero]
        rfl
      · have hlog := (Nat.log2_lt hzero).mpr h
        omega
    have hround := nearestEven_mul r Nat.one_pos
    rw [Nat.mul_one] at hround
    rw [unitsOfRank_of_lt h, hshift, Nat.pow_zero, hround]
    omega
  · have hround := nearestEven_mul (2 ^ 52 + place) (Nat.two_pow_pos e)
    rw [unitsOfRank_binade e hplace, log2_binade e hplace, Nat.add_sub_cancel_left, hround]
    omega

/-- The magnitude of a finite double rounds to that double. -/
theorem ofRatio_magnitude (x : Binary64) (negative : Bool) :
    ofRatio negative x.magnitude 1 = .finite ⟨negative, x.rank, x.finite⟩ := by
  have hrank : rankOfRatio x.magnitude 1 = x.rank := rankOfRatio_unitsOfRank x.rank
  unfold ofRatio
  simp only [hrank, x.finite, dite_true]

/-! ### Integers -/

/-- An integer of the size of a double converts to its own value. -/
theorem units_ofInt {i : Int} {x : Binary64} (h : x.magnitude = i.natAbs * unitsOfOne) :
    (ofInt i).units = i * unitsOfOne := by
  have hvalue : ofInt i = ⟨decide (i < 0), x.rank, x.finite⟩ := by
    unfold ofInt
    rw [← h, ofRatio_magnitude]
    rfl
  have hmagnitude : (ofInt i).magnitude = i.natAbs * unitsOfOne := by
    rw [hvalue]
    exact h
  unfold units
  rw [hmagnitude, hvalue]
  by_cases hneg : i < 0
  · have habs : (i.natAbs : Int) = -i := by omega
    rw [if_pos (decide_eq_true hneg), Int.natCast_mul, habs, Int.neg_mul, Int.neg_neg]
  · have habs : (i.natAbs : Int) = i := by omega
    rw [if_neg (by simpa using hneg), Int.natCast_mul, habs]

theorem units_of_isWhole {x : Binary64} (h : x.isWhole = true) :
    x.units = x.truncate * unitsOfOne := by
  have hdvd : (unitsOfOne : Int) ∣ x.units := by
    rw [← Int.natAbs_dvd_natAbs, natAbs_units, Int.natAbs_natCast]
    exact isWhole_iff.mp h
  exact (Int.tdiv_mul_cancel hdvd).symm

/-- The integer part of a whole double converts back to its value. -/
theorem units_ofInt_truncate {x : Binary64} (h : x.isWhole = true) :
    (ofInt x.truncate).units = x.units := by
  have hmagnitude : x.magnitude = x.truncate.natAbs * unitsOfOne := by
    rw [natAbs_truncate, Nat.div_mul_cancel (isWhole_iff.mp h)]
  rw [units_ofInt hmagnitude, units_of_isWhole h]

/-! ### Doubles of the same value -/

theorem eq_of_units_eq {x y : Binary64} (h : x.units = y.units) :
    x = y ∨ (x.rank = 0 ∧ y.rank = 0) := by
  have hmagnitude : unitsOfRank x.rank = unitsOfRank y.rank := by
    have habs := congrArg Int.natAbs h
    rwa [natAbs_units, natAbs_units] at habs
  have hrank := unitsOfRank_inj.mp hmagnitude
  by_cases hzero : x.rank = 0
  · exact .inr ⟨hzero, hrank ▸ hzero⟩
  · have hpos := unitsOfRank_pos hzero
    refine .inl ?_
    obtain ⟨negative, r, hr⟩ := x
    obtain ⟨negative', r', hr'⟩ := y
    cases hrank
    -- a magnitude above zero has two values, one for each sign
    cases negative <;> cases negative' <;> simp [units, magnitude] at h hpos ⊢ <;> omega

theorem magnitude_of_rank_zero {x : Binary64} (h : x.rank = 0) : x.magnitude = 0 := by
  unfold magnitude
  rw [h]
  rfl

theorem units_of_rank_zero {x : Binary64} (h : x.rank = 0) : x.units = 0 := by
  rw [← Int.natAbs_eq_zero, natAbs_units, magnitude_of_rank_zero h]

theorem ofRatio_zero (negative : Bool) (den : Nat) :
    ofRatio negative 0 den = .finite ⟨negative, 0, zero.finite⟩ := by
  have hrank : rankOfRatio 0 den = 0 := by simp [rankOfRatio, nearestEven]
  unfold ofRatio
  simp only [hrank]
  rfl

theorem round_of_rank_zero {x : Binary64} (h : x.rank = 0) :
    x.round = ⟨x.negative, 0, zero.finite⟩ := by
  have hpos := unitsOfOne_pos
  have hwhole : (2 * x.magnitude + unitsOfOne) / (2 * unitsOfOne) = 0 := by
    rw [magnitude_of_rank_zero h]
    exact Nat.div_eq_of_lt (by omega)
  unfold round
  simp only [hwhole, Nat.zero_mul, ofRatio_zero]
  rfl

/-- Zero is a multiple of every divisor, under every tolerance. -/
theorem isMultipleOf_of_rank_zero {x : Binary64} (h : x.rank = 0) (epsilon divisor : Binary64) :
    isMultipleOf epsilon x divisor = true := by
  have hzero (negative : Bool) : (Binary64.mk negative 0 zero.finite).eq zero = true := by
    rw [eq_eq_true, units_of_rank_zero rfl, units_zero]
  have hx : x.eq zero = true := by rw [eq_eq_true, units_of_rank_zero h, units_zero]
  unfold isMultipleOf
  by_cases hexact : epsilon.eq zero = true
  · rw [if_pos hexact, divides, magnitude_of_rank_zero h, Nat.zero_mod]
    rfl
  · have hquotient : x.div divisor = .finite ⟨x.negative != divisor.negative, 0, zero.finite⟩ := by
      unfold div
      rw [magnitude_of_rank_zero h, Nat.zero_mul, ofRatio_zero]
    rw [if_neg hexact, hquotient]
    dsimp only
    rw [round_of_rank_zero rfl, if_pos (hzero _), hx]

section SameValue
variable {x y : Binary64} (h : x.units = y.units)
include h

theorem le_congr_left (z : Binary64) : x.le z = y.le z := by
  unfold le
  rw [h]

theorem le_congr_right (z : Binary64) : z.le x = z.le y := by
  unfold le
  rw [h]

theorem lt_congr_left (z : Binary64) : x.lt z = y.lt z := by
  unfold lt
  rw [h]

theorem lt_congr_right (z : Binary64) : z.lt x = z.lt y := by
  unfold lt
  rw [h]

theorem isWhole_congr : x.isWhole = y.isWhole := by
  unfold isWhole
  rw [← natAbs_units, ← natAbs_units, h]

theorem isMultipleOf_congr (epsilon divisor : Binary64) :
    isMultipleOf epsilon x divisor = isMultipleOf epsilon y divisor := by
  rcases eq_of_units_eq h with rfl | ⟨hx, hy⟩
  · rfl
  · rw [isMultipleOf_of_rank_zero hx, isMultipleOf_of_rank_zero hy]

end SameValue
end Binary64

/-! ### Numbers -/

namespace Number
open Binary64

theorem isWhole_of_whole? {x : Binary64} {i : Int} (h : (real x).whole? = some i) :
    x.isWhole = true ∧ x.truncate = i := by
  simp only [whole?] at h
  split at h
  · next hwhole =>
    rw [Bool.and_eq_true] at hwhole
    exact ⟨hwhole.1, Option.some.inj h⟩
  · cases h

/-- Numbers that are the same convert to doubles of the same value. -/
theorem units_eq_of_same {m n : Number} (h : m.same n = true) :
    m.toBinary64.units = n.toBinary64.units := by
  unfold same at h
  split at h
  · next i j hm hn =>
    obtain rfl := beq_iff_eq.mp h
    cases m with
    | integer a _ =>
      cases hm
      cases n with
      | integer b _ =>
        cases hn
        rfl
      | real y =>
        obtain ⟨hwhole, rfl⟩ := isWhole_of_whole? hn
        exact units_ofInt_truncate hwhole
    | real x =>
      obtain ⟨hwhole, rfl⟩ := isWhole_of_whole? hm
      cases n with
      | integer b _ =>
        cases hn
        exact (units_ofInt_truncate hwhole).symm
      | real y =>
        obtain ⟨hwhole', htruncate⟩ := isWhole_of_whole? hn
        show x.units = y.units
        rw [units_of_isWhole hwhole, units_of_isWhole hwhole', htruncate]
  · exact eq_eq_true.mp h
  · cases h

end Number
end ApiContract
