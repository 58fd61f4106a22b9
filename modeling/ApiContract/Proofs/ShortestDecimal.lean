import ApiContract.Decimal.Shortest
import ApiContract.Proofs.Magnitude
import Mathlib.Algebra.Order.Field.Power
import Mathlib.Tactic.FieldSimp
import Mathlib.Tactic.Linarith
import Mathlib.Tactic.Positivity
import Mathlib.Tactic.Ring

/-!
# Shortest decimals read back

A decimal stands for a rational number, and each rank has its own interval of
numbers that round to it.  The shortest decimal of a rank lies in the interval
of that rank, so ranks with equal shortest decimals are equal.
-/

namespace ApiContract
open Binary64 (unitsOfRank unitsOfOne rankOfPower unitsOfRank_strictMono unitsOfRank_pos
  unitsOfRank_rankOfPower unitsOfOne_pos)

/-! ### The numbers of a rank -/

/-- A number rounds to the magnitude of a rank: twice its units lie between the
midpoints to the neighbours, both included iff the rank is even. -/
def RoundsTo (v : ℚ) (r : Nat) : Prop :=
  if r % 2 = 0 then
    ((unitsOfRank (r - 1) + unitsOfRank r : Nat) : ℚ) ≤ 2 * v * unitsOfOne ∧
      2 * v * unitsOfOne ≤ ((unitsOfRank r + unitsOfRank (r + 1) : Nat) : ℚ)
  else
    ((unitsOfRank (r - 1) + unitsOfRank r : Nat) : ℚ) < 2 * v * unitsOfOne ∧
      2 * v * unitsOfOne < ((unitsOfRank r + unitsOfRank (r + 1) : Nat) : ℚ)

namespace RoundsTo
variable {v : ℚ} {r r' : Nat}

theorem low_le (h : RoundsTo v r) :
    ((unitsOfRank (r - 1) + unitsOfRank r : Nat) : ℚ) ≤ 2 * v * unitsOfOne := by
  unfold RoundsTo at h
  split at h
  · exact h.1
  · exact h.1.le

theorem le_high (h : RoundsTo v r) :
    2 * v * unitsOfOne ≤ ((unitsOfRank r + unitsOfRank (r + 1) : Nat) : ℚ) := by
  unfold RoundsTo at h
  split at h
  · exact h.2
  · exact h.2.le

theorem lt_high_of_odd (h : RoundsTo v r) (hodd : r % 2 ≠ 0) :
    2 * v * unitsOfOne < ((unitsOfRank r + unitsOfRank (r + 1) : Nat) : ℚ) := by
  rw [RoundsTo, if_neg hodd] at h
  exact h.2

theorem low_lt_of_odd (h : RoundsTo v r) (hodd : r % 2 ≠ 0) :
    ((unitsOfRank (r - 1) + unitsOfRank r : Nat) : ℚ) < 2 * v * unitsOfOne := by
  rw [RoundsTo, if_neg hodd] at h
  exact h.1

/-- The intervals of ranks do not overlap: neighbours share a midpoint, and of
two neighbours one is odd. -/
theorem not_lt (h : RoundsTo v r) (h' : RoundsTo v r') : ¬r < r' := by
  intro hlt
  have hhigh := h.le_high
  have hlow := h'.low_le
  have hmono : unitsOfRank r ≤ unitsOfRank (r' - 1) :=
    unitsOfRank_strictMono.monotone (by omega)
  have hmono' : unitsOfRank (r + 1) ≤ unitsOfRank r' := unitsOfRank_strictMono.monotone hlt
  have hmid : unitsOfRank r + unitsOfRank (r + 1) ≤ unitsOfRank (r' - 1) + unitsOfRank r' := by omega
  have hcast : ((unitsOfRank r + unitsOfRank (r + 1) : Nat) : ℚ) ≤
      ((unitsOfRank (r' - 1) + unitsOfRank r' : Nat) : ℚ) := by exact_mod_cast hmid
  by_cases hodd : r % 2 = 0
  · by_cases hodd' : r' % 2 = 0
    · -- both even, so a rank lies between them and the midpoints differ
      have hstrict : unitsOfRank (r + 1) < unitsOfRank r' := unitsOfRank_strictMono (by omega)
      have hmidlt : ((unitsOfRank r + unitsOfRank (r + 1) : Nat) : ℚ) <
          ((unitsOfRank (r' - 1) + unitsOfRank r' : Nat) : ℚ) := by
        exact_mod_cast (show unitsOfRank r + unitsOfRank (r + 1) <
          unitsOfRank (r' - 1) + unitsOfRank r' by omega)
      linarith
    · have hstrict := h'.low_lt_of_odd hodd'
      linarith
  · have hstrict := h.lt_high_of_odd hodd
    linarith

theorem eq (h : RoundsTo v r) (h' : RoundsTo v r') : r = r' := by
  have hlt := h.not_lt h'
  have hgt := h'.not_lt h
  omega

/-- A magnitude rounds to its own rank. -/
theorem self (r : Nat) : RoundsTo (unitsOfRank r / unitsOfOne) r := by
  have hone : (unitsOfOne : ℚ) ≠ 0 := by exact_mod_cast unitsOfOne_pos.ne'
  have hunits : 2 * ((unitsOfRank r : ℚ) / unitsOfOne) * unitsOfOne = 2 * unitsOfRank r := by
    field_simp
  have hbelow : unitsOfRank (r - 1) ≤ unitsOfRank r := unitsOfRank_strictMono.monotone (by omega)
  have habove : unitsOfRank r < unitsOfRank (r + 1) := unitsOfRank_strictMono (by omega)
  unfold RoundsTo
  rw [hunits]
  split
  · constructor
    · exact_mod_cast (show unitsOfRank (r - 1) + unitsOfRank r ≤ 2 * unitsOfRank r by omega)
    · exact_mod_cast (show 2 * unitsOfRank r ≤ unitsOfRank r + unitsOfRank (r + 1) by omega)
  · next hodd =>
    have hbelow' : unitsOfRank (r - 1) < unitsOfRank r := unitsOfRank_strictMono (by omega)
    constructor
    · exact_mod_cast (show unitsOfRank (r - 1) + unitsOfRank r < 2 * unitsOfRank r by omega)
    · exact_mod_cast (show 2 * unitsOfRank r < unitsOfRank r + unitsOfRank (r + 1) by omega)

theorem pos (h : RoundsTo v r) (hr : r ≠ 0) : 0 < v := by
  have hlow := h.low_le
  have hunits : (0 : ℚ) < ((unitsOfRank (r - 1) + unitsOfRank r : Nat) : ℚ) := by
    exact_mod_cast Nat.add_pos_right _ (unitsOfRank_pos hr)
  have hone : (0 : ℚ) < unitsOfOne := by exact_mod_cast unitsOfOne_pos
  have hprod : 0 < v * unitsOfOne := by linarith
  exact pos_of_mul_pos_left hprod hone.le

/-! ### Whole numbers -/

/-- Up to `2 ^ 53` whole numbers are magnitudes, so they round only to themselves. -/
theorem units_of_le {n : Nat} (h : RoundsTo n r) (hn : n ≤ 2 ^ 53) :
    unitsOfRank r = n * unitsOfOne := by
  obtain ⟨exact, hexact⟩ := Binary64.exists_rank_of_le hn
  have hone : (unitsOfOne : ℚ) ≠ 0 := by exact_mod_cast unitsOfOne_pos.ne'
  have hself := RoundsTo.self exact
  rw [hexact, Nat.cast_mul, mul_div_cancel_right₀ _ hone] at hself
  rw [h.eq hself, hexact]

theorem rankOfPower_le {n : Nat} (h : RoundsTo n r) (hn : 2 ^ 53 < n) : rankOfPower 53 ≤ r := by
  by_contra hlt
  have hhigh := h.le_high
  have hmono : unitsOfRank (r + 1) ≤ unitsOfRank (rankOfPower 53) :=
    unitsOfRank_strictMono.monotone (by omega)
  have hmono' : unitsOfRank r ≤ unitsOfRank (rankOfPower 53) :=
    unitsOfRank_strictMono.monotone (by omega)
  rw [unitsOfRank_rankOfPower] at hmono hmono'
  have hnat : 2 * n * unitsOfOne ≤ 2 * 2 ^ 53 * unitsOfOne := by
    have hcast : 2 * n * unitsOfOne ≤ unitsOfRank r + unitsOfRank (r + 1) := by exact_mod_cast hhigh
    omega
  have hle := Nat.le_of_mul_le_mul_right hnat unitsOfOne_pos
  omega

theorem le_rankOfPower {n : Nat} (h : RoundsTo n r) (hn : n < 2 ^ 64) : r ≤ rankOfPower 64 := by
  by_contra hlt
  have hlow := h.low_le
  have hmono : unitsOfRank (rankOfPower 64) ≤ unitsOfRank (r - 1) :=
    unitsOfRank_strictMono.monotone (by omega)
  have hmono' : unitsOfRank (rankOfPower 64) ≤ unitsOfRank r :=
    unitsOfRank_strictMono.monotone (by omega)
  rw [unitsOfRank_rankOfPower] at hmono hmono'
  have hnat : 2 * 2 ^ 64 * unitsOfOne ≤ 2 * n * unitsOfOne := by
    have hcast : unitsOfRank (r - 1) + unitsOfRank r ≤ 2 * n * unitsOfOne := by exact_mod_cast hlow
    omega
  have hle := Nat.le_of_mul_le_mul_right hnat unitsOfOne_pos
  omega

/-- Whole numbers round only to whole magnitudes. -/
theorem dvd_units {n : Nat} (h : RoundsTo n r) : unitsOfOne ∣ unitsOfRank r := by
  by_cases hn : n ≤ 2 ^ 53
  · rw [h.units_of_le hn]
    exact Nat.dvd_mul_left _ _
  · have hrank := h.rankOfPower_le (by omega)
    exact Binary64.dvd_unitsOfRank (Nat.le_trans (by decide) hrank)

end RoundsTo

/-! ### The number of a decimal -/

namespace Decimal

/-- The number that a decimal stands for. -/
def value (d : Decimal) : ℚ := d.coefficient * 10 ^ d.exponent

theorem value_ofNat (c e : Nat) : value ⟨c, Int.ofNat e⟩ = c * 10 ^ e := by
  simp [value]

theorem value_negSucc (c e : Nat) : value ⟨c, Int.negSucc e⟩ = c / 10 ^ (e + 1) := by
  simp [value, zpow_negSucc, div_eq_mul_inv]

theorem value_nonneg (d : Decimal) : 0 ≤ d.value := by
  unfold value
  positivity

theorem twiceUnits_pos (d : Decimal) : 0 < d.twiceUnits.2 := by
  obtain ⟨c, e | e⟩ := d
  · exact Nat.one_pos
  · exact Nat.pow_pos (by decide)

theorem twiceUnits_eq (d : Decimal) :
    2 * d.value * unitsOfOne = (d.twiceUnits.1 : ℚ) / d.twiceUnits.2 := by
  obtain ⟨c, e | e⟩ := d
  · rw [value_ofNat]
    simp only [twiceUnits]
    push_cast
    ring
  · rw [value_negSucc]
    simp only [twiceUnits]
    push_cast
    ring

theorem readsAs_iff (d : Decimal) (r : Nat) : d.readsAs r = true ↔ RoundsTo d.value r := by
  have hden : (0 : ℚ) < d.twiceUnits.2 := by exact_mod_cast d.twiceUnits_pos
  unfold readsAs RoundsTo
  rw [twiceUnits_eq]
  -- both sides compare the same fraction with the midpoints; here denominators are cleared
  rw [le_div_iff₀ hden, div_le_iff₀ hden, lt_div_iff₀ hden, div_lt_iff₀ hden]
  norm_cast
  split
  · next num den htwice =>
    rw [htwice]
    split <;> simp

theorem value_stripZeros (fuel : Nat) (d : Decimal) : (stripZeros fuel d).value = d.value := by
  induction fuel generalizing d with
  | zero => rfl
  | succ fuel ih =>
    unfold stripZeros
    split
    · next h =>
      have htens : d.coefficient = d.coefficient / 10 * 10 := by omega
      rw [ih, value, value, zpow_add_one₀ (by norm_num)]
      conv_rhs => rw [htens]
      push_cast
      ring
    · simp only

theorem value_exact (r : Nat) : (exact r).value = unitsOfRank r / unitsOfOne := by
  have hpower (n : Nat) :
      value ⟨unitsOfRank r * 5 ^ n, -(n : Int)⟩ = unitsOfRank r / ((2 ^ n : Nat) : ℚ) := by
    have hten : (10 : ℚ) ^ n = 2 ^ n * 5 ^ n := by
      rw [← mul_pow]
      norm_num
    rw [value, zpow_neg, zpow_natCast, hten]
    push_cast
    field_simp
  obtain ⟨n, hn⟩ : ∃ n, n = 1074 := ⟨1074, rfl⟩
  have hneg : (-1074 : Int) = -(n : Int) := by omega
  rw [exact, hneg, ← hn, hpower, Binary64.unitsOfOne_eq hn]

/-! ### The search -/

theorem roundsTo_of_withDigits? {tie : TieRule} {r num den count : Nat} {lead : Int} {d : Decimal}
    (h : withDigits? tie r num den lead count = some d) : RoundsTo d.value r := by
  rw [← readsAs_iff]
  unfold withDigits? at h
  simp only at h
  split at h
  · next hbelow habove =>
    have hchoice (p : Prop) [Decidable p] {a b : Decimal} (ha : a.readsAs r = true)
        (hb : b.readsAs r = true) : (if p then a else b).readsAs r = true := by
      split
      · exact ha
      · exact hb
    rw [← Option.some.inj h]
    exact hchoice _ hbelow habove
  · next hbelow _ =>
    cases h
    exact hbelow
  · next _ habove =>
    cases h
    exact habove
  · cases h

theorem roundsTo_search (tie : TieRule) (r num den : Nat) (lead : Int) (fuel count : Nat) :
    RoundsTo (search tie r num den lead fuel count).value r := by
  induction fuel generalizing count with
  | zero =>
    rw [search, value_exact]
    exact RoundsTo.self r
  | succ fuel ih =>
    unfold search
    split
    · next d hd => exact roundsTo_of_withDigits? hd
    · exact ih (count + 1)

/-- The shortest decimal of a rank rounds to that rank. -/
theorem roundsTo_shortest (tie : TieRule) (r : Nat) : RoundsTo (shortest tie r).value r := by
  unfold shortest
  split
  · next h =>
    rw [h, ← readsAs_iff]
    decide +kernel
  · rw [value_stripZeros]
    exact roundsTo_search ..

theorem shortest_two_pow_64 : shortest .up (rankOfPower 64) = ⟨18446744073709552, 3⟩ := by
  decide +kernel

/-- Below `2 ^ 64` only whole doubles have a whole shortest decimal; that of
`2 ^ 64` itself is greater. -/
theorem whole_of_value_shortest {r n : Nat} (h : (shortest .up r).value = n) (hn : n < 2 ^ 64) :
    unitsOfOne ∣ unitsOfRank r ∧ r < rankOfPower 64 := by
  have hrounds := roundsTo_shortest .up r
  rw [h] at hrounds
  refine ⟨hrounds.dvd_units, ?_⟩
  rcases Nat.lt_or_eq_of_le (hrounds.le_rankOfPower hn) with hlt | rfl
  · exact hlt
  · exfalso
    have hvalue := value_ofNat 18446744073709552 3
    rw [shortest_two_pow_64] at h
    have hcast : (n : ℚ) = ((18446744073709552000 : Nat) : ℚ) := by
      rw [← h]
      refine hvalue.trans ?_
      norm_num
    rw [Nat.cast_inj] at hcast
    omega

end Decimal
end ApiContract
