import ApiContract.Json.Canonical
import ApiContract.Proofs.ShortestDecimal
import Mathlib.Data.List.TakeWhile

/-!
# Canonical texts of numbers

Reading a canonical number text back gives the number, for whole numbers the
integer and for the others their shortest decimal.  So two numbers have the
same canonical text exactly if they are the same.
-/

namespace ApiContract
open Binary64 (unitsOfRank unitsOfOne rankOfPower unitsOfRank_strictMono unitsOfRank_rankOfPower
  unitsOfOne_pos)

/-! ### Reading digits -/

/-- The number that digits show, with or without a point among them. -/
def shownUnsigned (s : List Char) : ℚ :=
  let part := (s.dropWhile (· ≠ '.')).drop 1
  Nat.ofDigitChars 10 (s.takeWhile (· ≠ '.') ++ part) 0 / 10 ^ part.length

/-- The number that digits show after a minus sign, if there is one. -/
def shown : List Char → ℚ
  | '-' :: s => -shownUnsigned s
  | s => shownUnsigned s

theorem forall_ne_of_not_mem {s : List Char} {mark : Char} (h : mark ∉ s) :
    ∀ c ∈ s, decide (c ≠ mark) = true := by
  intro c hc
  simp only [ne_eq, decide_eq_true_eq]
  rintro rfl
  exact h hc

theorem shownUnsigned_of_not_mem {s : List Char} (h : '.' ∉ s) :
    shownUnsigned s = Nat.ofDigitChars 10 s 0 := by
  have hall := forall_ne_of_not_mem h
  unfold shownUnsigned
  rw [List.takeWhile_eq_self_iff.mpr hall, List.dropWhile_eq_nil_iff.mpr hall]
  simp

theorem shownUnsigned_point {whole : List Char} (h : '.' ∉ whole) (part : List Char) :
    shownUnsigned (whole ++ '.' :: part) =
      Nat.ofDigitChars 10 (whole ++ part) 0 / 10 ^ part.length := by
  have hall := forall_ne_of_not_mem h
  unfold shownUnsigned
  rw [List.takeWhile_append_of_pos hall, List.dropWhile_append_of_pos hall]
  simp

theorem shown_of_head {s : List Char} (h : s.head? ≠ some '-') : shown s = shownUnsigned s := by
  unfold shown
  split
  · exact absurd rfl h
  · rfl

/-! ### Texts of integers -/

theorem isDigit_of_mem_natText {n : Nat} {c : Char} (h : c ∈ natText n) : c.isDigit :=
  Nat.isDigit_of_mem_toDigits (by decide) (by decide) h

theorem point_not_mem_natText (n : Nat) : '.' ∉ natText n := by
  intro h
  exact absurd (isDigit_of_mem_natText h) (by decide)

theorem ofDigitChars_natText (n : Nat) : Nat.ofDigitChars 10 (natText n) 0 = n :=
  Nat.ofDigitChars_ten_toDigits

theorem head_natText_ne (n : Nat) : (natText n).head? ≠ some '-' := by
  intro h
  exact absurd (isDigit_of_mem_natText (List.mem_of_mem_head? h)) (by decide)

theorem shown_intText (i : Int) : shown (intText i) = i := by
  unfold intText
  split
  · next hneg =>
    rw [shown, shownUnsigned_of_not_mem (point_not_mem_natText _), ofDigitChars_natText]
    have habs : (i.natAbs : Int) = -i := by omega
    rw [← Int.cast_natCast, habs]
    simp
  · next hneg =>
    rw [shown_of_head (head_natText_ne _), shownUnsigned_of_not_mem (point_not_mem_natText _),
      ofDigitChars_natText]
    have habs : (i.natAbs : Int) = i := by omega
    rw [← Int.cast_natCast, habs]

/-! ### Texts of decimals -/

namespace Layout

theorem mem_pointed {ds : List Char} {scale : Nat} {c : Char} (h : c ∈ pointed ds scale) :
    c = '0' ∨ c = '.' ∨ c ∈ ds := by
  unfold pointed at h
  simp only [List.mem_append, List.mem_cons] at h
  rcases h with h | h | h
  · have hpadded := List.mem_of_mem_take h
    rw [List.mem_append, List.mem_replicate] at hpadded
    tauto
  · exact .inr (.inl h)
  · have hpadded := List.mem_of_mem_drop h
    rw [List.mem_append, List.mem_replicate] at hpadded
    tauto

theorem mem_positional_plain {d : Decimal} {c : Char} (h : c ∈ plain.positional d) :
    c.isDigit = true ∨ c = '.' := by
  unfold positional at h
  split at h
  · simp only [plain, List.append_nil, List.mem_append, List.mem_replicate] at h
    rcases h with h | ⟨_, rfl⟩
    · exact .inl (isDigit_of_mem_natText h)
    · exact .inl (by decide)
  · rcases mem_pointed h with rfl | rfl | h
    · exact .inl (by decide)
    · exact .inr rfl
    · exact .inl (isDigit_of_mem_natText h)

theorem positional_plain_ne_nil (d : Decimal) : plain.positional d ≠ [] := by
  unfold positional
  split
  · have hdigits : natText d.coefficient ≠ [] := Nat.toDigits_ne_nil
    simp [hdigits]
  · simp [pointed]

theorem shownUnsigned_pointed (n scale : Nat) :
    shownUnsigned (pointed (natText n) scale) = n / 10 ^ scale := by
  unfold pointed
  -- the padding has no value, and leaves `scale` digits after the point
  have hvalue : Nat.ofDigitChars 10
      (List.replicate (scale + 1 - (natText n).length) '0' ++ natText n) 0 = n := by
    rw [Nat.ofDigitChars_append, Nat.ofDigitChars_replicate_zero, Nat.mul_zero, ofDigitChars_natText]
  have hlength :
      scale ≤ (List.replicate (scale + 1 - (natText n).length) '0' ++ natText n).length := by
    rw [List.length_append, List.length_replicate]
    omega
  have hmem : '.' ∉ List.replicate (scale + 1 - (natText n).length) '0' ++ natText n := by
    intro h
    rw [List.mem_append, List.mem_replicate] at h
    rcases h with ⟨_, h⟩ | h
    · exact absurd h (by decide)
    · exact point_not_mem_natText n h
  generalize List.replicate (scale + 1 - (natText n).length) '0' ++ natText n = padded at *
  rw [shownUnsigned_point fun h => hmem (List.mem_of_mem_take h), List.take_append_drop, hvalue,
    List.length_drop, Nat.sub_sub_self hlength]

theorem shownUnsigned_positional (d : Decimal) : shownUnsigned (plain.positional d) = d.value := by
  obtain ⟨c, e | e⟩ := d
  · have hmem : '.' ∉ natText c ++ List.replicate e '0' := by
      intro h
      rw [List.mem_append, List.mem_replicate] at h
      rcases h with h | ⟨_, h⟩
      · exact point_not_mem_natText c h
      · exact absurd h (by decide)
    have htext : plain.positional ⟨c, Int.ofNat e⟩ = natText c ++ List.replicate e '0' :=
      List.append_nil _
    rw [htext, shownUnsigned_of_not_mem hmem, Nat.ofDigitChars_append, ofDigitChars_natText,
      Nat.ofDigitChars_replicate_zero, Decimal.value_ofNat]
    push_cast
    ring
  · exact (shownUnsigned_pointed c (e + 1)).trans (Decimal.value_negSucc c e).symm

theorem write_plain (x : Binary64) :
    plain.write x = if x.negative then '-' :: plain.positional (Decimal.shortest .up x.rank)
      else plain.positional (Decimal.shortest .up x.rank) := rfl

theorem shown_write_plain (x : Binary64) :
    shown (plain.write x) = if x.negative then -(Decimal.shortest .up x.rank).value
      else (Decimal.shortest .up x.rank).value := by
  rw [write_plain]
  split
  · rw [shown, shownUnsigned_positional]
  · have hhead : (plain.positional (Decimal.shortest .up x.rank)).head? ≠ some '-' := by
      intro h
      rcases mem_positional_plain (List.mem_of_mem_head? h) with h | h
      · exact absurd h (by decide)
      · exact absurd h (by decide)
    rw [shown_of_head hhead, shownUnsigned_positional]

/-- Signed numbers are equal exactly if their signs and magnitudes are. -/
theorem signed_eq_iff {α : Type} [AddCommGroup α] [LinearOrder α] [IsOrderedAddMonoid α] {a b : α}
    (ha : 0 < a) (hb : 0 < b) (p q : Bool) :
    (if p then -a else a) = (if q then -b else b) ↔ p = q ∧ a = b := by
  have hne : -a ≠ b := ((neg_neg_of_pos ha).trans hb).ne
  have hne' : a ≠ -b := ((neg_neg_of_pos hb).trans ha).ne'
  cases p <;> cases q <;> simp [hne, hne']

/-- Doubles other than zero have the same text exactly if they are equal. -/
theorem write_plain_eq_iff {x y : Binary64} (hx : x.rank ≠ 0) (hy : y.rank ≠ 0) :
    plain.write x = plain.write y ↔ x.units = y.units := by
  have hxrounds := Decimal.roundsTo_shortest .up x.rank
  have hyrounds := Decimal.roundsTo_shortest .up y.rank
  have hunits : x.units = y.units ↔ x.negative = y.negative ∧ x.rank = y.rank := by
    have hxpos : (0 : Int) < unitsOfRank x.rank := by exact_mod_cast Binary64.unitsOfRank_pos hx
    have hypos : (0 : Int) < unitsOfRank y.rank := by exact_mod_cast Binary64.unitsOfRank_pos hy
    rw [← Binary64.unitsOfRank_inj, ← Nat.cast_inj (R := Int)]
    exact signed_eq_iff hxpos hypos _ _
  rw [hunits]
  constructor
  · intro h
    have hshown := congrArg shown h
    rw [shown_write_plain, shown_write_plain,
      signed_eq_iff (hxrounds.pos hx) (hyrounds.pos hy)] at hshown
    obtain ⟨hsign, hvalue⟩ := hshown
    rw [hvalue] at hxrounds
    exact ⟨hsign, hxrounds.eq hyrounds⟩
  · rintro ⟨hsign, hrank⟩
    rw [write_plain, write_plain, hsign, hrank]

/-- A double has the text of an integer below `2 ^ 64` in magnitude only if it
is whole and below that itself. -/
theorem whole_of_write_plain {x : Binary64} {i : Int} (h : plain.write x = intText i)
    (hi : i.natAbs < 2 ^ 64) :
    unitsOfOne ∣ x.magnitude ∧ x.rank < rankOfPower 64 := by
  have hshown := congrArg shown h
  rw [shown_write_plain, shown_intText] at hshown
  have hnonneg := (Decimal.shortest .up x.rank).value_nonneg
  refine Decimal.whole_of_value_shortest (n := i.natAbs) ?_ hi
  rw [Nat.cast_natAbs, Int.cast_abs, ← hshown]
  split
  · rw [abs_neg, abs_of_nonneg hnonneg]
  · rw [abs_of_nonneg hnonneg]

end Layout

/-! ### Canonical numbers -/

namespace Number

theorem natAbs_lt_of_whole? {n : Number} {i : Int} (h : n.whole? = some i) : i.natAbs < 2 ^ 64 := by
  unfold whole? at h
  split at h
  · next fits =>
    cases h
    obtain ⟨hlow, hhigh⟩ := fits
    omega
  · next x =>
    split at h
    · next hwhole =>
      cases h
      rw [Bool.and_eq_true, decide_eq_true_eq] at hwhole
      exact Binary64.natAbs_truncate_lt (Binary64.lt_rankOfPower_iff.mpr hwhole.2)
    · cases h

/-- Numbers without a whole value are doubles, with a fraction or out of range. -/
theorem exists_real_of_whole?_eq_none {n : Number} (h : n.whole? = none) :
    ∃ x, n = .real x ∧ ¬(unitsOfOne ∣ x.magnitude ∧ x.rank < rankOfPower 64) := by
  unfold whole? at h
  split at h
  · cases h
  · next x =>
    split at h
    · cases h
    · next hnot =>
      refine ⟨x, rfl, fun hwhole => hnot ?_⟩
      rw [Bool.and_eq_true, decide_eq_true_eq]
      exact ⟨Binary64.isWhole_iff.mpr hwhole.1, Binary64.lt_rankOfPower_iff.mp hwhole.2⟩

theorem rank_ne_zero {x : Binary64}
    (h : ¬(unitsOfOne ∣ x.magnitude ∧ x.rank < rankOfPower 64)) : x.rank ≠ 0 := by
  intro hzero
  refine h ?_
  have hmagnitude : x.magnitude = 0 := by
    rw [Binary64.magnitude, hzero]
    rfl
  rw [hmagnitude, hzero]
  exact ⟨Nat.dvd_zero _, by decide⟩

theorem canonical_of_some {n : Number} {i : Int} (h : n.whole? = some i) :
    n.canonical = intText i := by
  unfold canonical
  rw [h]

theorem canonical_of_none {n : Number} (h : n.whole? = none) :
    n.canonical = Layout.plain.write n.toBinary64 := by
  unfold canonical
  rw [h]

theorem mem_canonical {n : Number} {c : Char} (h : c ∈ n.canonical) :
    c = '-' ∨ c = '.' ∨ c.isDigit = true := by
  cases hwhole : n.whole? with
  | some i =>
    rw [canonical_of_some hwhole] at h
    unfold intText at h
    split at h
    · rcases List.mem_cons.mp h with rfl | hdigit
      · exact .inl rfl
      · exact .inr (.inr (isDigit_of_mem_natText hdigit))
    · exact .inr (.inr (isDigit_of_mem_natText h))
  | none =>
    rw [canonical_of_none hwhole, Layout.write_plain] at h
    split at h
    · rcases List.mem_cons.mp h with rfl | hpositional
      · exact .inl rfl
      · exact .inr (Layout.mem_positional_plain hpositional).symm
    · exact .inr (Layout.mem_positional_plain h).symm

theorem canonical_ne_nil (n : Number) : n.canonical ≠ [] := by
  cases hwhole : n.whole? with
  | some i =>
    rw [canonical_of_some hwhole]
    unfold intText
    split
    · simp
    · exact Nat.toDigits_ne_nil
  | none =>
    rw [canonical_of_none hwhole, Layout.write_plain]
    split
    · simp
    · exact Layout.positional_plain_ne_nil _

/-- Two numbers have the same canonical text exactly if they are the same. -/
theorem canonical_eq_iff (m n : Number) : m.canonical = n.canonical ↔ m.same n = true := by
  unfold same
  split
  · next i j hm hn =>
    rw [canonical_of_some hm, canonical_of_some hn, beq_iff_eq]
    constructor
    · intro h
      have hshown := congrArg shown h
      rw [shown_intText, shown_intText] at hshown
      exact_mod_cast hshown
    · rintro rfl
      rfl
  · next hm hn =>
    obtain ⟨x, rfl, hx⟩ := exists_real_of_whole?_eq_none hm
    obtain ⟨y, rfl, hy⟩ := exists_real_of_whole?_eq_none hn
    rw [canonical_of_none hm, canonical_of_none hn, Binary64.eq_eq_true]
    exact Layout.write_plain_eq_iff (rank_ne_zero hx) (rank_ne_zero hy)
  · next hsome hnone =>
    -- one of them is whole, and then the other one is not
    have hne {k l : Number} {i : Int} (hk : k.whole? = some i) (hl : l.whole? = none) :
        l.canonical ≠ k.canonical := by
      obtain ⟨x, rfl, hx⟩ := exists_real_of_whole?_eq_none hl
      rw [canonical_of_some hk, canonical_of_none hl]
      intro h
      exact hx (Layout.whole_of_write_plain h (natAbs_lt_of_whole? hk))
    simp only [Bool.false_eq_true, iff_false]
    cases hm : m.whole? with
    | some i =>
      cases hn : n.whole? with
      | some j => exact absurd hn (hsome i j hm)
      | none => exact (hne hm hn).symm
    | none =>
      cases hn : n.whole? with
      | some j => exact hne hn hm
      | none => exact absurd hn (hnone hm)

end Number
end ApiContract
