import ApiContract.Json.Reader
import ApiContract.Proofs.Outcome
import ApiContract.Proofs.ValueEquality
import ApiContract.Text.Quoted

/-!
# What the reader gives

What is written between quotes is read back up to the closing quote, whatever
follows it.  So quoted strings are told apart by their texts, and none of them
is the beginning of another.  Values that are read have the members of their
objects in order.
-/

namespace ApiContract

/-! ### Characters -/

namespace Reader

theorem hexValue?_hexDigit {n : Nat} (h : n < 16) : hexValue? (Quoted.hexDigit n) = some n := by
  have hall : ∀ k : Fin 16, hexValue? (Quoted.hexDigit k.val) = some k.val := by decide
  exact hall ⟨n, h⟩

theorem hexValue4?_hexDigit {n : Nat} (h : n < 0x20) :
    hexValue4? '0' '0' (Quoted.hexDigit (n / 16)) (Quoted.hexDigit (n % 16)) = some n := by
  have hzero : hexValue? '0' = some 0 := by decide
  unfold hexValue4?
  rw [hzero, hexValue?_hexDigit (show n / 16 < 16 by omega),
    hexValue?_hexDigit (show n % 16 < 16 by omega)]
  simp only [Option.bind_eq_bind, Option.bind_some, Option.pure_def, Option.some.injEq]
  omega

theorem hex4_of_value {a b c d : Char} {n : Nat} (h : hexValue4? a b c d = some n)
    (rest : List Char) :
    ∃ hlt, hex4 (a :: b :: c :: d :: rest) = .ok (n, ⟨rest, hlt⟩) := by
  refine ⟨by simp only [List.length_cons]; omega, ?_⟩
  simp only [hex4, h]

theorem unicodeEscape_of_hex4 {s : List Char} {n : Nat} {rest : Rest s} (h : hex4 s = .ok (n, rest))
    (hn : n < 0xD800) : unicodeEscape s = .ok (Char.ofNat n, rest) := by
  have hlow : ¬(0xDC00 ≤ n ∧ n ≤ 0xDFFF) := by omega
  have hplain : n < 0xD800 ∨ 0xDBFF < n := .inl hn
  unfold unicodeEscape
  rw [h]
  show (if 0xDC00 ≤ n ∧ n ≤ 0xDFFF then _ else _) = _
  rw [if_neg hlow, if_pos hplain]

theorem escape_unicode {s rest : List Char} {c : Char} {hlt : rest.length < s.length}
    (h : unicodeEscape s = .ok (c, ⟨rest, hlt⟩)) :
    escape ('u' :: s) = .ok (c, ⟨rest, Nat.lt_succ_of_lt hlt⟩) := by
  unfold escape
  simp only [h]
  rfl

/-- A character is written as itself, or as an escape that is read back. -/
theorem writeChar_cases (c : Char) :
    (Quoted.writeChar c = [c] ∧ c ≠ '"' ∧ c ≠ '\\' ∧ ¬c.toNat < 0x20) ∨
    ∃ tail, Quoted.writeChar c = '\\' :: tail ∧
      ∀ rest, ∃ hlt, escape (tail ++ rest) = .ok (c, ⟨rest, hlt⟩) := by
  unfold Quoted.writeChar
  split
  · exact .inr ⟨['"'], rfl, fun rest => ⟨Nat.lt_succ_self _, rfl⟩⟩
  · exact .inr ⟨['\\'], rfl, fun rest => ⟨Nat.lt_succ_self _, rfl⟩⟩
  · exact .inr ⟨['b'], rfl, fun rest => ⟨Nat.lt_succ_self _, rfl⟩⟩
  · exact .inr ⟨['f'], rfl, fun rest => ⟨Nat.lt_succ_self _, rfl⟩⟩
  · exact .inr ⟨['n'], rfl, fun rest => ⟨Nat.lt_succ_self _, rfl⟩⟩
  · exact .inr ⟨['r'], rfl, fun rest => ⟨Nat.lt_succ_self _, rfl⟩⟩
  · exact .inr ⟨['t'], rfl, fun rest => ⟨Nat.lt_succ_self _, rfl⟩⟩
  · next hquote hslash _ _ _ _ _ =>
    split
    · next hcontrol =>
      refine .inr ⟨_, rfl, fun rest => ?_⟩
      obtain ⟨hlt, hfour⟩ := hex4_of_value (hexValue4?_hexDigit hcontrol) rest
      have hunicode := unicodeEscape_of_hex4 hfour (by omega)
      rw [Char.ofNat_toNat] at hunicode
      exact ⟨_, escape_unicode hunicode⟩
    · next hplain =>
      exact .inl ⟨rfl, hquote, hslash, hplain⟩

/-! ### Strings -/

theorem stringBody_escape {read s rest after : List Char} {c : Char} {text : String}
    {hlt : rest.length < s.length} {hlt' : after.length < rest.length}
    (hc : escape s = .ok (c, ⟨rest, hlt⟩))
    (hrest : stringBody (c :: read) rest = .ok (text, ⟨after, hlt'⟩)) :
    ∃ hlt, stringBody read ('\\' :: s) = .ok (text, ⟨after, hlt⟩) := by
  refine ⟨by simp only [List.length_cons]; omega, ?_⟩
  rw [stringBody, hc]
  show (stringBody (c :: read) rest >>= _) = _
  rw [hrest]
  rfl

theorem stringBody_plain {read rest after : List Char} {c : Char} {text : String}
    {hlt : after.length < rest.length} (hquote : c ≠ '"') (hslash : c ≠ '\\')
    (hplain : ¬c.toNat < 0x20)
    (hrest : stringBody (c :: read) rest = .ok (text, ⟨after, hlt⟩)) :
    ∃ hlt, stringBody read (c :: rest) = .ok (text, ⟨after, hlt⟩) := by
  refine ⟨Nat.lt_succ_of_lt hlt, ?_⟩
  rw [stringBody.eq_4 _ _ _ hquote hslash, if_neg hplain, hrest]
  rfl

/-- A string is read back up to its closing quote. -/
theorem stringBody_write (s rest : List Char) (read : List Char) :
    ∃ hlt, stringBody read (s.flatMap Quoted.writeChar ++ '"' :: rest) =
      .ok (String.ofList (read.reverse ++ s), ⟨rest, hlt⟩) := by
  induction s generalizing read with
  | nil =>
    refine ⟨Nat.lt_succ_self _, ?_⟩
    show stringBody read ('"' :: rest) = _
    rw [stringBody, List.append_nil]
  | cons c s ih =>
    obtain ⟨hlt, hrest⟩ := ih (c :: read)
    rw [List.reverse_cons, List.append_assoc] at hrest
    rcases writeChar_cases c with ⟨hwrite, hquote, hslash, hplain⟩ | ⟨tail, hwrite, hescape⟩
    · rw [List.flatMap_cons, hwrite]
      exact stringBody_plain hquote hslash hplain hrest
    · obtain ⟨hlt', hc⟩ := hescape (s.flatMap Quoted.writeChar ++ '"' :: rest)
      rw [List.flatMap_cons, hwrite, List.append_assoc]
      exact stringBody_escape hc hrest

/-! ### Written values -/

section Written
variable {nesting : Nat} {t rest : List Char} {v : Json}

end Written

end Reader

/-- A quoted string is told from any other text that starts with a quoted string. -/
theorem Quoted.write_append_inj {a b : String} {s t : List Char}
    (h : Quoted.write a.toList ++ s = Quoted.write b.toList ++ t) : a = b ∧ s = t := by
  have hopen (c : String) (r : List Char) :
      Quoted.write c.toList ++ r = '"' :: (c.toList.flatMap Quoted.writeChar ++ '"' :: r) := by
    simp [Quoted.write]
  rw [hopen, hopen, List.cons_inj_right] at h
  have hread := Reader.stringBody_write a.toList s []
  rw [h] at hread
  obtain ⟨hlt, ha⟩ := hread
  obtain ⟨hlt', hb⟩ := Reader.stringBody_write b.toList t []
  have hsame := Except.ok.inj (ha.symm.trans hb)
  rw [Prod.mk.injEq, Subtype.mk.injEq] at hsame
  obtain ⟨htext, hrest⟩ := hsame
  simp only [List.reverse_nil, List.nil_append, String.ofList_toList] at htext
  exact ⟨htext, hrest⟩

/-! ### Values -/

namespace Reader

section
variable {P : Json → Prop} {item : Step Json}
  (hitem : ∀ s v r, item s = .ok (v, r) → P v)
include hitem

theorem forall_of_moreItems {s : List Char} {read vs : List Json} {rest : Rest s}
    (hread : ∀ v ∈ read, P v) (h : moreItems item s read = .ok (vs, rest)) : ∀ v ∈ vs, P v := by
  induction hn : s.length using Nat.strongRecOn generalizing s read vs with
  | ind n ih =>
    unfold moreItems at h
    split at h
    · cases h
    · cases h
      simpa using hread
    · next after hskip =>
      split at h
      · cases h
      · cases h
      · obtain ⟨⟨value, r, hr⟩, hvalue, h⟩ := exists_of_bind_eq_ok h
        obtain ⟨⟨others, r', hr'⟩, hothers, h⟩ := exists_of_bind_eq_ok h
        cases h
        have hlt := length_lt_of_skip hskip
        have hall := List.forall_mem_cons.mpr ⟨hitem _ _ _ hvalue, hread⟩
        exact ih r.length (by omega) hall hothers rfl
    · cases h

theorem forall_of_items {s : List Char} {vs : List Json} {rest : Rest s}
    (h : items item s = .ok (vs, rest)) : ∀ v ∈ vs, P v := by
  unfold items at h
  split at h
  · cases h
  · cases h
    nofun
  · obtain ⟨⟨value, r, hr⟩, hvalue, h⟩ := exists_of_bind_eq_ok h
    obtain ⟨⟨others, r', hr'⟩, hothers, h⟩ := exists_of_bind_eq_ok h
    cases h
    refine forall_of_moreItems hitem ?_ hothers
    simpa using hitem _ _ _ hvalue

theorem forall_of_member {s : List Char} {field : String × Json} {rest : Rest s}
    (h : member item s = .ok (field, rest)) : P field.2 := by
  unfold member at h
  split at h
  · obtain ⟨⟨name, r, hr⟩, hname, h⟩ := exists_of_bind_eq_ok h
    simp only at h
    split at h
    · obtain ⟨⟨value, r', hr'⟩, hvalue, h⟩ := exists_of_bind_eq_ok h
      cases h
      exact hitem _ _ _ hvalue
    · cases h
    · cases h
  · cases h

theorem forall_of_moreMembers {s : List Char} {read fields : List (String × Json)} {rest : Rest s}
    (hread : ∀ field ∈ read, P field.2) (h : moreMembers item s read = .ok (fields, rest)) :
    ∀ field ∈ fields, P field.2 := by
  induction hn : s.length using Nat.strongRecOn generalizing s read fields with
  | ind n ih =>
    unfold moreMembers at h
    split at h
    · cases h
    · cases h
      simpa using hread
    · next after hskip =>
      split at h
      · cases h
      · cases h
      · obtain ⟨⟨field, r, hr⟩, hfield, h⟩ := exists_of_bind_eq_ok h
        obtain ⟨⟨others, r', hr'⟩, hothers, h⟩ := exists_of_bind_eq_ok h
        cases h
        have hlt := length_lt_of_skip hskip
        refine ih r.length (by omega) (fun other hother => ?_) hothers rfl
        rcases List.mem_cons.mp hother with rfl | hearlier
        · exact forall_of_member hitem hfield
        · exact hread other hearlier
    · cases h

theorem forall_of_members {s : List Char} {fields : List (String × Json)} {rest : Rest s}
    (h : members item s = .ok (fields, rest)) : ∀ field ∈ fields, P field.2 := by
  unfold members at h
  split at h
  · cases h
  · cases h
    nofun
  · obtain ⟨⟨field, r, hr⟩, hfield, h⟩ := exists_of_bind_eq_ok h
    obtain ⟨⟨others, r', hr'⟩, hothers, h⟩ := exists_of_bind_eq_ok h
    cases h
    refine forall_of_moreMembers hitem ?_ hothers
    simpa using forall_of_member hitem hfield

end

theorem eq_of_literal {w s : List Char} {wanted v : Json} {rest : Remainder s}
    (h : literal w wanted s = .ok (v, rest)) : v = wanted := by
  obtain ⟨r, _, h⟩ := exists_of_bind_eq_ok h
  cases h
  rfl

theorem ordered_of_value {nesting : Nat} {s : List Char} {v : Json} {rest : Rest s}
    (h : value nesting s = .ok (v, rest)) : v.Ordered := by
  induction nesting using Nat.strongRecOn generalizing s v with
  | ind nesting ih =>
    -- one alternative after the other, in the reader's order; arrays and objects have parts
    unfold value at h
    split at h
    · cases h
    · simp only at h
      split at h
      · obtain ⟨⟨w, r, hr⟩, hw, h⟩ := exists_of_bind_eq_ok h
        cases h
        rw [eq_of_literal hw]
        trivial
      split at h
      · obtain ⟨⟨w, r, hr⟩, hw, h⟩ := exists_of_bind_eq_ok h
        cases h
        rw [eq_of_literal hw]
        trivial
      split at h
      · obtain ⟨⟨w, r, hr⟩, hw, h⟩ := exists_of_bind_eq_ok h
        cases h
        rw [eq_of_literal hw]
        trivial
      split at h
      · obtain ⟨⟨text, r, hr⟩, _, h⟩ := exists_of_bind_eq_ok h
        cases h
        trivial
      split at h
      · obtain ⟨⟨n, r, hr⟩, _, h⟩ := exists_of_bind_eq_ok h
        cases h
        trivial
      split at h
      · obtain ⟨⟨n, r, hr⟩, _, h⟩ := exists_of_bind_eq_ok h
        cases h
        trivial
      split at h
      · split at h
        · cases h
        · next n =>
          obtain ⟨⟨vs, r, hr⟩, hvs, h⟩ := exists_of_bind_eq_ok h
          cases h
          exact Json.ordered_array.mpr (forall_of_items (fun _ _ _ => ih n (by omega)) hvs)
      split at h
      · split at h
        · cases h
        · next n =>
          obtain ⟨⟨fields, r, hr⟩, hfields, h⟩ := exists_of_bind_eq_ok h
          cases h
          have hall := forall_of_members (fun _ _ _ => ih n (by omega)) hfields
          exact Json.ordered_object.mpr ⟨Fields.ordered_ofPairs fields, fun field hfield =>
            hall field (Fields.mem_of_mem_ofPairs hfield)⟩
      · cases h

end Reader

/-- What is read from a text has the members of every object in order. -/
theorem Json.ordered_of_read {text : String} {v : Json} (h : Json.read text = .ok v) : v.Ordered := by
  unfold Json.read Json.readNested at h
  split at h
  · next hdocument =>
    cases h
    obtain ⟨⟨w, rest, hrest⟩, hw, h⟩ := exists_of_bind_eq_ok hdocument
    simp only at h
    split at h
    · cases h
      exact Reader.ordered_of_value hw
    · cases h
  · cases h

end ApiContract
