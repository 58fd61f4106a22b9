import ApiContract.Proofs.NumberText
import ApiContract.Proofs.Reading
import ApiContract.Proofs.ValueEquality

/-!
# Canonical texts

A canonical text can be read in one way only, although nothing marks the end of
a number: what follows a value is nothing, a comma or a closing bracket, and no
number has such a character.  So two values have the same canonical text exactly
if they are equal.
-/

namespace ApiContract

/-! ### Texts and what follows them -/

/-- Whether a character ends the value before it. -/
def IsStop (c : Char) : Prop := c = ',' ∨ c = ']' ∨ c = '}'

/-- Whether a text may follow a value. -/
def Follows (s : List Char) : Prop := ∀ c ∈ s.head?, IsStop c

theorem Follows.nil : Follows [] := nofun

theorem Follows.cons {c : Char} (h : IsStop c) (s : List Char) : Follows (c :: s) := by
  intro d hd
  cases hd
  exact h

/-- A text without stops ends where what follows it begins. -/
theorem append_inj_of_follows {a b s t : List Char} (ha : ∀ c ∈ a, ¬IsStop c)
    (hb : ∀ c ∈ b, ¬IsStop c) (hs : Follows s) (ht : Follows t) (h : a ++ s = b ++ t) :
    a = b ∧ s = t := by
  induction a generalizing b with
  | nil =>
    cases b with
    | nil => exact ⟨rfl, h⟩
    | cons c b =>
      rw [List.nil_append] at h
      rw [h] at hs
      exact absurd (hs c rfl) (hb c List.mem_cons_self)
  | cons c a ih =>
    cases b with
    | nil =>
      rw [List.nil_append] at h
      rw [← h] at ht
      exact absurd (ht c rfl) (ha c List.mem_cons_self)
    | cons d b =>
      simp only [List.cons_append, List.cons.injEq] at h
      obtain ⟨rfl, h⟩ := h
      have hrest := ih (fun c hc => ha c (List.mem_cons_of_mem _ hc))
        (fun c hc => hb c (List.mem_cons_of_mem _ hc)) h
      exact ⟨congrArg _ hrest.1, hrest.2⟩

/-! ### Texts between commas -/

/-- Further texts, each after a comma, up to the closing character. -/
def joinedMore (close : Char) : List (List Char) → List Char
  | [] => [close]
  | text :: rest => ',' :: text ++ joinedMore close rest

/-- Texts with commas between them, up to the closing character. -/
def joined (close : Char) : List (List Char) → List Char
  | [] => [close]
  | text :: rest => text ++ joinedMore close rest

section Joined
variable {α : Type} {write : α → List Char} {related : α → α → Prop} {close : Char} {as bs : List α}
  {s t : List Char}

theorem follows_joinedMore (hclose : IsStop close) (texts : List (List Char)) (s : List Char) :
    Follows (joinedMore close texts ++ s) := by
  cases texts with
  | nil => exact .cons hclose _
  | cons text rest => exact .cons (.inl rfl) _

/-- Members that can be read with what follows them can be read one after the other. -/
theorem joinedMore_append_inj (hclose : IsStop close) (hcomma : close ≠ ',')
    (hread : ∀ a ∈ as, ∀ b ∈ bs, ∀ s t, Follows s → Follows t → write a ++ s = write b ++ t →
      related a b ∧ s = t)
    (h : joinedMore close (as.map write) ++ s = joinedMore close (bs.map write) ++ t) :
    List.Forall₂ related as bs ∧ s = t := by
  induction as generalizing bs with
  | nil =>
    cases bs with
    | nil => exact ⟨.nil, List.append_cancel_left h⟩
    | cons b bs => exact absurd (List.cons.inj h).1 hcomma
  | cons a as ih =>
    cases bs with
    | nil => exact absurd (List.cons.inj h).1.symm hcomma
    | cons b bs =>
      simp only [List.map_cons, joinedMore, List.cons_append, List.append_assoc, List.cons.injEq,
        true_and] at h
      obtain ⟨hpair, hmore⟩ := hread a List.mem_cons_self b List.mem_cons_self _ _
        (follows_joinedMore hclose _ _) (follows_joinedMore hclose _ _) h
      obtain ⟨hpairs, hrest⟩ := ih (fun a ha b hb =>
        hread a (List.mem_cons_of_mem _ ha) b (List.mem_cons_of_mem _ hb)) hmore
      exact ⟨.cons hpair hpairs, hrest⟩

theorem joined_append_inj (hclose : IsStop close) (hcomma : close ≠ ',')
    (hread : ∀ a ∈ as, ∀ b ∈ bs, ∀ s t, Follows s → Follows t → write a ++ s = write b ++ t →
      related a b ∧ s = t)
    (hopen : ∀ a, ∃ c rest, write a = c :: rest ∧ ¬IsStop c)
    (h : joined close (as.map write) ++ s = joined close (bs.map write) ++ t) :
    List.Forall₂ related as bs ∧ s = t := by
  cases as with
  | nil =>
    cases bs with
    | nil => exact ⟨.nil, List.append_cancel_left h⟩
    | cons b bs =>
      obtain ⟨c, rest, hwrite, hc⟩ := hopen b
      simp only [List.map_nil, List.map_cons, joined, hwrite, List.cons_append, List.cons.injEq] at h
      exact absurd (h.1 ▸ hclose) hc
  | cons a as =>
    cases bs with
    | nil =>
      obtain ⟨c, rest, hwrite, hc⟩ := hopen a
      simp only [List.map_nil, List.map_cons, joined, hwrite, List.cons_append, List.cons.injEq] at h
      exact absurd (h.1 ▸ hclose) hc
    | cons b bs =>
      -- a comma before both texts makes them further texts
      exact joinedMore_append_inj hclose hcomma hread (congrArg (',' :: ·) h)

end Joined

/-! ### Values -/

namespace Json

/-- Canonical text of a member. -/
def canonicalField (field : String × Json) : List Char :=
  Quoted.write field.1.toList ++ ':' :: field.2.canonical

theorem canonical_array (items : List Json) :
    (array items).canonical = '[' :: joined ']' (items.map canonical) := by
  have hmore (items : List Json) :
      canonicalMoreItems items = joinedMore ']' (items.map canonical) := by
    induction items with
    | nil => rfl
    | cons item rest ih => simp [canonicalMoreItems, joinedMore, ih]
  cases items with
  | nil => rfl
  | cons item rest => simp [canonical, canonicalItems, joined, hmore]

theorem canonical_object (fields : List (String × Json)) :
    (object fields).canonical = '{' :: joined '}' (fields.map canonicalField) := by
  have hmore (fields : List (String × Json)) :
      canonicalMoreFields fields = joinedMore '}' (fields.map canonicalField) := by
    induction fields with
    | nil => rfl
    | cons field rest ih => simp [canonicalMoreFields, joinedMore, canonicalField, ih]
  cases fields with
  | nil => rfl
  | cons field rest => simp [canonical, canonicalFields, joined, canonicalField, hmore]

/-- The type that the first character of a canonical text shows. -/
def typeNameOfLead (c : Char) : String :=
  match c with
  | 'n' => "null"
  | 't' => "boolean"
  | 'f' => "boolean"
  | '"' => "string"
  | '[' => "array"
  | '{' => "object"
  | _ => "number"

theorem not_isStop_of_mem_canonical {n : Number} {c : Char} (h : c ∈ n.canonical) : ¬IsStop c := by
  rintro (rfl | rfl | rfl)
  all_goals exact absurd (n.mem_canonical h) (by decide)

theorem typeNameOfLead_of_mem_canonical {n : Number} {c : Char} (h : c ∈ n.canonical) :
    typeNameOfLead c = "number" := by
  have hc := n.mem_canonical h
  unfold typeNameOfLead
  split
  case h_7 => rfl
  all_goals exact absurd hc (by decide)

/-- The first character shows the type, and ends nothing. -/
theorem canonical_lead (value : Json) :
    ∃ c rest, value.canonical = c :: rest ∧ ¬IsStop c ∧ typeNameOfLead c = value.typeName := by
  cases value with
  | null => exact ⟨'n', _, rfl, by simp [IsStop], rfl⟩
  | bool b =>
    cases b with
    | true => exact ⟨'t', _, rfl, by simp [IsStop], rfl⟩
    | false => exact ⟨'f', _, rfl, by simp [IsStop], rfl⟩
  | string s => exact ⟨'"', _, rfl, by simp [IsStop], rfl⟩
  | array items => exact ⟨'[', _, rfl, by simp [IsStop], rfl⟩
  | object fields => exact ⟨'{', _, rfl, by simp [IsStop], rfl⟩
  | number n =>
    cases hn : n.canonical with
    | nil => exact absurd hn n.canonical_ne_nil
    | cons c rest =>
      have hc : c ∈ n.canonical := by
        rw [hn]
        exact List.mem_cons_self
      exact ⟨c, rest, hn, not_isStop_of_mem_canonical hc, typeNameOfLead_of_mem_canonical hc⟩

theorem canonicalField_lead (field : String × Json) :
    ∃ c rest, canonicalField field = c :: rest ∧ ¬IsStop c :=
  ⟨'"', _, rfl, by simp [IsStop]⟩

theorem typeName_eq_of_canonical_append {a b : Json} {s t : List Char}
    (h : a.canonical ++ s = b.canonical ++ t) : a.typeName = b.typeName := by
  obtain ⟨c, rest, hc, _, hctype⟩ := a.canonical_lead
  obtain ⟨d, rest', hd, _, hdtype⟩ := b.canonical_lead
  rw [hc, hd, List.cons_append, List.cons_append, List.cons.injEq] at h
  rw [← hctype, ← hdtype, h.1]

theorem map_eq_of_forall₂ {α β : Type} {related : α → α → Prop} {f : α → β} {as bs : List α}
    (h : List.Forall₂ related as bs)
    (hf : ∀ a ∈ as, ∀ b ∈ bs, related a b → f a = f b) : as.map f = bs.map f := by
  induction h with
  | nil => rfl
  | cons hhead _ ih =>
    rw [List.map_cons, List.map_cons, hf _ List.mem_cons_self _ List.mem_cons_self hhead]
    congr 1
    exact ih fun a ha b hb => hf a (List.mem_cons_of_mem _ ha) b (List.mem_cons_of_mem _ hb)

/-! ### Reading values -/

/-- Wherever values end, equal texts begin with equal values. -/
theorem canonical_append_inj {a b : Json} (ha : a.Ordered) (hb : b.Ordered) {s t : List Char}
    (hs : Follows s) (ht : Follows t) (h : a.canonical ++ s = b.canonical ++ t) :
    a.same b = true ∧ s = t := by
  have htype := typeName_eq_of_canonical_append h
  induction a using Json.induction generalizing b s t with
  | null =>
    cases b with
    | null => exact ⟨rfl, List.append_cancel_left h⟩
    | _ => simp [typeName] at htype
  | bool x =>
    cases b with
    | bool y => cases x <;> cases y <;> simp_all [canonical, write, same]
    | _ => simp [typeName] at htype
  | number m =>
    cases b with
    | number n =>
      -- what follows a value begins with a stop, and no number's text has one
      obtain ⟨htext, hrest⟩ := append_inj_of_follows (fun _ => not_isStop_of_mem_canonical)
        (fun _ => not_isStop_of_mem_canonical) hs ht h
      exact ⟨(Number.canonical_eq_iff m n).mp htext, hrest⟩
    | _ => simp [typeName] at htype
  | string x =>
    cases b with
    | string y =>
      obtain ⟨rfl, hrest⟩ := Quoted.write_append_inj h
      exact ⟨beq_self_eq_true x, hrest⟩
    | _ => simp [typeName] at htype
  | array as ih =>
    cases b with
    | array bs =>
      rw [ordered_array] at ha hb
      rw [canonical_array, canonical_array, List.cons_append, List.cons_append,
        List.cons_inj_right] at h
      have hitem : ∀ a ∈ as, ∀ b ∈ bs, ∀ s t, Follows s → Follows t →
          a.canonical ++ s = b.canonical ++ t → a.same b = true ∧ s = t := by
        intro a hamem b hbmem s t hs ht h
        exact ih a hamem (ha a hamem) (hb b hbmem) hs ht h (typeName_eq_of_canonical_append h)
      have hlead (a : Json) : ∃ c rest, a.canonical = c :: rest ∧ ¬IsStop c := by
        obtain ⟨c, rest, hc, hstop, _⟩ := a.canonical_lead
        exact ⟨c, rest, hc, hstop⟩
      obtain ⟨hpairs, hrest⟩ := joined_append_inj (.inr (.inl rfl)) (by decide) hitem hlead h
      exact ⟨sameItems_iff.mpr hpairs, hrest⟩
    | _ => simp [typeName] at htype
  | object as ih =>
    cases b with
    | object bs =>
      rw [ordered_object] at ha hb
      rw [canonical_object, canonical_object, List.cons_append, List.cons_append,
        List.cons_inj_right] at h
      have hmember : ∀ f ∈ as, ∀ g ∈ bs, ∀ s t, Follows s → Follows t →
          canonicalField f ++ s = canonicalField g ++ t →
          (f.1 = g.1 ∧ f.2.same g.2 = true) ∧ s = t := by
        intro f hf g hg s t hs ht h
        unfold canonicalField at h
        rw [List.append_assoc, List.append_assoc] at h
        -- a quoted name closes itself, so the values begin at the same place
        obtain ⟨hname, h⟩ := Quoted.write_append_inj h
        rw [List.cons_append, List.cons_append, List.cons_inj_right] at h
        obtain ⟨hsame, hrest⟩ := ih f hf (ha.2 f hf) (hb.2 g hg) hs ht h
          (typeName_eq_of_canonical_append h)
        exact ⟨⟨hname, hsame⟩, hrest⟩
      obtain ⟨hpairs, hrest⟩ :=
        joined_append_inj (.inr (.inr rfl)) (by decide) hmember canonicalField_lead h
      exact ⟨(same_object_iff ha.1 hb.1).mpr hpairs, hrest⟩
    | _ => simp [typeName] at htype

/-- Equal values have the same canonical text. -/
theorem canonical_eq_of_same {a b : Json} (ha : a.Ordered) (hb : b.Ordered)
    (h : a.same b = true) : a.canonical = b.canonical := by
  induction a using Json.induction generalizing b with
  | null =>
    cases b with
    | null => rfl
    | _ => cases h
  | bool x =>
    cases b with
    | bool y => rw [eq_of_beq h]
    | _ => cases h
  | number m =>
    cases b with
    | number n => exact (Number.canonical_eq_iff m n).mpr h
    | _ => cases h
  | string x =>
    cases b with
    | string y => rw [eq_of_beq h]
    | _ => cases h
  | array as ih =>
    cases b with
    | array bs =>
      rw [ordered_array] at ha hb
      have hitems : as.map canonical = bs.map canonical :=
        map_eq_of_forall₂ (sameItems_iff.mp h) fun a hamem b hbmem hsame =>
          ih a hamem (ha a hamem) (hb b hbmem) hsame
      rw [canonical_array, canonical_array, hitems]
    | _ => cases h
  | object as ih =>
    cases b with
    | object bs =>
      rw [ordered_object] at ha hb
      have hmembers : as.map canonicalField = bs.map canonicalField := by
        refine map_eq_of_forall₂ ((same_object_iff ha.1 hb.1).mp h) fun f hf g hg hpair => ?_
        unfold canonicalField
        rw [hpair.1, ih f hf (ha.2 f hf) (hb.2 g hg) hpair.2]
      rw [canonical_object, canonical_object, hmembers]
    | _ => cases h

/-- Two values are equal exactly if they are written alike. -/
theorem same_iff_canonical_eq {a b : Json} (ha : a.Ordered) (hb : b.Ordered) :
    a.same b = true ↔ a.canonical = b.canonical := by
  refine ⟨canonical_eq_of_same ha hb, fun h => ?_⟩
  exact (canonical_append_inj ha hb .nil .nil (congrArg (· ++ []) h)).1

end Json

/-- Two values whose objects have their members in order are equal exactly if their
canonical texts are the same text.  All values that are read are such values. -/
theorem same_iff_canonicalText_eq :
    (∀ a b : Json, a.Ordered → b.Ordered →
      (a.same b = true ↔ a.canonicalText = b.canonicalText)) ∧
    (∀ (s t : String) (a b : Json), Json.read s = .ok a → Json.read t = .ok b →
      (a.same b = true ↔ a.canonicalText = b.canonicalText)) := by
  have htext (a b : Json) : a.canonicalText = b.canonicalText ↔ a.canonical = b.canonical := by
    unfold Json.canonicalText
    exact String.ofList_inj
  constructor
  · intro a b ha hb
    rw [htext]
    exact Json.same_iff_canonical_eq ha hb
  · intro s t a b ha hb
    rw [htext]
    exact Json.same_iff_canonical_eq (Json.ordered_of_read ha) (Json.ordered_of_read hb)

theorem same_iff_canonicalText_eq_negative_zero :
    let doubles := Json.object [("n", .array [.number (.real .one), .number (.real .negativeZero)])]
    let integers := Json.object [("n", .array [.ofInt 1, .ofInt 0])]
    let minusZero := Json.number (.real .negativeZero)
    doubles.Ordered ∧ integers.Ordered ∧ doubles.same integers = true ∧
      (doubles.same integers = true ↔ doubles.canonicalText = integers.canonicalText) ∧
      Json.read "-0" = .ok minusZero ∧ Json.read " -0 " = .ok minusZero ∧
      (minusZero.same minusZero = true ↔ minusZero.canonicalText = minusZero.canonicalText) := by
  intro doubles integers minusZero
  obtain ⟨hordered, hread⟩ := same_iff_canonicalText_eq
  have hdoubles : doubles.Ordered :=
    ⟨List.pairwise_singleton _ _, ⟨trivial, trivial, trivial⟩, trivial⟩
  have hintegers : integers.Ordered :=
    ⟨List.pairwise_singleton _ _, ⟨trivial, trivial, trivial⟩, trivial⟩
  refine ⟨hdoubles, hintegers, ?_, hordered doubles integers hdoubles hintegers, rfl, rfl, ?_⟩
  · decide +kernel
  · exact hread "-0" " -0 " minusZero minusZero rfl rfl

end ApiContract
