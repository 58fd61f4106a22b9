import ApiContract.Check.Array
import ApiContract.Proofs.CanonicalText
import ApiContract.Proofs.ExactRounding

/-!
# Values that are equal

Equal values may write their numbers in different forms.  They are built alike:
the same names, texts and counts, and numbers of the same value.  What is equal
to one of them is equal to the other, and their items repeat at the same
positions.
-/

namespace ApiContract

/-- Equal values whose objects have their members in order. -/
structure Json.Alike (a b : Json) : Prop where
  same : a.same b = true
  left : a.Ordered
  right : b.Ordered

/-- Values built alike from parts that are equal. -/
inductive Json.Pair : Json → Json → Prop where
  | null : Pair .null .null
  | bool (b : Bool) : Pair (.bool b) (.bool b)
  | string (text : String) : Pair (.string text) (.string text)
  | number {m n : Number} (same : m.same n = true) : Pair (.number m) (.number n)
  | array {as bs : List Json} (items : List.Forall₂ Json.Alike as bs) : Pair (.array as) (.array bs)
  | object {as bs : List (String × Json)}
    (members : List.Forall₂ (fun f g => f.1 = g.1 ∧ f.2.Alike g.2) as bs) :
    Pair (.object as) (.object bs)

/-! ### Lists in pairs -/

section Pairs
variable {α β : Type} {related : α → β → Prop}

theorem forall₂_zipIdx {as : List α} {bs : List β} (h : List.Forall₂ related as bs) (index : Nat) :
    List.Forall₂ (fun x y => related x.1 y.1 ∧ x.2 = y.2) (as.zipIdx index) (bs.zipIdx index) := by
  induction h generalizing index with
  | nil => exact .nil
  | cons head _ ih =>
    rw [List.zipIdx_cons, List.zipIdx_cons]
    exact .cons ⟨head, rfl⟩ (ih (index + 1))

/-- Objects that list the same names have related values under a name, or none. -/
theorem Fields.get?_of_forall₂ {as : List (String × α)} {bs : List (String × β)}
    (h : List.Forall₂ (fun f g => f.1 = g.1 ∧ related f.2 g.2) as bs) (name : String) :
    Option.Rel related (get? as name) (get? bs name) := by
  induction h with
  | nil => exact .none
  | @cons f g _ _ head _ ih =>
    obtain ⟨key, a⟩ := f
    obtain ⟨key', b⟩ := g
    obtain ⟨rfl, hrelated⟩ := head
    unfold get?
    by_cases hname : key = name
    · rw [if_pos hname, if_pos hname]
      exact .some hrelated
    · rw [if_neg hname, if_neg hname]
      exact ih

theorem Fields.contains_of_forall₂ {as : List (String × α)} {bs : List (String × β)}
    (h : List.Forall₂ (fun f g => f.1 = g.1 ∧ related f.2 g.2) as bs) (name : String) :
    contains as name = contains bs name := by
  have hfound := get?_of_forall₂ h name
  unfold contains
  generalize get? as name = a, get? bs name = b at hfound ⊢
  cases hfound <;> rfl

end Pairs

/-! ### Pairs -/

theorem Number.same_congr (n : Number) {a b : Number} (h : a.same b = true) :
    n.same a = n.same b := by
  have htext := (canonical_eq_iff a b).mpr h
  rw [Bool.eq_iff_iff, ← canonical_eq_iff, ← canonical_eq_iff, htext]

namespace Json

theorem Alike.pair {a b : Json} (h : a.Alike b) : Pair a b := by
  obtain ⟨hsame, ha, hb⟩ := h
  cases a with
  | null =>
    cases b with
    | null => exact .null
    | _ => cases hsame
  | bool x =>
    cases b with
    | bool y =>
      obtain rfl := eq_of_beq hsame
      exact .bool x
    | _ => cases hsame
  | string x =>
    cases b with
    | string y =>
      obtain rfl := eq_of_beq hsame
      exact .string x
    | _ => cases hsame
  | number m =>
    cases b with
    | number n => exact .number hsame
    | _ => cases hsame
  | array as =>
    cases b with
    | array bs =>
      rw [ordered_array] at ha hb
      obtain ⟨hlength, hzip⟩ := List.forall₂_iff_zip.mp (sameItems_iff.mp hsame)
      refine .array (List.forall₂_iff_zip.mpr ⟨hlength, fun {x y} hmem => ?_⟩)
      obtain ⟨hx, hy⟩ := List.of_mem_zip hmem
      exact ⟨hzip hmem, ha x hx, hb y hy⟩
    | _ => cases hsame
  | object as =>
    cases b with
    | object bs =>
      rw [ordered_object] at ha hb
      obtain ⟨hlength, hzip⟩ := List.forall₂_iff_zip.mp ((same_object_iff ha.1 hb.1).mp hsame)
      refine .object (List.forall₂_iff_zip.mpr ⟨hlength, fun {f g} hmem => ?_⟩)
      obtain ⟨hf, hg⟩ := List.of_mem_zip hmem
      exact ⟨(hzip hmem).1, (hzip hmem).2, ha.2 f hf, hb.2 g hg⟩
    | _ => cases hsame

theorem Alike.binary64? {a b : Json} (h : a.Alike b) :
    Option.Rel (fun x y : Binary64 => x.units = y.units) a.binary64? b.binary64? := by
  cases h.pair with
  | number hsame => exact .some (Number.units_eq_of_same hsame)
  | _ => exact .none

theorem Alike.isNull {a b : Json} (h : a.Alike b) : a.isNull = b.isNull := by
  cases h.pair <;> rfl

theorem Alike.bool? {a b : Json} (h : a.Alike b) : a.bool? = b.bool? := by
  cases h.pair <;> rfl

/-! ### What is equal to one of a pair -/

theorem sameItems_congr {ms : List Json}
    (ih : ∀ m ∈ ms, ∀ {a b : Json}, a.Alike b → m.same a = m.same b) {as bs : List Json}
    (h : List.Forall₂ Alike as bs) : sameItems ms as = sameItems ms bs := by
  induction ms generalizing as bs with
  | nil => cases h <;> rfl
  | cons m rest ih' =>
    cases h with
    | nil => rfl
    | cons head tail =>
      have hrest := ih' (fun m hm => ih m (List.mem_cons_of_mem _ hm)) tail
      rw [sameItems, sameItems, ih m List.mem_cons_self head, hrest]

theorem sameFields_congr {ms : List (String × Json)}
    (ih : ∀ m ∈ ms, ∀ {a b : Json}, a.Alike b → m.2.same a = m.2.same b)
    {as bs : List (String × Json)}
    (h : List.Forall₂ (fun f g => f.1 = g.1 ∧ f.2.Alike g.2) as bs) :
    sameFields ms as = sameFields ms bs := by
  induction ms with
  | nil => rfl
  | cons field rest ih' =>
    obtain ⟨name, m⟩ := field
    have hfound := Fields.get?_of_forall₂ h name
    have hrest := ih' fun m hm => ih m (List.mem_cons_of_mem _ hm)
    rw [sameFields, sameFields, hrest]
    congr 1
    generalize Fields.get? as name = a, Fields.get? bs name = b at hfound ⊢
    cases hfound with
    | none => rfl
    | some halike => exact ih (name, m) List.mem_cons_self halike

/-- What is equal to a value is equal to every value that is equal to it. -/
theorem same_congr (m : Json) {a b : Json} (h : a.Alike b) : m.same a = m.same b := by
  induction m using Json.induction generalizing a b with
  | null => cases h.pair <;> rfl
  | bool x => cases h.pair <;> rfl
  | string x => cases h.pair <;> rfl
  | number n =>
    cases h.pair with
    | number hsame => exact n.same_congr hsame
    | _ => rfl
  | array ms ih =>
    cases h.pair with
    | array items => exact sameItems_congr ih items
    | _ => rfl
  | object ms ih =>
    cases h.pair with
    | object members =>
      rw [same, same, members.length_eq, sameFields_congr ih members]
    | _ => rfl

theorem canonical_congr {as bs : List Json} (h : List.Forall₂ Alike as bs) :
    as.map canonical = bs.map canonical :=
  map_eq_of_forall₂ h fun _ _ _ _ halike => canonical_eq_of_same halike.left halike.right halike.same

end Json
end ApiContract
