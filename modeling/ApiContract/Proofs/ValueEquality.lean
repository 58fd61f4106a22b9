import ApiContract.Json.Canonical
import Mathlib.Data.List.Forall2
import Mathlib.Data.List.Sort

/-!
# Equality of values, pair by pair

Arrays are equal if their items are, in order.  Objects are equal if their
members are, in order as well: members are in the order of their names, so two
objects of the same length that look up the same names list them alike.
-/

namespace ApiContract

/-! ### Induction on values -/

namespace Json

/-- What holds of an array if it holds of its items, of an object if it holds of
its members, and of all other values, holds of every value. -/
@[elab_as_elim]
theorem induction {P : Json → Prop} (null : P null) (bool : ∀ b, P (bool b))
    (number : ∀ n, P (number n)) (string : ∀ s, P (string s))
    (array : ∀ items, (∀ item ∈ items, P item) → P (array items))
    (object : ∀ fields : List (String × Json), (∀ field ∈ fields, P field.2) → P (object fields))
    (value : Json) : P value :=
  match value with
  | .null => null
  | .bool b => bool b
  | .number n => number n
  | .string s => string s
  | .array items => array items fun item _ => induction null bool number string array object item
  | .object fields =>
    object fields fun field hfield =>
      have : sizeOf field.2 < sizeOf fields := by
        have hmem := List.sizeOf_lt_of_mem hfield
        obtain ⟨name, member⟩ := field
        simp only [Prod.mk.sizeOf_spec] at hmem
        show sizeOf member < _
        omega
      induction null bool number string array object field.2

theorem orderedItems_iff {items : List Json} :
    OrderedItems items ↔ ∀ item ∈ items, item.Ordered := by
  induction items with
  | nil => simp [OrderedItems]
  | cons item rest ih => simp [OrderedItems, ih]

theorem orderedFields_iff {fields : List (String × Json)} :
    OrderedFields fields ↔ ∀ field ∈ fields, field.2.Ordered := by
  induction fields with
  | nil => simp [OrderedFields]
  | cons field rest ih => simp [OrderedFields, ih]

theorem ordered_array {items : List Json} :
    (array items).Ordered ↔ ∀ item ∈ items, item.Ordered := orderedItems_iff

theorem ordered_object {fields : List (String × Json)} :
    (object fields).Ordered ↔ Fields.Ordered fields ∧ ∀ field ∈ fields, field.2.Ordered :=
  and_congr_right fun _ => orderedFields_iff

end Json

/-! ### Objects with the same names -/

namespace Fields
variable {α : Type}

theorem Ordered.pairwise_names {fields : List (String × α)} (ordered : Ordered fields) :
    (names fields).Pairwise (· < ·) := List.pairwise_map.mpr ordered

theorem Ordered.nodup_names {fields : List (String × α)} (ordered : Ordered fields) :
    (names fields).Nodup := ordered.pairwise_names.imp String.ne_of_lt

/-- Objects of the same length, one of which has all names of the other, list the same names. -/
theorem names_eq_of_subset {as bs : List (String × α)} (ha : Ordered as) (hb : Ordered bs)
    (hlength : as.length = bs.length) (hsubset : names as ⊆ names bs) : names as = names bs := by
  have hle : (names bs).length ≤ (names as).length := by
    simp only [names, List.length_map]
    omega
  have hperm := (List.subperm_of_subset ha.nodup_names hsubset).perm_of_length_le hle
  refine hperm.eq_of_pairwise ?_ ha.pairwise_names hb.pairwise_names
  intro a b _ _ hlt hgt
  exact absurd hgt (String.lt_asymm hlt)

end Fields

/-! ### Pairs -/

theorem exists_mem_of_forall₂ {α β : Type} {related : α → β → Prop} {as : List α} {bs : List β}
    (h : List.Forall₂ related as bs) {a : α} (member : a ∈ as) : ∃ b ∈ bs, related a b := by
  induction h with
  | nil => cases member
  | cons head _ ih =>
    rcases List.mem_cons.mp member with rfl | hrest
    · exact ⟨_, List.mem_cons_self, head⟩
    · obtain ⟨b, hb, hrelated⟩ := ih hrest
      exact ⟨b, List.mem_cons_of_mem _ hb, hrelated⟩

namespace Json

theorem sameItems_iff {as bs : List Json} :
    sameItems as bs = true ↔ List.Forall₂ (fun a b => a.same b = true) as bs := by
  induction as generalizing bs with
  | nil => cases bs <;> simp [sameItems]
  | cons a as ih => cases bs <;> simp [sameItems, ih]

theorem sameFields_iff {as bs : List (String × Json)} :
    sameFields as bs = true ↔
      ∀ field ∈ as, ∃ b, Fields.get? bs field.1 = some b ∧ field.2.same b = true := by
  induction as with
  | nil => simp [sameFields]
  | cons field as ih =>
    obtain ⟨name, a⟩ := field
    rw [sameFields, Bool.and_eq_true, ih, List.forall_mem_cons]
    refine and_congr_left fun _ => ?_
    cases Fields.get? bs name <;> simp

/-- Two objects are equal exactly if their members are, in order. -/
theorem same_object_iff {as bs : List (String × Json)} (ha : Fields.Ordered as)
    (hb : Fields.Ordered bs) :
    (object as).same (object bs) = true ↔
      List.Forall₂ (fun f g => f.1 = g.1 ∧ f.2.same g.2 = true) as bs := by
  rw [same, Bool.and_eq_true, beq_iff_eq, sameFields_iff]
  constructor
  · rintro ⟨hlength, hlookup⟩
    -- as many names, each found on the other side, all in one order: the names are the same
    have hsubset : Fields.names as ⊆ Fields.names bs := by
      intro name hname
      obtain ⟨field, hfield, rfl⟩ := List.mem_map.mp hname
      obtain ⟨b, hb, _⟩ := hlookup field hfield
      exact List.mem_map.mpr ⟨_, Fields.mem_of_get? hb, rfl⟩
    have hnames := Fields.names_eq_of_subset ha hb hlength hsubset
    have hpairs : List.Forall₂ (fun f g => f.1 = g.1) as bs := by
      rw [Fields.names, Fields.names, ← List.forall₂_eq_eq_eq, List.forall₂_map_left_iff,
        List.forall₂_map_right_iff] at hnames
      exact hnames
    rw [List.forall₂_iff_zip] at hpairs ⊢
    refine ⟨hlength, fun {f g} hzip => ?_⟩
    have hname := hpairs.2 hzip
    obtain ⟨hf, hg⟩ := List.of_mem_zip hzip
    obtain ⟨b, hfound, hsame⟩ := hlookup f hf
    rw [hname, Fields.get?_of_mem hb hg] at hfound
    cases hfound
    exact ⟨hname, hsame⟩
  · intro hpairs
    refine ⟨hpairs.length_eq, fun f hf => ?_⟩
    obtain ⟨g, hg, hname, hsame⟩ := exists_mem_of_forall₂ hpairs hf
    rw [hname, Fields.get?_of_mem hb hg]
    exact ⟨g.2, rfl, hsame⟩

end Json
end ApiContract
