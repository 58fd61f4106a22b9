/-!
# Named fields

A list of named values in strictly ascending order of names, so that a name
occurs once.  JSON objects, component tables and callback maps are such lists.
Names are ordered by code point.
-/

namespace ApiContract
namespace Fields

variable {α : Type}

/-- Names in strictly ascending order. -/
def Ordered (fields : List (String × α)) : Prop :=
  fields.Pairwise (fun a b => a.1 < b.1)

instance (fields : List (String × α)) : Decidable (Ordered fields) :=
  inferInstanceAs (Decidable (List.Pairwise _ _))

/-- The value of a name. -/
def get? (fields : List (String × α)) (name : String) : Option α :=
  match fields with
  | [] => none
  | (key, value) :: rest => if key = name then some value else get? rest name

/-- Whether a name has a value. -/
def contains (fields : List (String × α)) (name : String) : Bool :=
  (get? fields name).isSome

/-- Gives a name a value, in place of an earlier one. -/
def set (fields : List (String × α)) (name : String) (value : α) : List (String × α) :=
  match fields with
  | [] => [(name, value)]
  | (key, old) :: rest =>
    if name < key then (name, value) :: (key, old) :: rest
    else if key = name then (name, value) :: rest
    else (key, old) :: set rest name value

/-- Fields from pairs in any order; of a repeated name the last value stays. -/
def ofPairs (pairs : List (String × α)) : List (String × α) :=
  pairs.foldl (fun fields pair => set fields pair.1 pair.2) []

/-- Names in order. -/
def names (fields : List (String × α)) : List String := fields.map Prod.fst

/-! ### Laws -/

theorem get?_set (fields : List (String × α)) (name : String) (value : α) (other : String) :
    get? (set fields name value) other = if name = other then some value else get? fields other := by
  induction fields with
  | nil => simp [set, get?]
  | cons field rest ih =>
    obtain ⟨key, old⟩ := field
    unfold set
    split
    · simp [get?]
    · split
      · next same => subst same; simp only [get?]; split <;> rfl
      · next different =>
        simp only [get?, ih]
        split
        · next here => subst here; simp [Ne.symm different]
        · rfl

theorem mem_of_get? {fields : List (String × α)} {name : String} {value : α}
    (found : get? fields name = some value) : (name, value) ∈ fields := by
  induction fields with
  | nil => cases found
  | cons field rest ih =>
    obtain ⟨key, held⟩ := field
    unfold get? at found
    split at found
    · next same =>
      cases found
      rw [same]
      exact List.mem_cons_self
    · exact List.mem_cons_of_mem _ (ih found)

theorem get?_of_mem {fields : List (String × α)} (ordered : Ordered fields) {field : String × α}
    (member : field ∈ fields) : get? fields field.1 = some field.2 := by
  induction fields with
  | nil => cases member
  | cons head rest ih =>
    obtain ⟨above, tail⟩ := List.pairwise_cons.1 ordered
    unfold get?
    rcases List.mem_cons.1 member with rfl | there
    · exact if_pos rfl
    · rw [if_neg (String.ne_of_lt (above field there))]
      exact ih tail there

theorem mem_set {fields : List (String × α)} {name : String} {value : α} {field : String × α}
    (member : field ∈ set fields name value) : field = (name, value) ∨ field ∈ fields := by
  induction fields with
  | nil => simpa [set] using member
  | cons head rest ih =>
    obtain ⟨key, old⟩ := head
    unfold set at member
    split at member
    · simpa using member
    · split at member
      · rcases List.mem_cons.1 member with here | there
        · exact .inl here
        · exact .inr (List.mem_cons_of_mem _ there)
      · rcases List.mem_cons.1 member with here | there
        · exact .inr (by simp [here])
        · exact (ih there).imp id (List.mem_cons_of_mem _)

theorem Ordered.set {fields : List (String × α)} (ordered : Ordered fields) (name : String)
    (value : α) : Ordered (Fields.set fields name value) := by
  induction fields with
  | nil => simp [Fields.set, Ordered]
  | cons head rest ih =>
    obtain ⟨key, old⟩ := head
    obtain ⟨above, tail⟩ := List.pairwise_cons.1 ordered
    unfold Fields.set
    split
    · next before =>
      refine List.pairwise_cons.2 ⟨fun field member => ?_, ordered⟩
      rcases List.mem_cons.1 member with rfl | there
      · exact before
      · exact String.lt_trans before (above field there)
    · split
      · next same => subst same; exact List.pairwise_cons.2 ⟨above, tail⟩
      · next notBefore different =>
        refine List.pairwise_cons.2 ⟨fun field member => ?_, ih tail⟩
        rcases mem_set member with rfl | there
        · exact Std.lt_of_le_of_ne (Std.not_lt.1 notBefore) different
        · exact above field there

theorem ordered_ofPairs (pairs : List (String × α)) : Ordered (ofPairs pairs) := by
  suffices step : ∀ (fields : List (String × α)), Ordered fields →
      Ordered (pairs.foldl (fun fields pair => set fields pair.1 pair.2) fields) from
    step [] List.Pairwise.nil
  induction pairs with
  | nil => exact fun _ ordered => ordered
  | cons pair rest ih => exact fun fields ordered => ih _ (ordered.set pair.1 pair.2)

theorem mem_of_mem_ofPairs {pairs : List (String × α)} {field : String × α}
    (member : field ∈ ofPairs pairs) : field ∈ pairs := by
  suffices step : ∀ (fields : List (String × α)),
      field ∈ pairs.foldl (fun fields pair => set fields pair.1 pair.2) fields →
        field ∈ fields ∨ field ∈ pairs from
    (step [] member).resolve_left List.not_mem_nil
  clear member
  induction pairs with
  | nil => exact fun _ member => .inl member
  | cons pair rest ih =>
    intro fields member
    rcases ih _ member with there | there
    · rcases mem_set there with rfl | earlier
      · exact .inr List.mem_cons_self
      · exact .inl earlier
    · exact .inr (List.mem_cons_of_mem _ there)

end Fields
end ApiContract
