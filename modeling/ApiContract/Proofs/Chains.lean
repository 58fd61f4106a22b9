import ApiContract.Proofs.References

/-!
# Where chains end

Resolving a node tells what the hop limit leaves of the node's chain: its end,
the first reference without a component, or the reference that is one hop too far.
A chain with more links than the table has components passes one of them twice,
and from there on it goes round for ever.
-/

namespace ApiContract
namespace ComponentTable

/-- A chain without an end: it has any count of links. -/
def Endless (table : ComponentTable) (node : Json) : Prop :=
  ∀ count, ∃ references last, references.length = count ∧ table.Walk node references last

variable {table : ComponentTable} {node next last : Json} {references more : List String}

theorem resolve_of_get? {reference : String} (found : table.get? reference = some next) :
    table.resolve reference = .ok next := by
  unfold resolve
  rw [found]

theorem resolve_of_missing {reference : String} (missing : table.get? reference = none) :
    table.resolve reference = .error (.unresolved reference) := by
  unfold resolve
  rw [missing]

/-! ### Parts of walks -/

namespace Walk

theorem append (h : table.Walk node references next) (onward : table.Walk next more last) :
    table.Walk node (references ++ more) last := by
  induction h with
  | here node => exact onward
  | link refers found _ ih => exact .link refers found (ih onward)

theorem exists_of_append (h : table.Walk node (references ++ more) last) :
    ∃ next, table.Walk node references next ∧ table.Walk next more last := by
  induction references generalizing node with
  | nil => exact ⟨node, .here node, h⟩
  | cons reference rest ih =>
    cases h with
    | link refers found onward =>
      obtain ⟨next, hfront, hback⟩ := ih onward
      exact ⟨next, .link refers found hfront, hback⟩

theorem exists_of_length {count : Nat} (h : table.Walk node references last)
    (long : count ≤ references.length) :
    ∃ front next, front.length = count ∧ table.Walk node front next := by
  rw [← List.take_append_drop count references] at h
  obtain ⟨next, hfront, _⟩ := h.exists_of_append
  exact ⟨_, next, List.length_take_of_le long, hfront⟩

/-- Before its end a walk stands at nodes that refer on. -/
theorem exists_link {count : Nat} (h : table.Walk node references last)
    (short : count < references.length) :
    ∃ front next reference, front.length = count ∧ table.Walk node front next ∧
      next.reference? = some reference := by
  rw [← List.take_append_drop count references] at h
  obtain ⟨next, hfront, hback⟩ := h.exists_of_append
  have hlength : (references.take count).length = count := List.length_take_of_le (by omega)
  rw [List.drop_eq_getElem_cons short] at hback
  cases hback with
  | link refers _ _ => exact ⟨_, next, _, hlength, hfront, refers⟩

/-- The component of each reference of a walk is passed right behind it. -/
theorem exists_of_mem {reference : String} (h : table.Walk node references last)
    (member : reference ∈ references) :
    ∃ front next, table.get? reference = some next ∧ table.Walk node (front ++ [reference]) next := by
  induction h with
  | here node => exact absurd member List.not_mem_nil
  | link refers found _ ih =>
    rcases List.mem_cons.mp member with rfl | hrest
    · exact ⟨[], _, found, .link refers found (.here _)⟩
    · obtain ⟨front, next, hnext, hwalk⟩ := ih hrest
      exact ⟨_ :: front, next, hnext, .link refers found hwalk⟩

end Walk

/-! ### Going round -/

theorem endless_of_long
    (h : ∀ count, ∃ references last, count ≤ references.length ∧ table.Walk node references last) :
    table.Endless node := by
  intro count
  obtain ⟨references, last, hlong, hwalk⟩ := h count
  exact hwalk.exists_of_length hlong

theorem endless_of_round (nonempty : references ≠ []) (round : table.Walk node references node) :
    table.Endless node := by
  refine endless_of_long fun count => ?_
  induction count with
  | zero => exact ⟨[], node, Nat.le_refl 0, .here node⟩
  | succ count ih =>
    obtain ⟨onward, last, hlong, hwalk⟩ := ih
    have hpos : 0 < references.length := List.length_pos_iff.mpr nonempty
    refine ⟨references ++ onward, last, ?_, round.append hwalk⟩
    rw [List.length_append]
    omega

theorem Endless.link {reference : String} (refers : node.reference? = some reference)
    (found : table.get? reference = some next) (h : table.Endless next) : table.Endless node := by
  refine endless_of_long fun count => ?_
  obtain ⟨references, last, hcount, hwalk⟩ := h count
  refine ⟨reference :: references, last, ?_, .link refers found hwalk⟩
  rw [List.length_cons]
  omega

/-- A walk passes different components, or its chain goes round. -/
theorem Walk.nodup_or_endless (h : table.Walk node references last) :
    (references.map componentName).Nodup ∨ table.Endless node := by
  induction h with
  | here node => exact .inl List.nodup_nil
  | @link node next last reference rest refers found onward ih =>
    rcases ih with hnodup | hendless
    · by_cases hagain : componentName reference ∈ rest.map componentName
      · -- some later reference leads to the same component, under this spelling or the other
        obtain ⟨later, hmember, hname⟩ := List.mem_map.mp hagain
        obtain ⟨front, back, hback, hround⟩ := onward.exists_of_mem hmember
        have hsame : table.get? later = table.get? reference :=
          congrArg (Fields.get? table.schemas) hname
        have heq : back = next := Option.some.inj (hback.symm.trans (hsame.trans found))
        rw [heq] at hround
        have hnext : table.Endless next :=
          endless_of_round (List.append_ne_nil_of_right_ne_nil _ (List.cons_ne_nil _ _)) hround
        exact .inr (hnext.link refers found)
      · exact .inl (List.nodup_cons.mpr ⟨hagain, hnodup⟩)
    · exact .inr (hendless.link refers found)

/-- A walk with more links than there are components goes round. -/
theorem Walk.endless_of_length_lt (h : table.Walk node references last)
    (long : table.length < references.length) : table.Endless node := by
  rcases h.nodup_or_endless with hnodup | hendless
  · exact absurd (h.length_le_of_nodup hnodup) (Nat.not_le_of_lt long)
  · exact hendless

end ComponentTable

/-! ### Resolving as walking -/

namespace Resolver
variable {resolver : Resolver} {hops : Nat} {node last : Json} {references : List String}
  {reference : String}

/-- A walk spends one hop for each link. -/
theorem resolveWithin_of_walk (h : resolver.table.Walk node references last)
    (within : references.length ≤ hops) :
    resolver.resolveWithin hops node = resolver.resolveWithin (hops - references.length) last := by
  induction h generalizing hops with
  | here node => rfl
  | @link node next last reference rest refers found onward ih =>
    rw [List.length_cons] at within ⊢
    obtain ⟨left, rfl⟩ : ∃ left, hops = left + 1 := ⟨hops - 1, by omega⟩
    have hleft : rest.length ≤ left := by omega
    have honward := ih hleft
    rw [resolveWithin_succ refers, ComponentTable.resolve_of_get? found, Nat.add_sub_add_right,
      ← honward]
    rfl

theorem resolveWithin_eq_ok_iff :
    resolver.resolveWithin hops node = .ok last ↔
      ∃ references, resolver.table.Walk node references last ∧ references.length ≤ hops ∧
        last.reference? = none := by
  constructor
  · intro h
    obtain ⟨hend, references, hwalk⟩ := (resolver.resolveWithin_answers hops node).result last h
    refine ⟨references, hwalk, ?_, hend⟩
    by_contra hlong
    have hshort : hops < references.length := Nat.lt_of_not_le hlong
    obtain ⟨front, next, reference, hfront, hwalk', hrefers⟩ := hwalk.exists_link hshort
    rw [resolveWithin_of_walk hwalk' (Nat.le_of_eq hfront), hfront, Nat.sub_self, resolveWithin_zero hrefers] at h
    cases h
  · rintro ⟨references, hwalk, hwithin, hend⟩
    rw [resolveWithin_of_walk hwalk hwithin, resolveWithin_of_none hend]

theorem resolveWithin_eq_error_iff {e : Fault} :
    resolver.resolveWithin hops node = .error e ↔ resolver.Stops hops node e := by
  constructor
  · exact (resolver.resolveWithin_answers hops node).fault e
  · intro h
    cases h with
    | @dangling references last reference walk within refers missing =>
      obtain ⟨left, hleft⟩ : ∃ left, hops - references.length = left + 1 :=
        ⟨hops - references.length - 1, by omega⟩
      rw [resolveWithin_of_walk walk (Nat.le_of_lt within), hleft, resolveWithin_succ refers,
        ComponentTable.resolve_of_missing missing]
      rfl
    | @exhausted references last reference walk spent refers =>
      rw [resolveWithin_of_walk walk (Nat.le_of_eq spent), spent, Nat.sub_self, resolveWithin_zero refers]

/-- With more hops than components, only a chain without an end is too long. -/
theorem chainTooLong_iff_endless (resolver : Resolver) (node : Json)
    (many : resolver.table.length < resolver.maxHops) :
    (∃ reference, resolver.resolve node = .error (.chainTooLong reference resolver.maxHops)) ↔
      resolver.table.Endless node := by
  constructor
  · rintro ⟨reference, h⟩
    cases resolveWithin_eq_error_iff.mp h with
    | exhausted walk spent _ => exact walk.endless_of_length_lt (spent ▸ many)
  · intro h
    obtain ⟨references, last, hlength, hwalk⟩ := h (resolver.maxHops + 1)
    have hshort : resolver.maxHops < references.length := by omega
    obtain ⟨front, next, reference, hfront, hwalk', hrefers⟩ := hwalk.exists_link hshort
    exact ⟨reference, resolveWithin_eq_error_iff.mpr (.exhausted hwalk' hfront hrefers)⟩

end Resolver

/-- Resolving a node walks along its chain.  It gives the end of the chain if that
is at most `hops` links away, faults over the first reference without a component
if that is one of the first `hops` links, and otherwise over the link behind
those.  A reference alone is resolved like the node that holds nothing else.  With
more hops than there are components, only chains without an end are too long. -/
theorem resolution_follows_chain (table : ComponentTable) (hops : Nat) (node : Json) :
    let resolver := Resolver.mk table hops
    (∀ last, resolver.resolve node = .ok last ↔
      ∃ references, table.Walk node references last ∧ references.length ≤ hops ∧
        last.reference? = none) ∧
    (∀ reference, resolver.resolve node = .error (.unresolved reference) ↔
      ∃ references last, table.Walk node references last ∧ references.length < hops ∧
        last.reference? = some reference ∧ table.get? reference = none) ∧
    (∀ reference limit, resolver.resolve node = .error (.chainTooLong reference limit) ↔
      limit = hops ∧ ∃ references last, table.Walk node references last ∧
        references.length = hops ∧ last.reference? = some reference) ∧
    (∀ e, resolver.resolve node = .error e →
      (∃ reference, e = .unresolved reference) ∨ ∃ reference, e = .chainTooLong reference hops) ∧
    (∀ reference, resolver.resolveReference reference = resolver.resolve (.referring reference)) ∧
    (table.length < hops →
      ((∃ reference, resolver.resolve node = .error (.chainTooLong reference hops)) ↔
        table.Endless node)) := by
  intro resolver
  refine ⟨fun last => Resolver.resolveWithin_eq_ok_iff, fun reference => ?_,
    fun reference limit => ?_, fun e he => ?_, resolver.resolveReference_eq_resolve,
    resolver.chainTooLong_iff_endless node⟩
  · refine Resolver.resolveWithin_eq_error_iff.trans ⟨fun h => ?_, ?_⟩
    · cases h with
      | dangling walk within refers missing => exact ⟨_, _, walk, within, refers, missing⟩
    · rintro ⟨references, last, walk, within, refers, missing⟩
      exact .dangling walk within refers missing
  · refine Resolver.resolveWithin_eq_error_iff.trans ⟨fun h => ?_, ?_⟩
    · cases h with
      | exhausted walk spent refers => exact ⟨rfl, _, _, walk, spent, refers⟩
    · rintro ⟨rfl, references, last, walk, spent, refers⟩
      exact .exhausted walk spent refers
  · cases Resolver.resolveWithin_eq_error_iff.mp he with
    | dangling _ _ _ _ => exact .inl ⟨_, rfl⟩
    | exhausted _ _ _ => exact .inr ⟨_, rfl⟩

/-- Two components that refer to each other, one of them by its full name. -/
theorem resolution_follows_chain_ring :
    let table : ComponentTable :=
      ⟨[("A", .referring "#/components/schemas/B"), ("B", .referring "A")], by decide⟩
    (Resolver.mk table 3).resolve (.referring "A") =
        .error (.chainTooLong "#/components/schemas/B" 3) ∧
      table.length < 3 ∧ table.Endless (.referring "A") := by
  intro table
  have hlong : (Resolver.mk table 3).resolve (.referring "A") =
      .error (.chainTooLong "#/components/schemas/B" 3) := rfl
  have hfew : table.length < 3 := by decide
  obtain ⟨_, _, _, _, _, hendless⟩ := resolution_follows_chain table 3 (.referring "A")
  exact ⟨hlong, hfew, (hendless hfew).mp ⟨_, hlong⟩⟩

end ApiContract
