import ApiContract.Proofs.Outcome
import ApiContract.Schema.Lookup
import Mathlib.Data.List.Perm.Subperm
import Mathlib.Logic.Relation

/-!
# Chains of references

A walk follows the reference of a node to the component that it names, from
there on to the next, and so forth.  A lookup reads the end of a walk, and a
lookup that faults has walked as far as the reference that it blames.  Where no
component refers back to itself, no walk is longer than the table.
-/

namespace ApiContract
namespace ComponentTable

/-- A walk along references, each of them to the component that it names. -/
inductive Walk (table : ComponentTable) : Json → List String → Json → Prop where
  | here (node : Json) : Walk table node [] node
  | link {node next last : Json} {reference : String} {rest : List String}
    (refers : node.reference? = some reference) (found : table.get? reference = some next)
    (onward : Walk table next rest last) : Walk table node (reference :: rest) last

/-- The component of one name refers to that of another. -/
def Refers (table : ComponentTable) (name name' : String) : Prop :=
  ∃ component reference, Fields.get? table.schemas name = some component ∧
    component.reference? = some reference ∧ componentName reference = name'

/-- No component refers to itself, be it through others.  A cycle is made of
components, so none of them leads into one either. -/
def Acyclic (table : ComponentTable) : Prop := ∀ name, ¬Relation.TransGen table.Refers name name

variable {table : ComponentTable} {node last : Json} {references : List String}

theorem get?_of_resolve {reference : String} {next : Json} (h : table.resolve reference = .ok next) :
    table.get? reference = some next := by
  unfold resolve at h
  cases hget : table.get? reference with
  | none =>
    rw [hget] at h
    cases h
  | some component =>
    rw [hget] at h
    cases h
    rfl

theorem unresolved_of_resolve {reference : String} {e : Fault}
    (h : table.resolve reference = .error e) :
    e = .unresolved reference ∧ table.get? reference = none := by
  unfold resolve at h
  cases hget : table.get? reference with
  | none =>
    rw [hget] at h
    cases h
    exact ⟨rfl, rfl⟩
  | some component =>
    rw [hget] at h
    cases h

/-! ### Walks without cycles -/

namespace Walk

theorem snoc {next : Json} {reference : String} (h : table.Walk node references last)
    (refers : last.reference? = some reference) (found : table.get? reference = some next) :
    table.Walk node (references ++ [reference]) next := by
  induction h with
  | here node => exact .link refers found (.here next)
  | link refers' found' _ ih => exact .link refers' found' (ih refers)

theorem componentName_mem_names (h : table.Walk node references last) :
    ∀ reference ∈ references, componentName reference ∈ table.names := by
  induction h with
  | here node => exact fun _ hmem => absurd hmem List.not_mem_nil
  | link _ found _ ih =>
    intro reference hmem
    rcases List.mem_cons.mp hmem with rfl | hrest
    · exact List.mem_map_of_mem (Fields.mem_of_get? found)
    · exact ih reference hrest

theorem refers_of_mem {name : String} (h : table.Walk node references last)
    (hname : Fields.get? table.schemas name = some node) :
    ∀ reference ∈ references, Relation.TransGen table.Refers name (componentName reference) := by
  induction h generalizing name with
  | here node => exact fun _ hmem => absurd hmem List.not_mem_nil
  | link refers found _ ih =>
    intro reference hmem
    have hfirst : table.Refers name _ := ⟨_, _, hname, refers, rfl⟩
    rcases List.mem_cons.mp hmem with rfl | hrest
    · exact .single hfirst
    · exact .head hfirst (ih found reference hrest)

theorem nodup (acyclic : table.Acyclic) (h : table.Walk node references last) :
    (references.map componentName).Nodup := by
  induction h with
  | here node => exact List.nodup_nil
  | link _ found onward ih =>
    refine List.nodup_cons.mpr ⟨fun hmem => ?_, ih⟩
    obtain ⟨reference, hreference, hsame⟩ := List.mem_map.mp hmem
    have hback := onward.refers_of_mem found reference hreference
    rw [hsame] at hback
    exact acyclic _ hback

/-- A walk passes no more different components than there are in the table. -/
theorem length_le_of_nodup (h : table.Walk node references last)
    (different : (references.map componentName).Nodup) : references.length ≤ table.length := by
  have hsubset : references.map componentName ⊆ table.names := by
    intro name hmem
    obtain ⟨reference, hreference, rfl⟩ := List.mem_map.mp hmem
    exact h.componentName_mem_names reference hreference
  have hlength := (List.subperm_of_subset different hsubset).length_le
  simpa only [names, Fields.names, List.length_map, length] using hlength

theorem length_le (acyclic : table.Acyclic) (h : table.Walk node references last) :
    references.length ≤ table.length := h.length_le_of_nodup (h.nodup acyclic)

end Walk

theorem acyclic_of_rank (rank : String → Nat)
    (h : ∀ name name', table.Refers name name' → rank name' < rank name) : table.Acyclic := by
  have hfalls {name name' : String} (hrefers : Relation.TransGen table.Refers name name') :
      rank name' < rank name := by
    induction hrefers with
    | single hlast => exact h _ _ hlast
    | tail _ hlast ih => exact Nat.lt_trans (h _ _ hlast) ih
  exact fun name hcycle => Nat.lt_irrefl _ (hfalls hcycle)

end ComponentTable

/-- The node that holds a reference and nothing else. -/
def Json.referring (reference : String) : Json := .object [("$ref", .string reference)]

/-! ### Lookups as walks -/

/-- How a lookup with `hops` hops left comes to a fault: it walks to a reference
that names no component, or to one hop more than it has. -/
inductive Resolver.Stops (resolver : Resolver) (hops : Nat) (node : Json) : Fault → Prop where
  | dangling {references : List String} {last : Json} {reference : String}
    (walk : resolver.table.Walk node references last) (within : references.length < hops)
    (refers : last.reference? = some reference) (missing : resolver.table.get? reference = none) :
    Stops resolver hops node (.unresolved reference)
  | exhausted {references : List String} {last : Json} {reference : String}
    (walk : resolver.table.Walk node references last) (spent : references.length = hops)
    (refers : last.reference? = some reference) :
    Stops resolver hops node (.chainTooLong reference resolver.maxHops)

namespace Resolver
variable {resolver : Resolver} {keyword : String} {hops : Nat} {node : Json} {e : Fault}

theorem Stops.link {next : Json} {reference : String} (refers : node.reference? = some reference)
    (found : resolver.table.get? reference = some next) (h : resolver.Stops hops next e) :
    resolver.Stops (hops + 1) node e := by
  cases h with
  | dangling walk within last missing =>
    exact .dangling (.link refers found walk) (Nat.succ_lt_succ within) last missing
  | exhausted walk spent last =>
    exact .exhausted (.link refers found walk) (congrArg (· + 1) spent) last

theorem lookupWithin_of_get? {value : Json} (hown : node.get? keyword = some value) :
    resolver.lookupWithin keyword hops node = .ok (some value) := by
  unfold lookupWithin
  rw [hown]

theorem lookupWithin_of_none (hown : node.get? keyword = none) (hend : node.reference? = none) :
    resolver.lookupWithin keyword hops node = .ok none := by
  unfold lookupWithin
  rw [hown, hend]

theorem lookupWithin_of_end (hend : node.reference? = none) :
    resolver.lookupWithin keyword hops node = .ok (node.get? keyword) := by
  cases hown : node.get? keyword with
  | some value => exact lookupWithin_of_get? hown
  | none => exact lookupWithin_of_none hown hend

/-- All keywords but `type` are read from the scope's own node alone. -/
theorem lookup_of_untyped {scope : Scope} (untyped : keyword ≠ "type") :
    resolver.lookup scope keyword = resolver.lookupNode keyword scope.node := by
  unfold lookup
  cases resolver.lookupNode keyword scope.node with
  | error e => rfl
  | ok found =>
    cases found with
    | some value => rfl
    | none => exact if_neg untyped

theorem lookup_root : resolver.lookup (.root node) keyword = resolver.lookupNode keyword node := by
  unfold lookup
  show resolver.lookupNode keyword node >>= _ = _
  cases resolver.lookupNode keyword node with
  | error e => rfl
  | ok found =>
    cases found with
    | some value => rfl
    | none => exact ite_self _

/-- Nothing but a root node that does not refer on is read at the root. -/
theorem lookup_root_of_end (hend : node.reference? = none) :
    resolver.lookup (.root node) keyword = .ok (node.get? keyword) :=
  lookup_root.trans (lookupWithin_of_end hend)

theorem lookupWithin_zero {reference : String} (hown : node.get? keyword = none)
    (refers : node.reference? = some reference) :
    resolver.lookupWithin keyword 0 node = .error (.chainTooLong reference resolver.maxHops) := by
  unfold lookupWithin
  rw [hown, refers]

theorem lookupWithin_succ {reference : String} (hown : node.get? keyword = none)
    (refers : node.reference? = some reference) :
    resolver.lookupWithin keyword (hops + 1) node =
      resolver.table.resolve reference >>= resolver.lookupWithin keyword hops := by
  rw [lookupWithin, hown, refers]

/-- A keyword that was found is a member of the node at the end of a walk. -/
def Reads (resolver : Resolver) (keyword : String) (node : Json) (found : Option Json) : Prop :=
  ∀ value, found = some value → ∃ references holder,
    resolver.table.Walk node references holder ∧ holder.get? keyword = some value

theorem Reads.link {next : Json} {reference : String} {found : Option Json}
    (refers : node.reference? = some reference) (names : resolver.table.get? reference = some next)
    (h : resolver.Reads keyword next found) : resolver.Reads keyword node found := by
  intro value hvalue
  obtain ⟨rest, holder, hwalk, hholder⟩ := h value hvalue
  exact ⟨reference :: rest, holder, .link refers names hwalk, hholder⟩

/-- Only a node that refers on without holding the keyword has to be followed. -/
theorem answers_of_reference
    (h : ∀ reference, node.get? keyword = none → node.reference? = some reference →
      Answers (resolver.lookupWithin keyword hops node) (resolver.Stops hops node)
        (resolver.Reads keyword node)) :
    Answers (resolver.lookupWithin keyword hops node) (resolver.Stops hops node)
      (resolver.Reads keyword node) := by
  cases hown : node.get? keyword with
  | some value =>
    rw [lookupWithin_of_get? hown]
    refine Answers.ok fun found hfound => ?_
    cases hfound
    exact ⟨[], node, .here node, hown⟩
  | none =>
    cases hreference : node.reference? with
    | none =>
      rw [lookupWithin_of_none hown hreference]
      exact Answers.ok nofun
    | some reference => exact h reference hown hreference

theorem lookupWithin_answers (resolver : Resolver) (keyword : String) (hops : Nat) (node : Json) :
    Answers (resolver.lookupWithin keyword hops node) (resolver.Stops hops node)
      (resolver.Reads keyword node) := by
  induction hops generalizing node with
  | zero =>
    refine answers_of_reference fun reference hown refers => ?_
    rw [lookupWithin_zero hown refers]
    exact Answers.error (.exhausted (.here node) rfl refers)
  | succ hops ih =>
    refine answers_of_reference fun reference hown refers => ?_
    rw [lookupWithin_succ hown refers]
    refine Answers.bind (fun e he => ?_) fun next hnext => ?_
    · obtain ⟨rfl, hmissing⟩ := ComponentTable.unresolved_of_resolve he
      exact .dangling (.here node) (Nat.succ_pos hops) refers hmissing
    · have hfound := ComponentTable.get?_of_resolve hnext
      exact (ih next).mono (fun _ hstops => hstops.link refers hfound)
        (fun _ hreads => hreads.link refers hfound)

/-! ### Whole chains -/

theorem resolveWithin_of_none (hend : node.reference? = none) :
    resolver.resolveWithin hops node = .ok node := by
  unfold resolveWithin
  rw [hend]

theorem resolveWithin_zero {reference : String} (refers : node.reference? = some reference) :
    resolver.resolveWithin 0 node = .error (.chainTooLong reference resolver.maxHops) := by
  unfold resolveWithin
  rw [refers]

theorem resolveWithin_succ {reference : String} (refers : node.reference? = some reference) :
    resolver.resolveWithin (hops + 1) node =
      resolver.table.resolve reference >>= resolver.resolveWithin hops := by
  rw [resolveWithin, refers]

theorem resolveWithin_answers (resolver : Resolver) (hops : Nat) (node : Json) :
    Answers (resolver.resolveWithin hops node) (resolver.Stops hops node)
      (fun last => last.reference? = none ∧
        ∃ references, resolver.table.Walk node references last) := by
  induction hops generalizing node with
  | zero =>
    cases hreference : node.reference? with
    | none =>
      rw [resolveWithin_of_none hreference]
      exact Answers.ok ⟨hreference, [], .here node⟩
    | some reference =>
      rw [resolveWithin_zero hreference]
      exact Answers.error (.exhausted (.here node) rfl hreference)
  | succ hops ih =>
    cases hreference : node.reference? with
    | none =>
      rw [resolveWithin_of_none hreference]
      exact Answers.ok ⟨hreference, [], .here node⟩
    | some reference =>
      rw [resolveWithin_succ hreference]
      refine Answers.bind (fun e he => ?_) fun next hnext => ?_
      · obtain ⟨rfl, hmissing⟩ := ComponentTable.unresolved_of_resolve he
        exact .dangling (.here node) (Nat.succ_pos hops) hreference hmissing
      · have hfound := ComponentTable.get?_of_resolve hnext
        refine (ih next).mono (fun _ hstops => hstops.link hreference hfound) ?_
        rintro last ⟨hend, rest, hwalk⟩
        exact ⟨hend, reference :: rest, .link hreference hfound hwalk⟩

/-- A reference on its own leads where the node leads that holds nothing else. -/
theorem resolveReference_eq_resolve (resolver : Resolver) (reference : String) :
    resolver.resolveReference reference = resolver.resolve (.referring reference) := by
  have hrefers : (Json.referring reference).reference? = some reference := rfl
  obtain ⟨table, maxHops⟩ := resolver
  unfold resolve resolveReference follow
  cases maxHops with
  | zero =>
    rw [resolveWithin_zero hrefers]
    rfl
  | succ left =>
    rw [resolveWithin_succ hrefers]
    rfl

end Resolver
end ApiContract
