import ApiContract.Proofs.Chains

/-!
# Where keywords are found

A lookup passes the nodes of a chain that lack the keyword.  It comes to one of four
ends: a node that holds the keyword, the end of the chain, a reference without a
component, or a link more than it has hops.
-/

namespace ApiContract
namespace ComponentTable

/-- A walk along references that leaves behind only nodes without a keyword. -/
inductive Passes (table : ComponentTable) (keyword : String) : Json → List String → Json → Prop where
  | here (node : Json) : Passes table keyword node [] node
  | link {node next last : Json} {reference : String} {rest : List String}
    (lacks : node.get? keyword = none) (refers : node.reference? = some reference)
    (found : table.get? reference = some next) (onward : Passes table keyword next rest last) :
    Passes table keyword node (reference :: rest) last

end ComponentTable

namespace Resolver

/-- What a lookup comes to along the chain of a node, with `hops` hops left. -/
inductive Gives (resolver : Resolver) (keyword : String) (hops : Nat) (node : Json) :
    Except Fault (Option Json) → Prop where
  | held {references : List String} {holder value : Json}
    (passes : resolver.table.Passes keyword node references holder)
    (within : references.length ≤ hops) (holds : holder.get? keyword = some value) :
    Gives resolver keyword hops node (.ok (some value))
  | absent {references : List String} {last : Json}
    (passes : resolver.table.Passes keyword node references last)
    (within : references.length ≤ hops) (lacks : last.get? keyword = none)
    (final : last.reference? = none) : Gives resolver keyword hops node (.ok none)
  | dangling {references : List String} {last : Json} {reference : String}
    (passes : resolver.table.Passes keyword node references last)
    (within : references.length < hops) (lacks : last.get? keyword = none)
    (refers : last.reference? = some reference) (missing : resolver.table.get? reference = none) :
    Gives resolver keyword hops node (.error (.unresolved reference))
  | exhausted {references : List String} {last : Json} {reference : String}
    (passes : resolver.table.Passes keyword node references last)
    (spent : references.length = hops) (lacks : last.get? keyword = none)
    (refers : last.reference? = some reference) :
    Gives resolver keyword hops node (.error (.chainTooLong reference resolver.maxHops))

variable {resolver : Resolver} {keyword reference : String} {hops : Nat} {node next last : Json}
  {references : List String} {outcome : Except Fault (Option Json)}

theorem Gives.link (lacks : node.get? keyword = none) (refers : node.reference? = some reference)
    (found : resolver.table.get? reference = some next)
    (h : resolver.Gives keyword hops next outcome) :
    resolver.Gives keyword (hops + 1) node outcome := by
  cases h with
  | held passes within holds =>
    exact .held (.link lacks refers found passes) (Nat.succ_le_succ within) holds
  | absent passes within missing final =>
    exact .absent (.link lacks refers found passes) (Nat.succ_le_succ within) missing final
  | dangling passes within missing refers' unnamed =>
    exact .dangling (.link lacks refers found passes) (Nat.succ_lt_succ within) missing refers'
      unnamed
  | exhausted passes spent missing refers' =>
    exact .exhausted (.link lacks refers found passes) (congrArg (· + 1) spent) missing refers'

/-- Only a node that lacks the keyword and refers on has to be followed. -/
theorem gives_of_reference
    (h : ∀ reference, node.get? keyword = none → node.reference? = some reference →
      resolver.Gives keyword hops node (resolver.lookupWithin keyword hops node)) :
    resolver.Gives keyword hops node (resolver.lookupWithin keyword hops node) := by
  cases hown : node.get? keyword with
  | some value =>
    rw [lookupWithin_of_get? hown]
    exact .held (.here node) (Nat.zero_le hops) hown
  | none =>
    cases hreference : node.reference? with
    | none =>
      rw [lookupWithin_of_none hown hreference]
      exact .absent (.here node) (Nat.zero_le hops) hown hreference
    | some reference => exact h reference hown hreference

/-- Every lookup comes to one of the four ends. -/
theorem gives_lookupWithin (resolver : Resolver) (keyword : String) (hops : Nat) (node : Json) :
    resolver.Gives keyword hops node (resolver.lookupWithin keyword hops node) := by
  induction hops generalizing node with
  | zero =>
    refine gives_of_reference fun reference hown hrefers => ?_
    rw [lookupWithin_zero hown hrefers]
    exact .exhausted (.here node) rfl hown hrefers
  | succ hops ih =>
    refine gives_of_reference fun reference hown hrefers => ?_
    rw [lookupWithin_succ hown hrefers]
    cases hfound : resolver.table.get? reference with
    | none =>
      rw [ComponentTable.resolve_of_missing hfound]
      exact .dangling (.here node) (Nat.succ_pos hops) hown hrefers hfound
    | some next =>
      rw [ComponentTable.resolve_of_get? hfound]
      exact (ih next).link hown hrefers hfound

/-- A lookup spends one hop for each node that it passes. -/
theorem lookupWithin_of_passes (h : resolver.table.Passes keyword node references last)
    (within : references.length ≤ hops) :
    resolver.lookupWithin keyword hops node =
      resolver.lookupWithin keyword (hops - references.length) last := by
  induction h generalizing hops with
  | here node => rfl
  | @link node next last reference rest lacks refers found onward ih =>
    rw [List.length_cons] at within ⊢
    obtain ⟨left, rfl⟩ : ∃ left, hops = left + 1 := ⟨hops - 1, by omega⟩
    have hleft : rest.length ≤ left := by omega
    rw [lookupWithin_succ lacks refers, ComponentTable.resolve_of_get? found, Nat.add_sub_add_right,
      ← ih hleft]
    rfl

theorem lookupWithin_eq_iff :
    resolver.lookupWithin keyword hops node = outcome ↔ resolver.Gives keyword hops node outcome := by
  constructor
  · rintro rfl
    exact resolver.gives_lookupWithin keyword hops node
  · intro h
    cases h with
    | held passes within holds =>
      rw [lookupWithin_of_passes passes within, lookupWithin_of_get? holds]
    | absent passes within lacks final =>
      rw [lookupWithin_of_passes passes within, lookupWithin_of_none lacks final]
    | @dangling references last reference passes within lacks refers missing =>
      obtain ⟨left, hleft⟩ : ∃ left, hops - references.length = left + 1 :=
        ⟨hops - references.length - 1, by omega⟩
      rw [lookupWithin_of_passes passes (Nat.le_of_lt within), hleft, lookupWithin_succ lacks refers,
        ComponentTable.resolve_of_missing missing]
      rfl
    | exhausted passes spent lacks refers =>
      rw [lookupWithin_of_passes passes (Nat.le_of_eq spent), spent, Nat.sub_self,
        lookupWithin_zero lacks refers]

/-! ### One lookup beside another -/

theorem exists_lookupWithin_of_passes (h : resolver.table.Passes keyword node references last)
    (within : references.length ≤ hops) (final : last.reference? = none) (other : String) :
    ∃ found, resolver.lookupWithin other hops node = .ok found := by
  induction h generalizing hops with
  | here node => exact ⟨_, lookupWithin_of_end final⟩
  | @link node next last reference rest _ refers found _ ih =>
    cases hother : node.get? other with
    | some value => exact ⟨_, lookupWithin_of_get? hother⟩
    | none =>
      rw [List.length_cons] at within
      obtain ⟨left, rfl⟩ : ∃ left, hops = left + 1 := ⟨hops - 1, by omega⟩
      rw [lookupWithin_succ hother refers, ComponentTable.resolve_of_get? found]
      exact ih (by omega) final

/-- A keyword is missing only if the chain was walked to its end, and then no lookup
along it fails. -/
theorem exists_lookup_of_missing {scope : Scope} {other : String} (untyped : keyword ≠ "type")
    (untyped' : other ≠ "type") (missing : resolver.lookup scope keyword = .ok none) :
    ∃ found, resolver.lookup scope other = .ok found := by
  rw [lookup_of_untyped untyped] at missing
  rw [lookup_of_untyped untyped']
  cases lookupWithin_eq_iff.mp missing with
  | absent passes within _ final => exact exists_lookupWithin_of_passes passes within final other

end Resolver
end ApiContract
