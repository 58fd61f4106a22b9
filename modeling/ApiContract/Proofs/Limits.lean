import ApiContract.Proofs.References
import ApiContract.Proofs.Transparency

/-!
# Limits

The depth limit and the hop limit end a check in a fault of their own and have
no other effect.  A check with more steps or more hops left is the same check,
unless the first one ran into its limit.
-/

namespace ApiContract

/-- The faults of checks that stand too deep. -/
def Fault.IsTooDeep (e : Fault) : Prop := ∃ path limit, e = .tooDeep path limit

/-! ### Hops -/

namespace Resolver
variable {few many : Resolver} (same : few.table = many.table)
include same

theorem resolveWithin_le {hops hops' : Nat} (h : hops ≤ hops') (node : Json) :
    Agree Fault.IsChainTooLong (few.resolveWithin hops node) (many.resolveWithin hops' node) := by
  have hresolves (reference : String) : Agree Fault.IsChainTooLong (few.table.resolve reference)
      (many.table.resolve reference) := by
    rw [same]
    exact Agree.same _
  have hstart (node : Json) : Agree Fault.IsChainTooLong (few.resolveWithin 0 node)
      (many.resolveWithin (hops' - hops) node) := by
    unfold resolveWithin
    cases node.reference? with
    | none => exact Agree.same _
    | some reference => exact .inr ⟨_, rfl, reference, _, rfl⟩
  have hall := resolveWithin_agree hresolves (hops' - hops) hstart hops node
  rw [Nat.sub_add_cancel h] at hall
  exact hall

variable (h : few.maxHops ≤ many.maxHops)
include h

theorem lookup_le (scope : Scope) (keyword : String) :
    Agree Fault.IsChainTooLong (few.lookup scope keyword) (many.lookup scope keyword) := by
  have hnode (node : Json) : Agree Fault.IsChainTooLong (few.lookupNode keyword node)
      (many.lookupNode keyword node) := lookupWithin_le same keyword h node
  exact lookup_agree (hnode scope.node) (List.forall₂_same.mpr fun node _ => hnode node)

theorem resolve_le (node : Json) :
    Agree Fault.IsChainTooLong (few.resolve node) (many.resolve node) :=
  resolveWithin_le same h node

end Resolver

namespace Checker

/-- What a discriminator selects is reached along a chain. -/
theorem selectedBranch_agree {excused : Fault → Prop} {left right : Checker}
    (resolve : ∀ node, Agree excused (left.resolver.resolve node) (right.resolver.resolve node))
    (discriminator : Json) (selector : String) :
    Agree excused (left.selectedBranch discriminator selector)
      (right.selectedBranch discriminator selector) := by
  have hreference (reference : String) : Agree excused (left.resolver.resolveReference reference)
      (right.resolver.resolveReference reference) := by
    rw [Resolver.resolveReference_eq_resolve, Resolver.resolveReference_eq_resolve]
    exact resolve _
  unfold selectedBranch
  split
  · exact hreference _
  · exact resolve _
  · exact hreference _

/-- Checkers that differ in nothing but the hop limit. -/
theorem mirrors_of_hops (checker : Checker) {hops hops' : Nat} (h : hops ≤ hops') :
    Mirrors Fault.IsChainTooLong
      { checker with settings := checker.settings.withMaxReferenceHops hops }
      { checker with settings := checker.settings.withMaxReferenceHops hops' } Eq :=
  mirrors_of_lookup (fun s keyword => Resolver.lookup_le (by rfl) h s keyword)
    (selectedBranch_agree (Resolver.resolve_le (by rfl) h)) rfl rfl rfl

/-- Checkers that differ in nothing but the depth limit. -/
theorem mirrors_of_depth (checker : Checker) (depth depth' : Nat) :
    Mirrors Fault.IsTooDeep
      { checker with settings := checker.settings.withMaxDepth depth }
      { checker with settings := checker.settings.withMaxDepth depth' } Eq :=
  mirrors_of_lookup (fun _ _ => Agree.same _) (fun _ _ => Agree.same _) rfl rfl rfl

theorem checkRoot_hops_le (checker : Checker) {hops hops' : Nat} (h : hops ≤ hops')
    (schema : Json) (root : String) (value : Json) :
    Run.Agree Fault.IsChainTooLong
      (Checker.checkRoot { checker with settings := checker.settings.withMaxReferenceHops hops }
        schema root value)
      (Checker.checkRoot { checker with settings := checker.settings.withMaxReferenceHops hops' }
        schema root value) :=
  (checker.mirrors_of_hops h).checkRoot rfl schema root value

theorem checkRoot_depth_le (checker : Checker) {depth depth' : Nat} (h : depth ≤ depth')
    (schema : Json) (root : String) (value : Json) :
    Run.Agree Fault.IsTooDeep
      (Checker.checkRoot { checker with settings := checker.settings.withMaxDepth depth }
        schema root value)
      (Checker.checkRoot { checker with settings := checker.settings.withMaxDepth depth' }
        schema root value) := by
  -- the check with no steps left faults, whatever the other one does with the steps it has
  have hall := (checker.mirrors_of_depth depth depth').checkWithin (depth' - depth)
    (fun _ path _ => .inr ⟨_, rfl, path, _, rfl⟩) (depth + 1) (rfl : Scope.root schema = _)
    (.ofRoot root) value
  have hsteps : depth' - depth + (depth + 1) = depth' + 1 := by omega
  rw [hsteps] at hall
  exact hall.bind fun _ _ => .same _

end Checker

/-- A validation that does not end at its depth limit is the same validation
under every higher depth limit, and one that does not end at its hop limit is
the same under every higher hop limit: the same report or the same fault, and
the same callbacks. -/
theorem limits_only_cut_off (table : ComponentTable) (settings : Settings) (value schema : Json)
    (root : String) (exchange : Exchange) :
    (∀ depth depth', depth ≤ depth' →
      (∀ path limit, ((Validator.mk table (settings.withMaxDepth depth)).validate value schema root
        exchange).1 ≠ .error (.tooDeep path limit)) →
      (Validator.mk table (settings.withMaxDepth depth')).validate value schema root exchange =
        (Validator.mk table (settings.withMaxDepth depth)).validate value schema root exchange) ∧
    (∀ hops hops', hops ≤ hops' →
      (∀ reference limit, ((Validator.mk table (settings.withMaxReferenceHops hops)).validate value
        schema root exchange).1 ≠ .error (.chainTooLong reference limit)) →
      (Validator.mk table (settings.withMaxReferenceHops hops')).validate value schema root exchange =
        (Validator.mk table (settings.withMaxReferenceHops hops)).validate value schema root
          exchange) := by
  let checker : Checker := ⟨table, settings, exchange.direction⟩
  constructor
  · intro depth depth' h hne
    refine Validator.validate_eq_of_agree (checker.checkRoot_depth_le h schema root value) ?_
    rintro _ ⟨path, limit, rfl⟩
    exact hne path limit
  · intro hops hops' h hne
    refine Validator.validate_eq_of_agree (checker.checkRoot_hops_le h schema root value) ?_
    rintro _ ⟨reference, limit, rfl⟩
    exact hne reference limit

theorem limits_only_cut_off_recursive_branch :
    let node := Json.object [("anyOf", .array [.object [("type", .string "string")],
      .object [("properties", .object [("next", .object [("$ref", .string "Node")])]),
        ("type", .string "object")]])]
    let table := ComponentTable.ofFields [("Node", node)]
    let schema := Json.object [("$ref", .string "Node")]
    let document := Json.object [("next", .string "u")]
    let exchange := Exchange.ofDirection .request
    let atDepth (depth : Nat) := Validator.mk table (Settings.default.withMaxDepth depth)
    let atHops (hops : Nat) := Validator.mk table (Settings.default.withMaxReferenceHops hops)
    ((atDepth 2).validate document schema "body" exchange).1 =
        .error (.tooDeep ⟨"body", [.branch 1, .key "next", .branch 0]⟩ 2) ∧
      ((atDepth 3).validate document schema "body" exchange).1 = .ok ⟨true, .empty⟩ ∧
      3 ≤ 256 ∧ (atDepth 256).validate document schema "body" exchange =
        (atDepth 3).validate document schema "body" exchange ∧
      ((atHops 0).validate document schema "body" exchange).1 = .error (.chainTooLong "Node" 0) ∧
      ((atHops 1).validate document schema "body" exchange).1 = .ok ⟨true, .empty⟩ ∧
      1 ≤ 64 ∧ (atHops 64).validate document schema "body" exchange =
        (atHops 1).validate document schema "body" exchange := by
  intro node table schema document exchange atDepth atHops
  have hdeep : ((atDepth 3).validate document schema "body" exchange).1 = .ok ⟨true, .empty⟩ := rfl
  have hlong : ((atHops 1).validate document schema "body" exchange).1 = .ok ⟨true, .empty⟩ := rfl
  have hlimits := limits_only_cut_off table .default document schema "body" exchange
  refine ⟨rfl, hdeep, by decide, ?_, rfl, hlong, by decide, ?_⟩
  · refine hlimits.1 3 256 (by decide) fun _ _ herr => ?_
    cases hdeep.symm.trans herr
  · refine hlimits.2 1 64 (by decide) fun _ _ herr => ?_
    cases hlong.symm.trans herr

end ApiContract
