import ApiContract.Proofs.Blame
import ApiContract.Proofs.Location

/-!
# Steps and depth

Each check one step deeper is one step further along the path, and one step of
the depth limit.  Where no schema has a combinator, each step also leads into a
part of the value, so a check of a document that is not nested deeper than the
limit never comes to it.
-/

namespace ApiContract

/-! ### Nesting -/

namespace Json

mutual

/-- Nesting height: one more than that of the tallest item or member, if there is one. -/
def height : Json → Nat
  | array items => heightOfItems items
  | object fields => heightOfFields fields
  | _ => 0

/-- Height of a list of items. -/
def heightOfItems : List Json → Nat
  | [] => 0
  | item :: rest => max (height item + 1) (heightOfItems rest)

/-- Height of the members of an object. -/
def heightOfFields : List (String × Json) → Nat
  | [] => 0
  | (_, value) :: rest => max (height value + 1) (heightOfFields rest)

end

theorem height_lt_of_mem_items {items : List Json} {item : Json} (h : item ∈ items) :
    item.height < (array items).height := by
  show item.height < heightOfItems items
  induction items with
  | nil => cases h
  | cons head rest ih =>
    unfold heightOfItems
    rcases List.mem_cons.mp h with rfl | hrest
    · omega
    · have hlt := ih hrest
      omega

theorem height_lt_of_mem_fields {fields : List (String × Json)} {field : String × Json}
    (h : field ∈ fields) : field.2.height < (object fields).height := by
  show field.2.height < heightOfFields fields
  induction fields with
  | nil => cases h
  | cons head rest ih =>
    unfold heightOfFields
    rcases List.mem_cons.mp h with rfl | hrest
    · omega
    · have hlt := ih hrest
      omega

/-- Steps into a value are no more than it is high. -/
theorem Leads.length_le_height {value last : Json} {steps : List Step}
    (h : value.Leads steps last) (unnoted : ∀ step ∈ steps, step.isNote = false) :
    steps.length ≤ value.height := by
  induction h with
  | here value => exact Nat.zero_le _
  | key member _ ih =>
    have hrest := ih fun step hstep => unnoted step (List.mem_cons_of_mem _ hstep)
    have hlt := height_lt_of_mem_fields member
    dsimp only at hlt
    rw [List.length_cons]
    omega
  | index here _ ih =>
    have hrest := ih fun step hstep => unnoted step (List.mem_cons_of_mem _ hstep)
    have hlt := height_lt_of_mem_items (List.mem_of_getElem? here)
    rw [List.length_cons]
    omega
  | note isNote _ _ =>
    have hnone := unnoted _ List.mem_cons_self
    rw [isNote] at hnone
    cases hnone

end Json

/-! ### Steps of a check -/

/-- No node of the schema or of a component has a combinator. -/
def ComponentTable.Uncombined (table : ComponentTable) (schema : Json) : Prop :=
  ∀ node, table.Holds schema node → ∀ combinator : Combinator, node.get? combinator.keyword = none

namespace Checker
variable {checker : Checker} {scope scope' : Scope} {value value' : Json} {step : Step}

theorem Raises.not_tooDeep {path : Path} {limit : Nat} :
    ¬checker.Raises scope value (.tooDeep path limit) := by
  intro h
  obtain ⟨start, _, hstops⟩ := h.stopsIn (scope.heldBy_self checker.table) .here
  cases hstops

theorem Descends.isNote_of_uncombined {schema : Json}
    (hd : checker.Descends scope value step scope' value')
    (uncombined : checker.table.Uncombined schema) (held : scope.HeldBy checker.table schema) :
    step.isNote = false := by
  have hnone {combinator : Combinator} {branches : Json}
      (looked : checker.resolver.lookup scope combinator.keyword = .ok (some branches)) : False := by
    obtain ⟨holder, hholder, hmember⟩ :=
      (Resolver.lookup_answers held combinator.keyword).result _ looked _ rfl
    rw [uncombined holder hholder combinator] at hmember
    cases hmember
  cases hd with
  | property _ _ _ => rfl
  | forbidden _ _ _ _ => rfl
  | additional _ _ => rfl
  | item _ _ => rfl
  | branch looked _ => exact (hnone looked).elim
  | selection declared _ _ _ _ => exact (hnone declared).elim

end Checker

/-- With `depth` steps left, the depth limit is met exactly `depth` steps further
on, at a place in the value, and over no note where there is no combinator. -/
def Reading.pacing (table : ComponentTable) (schema : Json) (limit depth : Nat) : Reading where
  seen _ _ _ _ := True
  fault scope path value e := ∀ deep bound, e = .tooDeep deep bound → bound = limit ∧
    ∃ steps, deep = ⟨path.root, path.steps ++ steps⟩ ∧ steps.length = depth ∧
      (∃ part, value.Leads steps part) ∧
      (table.Uncombined schema → scope.HeldBy table schema → ∀ step ∈ steps, step.isNote = false)
  entry _ _ _ _ := True

namespace Checker

theorem carries_pacing (checker : Checker) (schema : Json) (limit depth : Nat) :
    checker.Carries (.pacing checker.table schema limit depth)
      (.pacing checker.table schema limit (depth + 1)) where
  seen_here _ _ _ := trivial
  seen_below _ _ _ _ := trivial
  fault_here h _ deep bound he := by
    rw [he] at h
    exact absurd h Raises.not_tooDeep
  fault_below {scope value step scope' value'} hd path e h deep bound he := by
    obtain ⟨hbound, steps, hdeep, hlength, ⟨part, hleads⟩, hunnoted⟩ := h deep bound he
    refine ⟨hbound, step :: steps, ?_, ?_, ⟨part, hd.leads hleads⟩, fun huncombined held => ?_⟩
    · rw [hdeep]
      simp [Path.child]
    · rw [List.length_cons, hlength]
    · have hstep := hd.isNote_of_uncombined huncombined held
      exact List.forall_mem_cons.mpr ⟨hstep, hunnoted huncombined (hd.heldBy held)⟩
  leaf _ _ _ _ _ := trivial
  entry_below _ _ _ _ _ := trivial
  group _ _ _ _ _ _ := trivial
  missing _ _ _ _ := trivial

theorem steps_of_tooDeep (checker : Checker) (schema : Json) {depth : Nat} {path deep : Path}
    {value : Json} {limit : Nat}
    (h : (checker.checkWithin depth (.root schema) path value).outcome =
      .error (.tooDeep deep limit)) :
    limit = checker.settings.maxDepth ∧
      ∃ steps, deep = ⟨path.root, path.steps ++ steps⟩ ∧ steps.length = depth ∧
        (∃ part, value.Leads steps part) ∧
        (checker.table.Uncombined schema → ∀ step ∈ steps, step.isNote = false) := by
  have hstart (scope : Scope) (path : Path) (value : Json) :
      (Reading.pacing checker.table schema checker.settings.maxDepth 0).fault scope path value
        (.tooDeep path checker.settings.maxDepth) := by
    intro deep bound he
    cases he
    refine ⟨rfl, [], ?_, rfl, ⟨value, .here value⟩, nofun⟩
    rw [List.append_nil]
  have hall := checker.checkWithin_describes
    (Reading.pacing checker.table schema checker.settings.maxDepth) hstart
    (fun depth => checker.carries_pacing schema checker.settings.maxDepth depth) depth
  obtain ⟨hlimit, steps, hdeep, hlength, hleads, hunnoted⟩ :=
    (hall (.root schema) path value).ends.fault _ h deep limit rfl
  have hheld : (Scope.root schema).HeldBy checker.table schema := .root (.root checker.table schema)
  exact ⟨hlimit, steps, hdeep, hlength, hleads, fun huncombined => hunnoted huncombined hheld⟩

end Checker

/-- A validation that ends at the depth limit stands one step past it: its path
is the root marker and the renderings of exactly so many steps, which lead to a part
of the document.  So without combinators no document ends there that is nested no
deeper than the limit. -/
theorem depth_counts_steps (table : ComponentTable) (settings : Settings) (value schema : Json)
    (root : String) (exchange : Exchange) :
    (∀ path limit, ((Validator.mk table settings).validate value schema root exchange).1 =
        .error (.tooDeep path limit) →
      limit = settings.maxDepth ∧ ∃ steps, steps.length = settings.maxDepth + 1 ∧
        path.text = root ++ String.join (steps.map Step.rendering) ∧
        ∃ part, value.Leads steps part) ∧
    (table.Uncombined schema → value.height ≤ settings.maxDepth → ∀ path limit,
      ((Validator.mk table settings).validate value schema root exchange).1 ≠
        .error (.tooDeep path limit)) := by
  let checker : Checker := ⟨table, settings, exchange.direction⟩
  constructor
  · intro path limit h
    have hrun := Validator.error_of_validate h
    obtain ⟨hlimit, steps, hpath, hlength, hleads, _⟩ := checker.steps_of_tooDeep schema hrun
    refine ⟨hlimit, steps, hlength, ?_, hleads⟩
    rw [Path.text_eq, hpath]
    rfl
  · intro huncombined hheight path limit h
    have hrun := Validator.error_of_validate h
    obtain ⟨_, steps, _, hlength, ⟨part, hleads⟩, hunnoted⟩ := checker.steps_of_tooDeep schema hrun
    -- every step leads into the value, and there is one more of them than it is high
    have hle := hleads.length_le_height (hunnoted huncombined)
    have hmore : steps.length = settings.maxDepth + 1 := hlength
    omega

/-- A component that refers to itself, once inside a branch and once without one. -/
theorem depth_counts_steps_recursive :
    let list (next : Json) := Json.object [("properties", .object [("next", next)]),
      ("type", .string "object")]
    let node := list (.referring "Node")
    let table : ComponentTable := ⟨[("Node", node)], by decide⟩
    let branched := list (.object [("anyOf", .array [.referring "Node"])])
    let settings := Settings.default.withMaxDepth 2
    let tail := Json.object [("next", .object [("next", .object [])])]
    let outcome (schema document : Json) := ((Validator.mk table settings).validate document schema
      "body" (.ofDirection .request)).1
    let deep : Path := ⟨"body", [.key "next", .branch 0, .key "next"]⟩
    outcome branched tail = .error (.tooDeep deep 2) ∧
      (2 = settings.maxDepth ∧ ∃ steps, steps.length = settings.maxDepth + 1 ∧
        deep.text = "body" ++ String.join (steps.map Step.rendering) ∧
        ∃ part, tail.Leads steps part) ∧
      deep.text = "body[next]\x7bsub:0\x7d[next]" ∧
      table.Uncombined node ∧ tail.height ≤ settings.maxDepth ∧
      outcome node tail = .ok ⟨true, .empty⟩ ∧
      ∀ path limit, outcome node tail ≠ .error (.tooDeep path limit) := by
  intro list node table branched settings tail outcome deep
  have huncombined : table.Uncombined node := by
    intro held h combinator
    simp only [ComponentTable.Holds, table, node, list, Json.referring, Json.within_object_iff,
      Json.within_string_iff, List.mem_cons, List.not_mem_nil, or_false, exists_eq_or_imp,
      exists_eq_left] at h
    rcases h with (rfl | (rfl | rfl | rfl) | rfl) | rfl | (rfl | rfl | rfl) | rfl <;>
      cases combinator <;> rfl
  have hdeep : outcome branched tail = .error (.tooDeep deep 2) := rfl
  have hcounts := depth_counts_steps table settings tail branched "body" (.ofDirection .request)
  have hheight : tail.height ≤ settings.maxDepth := by decide
  refine ⟨hdeep, hcounts.1 deep 2 hdeep, by decide +kernel, huncombined, hheight, rfl, ?_⟩
  exact (depth_counts_steps table settings tail node "body" _).2 huncombined hheight

end ApiContract
