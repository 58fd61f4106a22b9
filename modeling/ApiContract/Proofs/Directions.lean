import ApiContract.Proofs.Holdings
import ApiContract.Proofs.Mirroring
import ApiContract.Proofs.Registration

/-!
# Directions of payloads

The direction of a payload is asked only for properties that are marked
read-only or write-only.  Where the schema documents mark none, requests and
responses are checked alike.
-/

namespace ApiContract

/-- No object of the schema documents is marked read-only or write-only. -/
structure ComponentTable.Unmarked (table : ComponentTable) (schema : Json) : Prop where
  readOnly : ∀ node, table.Holds schema node → node.get? "readOnly" ≠ some (.bool true)
  writeOnly : ∀ node, table.Holds schema node → node.get? "writeOnly" ≠ some (.bool true)

/-- A flag that no object of the schema documents sets is off. -/
theorem Resolver.flag_answers {resolver : Resolver} {schema : Json} {scope : Scope} {keyword : String}
    (held : scope.HeldBy resolver.table schema)
    (unset : ∀ node, resolver.table.Holds schema node → node.get? keyword ≠ some (.bool true)) :
    Answers (resolver.flag scope keyword) (fun _ => True) (fun on => on = false) := by
  have hlookup := (resolver.lookup_answers held keyword).mono (fun _ _ => trivial) fun _ h => h
  refine Answers.andThen hlookup fun found hgives => Answers.ok ?_
  cases found with
  | none => rfl
  | some value =>
    obtain ⟨holder, hholder, hvalue⟩ := hgives value rfl
    cases value with
    | bool on =>
      cases on with
      | false => rfl
      | true => exact absurd hvalue (unset holder hholder)
    | _ => rfl

namespace Checker
variable {schema : Json}

/-- Where nothing is marked, no property is out of place in any direction. -/
theorem isMisplaced_eq (checker : Checker) (unmarked : checker.table.Unmarked schema) {node : Json}
    (held : checker.table.Holds schema node) :
    checker.isMisplaced node = do
      let _ ← checker.resolver.flag (.root node) "readOnly"
      let _ ← checker.resolver.flag (.root node) "writeOnly"
      return false := by
  have hscope : (Scope.root node).HeldBy checker.resolver.table schema := .root held
  have hread := Resolver.flag_answers hscope unmarked.readOnly
  have hwrite := Resolver.flag_answers hscope unmarked.writeOnly
  unfold isMisplaced
  cases hreadOnly : checker.resolver.flag (.root node) "readOnly" with
  | error e => rfl
  | ok readOnly =>
    cases hwriteOnly : checker.resolver.flag (.root node) "writeOnly" with
    | error e => rfl
    | ok writeOnly =>
      rw [hread.result _ hreadOnly, hwrite.result _ hwriteOnly]
      cases checker.direction <;> rfl

/-- What must be present does not depend on the direction. -/
theorem requiredVerdict_turned {table : ComponentTable} (unmarked : table.Unmarked schema)
    {declared : Option Json} (held : ∀ node, declared = some node → table.Holds schema node)
    (settings : Settings) (direction direction' : Direction) (fields : List (String × Json))
    (path : Path) (name : String) :
    (Checker.mk table settings direction).requiredVerdict fields (fieldsOf declared) path name =
      (Checker.mk table settings direction').requiredVerdict fields (fieldsOf declared) path name := by
  unfold requiredVerdict isDeclaredMisplaced
  cases hproperty : Fields.get? (fieldsOf declared) name with
  | none =>
    show Except.ok _ = Except.ok _
    cases Fields.contains fields name <;> rfl
  | some property =>
    obtain ⟨node, hnode, hmember⟩ := exists_of_get?_fieldsOf hproperty
    have hheld : table.Holds schema property :=
      (held node hnode).part (Json.within_of_get? hmember)
    dsimp only
    rw [isMisplaced_eq ⟨table, settings, direction⟩ unmarked hheld,
      isMisplaced_eq ⟨table, settings, direction'⟩ unmarked hheld]
    simp only [bind_assoc, pure_bind]
    refine bind_congr fun readOnly => bind_congr fun writeOnly => ?_
    cases Fields.contains fields name <;> rfl

/-- Checkers of two directions, in scopes that the schema documents hold. -/
theorem mirrors_turned {table : ComponentTable} (unmarked : table.Unmarked schema)
    (settings : Settings) (direction direction' : Direction) :
    Mirrors (fun _ => False) ⟨table, settings, direction⟩ ⟨table, settings, direction'⟩
      (fun s t => s = t ∧ s.HeldBy table schema) where
  lookup h keyword _ := h.1 ▸ Agree.same _
  description h _ := h.1 ▸ Agree.same _
  parents h := h.1 ▸ rfl
  part h hd _ := ⟨rfl, hd.heldBy h.2⟩
  branch h hd := ⟨h.1 ▸ rfl, hd.heldBy h.2⟩
  excluded h looked := ⟨rfl, .root (held_of_lookup h.2 looked)⟩
  required h looked fields path name := by
    refine .inl (requiredVerdict_turned unmarked ?_ settings direction direction' fields path name)
    rintro node rfl
    exact held_of_lookup h.2 looked
  selected _ _ := Agree.same _
  epsilon := rfl
  formats := rfl

theorem checkWithin_turned {table : ComponentTable} (unmarked : table.Unmarked schema)
    (settings : Settings) (direction direction' : Direction) (depth : Nat) (path : Path)
    (value : Json) :
    (Checker.mk table settings direction').checkWithin depth (.root schema) path value =
      (Checker.mk table settings direction).checkWithin depth (.root schema) path value := by
  have hall := (mirrors_turned unmarked settings direction direction').checkWithin 0
    (fun _ _ _ => Run.Agree.same _) depth ⟨rfl, .root (.root table schema)⟩ path value
  rw [Nat.zero_add] at hall
  exact hall.eq_of_not_excused fun _ hfalse => hfalse.elim

end Checker

/-- Where nothing is marked read-only or write-only, a document gets the same
report or the same fault in a request and in a response, and the same callbacks
are registered. -/
theorem requests_checked_as_responses (table : ComponentTable) (schema : Json)
    (unmarked : table.Unmarked schema) (settings : Settings) (value : Json) (root : String)
    (templates callbacks : List (String × Json)) :
    let validate (direction : Direction) :=
      (Validator.mk table settings).validate value schema root ⟨direction, templates, callbacks⟩
    (validate .request).1 = (validate .response).1 ∧
      (validate .request).2.callbacks = (validate .response).2.callbacks := by
  intro validate
  have hrun := Checker.checkWithin_turned unmarked settings .response .request
    (settings.maxDepth + 1) (.ofRoot root) value
  dsimp only [validate]
  rw [Validator.validate_eq, Validator.validate_eq]
  dsimp only [Validator.checker]
  rw [hrun, Exchange.registerAll_eq, Exchange.registerAll_eq]
  exact ⟨rfl, rfl⟩

/-- A property behind a reference and inside a branch, marked as not read-only. -/
theorem requests_checked_as_responses_unset_flag :
    let name := Json.object [("readOnly", .bool false), ("type", .string "string")]
    let table : ComponentTable := ⟨[("Name", name)], by decide⟩
    let person := Json.object [("properties", .object [("name", .referring "Name")]),
      ("required", .array [.string "age", .string "name"]), ("type", .string "object")]
    let schema := Json.object [("anyOf", .array [person])]
    let templates := [("\x7b$request.body#/name\x7d", person)]
    let validate (direction : Direction) := (Validator.mk table .default).validate
      (.object [("name", .string "u")]) schema "body" ⟨direction, templates, []⟩
    table.Unmarked schema ∧
      (validate .request).1 = .ok ⟨false, ⟨[.leaf ⟨.ofRoot "body", .noAnyOfMatch⟩,
        .group "anyOf[0]" [.leaf ⟨⟨"body", [.branch 0]⟩, .missingRequiredProperty "age"⟩]]⟩⟩ ∧
      (validate .request).2.callbacks = [("u", person)] ∧
      (validate .request).1 = (validate .response).1 ∧
      (validate .request).2.callbacks = (validate .response).2.callbacks := by
  intro name table person schema templates validate
  have hunmarked : table.Unmarked schema := by
    constructor
    all_goals
      intro node h
      simp only [ComponentTable.Holds, table, schema, person, name, Json.referring,
        Json.within_object_iff, Json.within_array_iff, Json.within_string_iff, Json.within_bool_iff,
        List.mem_cons, List.not_mem_nil, or_false, exists_eq_or_imp, exists_eq_left] at h
      rcases h with (rfl | rfl | rfl | (rfl | rfl | rfl) | (rfl | rfl | rfl) | rfl) | rfl | rfl | rfl <;>
        intro hflag <;> cases hflag
  exact ⟨hunmarked, rfl, rfl, requests_checked_as_responses table schema hunmarked .default _ _ _ _⟩

end ApiContract
