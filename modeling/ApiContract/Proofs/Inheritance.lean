import ApiContract.Exchange
import ApiContract.Proofs.Keywords
import ApiContract.Proofs.Parts
import ApiContract.Proofs.Traversal

/-!
# Inherited types

A scope reads a keyword from the chain of its own node, and `type` from the nearest
enclosing scope as well.  Only a scope that nothing encloses can be without a type,
and every branch of a combinator is enclosed: a missing type is reported at the root
or behind a step into the document.
-/

namespace ApiContract

/-! ### What types are called -/

namespace EffectiveType

/-- What a value of `type` stands for.  Seven words are kinds; any other word is a type
that is not supported, and so is a value that is no word, under its text. -/
inductive Named : Json → EffectiveType → Prop where
  | object : Named (.string "object") (.known .object)
  | array : Named (.string "array") (.known .array)
  | string : Named (.string "string") (.known .string)
  | number : Named (.string "number") (.known .number)
  | integer : Named (.string "integer") (.known .integer)
  | boolean : Named (.string "boolean") (.known .boolean)
  | null : Named (.string "null") (.known .null)
  | other {word : String}
    (h : word ∉ ["object", "array", "string", "number", "integer", "boolean", "null"]) :
    Named (.string word) (.unsupported word)
  | wordless {value : Json} (h : ∀ word, value ≠ .string word) : Named value (.unsupported value.text)

theorem Named.ofJson_eq {value : Json} {type : EffectiveType} (h : Named value type) :
    ofJson value = type := by
  cases h with
  | @other word h =>
    have hnone : Kind.ofName? word = none := by
      refine List.find?_eq_none.mpr fun kind _ hname => h ?_
      rw [← of_decide_eq_true hname]
      cases kind <;> decide
    simp only [ofJson, hnone]
  | wordless h =>
    cases value with
    | string word => exact absurd rfl (h word)
    | _ => rfl
  | _ => decide

theorem named_ofJson (value : Json) : Named value (.ofJson value) := by
  cases value with
  | string word =>
    cases hkind : Kind.ofName? word with
    | some kind =>
      have hfound : Kind.all.find? (fun kind => kind.name = word) = some kind := hkind
      have hname := List.find?_some hfound
      simp only [ofJson, hkind]
      rw [← of_decide_eq_true hname]
      cases kind with
      | object => exact .object
      | array => exact .array
      | string => exact .string
      | number => exact .number
      | integer => exact .integer
      | boolean => exact .boolean
      | null => exact .null
    | none =>
      simp only [ofJson, hkind]
      refine .other fun hmem => ?_
      have hunknown : ∀ kind ∈ Kind.all, kind.name ≠ word := by
        simpa [Kind.ofName?] using hkind
      have hnames : word ∈ Kind.all.map Kind.name := hmem
      obtain ⟨kind, hkind, hname⟩ := List.mem_map.mp hnames
      exact hunknown kind hkind hname
  | _ => exact .wordless nofun

end EffectiveType

namespace Resolver

/-! ### What several nodes give -/

/-- What a keyword gives on the nearest of several nodes whose chain does not end
without it. -/
inductive Nearest (resolver : Resolver) (keyword : String) (nodes : List Json) :
    Except Fault (Option Json) → Prop where
  | told {inner outer : List Json} {holder : Json} {outcome : Except Fault (Option Json)}
    (split : nodes = inner ++ holder :: outer)
    (silent : ∀ node ∈ inner, resolver.Gives keyword resolver.maxHops node (.ok none))
    (gives : resolver.Gives keyword resolver.maxHops holder outcome) (told : outcome ≠ .ok none) :
    Nearest resolver keyword nodes outcome
  | nowhere (silent : ∀ node ∈ nodes, resolver.Gives keyword resolver.maxHops node (.ok none)) :
    Nearest resolver keyword nodes (.ok none)

/-- The effective type of a scope: that of the nearest node, its own first, whose chain
has one; without any, an object in an enclosed scope, and none in another. -/
inductive Types (resolver : Resolver) (scope : Scope) : EffectiveType → Prop where
  | nearest {inner outer : List Json} {holder value : Json} {type : EffectiveType}
    (split : scope.node :: scope.parents = inner ++ holder :: outer)
    (silent : ∀ node ∈ inner, resolver.Gives "type" resolver.maxHops node (.ok none))
    (holds : resolver.Gives "type" resolver.maxHops holder (.ok (some value)))
    (named : EffectiveType.Named value type) :
    Types resolver scope type
  | enclosed (silent : ∀ node ∈ scope.node :: scope.parents,
      resolver.Gives "type" resolver.maxHops node (.ok none)) (parents : scope.parents ≠ []) :
    Types resolver scope (.known .object)
  | alone (silent : resolver.Gives "type" resolver.maxHops scope.node (.ok none))
    (parents : scope.parents = []) : Types resolver scope .undetermined

variable {resolver : Resolver} {keyword : String} {scope : Scope} {node : Json}
  {nodes inner : List Json} {outcome : Except Fault (Option Json)} {type : EffectiveType} {e : Fault}

theorem lookupNode_eq_iff :
    resolver.lookupNode keyword node = outcome ↔
      resolver.Gives keyword resolver.maxHops node outcome := lookupWithin_eq_iff

/-! ### Several nodes -/

theorem lookupNodes_of_told (outer : List Json) (h : resolver.lookupNode keyword node = outcome)
    (told : outcome ≠ .ok none) : resolver.lookupNodes keyword (node :: outer) = outcome := by
  unfold lookupNodes
  rw [h]
  cases outcome with
  | error e => rfl
  | ok found =>
    cases found with
    | none => exact absurd rfl told
    | some value => rfl

theorem lookupNodes_of_silent (silent : ∀ node ∈ inner, resolver.lookupNode keyword node = .ok none)
    (outer : List Json) :
    resolver.lookupNodes keyword (inner ++ outer) = resolver.lookupNodes keyword outer := by
  induction inner with
  | nil => rfl
  | cons node rest ih =>
    rw [← ih fun other hother => silent other (List.mem_cons_of_mem _ hother), List.cons_append,
      lookupNodes, silent node List.mem_cons_self]
    rfl

theorem Nearest.cons (silent : resolver.Gives keyword resolver.maxHops node (.ok none))
    (h : resolver.Nearest keyword nodes outcome) :
    resolver.Nearest keyword (node :: nodes) outcome := by
  cases h with
  | @told inner outer holder outcome split hinner gives told =>
    have hsplit : node :: nodes = (node :: inner) ++ holder :: outer := congrArg _ split
    exact .told hsplit (List.forall_mem_cons.mpr ⟨silent, hinner⟩) gives told
  | nowhere hnodes => exact .nowhere (List.forall_mem_cons.mpr ⟨silent, hnodes⟩)

theorem nearest_lookupNodes (resolver : Resolver) (keyword : String) (nodes : List Json) :
    resolver.Nearest keyword nodes (resolver.lookupNodes keyword nodes) := by
  induction nodes with
  | nil => exact .nowhere fun _ hnode => absurd hnode List.not_mem_nil
  | cons node rest ih =>
    by_cases hown : resolver.lookupNode keyword node = .ok none
    · have hrest : resolver.lookupNodes keyword (node :: rest) = resolver.lookupNodes keyword rest :=
        lookupNodes_of_silent (List.forall_mem_singleton.mpr hown) rest
      rw [hrest]
      exact ih.cons (lookupNode_eq_iff.mp hown)
    · rw [lookupNodes_of_told rest rfl hown]
      exact .told (List.nil_append _).symm (fun _ hnode => absurd hnode List.not_mem_nil)
        (lookupNode_eq_iff.mp rfl) hown

theorem lookupNodes_eq_iff :
    resolver.lookupNodes keyword nodes = outcome ↔ resolver.Nearest keyword nodes outcome := by
  constructor
  · rintro rfl
    exact resolver.nearest_lookupNodes keyword nodes
  · intro h
    cases h with
    | @told inner outer holder outcome split silent gives told =>
      rw [split, lookupNodes_of_silent fun node hnode => lookupNode_eq_iff.mpr (silent node hnode)]
      exact lookupNodes_of_told outer (lookupNode_eq_iff.mpr gives) told
    | nowhere silent =>
      rw [← List.append_nil nodes]
      exact lookupNodes_of_silent (fun node hnode => lookupNode_eq_iff.mpr (silent node hnode)) []

/-! ### Scopes -/

theorem lookup_type :
    resolver.lookup scope "type" = resolver.lookupNodes "type" (scope.node :: scope.parents) := by
  unfold lookup
  rw [if_pos rfl]
  rfl

theorem lookup_root_eq_iff :
    resolver.lookup (.root node) keyword = outcome ↔
      resolver.Gives keyword resolver.maxHops node outcome := by
  rw [lookup_root, lookupNode_eq_iff]

/-- What the chain of the own node tells is told, whatever encloses it. -/
theorem lookup_of_gives (gives : resolver.Gives keyword resolver.maxHops scope.node outcome)
    (told : outcome ≠ .ok none) : resolver.lookup scope keyword = outcome := by
  by_cases htype : keyword = "type"
  · subst htype
    rw [lookup_type]
    exact lookupNodes_of_told scope.parents (lookupNode_eq_iff.mpr gives) told
  · rw [lookup_of_untyped htype]
    exact lookupNode_eq_iff.mpr gives

theorem lookup_nested_of_silent
    (silent : resolver.Gives keyword resolver.maxHops node (.ok none)) (outer : Scope) :
    resolver.lookup (.nested node outer) keyword =
      if keyword = "type" then resolver.lookup outer "type" else .ok none := by
  have hown : resolver.lookupNode keyword node = .ok none := lookupNode_eq_iff.mpr silent
  by_cases htype : keyword = "type"
  · subst htype
    rw [if_pos rfl, lookup_type, lookup_type]
    exact lookupNodes_of_silent (List.forall_mem_singleton.mpr hown) (outer.node :: outer.parents)
  · rw [if_neg htype, lookup_of_untyped htype]
    exact hown

/-! ### Effective types -/

theorem effectiveType_eq_ok_iff :
    resolver.effectiveType scope = .ok type ↔ resolver.Types scope type := by
  unfold effectiveType
  rw [lookup_type]
  constructor
  · intro h
    obtain ⟨found, hfound, hdone⟩ := exists_of_bind_eq_ok h
    cases lookupNodes_eq_iff.mp hfound with
    | @told inner outer holder _ split silent gives told =>
      cases found with
      | none => exact absurd rfl told
      | some value =>
        cases hdone
        exact .nearest split silent gives (EffectiveType.named_ofJson value)
    | nowhere silent =>
      cases hdone
      by_cases hparents : scope.parents = []
      · rw [hparents]
        exact .alone (silent _ List.mem_cons_self) hparents
      · rw [if_neg (by simpa using hparents)]
        exact .enclosed silent hparents
  · intro h
    cases h with
    | nearest split silent holds named =>
      rw [lookupNodes_eq_iff.mpr (.told split silent holds nofun), ← named.ofJson_eq]
      rfl
    | enclosed silent parents =>
      have hparents : scope.parents.isEmpty = false := by simpa using parents
      rw [lookupNodes_eq_iff.mpr (.nowhere silent), hparents]
      rfl
    | alone silent parents =>
      rw [parents, lookupNodes_eq_iff.mpr (.nowhere (List.forall_mem_singleton.mpr silent))]
      rfl

theorem effectiveType_eq_error_iff :
    resolver.effectiveType scope = .error e ↔
      resolver.Nearest "type" (scope.node :: scope.parents) (.error e) := by
  rw [← lookupNodes_eq_iff, ← lookup_type]
  unfold effectiveType
  cases resolver.lookup scope "type" with
  | error e' => simp [bind, Except.bind]
  | ok found => cases found <;> simp [bind, Except.bind, pure, Except.pure]

end Resolver

/-! ### Where types are missing -/

/-- A violation that the check of a scope at a path may report: a missing type lies
right there only if nothing encloses the scope, and elsewhere behind a step into the
document. -/
def Violation.TypedFrom (violation : Violation) (scope : Scope) (path : Path) : Prop :=
  violation.cause = .undeterminedType → ∃ steps,
    violation.path = ⟨path.root, path.steps ++ steps⟩ ∧ (steps = [] → scope.parents = []) ∧
      ∀ last ∈ steps.getLast?, last.isNote = false

namespace Violation.TypedFrom
variable {violation : Violation} {scope scope' : Scope} {path : Path} {step : Step}

theorem here {cause : Cause} (h : cause.FoundAt scope) : TypedFrom ⟨path, cause⟩ scope path := by
  rintro rfl
  exact ⟨[], by simp, fun _ => h, nofun⟩

/-- One step back: a step that is no note, or one into an enclosed scope. -/
theorem back (hstep : step.isNote = true → scope'.parents ≠ [])
    (h : violation.TypedFrom scope' (path.child step)) : violation.TypedFrom scope path := by
  intro hcause
  obtain ⟨steps, hpath, hhere, hlast⟩ := h hcause
  refine ⟨step :: steps, by simp [hpath, Path.child], nofun, fun last hmem => ?_⟩
  rw [List.getLast?_cons, Option.mem_some_iff] at hmem
  cases hsteps : steps.getLast? with
  | some found =>
    rw [hsteps] at hmem
    exact hlast last (hmem ▸ hsteps)
  | none =>
    rw [hsteps] at hmem
    cases hmem
    have hnil : steps = [] := List.getLast?_eq_none_iff.mp hsteps
    exact Bool.eq_false_iff.mpr fun hnote => hstep hnote (hhere hnil)

end Violation.TypedFrom

/-- Every violation of an entry has its type from somewhere. -/
def Reading.typing : Reading :=
  .ofLeaves fun scope path _ _ violation => violation.TypedFrom scope path

namespace Checker
variable (checker : Checker)

/-- A note leads into an enclosed scope. -/
theorem Descends.parents_ne_nil {checker : Checker} {scope scope' : Scope} {value value' : Json}
    {step : Step} (h : checker.Descends scope value step scope' value') (hnote : step.isNote = true) :
    scope'.parents ≠ [] := by
  cases h with
  | branch _ _ => exact List.cons_ne_nil _ _
  | selection _ _ _ _ _ => exact List.cons_ne_nil _ _
  | _ => cases hnote

theorem carries_typing : checker.Carries .typing .typing :=
  carries_ofLeaves (fun _ _ _ _ hcause => .here hcause)
    (fun hd _ _ _ _ h => h.back hd.parents_ne_nil) (fun hd _ _ _ _ h => h.back hd.parents_ne_nil)
    (fun _ _ _ _ => nofun)

end Checker

theorem undetermined_behind_part {validator : Validator} {value schema : Json} {root : String}
    {exchange : Exchange} {report : Report}
    (h : (validator.validate value schema root exchange).1 = .ok report) {keys : List String}
    {violation : Violation} (hat : Entry.At (.leaf violation) keys report.sink.entries)
    (undetermined : violation.cause = .undeterminedType) :
    violation.path.root = root ∧ ∀ last ∈ violation.path.steps.getLast?, last.isNote = false := by
  obtain ⟨verdict, hverdict, rfl⟩ := Validator.exists_verdict_of_validate h
  have hall := (validator.checker exchange.direction).checkWithin_describes (fun _ => .typing)
    (fun _ _ _ => trivial) (fun _ => Checker.carries_typing _) (validator.settings.maxDepth + 1)
  have hadmits := (hall _ _ _).ends.result verdict hverdict
  obtain ⟨entry, hentry, hat'⟩ := hat.exists_mem
  obtain ⟨steps, hpath, -, hlast⟩ := hadmits.entries entry hentry keys violation hat' undetermined
  rw [hpath]
  exact ⟨rfl, by simpa [Path.ofRoot] using hlast⟩

/-- A keyword is read from the first node that holds it along the chain of the scope's
own node.  A fault of that chain stands, whatever encloses the scope, and where the
chain ends without the keyword, `type` alone is looked up in the enclosing scope, with
all hops.  So the effective type is that of the nearest scope that has one; only a
scope that nothing encloses can have none, and a missing type is reported at the root
or behind a step into the document. -/
theorem types_inherited (table : ComponentTable) (hops : Nat) :
    let resolver := Resolver.mk table hops
    (∀ node keyword outcome, resolver.lookup (.root node) keyword = outcome ↔
      resolver.Gives keyword hops node outcome) ∧
    (∀ node outer keyword outcome, outcome ≠ .ok none → resolver.Gives keyword hops node outcome →
      resolver.lookup (.nested node outer) keyword = outcome) ∧
    (∀ node outer keyword, resolver.Gives keyword hops node (.ok none) →
      resolver.lookup (.nested node outer) keyword =
        if keyword = "type" then resolver.lookup outer "type" else .ok none) ∧
    (∀ scope type, resolver.effectiveType scope = .ok type ↔ resolver.Types scope type) ∧
    (∀ scope e, resolver.effectiveType scope = .error e ↔
      resolver.Nearest "type" (scope.node :: scope.parents) (.error e)) ∧
    (∀ scope, resolver.effectiveType scope = .ok .undetermined → scope.parents = []) ∧
    ∀ settings value schema root exchange report keys violation,
      ((Validator.mk table settings).validate value schema root exchange).1 = .ok report →
      Entry.At (.leaf violation) keys report.sink.entries → violation.cause = .undeterminedType →
      violation.path.root = root ∧ ∀ last ∈ violation.path.steps.getLast?, last.isNote = false := by
  intro resolver
  refine ⟨fun node keyword outcome => Resolver.lookup_root_eq_iff,
    fun node outer keyword outcome told gives => Resolver.lookup_of_gives gives told,
    fun node outer keyword silent => Resolver.lookup_nested_of_silent silent outer,
    fun scope type => Resolver.effectiveType_eq_ok_iff,
    fun scope e => Resolver.effectiveType_eq_error_iff,
    fun scope h => Resolver.parents_of_undetermined h, ?_⟩
  intro settings value schema root exchange report keys violation h hat hcause
  exact undetermined_behind_part h hat hcause

/-- A dangling reference inside a typed scope, an empty node in its place, types of each sort,
and a property without a type in a branch. -/
theorem types_inherited_dangling :
    let table : ComponentTable := ⟨[("Alias", .referring "Gone")], by decide⟩
    let resolver := Resolver.mk table 4
    let pointer := Json.referring "Alias"
    let typed (value : Json) := Scope.root (.object [("type", value)])
    let outer := typed (.string "array")
    let branch := Json.object [("properties", .object [("a", .object [])])]
    let missing : Violation := ⟨⟨"body", [.branch 0, .key "a"]⟩, .undeterminedType⟩
    let report : Report := ⟨false, ⟨[.leaf ⟨⟨"body", []⟩, .allOfMismatch 1⟩,
      .group "allOf[0]" [.leaf missing]]⟩⟩
    resolver.Gives "type" 4 pointer (.error (.unresolved "Gone")) ∧
      resolver.lookup (.nested pointer outer) "type" = .error (.unresolved "Gone") ∧
      resolver.Gives "type" 4 (.object []) (.ok none) ∧
      resolver.lookup (.nested (.object []) outer) "type" = resolver.lookup outer "type" ∧
      resolver.Types (.nested (.object []) outer) (.known .array) ∧
      resolver.Types (typed (.string "string")) (.known .string) ∧
      resolver.Types (typed (.string "file")) (.unsupported "file") ∧
      resolver.Types (typed (.array [.string "null"])) (.unsupported "[\"null\"]") ∧
      ((Validator.mk table .default).validate (.object [("a", .null)])
        (.object [("allOf", .array [branch])]) "body" (.ofDirection .request)).1 = .ok report ∧
      Entry.At (.leaf missing) ["allOf[0]"] report.sink.entries ∧
      ∀ last ∈ missing.path.steps.getLast?, last.isNote = false := by
  intro table resolver pointer typed outer branch missing report
  have hdangling : resolver.Gives "type" 4 pointer (.error (.unresolved "Gone")) :=
    Resolver.lookupWithin_eq_iff.mp rfl
  have hsilent : resolver.Gives "type" 4 (.object []) (.ok none) :=
    Resolver.lookupWithin_eq_iff.mp rfl
  have hreport : ((Validator.mk table .default).validate (.object [("a", .null)])
      (.object [("allOf", .array [branch])]) "body" (.ofDirection .request)).1 = .ok report := rfl
  have hat : Entry.At (.leaf missing) ["allOf[0]"] report.sink.entries :=
    .inside (List.mem_cons_of_mem _ List.mem_cons_self) (.here List.mem_cons_self)
  obtain ⟨-, htold, hinherited, htypes, -, -, hrun⟩ := types_inherited table 4
  exact ⟨hdangling, htold pointer outer "type" _ nofun hdangling, hsilent,
    hinherited (.object []) outer "type" hsilent, (htypes _ _).mp rfl, (htypes _ _).mp rfl,
    (htypes _ _).mp rfl, (htypes _ _).mp rfl, hreport, hat,
    (hrun .default _ _ _ _ report _ missing hreport hat rfl).2⟩

end ApiContract
