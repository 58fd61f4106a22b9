import ApiContract.Proofs.Blame
import ApiContract.Proofs.Mirroring

/-!
# Root markers

A check carries its path along and never looks at it, and it never looks at the
callbacks either.  So a validation from another root marker, with whatever
callbacks, comes to the same result, with the marker in the place of the old one.
-/

namespace ApiContract

/-- The path from another root marker. -/
def Path.rerooted (root : String) (path : Path) : Path := { path with root := root }

namespace Entry

mutual

/-- The entry with all its paths from another root marker. -/
def rerooted (root : String) : Entry → Entry
  | leaf violation => leaf ⟨violation.path.rerooted root, violation.cause⟩
  | group key entries => group key (allRerooted root entries)

/-- The entries with all their paths from another root marker. -/
def allRerooted (root : String) : List Entry → List Entry
  | [] => []
  | entry :: rest => rerooted root entry :: allRerooted root rest

end

end Entry

/-- The report with all its paths from another root marker. -/
def Report.rerooted (root : String) (report : Report) : Report :=
  ⟨report.valid, ⟨Entry.allRerooted root report.sink.entries⟩⟩

/-- The fault with its path, if it has one, from another root marker. -/
def Fault.rerooted (root : String) : Fault → Fault
  | .tooDeep path limit => .tooDeep (path.rerooted root) limit
  | e => e

/-- All paths of a report begin with a root marker. -/
def Report.RootedAt (root : String) (report : Report) : Prop :=
  ∀ violation ∈ report.sink.leaves, violation.path.root = root

/-- The path of a fault, if it has one, begins with a root marker. -/
def Fault.RootedAt (root : String) : Fault → Prop
  | .tooDeep path _ => path.root = root
  | _ => True

theorem Path.exists_text_rerooted (path : Path) (root : String) :
    ∃ rest, path.text = path.root ++ rest ∧ (path.rerooted root).text = root ++ rest := by
  refine ⟨String.ofList (path.steps.flatMap Step.write), ?_, ?_⟩
  · simp [text, write]
  · simp [text, write, rerooted]

/-! ### Faults of references have no path -/

theorem Checker.Raises.rootedAt {checker : Checker} {scope : Scope} {value : Json} {e : Fault}
    (h : checker.Raises scope value e) (root : String) : e.RootedAt root := by
  obtain ⟨start, _, hstops⟩ := h.stopsIn (scope.heldBy_self checker.table) .here
  cases hstops <;> trivial

/-- A fault that has a path has one from the root marker of the check. -/
def Reading.rooted : Reading where
  seen _ _ _ _ := True
  fault _ path _ e := e.RootedAt path.root
  entry _ _ _ _ := True

namespace Checker
variable (checker : Checker)

theorem carries_rooted : checker.Carries .rooted .rooted where
  seen_here _ _ _ := trivial
  seen_below _ _ _ _ := trivial
  fault_here h path := h.rootedAt path.root
  fault_below _ _ _ h := h
  leaf _ _ _ _ _ := trivial
  entry_below _ _ _ _ _ := trivial
  group _ _ _ _ _ _ := trivial
  missing _ _ _ _ := trivial

theorem rootedAt_of_checkWithin {depth : Nat} {scope : Scope} {path : Path} {value : Json}
    {e : Fault} (h : (checker.checkWithin depth scope path value).outcome = .error e) :
    e.RootedAt path.root := by
  have hall := checker.checkWithin_describes (fun _ => .rooted) (fun _ _ _ => rfl)
    (fun _ => carries_rooted checker) depth
  exact (hall scope path value).ends.fault e h

end Checker

/-! ### Places beside each other -/

variable {p q : String}

theorem Path.Beside.rerooted {path path' : Path}
    (h : Path.Beside (.ofRoot p) (.ofRoot q) path path') :
    path.root = p ∧ path' = path.rerooted q := by
  obtain ⟨steps, rfl, rfl⟩ := h
  exact ⟨rfl, rfl⟩

mutual

theorem Entry.rerooted_of_moved : (first : Entry) → {second : Entry} →
    first.Moved (Path.Beside (.ofRoot p) (.ofRoot q)) second →
    (∀ violation ∈ first.leaves, violation.path.root = p) ∧ second = first.rerooted q
  | .leaf _, _, .leaf place _ => by
    obtain ⟨hroot, rfl⟩ := place.rerooted
    simp [leaves, Entry.rerooted, hroot]
  | .group _ entries, _, .group _ inner => by
    obtain ⟨hroots, rfl⟩ := allRerooted_of_moved entries inner
    exact ⟨hroots, rfl⟩

theorem Entry.allRerooted_of_moved : (first : List Entry) → {second : List Entry} →
    List.Forall₂ (Entry.Moved (Path.Beside (.ofRoot p) (.ofRoot q))) first second →
    (∀ violation ∈ Entry.leavesOf first, violation.path.root = p) ∧
      second = Entry.allRerooted q first
  | [], _, .nil => ⟨nofun, rfl⟩
  | entry :: rest, _, .cons head tail => by
    obtain ⟨hhead, rfl⟩ := rerooted_of_moved entry head
    obtain ⟨htail, rfl⟩ := allRerooted_of_moved rest tail
    refine ⟨fun violation hmem => ?_, rfl⟩
    rcases List.mem_append.mp hmem with h | h
    · exact hhead violation h
    · exact htail violation h

end

theorem Verdict.rerooted_of_moved {first second : Verdict}
    (h : first.Moved (Path.Beside (.ofRoot p) (.ofRoot q)) second) :
    first.report.RootedAt p ∧ second.report = first.report.rerooted q := by
  obtain ⟨hroots, hentries⟩ := Entry.allRerooted_of_moved first.entries h.entries
  refine ⟨hroots, ?_⟩
  unfold report Report.rerooted Sink.append Sink.empty
  rw [hentries, ← h.accepted]
  rfl

theorem Fault.rerooted_of_moved {e e' : Fault}
    (h : e.Moved (Path.Beside (.ofRoot p) (.ofRoot q)) e') (first : e.RootedAt p)
    (second : e'.RootedAt q) : e' = e.rerooted q := by
  cases h with
  | tooDeep place limit =>
    obtain ⟨_, rfl⟩ := place.rerooted
    rfl
  | same e =>
    cases e with
    | tooDeep path limit =>
      -- the path begins with both markers, so they are the same one
      have hsame : path.root = q := second
      rw [Fault.rerooted, Path.rerooted, ← hsame]
    | _ => rfl

theorem rerooted_of_moved {outcome outcome' : Except Fault Verdict}
    (h : Moved (fun _ => False) (Path.Beside (.ofRoot p) (.ofRoot q)) outcome outcome')
    (first : ∀ e, outcome = .error e → e.RootedAt p)
    (second : ∀ e, outcome' = .error e → e.RootedAt q) :
    (∃ report, outcome.map Verdict.report = .ok report ∧ report.RootedAt p ∧
        outcome'.map Verdict.report = .ok (report.rerooted q)) ∨
      ∃ e, outcome.map Verdict.report = .error e ∧ e.RootedAt p ∧
        outcome'.map Verdict.report = .error (e.rerooted q) := by
  cases h with
  | ok results =>
    obtain ⟨hroots, hreport⟩ := Verdict.rerooted_of_moved results
    exact .inl ⟨_, rfl, hroots, congrArg Except.ok hreport⟩
  | error faults =>
    have hroot := first _ rfl
    have hfault := Fault.rerooted_of_moved faults hroot (second _ rfl)
    exact .inr ⟨_, rfl, hroot, congrArg Except.error hfault⟩
  | excused hfalse _ => exact hfalse.elim

/-- A validation from another root marker and with other callbacks comes to the
same verdict with the same violations, or to the same fault: all paths that it
gives begin with its own marker, and the other one gives them with the other
marker in its place. -/
theorem validate_rerooted (validator : Validator) (value schema : Json) (direction : Direction)
    (templates templates' callbacks callbacks' : List (String × Json)) (p q : String) :
    let first := (validator.validate value schema p ⟨direction, templates, callbacks⟩).1
    let second := (validator.validate value schema q ⟨direction, templates', callbacks'⟩).1
    ((∃ report, first = .ok report ∧ report.RootedAt p ∧ second = .ok (report.rerooted q)) ∨
      ∃ e, first = .error e ∧ e.RootedAt p ∧ second = .error (e.rerooted q)) ∧
    ∀ path : Path, ∃ rest, path.text = path.root ++ rest ∧
      (path.rerooted q).text = q ++ rest := by
  intro first second
  refine ⟨?_, fun path => path.exists_text_rerooted q⟩
  let checker := validator.checker direction
  let steps := validator.settings.maxDepth + 1
  have hfirst : first = (checker.checkWithin steps (.root schema) (.ofRoot p) value).outcome.map
      Verdict.report := congrArg Prod.fst (validator.validate_eq value schema p _)
  have hsecond : second = (checker.checkWithin steps (.root schema) (.ofRoot q) value).outcome.map
      Verdict.report := congrArg Prod.fst (validator.validate_eq value schema q _)
  rw [hfirst, hsecond]
  obtain ⟨_, hmoved⟩ | ⟨_, _, hfalse⟩ := checker.checkWithin_elsewhere steps (.root schema)
    (.ofRoot p) (.ofRoot q) value
  · exact rerooted_of_moved hmoved (fun _ he => checker.rootedAt_of_checkWithin he)
      fun _ he => checker.rootedAt_of_checkWithin he
  · exact hfalse.elim

end ApiContract
