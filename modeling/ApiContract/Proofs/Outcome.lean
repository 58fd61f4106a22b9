import ApiContract.Check.Run

/-!
# What a run is held to

A run is judged by the strings that it meets, by the fault that it may end in
and by its result.  `Run.Satisfies` states all three at once; its rules follow
the ways in which runs are built, so that a property of a whole check is put
together from properties of its parts.
-/

namespace ApiContract

theorem exists_of_bind_eq_ok {ε α β : Type} {first : Except ε α} {next : α → Except ε β} {b : β}
    (h : (first >>= next) = .ok b) : ∃ a, first = .ok a ∧ next a = .ok b := by
  cases first with
  | error e => cases h
  | ok a => exact ⟨a, rfl, h⟩

/-- What is asked of an outcome: of its fault, and of its result. -/
structure Answers {α : Type} (outcome : Except Fault α) (fault : Fault → Prop) (result : α → Prop) :
    Prop where
  fault : ∀ e, outcome = .error e → fault e
  result : ∀ a, outcome = .ok a → result a

namespace Answers
variable {α β : Type} {fault fault' : Fault → Prop} {result : α → Prop} {last : β → Prop}

theorem ok {a : α} (h : result a) : Answers (.ok a) fault result :=
  ⟨nofun, fun _ ha => by cases ha; exact h⟩

theorem error {e : Fault} (h : fault e) : Answers (.error e) fault result :=
  ⟨fun _ he => by cases he; exact h, nofun⟩

theorem bind {first : Except Fault α} {next : α → Except Fault β}
    (hf : ∀ e, first = .error e → fault e)
    (hn : ∀ a, first = .ok a → Answers (next a) fault last) :
    Answers (first >>= next) fault last := by
  cases first with
  | error e => exact ⟨fun _ he => by cases he; exact hf e rfl, fun _ ha => by cases ha⟩
  | ok a => exact hn a rfl

theorem andThen {first : Except Fault α} {next : α → Except Fault β}
    (hf : Answers first fault result)
    (hn : ∀ a, result a → Answers (next a) fault last) :
    Answers (first >>= next) fault last :=
  bind hf.fault (fun a ha => hn a (hf.result a ha))

theorem mono {outcome : Except Fault α} {result' : α → Prop} (h : Answers outcome fault result)
    (hf : ∀ e, fault e → fault' e) (hr : ∀ a, result a → result' a) :
    Answers outcome fault' result' :=
  ⟨fun e he => hf e (h.fault e he), fun a ha => hr a (h.result a ha)⟩

end Answers

/-- What is asked of a run: of the strings met, of its fault, and of its result. -/
structure Run.Satisfies {α : Type} (run : Run α) (seen : Sighting → Prop) (fault : Fault → Prop)
    (result : α → Prop) : Prop where
  seen : ∀ sighting ∈ run.sightings, seen sighting
  ends : Answers run.outcome fault result

namespace Run.Satisfies
variable {α β : Type} {seen : Sighting → Prop} {fault : Fault → Prop} {result : α → Prop}
  {last : β → Prop}

theorem ofExcept {outcome : Except Fault α} (h : Answers outcome fault result) :
    (Run.ofExcept outcome).Satisfies seen fault result :=
  ⟨fun _ hs => absurd hs List.not_mem_nil, h⟩

theorem ok {a : α} (h : result a) : (Run.result a).Satisfies seen fault result :=
  ofExcept (Answers.ok h)

theorem error {e : Fault} (h : fault e) : (Run.fault e : Run α).Satisfies seen fault result :=
  ofExcept (Answers.error h)

theorem meet {path : Path} {text : String} (hs : seen ⟨path, text⟩) :
    (Run.meet path text).Satisfies seen fault (fun _ => True) := by
  refine ⟨fun sighting h => ?_, Answers.ok trivial⟩
  rw [List.mem_singleton.mp h]
  exact hs

theorem bind {first : Run α} {next : α → Run β} (hf : first.Satisfies seen fault result)
    (hn : ∀ a, result a → (next a).Satisfies seen fault last) :
    (first >>= next).Satisfies seen fault last := by
  obtain ⟨sightings, outcome⟩ := first
  cases outcome with
  | error e =>
    exact ⟨hf.seen, fun _ he => by cases he; exact hf.ends.fault e rfl, nofun⟩
  | ok a =>
    have hb := hn a (hf.ends.result a rfl)
    refine ⟨fun sighting hs => ?_, hb.ends⟩
    rcases List.mem_append.mp hs with h | h
    · exact hf.seen sighting h
    · exact hb.seen sighting h

/-- A lookup before a run; the run may use what the lookup gave. -/
theorem lookup {outcome : Except Fault α} {next : α → Run β}
    (hf : ∀ e, outcome = .error e → fault e)
    (hn : ∀ a, outcome = .ok a → (next a).Satisfies seen fault last) :
    (Run.ofExcept outcome >>= next).Satisfies seen fault last := by
  have hfirst : (Run.ofExcept outcome).Satisfies seen fault (fun a => outcome = .ok a) :=
    ofExcept ⟨hf, fun _ ha => ha⟩
  exact bind hfirst hn

theorem mono {run : Run α} {seen' : Sighting → Prop} {fault' : Fault → Prop} {result' : α → Prop}
    (h : run.Satisfies seen fault result) (hs : ∀ s, seen s → seen' s)
    (hf : ∀ e, fault e → fault' e) (hr : ∀ a, result a → result' a) :
    run.Satisfies seen' fault' result' :=
  ⟨fun s hm => hs s (h.seen s hm), h.ends.mono hf hr⟩

/-- Several checks in order; `good` holds of acceptance and passes to joint verdicts. -/
theorem each {check : α → Run Verdict} {good : Verdict → Prop} {items : List α}
    (h : ∀ a ∈ items, (check a).Satisfies seen fault good) (accept : good .accept)
    (and : ∀ first second, good first → good second → good (first.and second)) :
    (Run.each check items).Satisfies seen fault good := by
  induction items with
  | nil => exact ok accept
  | cons a rest ih =>
    have hrest := ih (fun b hb => h b (List.mem_cons_of_mem _ hb))
    refine bind (h a List.mem_cons_self) (fun first hfirst => ?_)
    exact bind hrest (fun others hothers => ok (and first others hfirst hothers))

end Run.Satisfies
end ApiContract
