import ApiContract.Report
import ApiContract.Schema.Fault

/-!
# Runs

A run notes every string that it checks, with its path, and ends in a result
or in a fault.  What was noted before a fault is kept.
-/

namespace ApiContract

/-- A string that a run has met. -/
structure Sighting where
  path : Path
  text : String
  deriving DecidableEq

/-- A run: the strings met, in order, and how it ended. -/
structure Run (α : Type) where
  sightings : List Sighting
  outcome : Except Fault α

namespace Run

/-- A run that meets nothing and ends in a result. -/
def result {α : Type} (a : α) : Run α := ⟨[], .ok a⟩

/-- A run that meets nothing and ends in a fault. -/
def fault {α : Type} (e : Fault) : Run α := ⟨[], .error e⟩

/-- One run after another; a fault ends both. -/
def andThen {α β : Type} (first : Run α) (next : α → Run β) : Run β :=
  match first.outcome with
  | .error e => ⟨first.sightings, .error e⟩
  | .ok a => ⟨first.sightings ++ (next a).sightings, (next a).outcome⟩

instance : Monad Run where
  pure := result
  bind := andThen

/-- A lookup as a run that meets nothing. -/
def ofExcept {α : Type} (outcome : Except Fault α) : Run α := ⟨[], outcome⟩

instance : MonadLift (Except Fault) Run := ⟨ofExcept⟩

/-- Notes a string. -/
def meet (path : Path) (text : String) : Run Unit := ⟨[⟨path, text⟩], .ok ()⟩

/-! ### Laws -/

@[simp] theorem pure_eq {α : Type} (a : α) : (pure a : Run α) = ⟨[], .ok a⟩ := rfl

theorem bind_eq_andThen {α β : Type} (first : Run α) (next : α → Run β) :
    (first >>= next) = first.andThen next := rfl

@[simp] theorem bind_error {α β : Type} (sightings : List Sighting) (e : Fault)
    (next : α → Run β) :
    ((⟨sightings, .error e⟩ : Run α) >>= next) = ⟨sightings, .error e⟩ := rfl

@[simp] theorem bind_ok {α β : Type} (sightings : List Sighting) (a : α) (next : α → Run β) :
    ((⟨sightings, .ok a⟩ : Run α) >>= next) =
      ⟨sightings ++ (next a).sightings, (next a).outcome⟩ := rfl

theorem outcome_bind {α β : Type} (first : Run α) (next : α → Run β) :
    (first >>= next).outcome = first.outcome >>= fun a => (next a).outcome := by
  obtain ⟨sightings, e | a⟩ := first <;> rfl

theorem exists_of_outcome_bind {α β : Type} {first : Run α} {next : α → Run β} {b : β}
    (h : (first >>= next).outcome = .ok b) :
    ∃ a, first.outcome = .ok a ∧ (next a).outcome = .ok b := by
  obtain ⟨sightings, e | a⟩ := first
  · cases h
  · exact ⟨a, rfl, h⟩

instance : LawfulMonad Run := LawfulMonad.mk' Run
  (fun run => by
    obtain ⟨sightings, e | a⟩ := run
    · rfl
    · simp [Functor.map, andThen, result])
  (fun a next => by simp [Pure.pure, Bind.bind, andThen, result])
  (fun run next last => by
    obtain ⟨sightings, e | a⟩ := run
    · rfl
    · simp only [bind_ok]
      obtain ⟨seen, e | b⟩ := next a
      · rfl
      · simp)

theorem ofExcept_bind {α β : Type} (outcome : Except Fault α) (next : α → Except Fault β) :
    (ofExcept (outcome >>= next) : Run β) = (ofExcept outcome >>= fun a => ofExcept (next a)) := by
  cases outcome <;> rfl

end Run

/-! ### Verdicts -/

/-- What a check says of a value: whether it accepts it, and what it found. -/
structure Verdict where
  accepted : Bool
  entries : List Entry

namespace Verdict

/-- Acceptance. -/
def accept : Verdict := ⟨true, []⟩

/-- Rejection for a cause. -/
def reject (path : Path) (cause : Cause) : Verdict := ⟨false, [.leaf ⟨path, cause⟩]⟩

/-- Rejection for a cause if it applies. -/
def rejectIf (applies : Bool) (path : Path) (cause : Cause) : Verdict :=
  if applies then reject path cause else accept

/-- Two verdicts on one value, the entries of the first before those of the second. -/
def and (first second : Verdict) : Verdict :=
  ⟨first.accepted && second.accepted, first.entries ++ second.entries⟩

/-- All verdicts on one value. -/
def all (verdicts : List Verdict) : Verdict := verdicts.foldr and accept

/-! ### Laws -/

@[simp] theorem accept_and (verdict : Verdict) : accept.and verdict = verdict := rfl

@[simp] theorem and_accept (verdict : Verdict) : verdict.and accept = verdict := by
  simp [and, accept]

theorem and_assoc (first second third : Verdict) :
    (first.and second).and third = first.and (second.and third) := by
  simp [and, Bool.and_assoc]

theorem accepted_all (verdicts : List Verdict) :
    (all verdicts).accepted = verdicts.all Verdict.accepted := by
  induction verdicts with
  | nil => rfl
  | cons verdict rest ih => exact congrArg (verdict.accepted && ·) ih

end Verdict

/-- Checks each of several things, in order. -/
def Run.each {α : Type} (check : α → Run Verdict) : List α → Run Verdict
  | [] => Run.result .accept
  | a :: rest => do
    let first ← check a
    let others ← Run.each check rest
    return first.and others

end ApiContract
