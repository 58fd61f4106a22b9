import ApiContract.Proofs.Registration

/-!
# Sessions

A run notes the strings that it meets, and the exchange takes them in once the run is
over.  A session has the exchange at hand from the start: it registers each string as soon
as it is met, and every check goes on with the exchange that the checks before it leave,
whether they accept or reject, and whether they are trials.  The two come to the same.
-/

namespace ApiContract

/-- A computation with an exchange at hand.  A fault ends it, and the exchange stays as it
is by then. -/
abbrev Session := ExceptT Fault (StateM Exchange)

namespace Session
variable {α : Type}

/-- How a session ends that begins with an exchange, and the exchange that it leaves. -/
def runOn (session : Session α) (exchange : Exchange) : Except Fault α × Exchange :=
  Id.run (session.run.run exchange)

/-- A lookup as a session that leaves the exchange alone. -/
def ofExcept (outcome : Except Fault α) : Session α := ExceptT.mk (pure outcome)

/-- Registers a string in the exchange at hand. -/
def register (path : Path) (text : String) : Session Unit :=
  modify fun exchange => exchange.register ⟨path, text⟩

/-- Checks each of several things, in order. -/
def each (check : α → Session Verdict) : List α → Session Verdict
  | [] => return .accept
  | a :: rest => do
    let first ← check a
    let others ← each check rest
    return first.and others

/-- A reading of runs as sessions: strings are registered where they are met, and what
follows a session has the exchange that it leaves. -/
structure Interprets (session : {α : Type} → Run α → Session α) : Prop where
  ofExcept : ∀ {α : Type} (outcome : Except Fault α), session (Run.ofExcept outcome) = ofExcept outcome
  meet : ∀ path text, session (Run.meet path text) = register path text
  bind : ∀ {α β : Type} (first : Run α) (next : α → Run β),
    session (first >>= next) = session first >>= fun a => session (next a)

end Session

/-! ### The session of a run -/

/-- The session that replays what a run has noted. -/
def Run.session {α : Type} (run : Run α) : Session α :=
  ExceptT.mk fun exchange => (run.outcome, exchange.registerAll run.sightings)

namespace Session

theorem interprets_session : Interprets Run.session where
  ofExcept _ := rfl
  meet _ _ := rfl
  bind first next := by
    obtain ⟨sightings, e | a⟩ := first
    · rfl
    · funext exchange
      have hreplayed : exchange.registerAll (sightings ++ (next a).sightings) =
          (exchange.registerAll sightings).registerAll (next a).sightings := List.foldl_append
      exact congrArg (Prod.mk _) hreplayed

namespace Interprets
variable {session : {α : Type} → Run α → Session α} (h : Interprets session)
include h

/-- Runs can be read as sessions in one way: what is registered on the way is what is
replayed in the end. -/
theorem eq_session {α : Type} (run : Run α) : session run = run.session := by
  obtain ⟨sightings, outcome⟩ := run
  induction sightings with
  | nil => exact (h.ofExcept outcome).trans (interprets_session.ofExcept outcome).symm
  | cons sighting rest ih =>
    have hrun : (⟨sighting :: rest, outcome⟩ : Run α) =
        Run.meet sighting.path sighting.text >>= fun _ => ⟨rest, outcome⟩ := rfl
    rw [hrun, h.bind, interprets_session.bind, h.meet, interprets_session.meet, ih]

theorem session_pure {α : Type} (a : α) : session (pure a) = pure a := h.ofExcept (.ok a)

/-! ### Sessions of checks -/

theorem each {α : Type} (check : α → Run Verdict) (items : List α) :
    session (Run.each check items) = Session.each (fun a => session (check a)) items := by
  induction items with
  | nil => exact h.session_pure _
  | cons a rest ih => simp only [Run.each, Session.each, h.bind, h.session_pure, ih]

variable (checker : Checker) (check : Check) (scope : Scope) (path : Path)

/-- A string is registered before its constraints are looked at. -/
theorem checkString (text : String) :
    session (checker.checkString scope path (.string text)) = (do
      register path text
      Session.ofExcept (checker.textVerdict scope path text)) := by
  show session (Run.meet path text >>= fun _ => Run.ofExcept (checker.textVerdict scope path text)) = _
  simp only [h.bind, h.meet, h.ofExcept]

/-- What a trial registers stays registered. -/
theorem checkForbidden {fields : List (String × Json)} {forbidden : String × Json} {value : Json}
    (has : Fields.get? fields forbidden.1 = some value) :
    session (Checker.checkForbidden check fields path forbidden) = (do
      let trial ← session (check (.root forbidden.2) (path.child (.key forbidden.1)) value)
      return .rejectIf trial.accepted path (.disallowedPropertyShape forbidden.1)) := by
  unfold Checker.checkForbidden
  rw [has]
  simp only [h.bind, h.session_pure]

/-- The branches behind one go on with what it registers, whether it accepts or rejects. -/
theorem tallyBranches (combinator : Combinator) (value branch : Json) (index : Nat)
    (rest : List Json) :
    session (checker.tallyBranches check combinator scope path value index (branch :: rest)) = (do
      let inner := Scope.nested branch scope
      let verdict ← session (check inner (path.child (.branch index)) value)
      if verdict.accepted then
        let description ← Session.ofExcept (checker.resolver.string? inner "description")
        let others ← session
          (checker.tallyBranches check combinator scope path value (index + 1) rest)
        return others.accepting (description.getD (toString index))
      else
        let others ← session
          (checker.tallyBranches check combinator scope path value (index + 1) rest)
        return others.rejecting (branchKey combinator index) verdict.entries) := by
  rw [Checker.tallyBranches, h.bind]
  refine bind_congr fun verdict => ?_
  split
  · simp only [h.bind, h.ofExcept, h.session_pure]
  · simp only [h.bind, h.session_pure]

/-- A validation is the session of its check on the exchange that it is given. -/
theorem runOn_checkRoot (validator : Validator) (value schema : Json) (root : String)
    (exchange : Exchange) :
    runOn (do
        let ended ← session ((validator.checker exchange.direction).checkRoot schema root value)
        return (⟨ended.1, ended.2⟩ : Report)) exchange =
      validator.validate value schema root exchange := by
  rw [h.eq_session]
  unfold Validator.validate
  obtain ⟨sightings, e | ended⟩ := (validator.checker exchange.direction).checkRoot schema root value
  · rfl
  · rfl

end Interprets
end Session

/-! ### Several checks in a row -/

/-- The check of an inquiry as a session. -/
def Inquiry.session (inquiry : Inquiry) : Session Report := do
  let exchange ← get
  let checker := inquiry.validator.checker exchange.direction
  let ended ← (checker.checkRoot inquiry.schema inquiry.root inquiry.value).session
  return ⟨ended.1, ended.2⟩

namespace Session

theorem runOn_get_bind {α : Type} (next : Exchange → Session α) (exchange : Exchange) :
    runOn (get >>= next) exchange = runOn (next exchange) exchange := rfl

/-- A session that is kept going: a fault that ends it is caught. -/
def attempt {α : Type} (session : Session α) : Session Unit :=
  tryCatch (do let _ ← session) fun _ => pure ()

theorem runOn_attempt_bind {α β : Type} (first : Session α) (next : Session β)
    (exchange : Exchange) :
    runOn (attempt first >>= fun _ => next) exchange = runOn next (runOn first exchange).2 := by
  simp only [runOn, attempt, ExceptT.run_bind, StateT.run_bind, ExceptT.run_tryCatch]
  generalize StateT.run (ExceptT.run first) exchange = ended
  obtain ⟨e | a, after⟩ := ended
  · rfl
  · rfl

end Session

namespace Inquiry

theorem runOn_session (inquiry : Inquiry) (exchange : Exchange) :
    inquiry.session.runOn exchange = inquiry.run exchange := by
  unfold session
  rw [Session.runOn_get_bind]
  exact Session.interprets_session.runOn_checkRoot inquiry.validator inquiry.value inquiry.schema
    inquiry.root exchange

/-- Checks in a row are one session: each has the exchange that those before it leave, also
if they end in faults. -/
theorem runOn_forM (inquiries : List Inquiry) (exchange : Exchange) :
    Session.runOn (forM inquiries fun inquiry => inquiry.session.attempt) exchange =
      (.ok (), runAll exchange inquiries) := by
  induction inquiries generalizing exchange with
  | nil => rfl
  | cons inquiry rest ih =>
    rw [List.forM_cons, Session.runOn_attempt_bind, runOn_session, ih]
    rfl

end Inquiry
end ApiContract
