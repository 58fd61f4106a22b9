import ApiContract.Check.Dispatch
import ApiContract.Json.Reader
import ApiContract.Path.Pointer

/-!
# Exchanges

An exchange is the context of one or more runs: the direction of the payload,
the callback templates, and the callbacks registered so far.  A string at a
place that a template names is registered as a callback identifier, together
with the schema of the template; registration never fails a run.
-/

namespace ApiContract

/-- Direction, callback templates and registered callbacks. -/
structure Exchange where
  direction : Direction
  templates : List (String × Json)
  callbacks : List (String × Json)

namespace Exchange

/-- An exchange without callbacks. -/
def ofDirection (direction : Direction) : Exchange := ⟨direction, [], []⟩

/-- The exchange with other templates. -/
def withTemplates (exchange : Exchange) (templates : List (String × Json)) : Exchange :=
  { exchange with templates := templates }

/-- The schema that the templates give to a place. -/
def schemaAt? (exchange : Exchange) (path : Path) : Option Json :=
  Fields.get? exchange.templates (String.ofList (Pointer.template path.write))

/-- Registers a string if a template names its place. -/
def register (exchange : Exchange) (sighting : Sighting) : Exchange :=
  match exchange.schemaAt? sighting.path with
  | some schema =>
    { exchange with callbacks := Fields.set exchange.callbacks sighting.text schema }
  | none => exchange

/-- Registers strings in order. -/
def registerAll (exchange : Exchange) (sightings : List Sighting) : Exchange :=
  sightings.foldl register exchange

end Exchange

/-- The report of a verdict on a whole document. -/
def Verdict.report (verdict : Verdict) : Report :=
  ⟨verdict.accepted, Sink.empty.append verdict.entries⟩

/-- Components and settings. -/
structure Validator where
  table : ComponentTable
  settings : Settings

namespace Validator

/-- The checker of an exchange. -/
def checker (validator : Validator) (direction : Direction) : Checker :=
  ⟨validator.table, validator.settings, direction⟩

/-- Checks a value against a schema.  The exchange afterwards also holds what
was registered before a fault. -/
def validate (validator : Validator) (value schema : Json) (root : String) (exchange : Exchange) :
    Except Fault Report × Exchange :=
  let run := (validator.checker exchange.direction).checkRoot schema root value
  (run.outcome.map (fun (valid, sink) => ⟨valid, sink⟩), exchange.registerAll run.sightings)

theorem validate_eq (validator : Validator) (value schema : Json) (root : String)
    (exchange : Exchange) :
    validator.validate value schema root exchange =
      let run := (validator.checker exchange.direction).checkWithin (validator.settings.maxDepth + 1)
        (.root schema) (.ofRoot root) value
      (run.outcome.map Verdict.report, exchange.registerAll run.sightings) := by
  have hended (run : Run Verdict) :
      let ended := run >>= fun verdict => pure (verdict.accepted, Sink.empty.append verdict.entries)
      (ended.outcome.map (fun (valid, sink) => (⟨valid, sink⟩ : Report)),
        exchange.registerAll ended.sightings) =
      (run.outcome.map Verdict.report, exchange.registerAll run.sightings) := by
    obtain ⟨sightings, e | verdict⟩ := run
    · rfl
    · simp [Verdict.report, Except.map]
  exact hended _

theorem exists_verdict_of_validate {validator : Validator} {value schema : Json} {root : String}
    {exchange : Exchange} {report : Report}
    (h : (validator.validate value schema root exchange).1 = .ok report) :
    ∃ verdict, ((validator.checker exchange.direction).checkWithin (validator.settings.maxDepth + 1)
      (.root schema) (.ofRoot root) value).outcome = .ok verdict ∧
        report = ⟨verdict.accepted, Sink.empty.append verdict.entries⟩ := by
  rw [validate_eq] at h
  dsimp only at h
  cases hrun : ((validator.checker exchange.direction).checkWithin (validator.settings.maxDepth + 1)
    (.root schema) (.ofRoot root) value).outcome with
  | error e =>
    rw [hrun] at h
    cases h
  | ok verdict =>
    rw [hrun] at h
    cases h
    exact ⟨verdict, rfl, rfl⟩

theorem error_of_validate {validator : Validator} {value schema : Json} {root : String}
    {exchange : Exchange} {e : Fault}
    (h : (validator.validate value schema root exchange).1 = .error e) :
    ((validator.checker exchange.direction).checkWithin (validator.settings.maxDepth + 1)
      (.root schema) (.ofRoot root) value).outcome = .error e := by
  rw [validate_eq] at h
  dsimp only at h
  cases hrun : ((validator.checker exchange.direction).checkWithin (validator.settings.maxDepth + 1)
    (.root schema) (.ofRoot root) value).outcome with
  | error e' =>
    rw [hrun] at h
    cases h
    rfl
  | ok verdict =>
    rw [hrun] at h
    cases h

/-- Checks a document's text; a text that is not JSON is an invalid document. -/
def validateText (validator : Validator) (text : String) (schema : Json) (root : String)
    (exchange : Exchange) : Except Fault Report × Exchange :=
  match Json.read text with
  | .ok value => validator.validate value schema root exchange
  | .error failure =>
    (.ok ⟨false, Sink.empty.push ⟨.ofRoot root, .decode failure.message⟩⟩, exchange)

end Validator
end ApiContract
