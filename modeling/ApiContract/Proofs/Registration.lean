import ApiContract.Exchange
import ApiContract.Proofs.Transparency

/-!
# What runs register

A run meets its strings whatever was registered before it.  So what it leaves
of the callbacks is the callbacks before it, overlaid with registrations of its
own, and a run that is made again registers nothing new.
-/

namespace ApiContract

/-! ### Overlays one after the other -/

namespace Fields
variable {α : Type}

theorem set_set (fields : List (String × α)) (name : String) (old new : α) :
    set (set fields name old) name new = set fields name new := by
  induction fields with
  | nil => simp [set]
  | cons field rest ih =>
    obtain ⟨key, held⟩ := field
    by_cases hbefore : name < key
    · simp [set, hbefore]
    · by_cases hsame : key = name
      · simp [set, hsame]
      · simp [set, hbefore, hsame, ih]

theorem set_comm_of_lt (fields : List (String × α)) {first second : String} (h : first < second)
    (a b : α) :
    set (set fields second b) first a = set (set fields first a) second b := by
  have hasymm : ¬second < first := String.lt_asymm h
  have hne : first ≠ second := String.ne_of_lt h
  induction fields with
  | nil => simp [set, h, hasymm, hne]
  | cons field rest ih =>
    obtain ⟨key, held⟩ := field
    by_cases hfirst : first < key
    · -- the first name goes before the key, wherever the second one goes
      by_cases hsecond : second < key
      · simp [set, hfirst, hsecond, h, hasymm, hne]
      · by_cases hkey : key = second
        · simp [set, hkey, h, hasymm, hne]
        · simp [set, hfirst, hsecond, hkey, hasymm, hne]
    · have hsecond : ¬second < key := fun hlt => hfirst (String.lt_trans h hlt)
      by_cases hkey : key = first
      · simp [set, hkey, hasymm, hne]
      · have hother : key ≠ second := by
          intro heq
          rw [heq] at hfirst
          exact hfirst h
        simp [set, hfirst, hsecond, hkey, hother, ih]

theorem set_comm (fields : List (String × α)) {first second : String} (h : first ≠ second)
    (a b : α) :
    set (set fields second b) first a = set (set fields first a) second b := by
  by_cases hlt : first < second
  · exact set_comm_of_lt fields hlt a b
  · have hgt : second < first := Std.lt_of_le_of_ne (Std.not_lt.mp hlt) h.symm
    exact (set_comm_of_lt fields hgt b a).symm

theorem overlay_set (upper lower : List (String × α)) (name : String) (value : α) :
    overlay (set upper name value) lower = set (overlay upper lower) name value := by
  induction upper with
  | nil => rfl
  | cons field rest ih =>
    obtain ⟨key, held⟩ := field
    show overlay (set ((key, held) :: rest) name value) lower =
      set (set (overlay rest lower) key held) name value
    by_cases hbefore : name < key
    · simp [set, hbefore, overlay]
    · by_cases hsame : key = name
      · have hset : set ((key, held) :: rest) name value = (name, value) :: rest := by
          simp [set, hsame]
        rw [hset, hsame, set_set]
        rfl
      · have hset : set ((key, held) :: rest) name value = (key, held) :: set rest name value := by
          simp [set, hbefore, hsame]
        rw [hset, set_comm _ (Ne.symm hsame), ← ih]
        rfl

/-- Giving names values one after the other is laying over what the values come to. -/
theorem foldl_set_overlay (pairs upper lower : List (String × α)) :
    pairs.foldl (fun fields pair => set fields pair.1 pair.2) (overlay upper lower) =
      overlay (pairs.foldl (fun fields pair => set fields pair.1 pair.2) upper) lower := by
  induction pairs generalizing upper with
  | nil => rfl
  | cons pair rest ih =>
    rw [List.foldl_cons, List.foldl_cons, ← overlay_set]
    exact ih _

/-- A value that is replaced above need not be there below. -/
theorem set_overlay_set (upper lower : List (String × α)) (name : String) (old new : α) :
    set (overlay upper (set lower name old)) name new = set (overlay upper lower) name new := by
  induction upper with
  | nil => exact set_set lower name old new
  | cons field rest ih =>
    obtain ⟨key, held⟩ := field
    show set (set (overlay rest (set lower name old)) key held) name new =
      set (set (overlay rest lower) key held) name new
    by_cases hsame : key = name
    · rw [hsame, set_set, set_set, ih]
    · rw [set_comm _ (Ne.symm hsame), set_comm _ (Ne.symm hsame), ih]

theorem overlay_overlay_self (upper lower : List (String × α)) :
    overlay upper (overlay upper lower) = overlay upper lower := by
  induction upper with
  | nil => rfl
  | cons field rest ih =>
    obtain ⟨key, held⟩ := field
    show set (overlay rest (set (overlay rest lower) key held)) key held =
      set (overlay rest lower) key held
    rw [set_overlay_set, ih]

end Fields

/-! ### Registrations -/

/-- What a string is registered as: its text, with the schema of the template that
names its place. -/
def Sighting.registration? (templates : List (String × Json)) (sighting : Sighting) :
    Option (String × Json) :=
  (Fields.get? templates (String.ofList (Pointer.template sighting.path.write))).map
    fun schema => (sighting.text, schema)

/-- What strings come to that are registered in order, a repeated identifier last. -/
def Exchange.registrations (templates : List (String × Json)) (sightings : List Sighting) :
    List (String × Json) :=
  Fields.ofPairs (sightings.filterMap (Sighting.registration? templates))

namespace Exchange
variable (direction : Direction) (templates callbacks : List (String × Json))

theorem register_of_none {sighting : Sighting} (h : sighting.registration? templates = none) :
    register ⟨direction, templates, callbacks⟩ sighting = ⟨direction, templates, callbacks⟩ := by
  have hschema := Option.map_eq_none_iff.mp h
  unfold register schemaAt?
  rw [hschema]

theorem register_of_some {sighting : Sighting} {pair : String × Json}
    (h : sighting.registration? templates = some pair) :
    register ⟨direction, templates, callbacks⟩ sighting =
      ⟨direction, templates, Fields.set callbacks pair.1 pair.2⟩ := by
  obtain ⟨schema, hschema, rfl⟩ := Option.map_eq_some_iff.mp h
  unfold register schemaAt?
  rw [hschema]

theorem registerAll_eq (sightings : List Sighting) :
    registerAll ⟨direction, templates, callbacks⟩ sightings =
      ⟨direction, templates, Fields.overlay (registrations templates sightings) callbacks⟩ := by
  have hfold : registerAll ⟨direction, templates, callbacks⟩ sightings =
      ⟨direction, templates, (sightings.filterMap (Sighting.registration? templates)).foldl
        (fun fields pair => Fields.set fields pair.1 pair.2) callbacks⟩ := by
    induction sightings generalizing callbacks with
    | nil => rfl
    | cons sighting rest ih =>
      have hrest (callbacks : List (String × Json)) :
          rest.foldl register ⟨direction, templates, callbacks⟩ = _ := ih callbacks
      unfold registerAll
      rw [List.foldl_cons]
      cases hpair : sighting.registration? templates with
      | none => rw [register_of_none _ _ _ hpair, hrest, List.filterMap_cons_none hpair]
      | some pair =>
        rw [register_of_some _ _ _ hpair, hrest, List.filterMap_cons_some hpair, List.foldl_cons]
  rw [hfold]
  exact congrArg _ (Fields.foldl_set_overlay _ [] callbacks)

end Exchange

/-! ### Runs on one exchange -/

/-- A document and its schema, with the components and settings to check them. -/
structure Inquiry where
  validator : Validator
  value : Json
  schema : Json
  root : String

namespace Inquiry

/-- Checks the document. -/
def run (inquiry : Inquiry) (exchange : Exchange) : Except Fault Report × Exchange :=
  inquiry.validator.validate inquiry.value inquiry.schema inquiry.root exchange

/-- What the check registers, whatever is registered already. -/
def registrations (inquiry : Inquiry) (direction : Direction) (templates : List (String × Json)) :
    List (String × Json) :=
  let run := (inquiry.validator.checker direction).checkWithin
    (inquiry.validator.settings.maxDepth + 1) (.root inquiry.schema) (.ofRoot inquiry.root)
    inquiry.value
  Exchange.registrations templates run.sightings

/-- The exchange after several checks, in order. -/
def runAll (exchange : Exchange) (inquiries : List Inquiry) : Exchange :=
  inquiries.foldl (fun exchange inquiry => (inquiry.run exchange).2) exchange

theorem run_result (inquiry : Inquiry) {exchange exchange' : Exchange}
    (h : exchange.direction = exchange'.direction) :
    (inquiry.run exchange).1 = (inquiry.run exchange').1 := by
  unfold run
  rw [Validator.validate_eq, Validator.validate_eq, h]

theorem run_exchange (inquiry : Inquiry) (direction : Direction)
    (templates callbacks : List (String × Json)) :
    (inquiry.run ⟨direction, templates, callbacks⟩).2 =
      ⟨direction, templates,
        Fields.overlay (inquiry.registrations direction templates) callbacks⟩ := by
  unfold run
  rw [Validator.validate_eq]
  exact Exchange.registerAll_eq direction templates callbacks _

theorem runAll_eq (inquiries : List Inquiry) (direction : Direction)
    (templates callbacks : List (String × Json)) :
    runAll ⟨direction, templates, callbacks⟩ inquiries =
      ⟨direction, templates, inquiries.foldl (fun held inquiry =>
        Fields.overlay (inquiry.registrations direction templates) held) callbacks⟩ := by
  induction inquiries generalizing callbacks with
  | nil => rfl
  | cons inquiry rest ih =>
    unfold runAll
    rw [List.foldl_cons, run_exchange]
    exact ih _

end Inquiry

/-- Each check overlays the callbacks with registrations that do not depend on
them, whether it ends in a report or in a fault, and changes nothing else of the
exchange; no identifier is lost.  Checks in a row overlay one after the other, and
a check that is made again comes to the same result and changes nothing. -/
theorem callbacks_overlaid (direction : Direction) (templates : List (String × Json)) :
    (∀ (inquiry : Inquiry) callbacks,
      let registered := inquiry.registrations direction templates
      let after := (inquiry.run ⟨direction, templates, callbacks⟩).2
      after = ⟨direction, templates, Fields.overlay registered callbacks⟩ ∧
        ∀ id, Fields.get? after.callbacks id =
          (Fields.get? registered id).or (Fields.get? callbacks id)) ∧
    (∀ (inquiries : List Inquiry) callbacks,
      Inquiry.runAll ⟨direction, templates, callbacks⟩ inquiries =
        ⟨direction, templates, inquiries.foldl (fun held inquiry =>
          Fields.overlay (inquiry.registrations direction templates) held) callbacks⟩) ∧
    (∀ (inquiry : Inquiry) callbacks,
      let ended := inquiry.run ⟨direction, templates, callbacks⟩
      inquiry.run ended.2 = ended) := by
  refine ⟨?_, ?_, ?_⟩
  · intro inquiry callbacks registered after
    have hafter := inquiry.run_exchange direction templates callbacks
    refine ⟨hafter, fun id => ?_⟩
    have hget := Fields.get?_overlay registered callbacks id
    show Fields.get? (inquiry.run _).2.callbacks id = _
    rw [hafter]
    exact hget
  · intro inquiries callbacks
    exact Inquiry.runAll_eq inquiries direction templates callbacks
  · intro inquiry callbacks ended
    have hended := inquiry.run_exchange direction templates callbacks
    have hagain := inquiry.run_exchange direction templates
      (Fields.overlay (inquiry.registrations direction templates) callbacks)
    rw [Fields.overlay_overlay_self, ← hended] at hagain
    have hdirection : ended.2.direction = direction := congrArg Exchange.direction hended
    exact Prod.ext (inquiry.run_result hdirection) hagain

end ApiContract
