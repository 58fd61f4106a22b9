import ApiContract.Exchange
import ApiContract.Proofs.Traversal
import Mathlib.Data.List.Forall2

/-!
# Where violations lie

The path of a violation and the keys of the groups around it come from one
descent through the document: the key and index steps lead to a part of the
document, and the notes between them answer to the groups one by one.
-/

namespace ApiContract

/-! ### Texts of paths -/

/-- The text of a step, spelled for each kind. -/
def Step.rendering : Step → String
  | key name => "[" ++ name ++ "]"
  | index position => "[" ++ toString position ++ "]"
  | branch position => "\x7bsub:" ++ toString position ++ "\x7d"
  | selection property selector => "\x7b" ++ property ++ "=" ++ selector ++ "\x7d"

theorem Step.toList_rendering (step : Step) : step.rendering.toList = step.write := by
  cases step <;> simp [rendering, write, natText]

theorem Path.text_eq (path : Path) :
    path.text = path.root ++ String.join (path.steps.map Step.rendering) := by
  apply String.toList_inj.mp
  simp [text, write, String.toList_join, List.flatMap_map, Step.toList_rendering]

/-! ### Places -/

/-- Key and index steps lead from a value to a part of it; notes stay in place. -/
inductive Json.Leads : Json → List Step → Json → Prop where
  | here (value : Json) : Leads value [] value
  | key {fields : List (String × Json)} {name : String} {value last : Json} {steps : List Step}
    (member : (name, value) ∈ fields) (onward : Leads value steps last) :
    Leads (.object fields) (.key name :: steps) last
  | index {items : List Json} {position : Nat} {value last : Json} {steps : List Step}
    (here : items[position]? = some value) (onward : Leads value steps last) :
    Leads (.array items) (.index position :: steps) last
  | note {value last : Json} {step : Step} {steps : List Step} (isNote : step.isNote = true)
    (onward : Leads value steps last) : Leads value (step :: steps) last

/-- The notes of a path answer to the keys around a violation, one by one and in
order.  A missing discriminator has a group of its own further in. -/
def Cause.Under (cause : Cause) (notes : List Step) (keys : List String) : Prop :=
  match cause with
  | .discriminatorMissing property =>
    ∃ outer, keys = outer ++ ["discriminator[" ++ property ++ "]"] ∧
      List.Forall₂ Step.Marks notes outer
  | _ => List.Forall₂ Step.Marks notes keys

theorem Cause.under_nil {scope : Scope} {cause : Cause} (h : cause.FoundAt scope) :
    cause.Under [] [] := by
  cases cause with
  | discriminatorMissing property => cases h
  | _ => exact List.Forall₂.nil

theorem Cause.Under.cons {cause : Cause} {note : Step} {key : String} {notes : List Step}
    {keys : List String} (hm : note.Marks key) (h : cause.Under notes keys) :
    cause.Under (note :: notes) (key :: keys) := by
  cases cause with
  | discriminatorMissing property =>
    obtain ⟨outer, rfl, houter⟩ := h
    exact ⟨key :: outer, rfl, List.Forall₂.cons hm houter⟩
  | _ => exact List.Forall₂.cons hm h

theorem Checker.Descends.leads {checker : Checker} {scope scope' : Scope} {value value' last : Json}
    {step : Step} {steps : List Step} (h : checker.Descends scope value step scope' value')
    (onward : value'.Leads steps last) : value.Leads (step :: steps) last := by
  cases h with
  | property _ _ member => exact .key member onward
  | forbidden _ _ _ member => exact .key member onward
  | additional _ member => exact .key member onward
  | item _ here => exact .index here onward
  | branch _ _ => exact .note rfl onward
  | selection _ _ _ _ _ => exact .note rfl onward

/-- A violation, under keys, that the check of a value at a path may report. -/
def Violation.LocatedIn (violation : Violation) (keys : List String) (path : Path) (value : Json) :
    Prop :=
  ∃ steps, violation.path = ⟨path.root, path.steps ++ steps⟩ ∧
    (∃ part, value.Leads steps part) ∧ violation.cause.Under (steps.filter Step.isNote) keys

namespace Violation.LocatedIn
variable {checker : Checker} {scope scope' : Scope} {value value' : Json} {step : Step}
  {violation : Violation} {keys : List String} {path : Path}

/-- One step back, over a step that is no note. -/
theorem back (hd : checker.Descends scope value step scope' value') (hn : step.isNote = false)
    (h : violation.LocatedIn keys (path.child step) value') : violation.LocatedIn keys path value := by
  obtain ⟨steps, hpath, ⟨part, hleads⟩, hunder⟩ := h
  refine ⟨step :: steps, ?_, ⟨part, hd.leads hleads⟩, ?_⟩
  · rw [hpath]
    simp [Path.child]
  · rw [List.filter_cons, hn]
    exact hunder

/-- One step back, over a note that answers to a key. -/
theorem back_group {key : String} (hd : checker.Descends scope value step scope' value')
    (hm : step.Marks key) (h : violation.LocatedIn keys (path.child step) value') :
    violation.LocatedIn (key :: keys) path value := by
  obtain ⟨steps, hpath, ⟨part, hleads⟩, hunder⟩ := h
  have hn : step.isNote = true := by cases hm <;> rfl
  refine ⟨step :: steps, ?_, ⟨part, hd.leads hleads⟩, ?_⟩
  · rw [hpath]
    simp [Path.child]
  · rw [List.filter_cons, hn]
    exact hunder.cons hm

end Violation.LocatedIn

/-- Every violation of an entry is located in the value that is checked. -/
def Reading.location : Reading where
  seen _ _ _ _ := True
  fault _ _ _ _ := True
  entry _ path value entry := ∀ keys violation, Entry.At (.leaf violation) keys [entry] →
    violation.LocatedIn keys path value

namespace Checker
variable (checker : Checker)

theorem carries_location : checker.Carries .location .location := by
  refine carries_ofLeaves (fun _ path value cause hcause => ?_)
    (fun hd hn path keys violation h => h.back hd hn)
    (fun hd hm path keys violation h => h.back_group hd hm) (fun _ path value property => ?_)
  · exact ⟨[], by simp, ⟨value, .here value⟩, Cause.under_nil hcause⟩
  · exact ⟨[], by simp, ⟨value, .here value⟩, [], rfl, List.Forall₂.nil⟩

end Checker

/-- Every violation of a report lies at a place of the document: its path is the
root marker and the renderings of steps that lead to a part of the document, and the
notes among them answer to the keys of the groups around the violation. -/
theorem leaf_located (validator : Validator) (value schema : Json) (root : String)
    (exchange : Exchange) (report : Report)
    (h : (validator.validate value schema root exchange).1 = .ok report) (keys : List String)
    (violation : Violation) (hat : Entry.At (.leaf violation) keys report.sink.entries) :
    ∃ steps, violation.path.text = root ++ String.join (steps.map Step.rendering) ∧
      (∃ part, value.Leads steps part) ∧ violation.cause.Under (steps.filter Step.isNote) keys := by
  obtain ⟨verdict, hverdict, rfl⟩ := Validator.exists_verdict_of_validate h
  have hall := (validator.checker exchange.direction).checkWithin_describes (fun _ => .location)
    (fun _ _ _ => trivial) (fun _ => Checker.carries_location _) (validator.settings.maxDepth + 1)
  have hadmits := (hall _ _ _).ends.result verdict hverdict
  obtain ⟨entry, hentry, hat'⟩ := hat.exists_mem
  obtain ⟨steps, hpath, hleads, hunder⟩ := hadmits.entries entry hentry keys violation hat'
  refine ⟨steps, ?_, hleads, hunder⟩
  rw [Path.text_eq, hpath]
  rfl

theorem leaf_located_missing_discriminator :
    let chooser := Json.object [("discriminator", .object [("propertyName", .string "kind")]),
      ("oneOf", .array [])]
    let schema := Json.object [("properties", .object [("pet", .object [("anyOf", .array [chooser])])]),
      ("type", .string "object")]
    let document := Json.object [("pet", .object [])]
    let missing : Violation := ⟨⟨"body", [.key "pet", .branch 0]⟩, .discriminatorMissing "kind"⟩
    let report : Report := ⟨false, ⟨[.leaf ⟨⟨"body", [.key "pet"]⟩, .noAnyOfMatch⟩,
      .group "anyOf[0]" [.leaf ⟨⟨"body", [.key "pet", .branch 0]⟩, .noOneOfMatch⟩,
        .group "discriminator[kind]" [.leaf missing]]]⟩⟩
    let keys := ["anyOf[0]", "discriminator[kind]"]
    ((Validator.mk .empty .default).validate document schema "body" (.ofDirection .request)).1 =
        .ok report ∧
      Entry.At (.leaf missing) keys report.sink.entries ∧
      missing.path.text = "body[pet]\x7bsub:0\x7d" ∧
      ∃ steps, missing.path.text = "body" ++ String.join (steps.map Step.rendering) ∧
        (∃ part, document.Leads steps part) ∧
        missing.cause.Under (steps.filter Step.isNote) keys := by
  intro chooser schema document missing report keys
  have hat : Entry.At (.leaf missing) keys report.sink.entries :=
    .inside (List.mem_cons_of_mem _ List.mem_cons_self)
      (.inside (List.mem_cons_of_mem _ List.mem_cons_self) (.here List.mem_cons_self))
  exact ⟨rfl, hat, by decide +kernel, leaf_located ⟨.empty, .default⟩ document schema "body" (.ofDirection .request)
    report rfl keys missing hat⟩

end ApiContract
