import ApiContract.Path
import ApiContract.Path.Pointer
import ApiContract.Proofs.Descent

/-!
# Reading a path back

A path is written without escapes, and a callback template is read off what was
written.  Segments without closing brackets and notes with balanced braces are
read back as they were: the pointer names the segments, and so the keys and
positions of a path.
-/

namespace ApiContract
namespace Pointer

/-! ### Parts of a written path -/

/-- A part of a written path: a segment in brackets, or a note in braces. -/
inductive Part where
  | segment (label : List Char)
  | note (label : List Char)

namespace Part

/-- What a part writes between its brackets or braces. -/
def label : Part → List Char
  | segment label => label
  | note label => label

/-- Whether a part is in braces. -/
def isNote : Part → Bool
  | segment _ => false
  | note _ => true

/-- The part as it is written. -/
def write : Part → List Char
  | segment label => '[' :: (label ++ [']'])
  | note label => '{' :: (label ++ ['}'])

/-- The segment that a part is, if it is one. -/
def segment? : Part → Option (List Char)
  | segment label => some label
  | note _ => none

theorem filterMap_segment?_cons (part : Part) (rest : List Part) :
    (part :: rest).filterMap segment? = part.segment?.toList ++ rest.filterMap segment? := by
  cases part <;> rfl

end Part

/-- How many braces are open after a text that begins with `depth` of them open;
none if the text closes more than are open. -/
def depthAfter : (depth : Nat) → List Char → Option Nat
  | depth, [] => some depth
  | depth, c :: rest =>
    if c = '{' then depthAfter (depth + 1) rest
    else if c = '}' then
      match depth with
      | 0 => none
      | outer + 1 => depthAfter outer rest
    else depthAfter depth rest

/-- All braces of a text are closed in it, and no others. -/
def Balanced (text : List Char) : Prop := depthAfter 0 text = some 0

instance (text : List Char) : Decidable (Balanced text) := inferInstanceAs (Decidable (_ = _))

theorem depthAfter_of_not_mem {text : List Char} (hopen : '{' ∉ text) (hclose : '}' ∉ text)
    (depth : Nat) : depthAfter depth text = some depth := by
  induction text with
  | nil => rfl
  | cons c rest ih =>
    rw [List.mem_cons, not_or] at hopen hclose
    unfold depthAfter
    rw [if_neg (Ne.symm hopen.1), if_neg (Ne.symm hclose.1)]
    exact ih hopen.2 hclose.2

/-- What a part writes can be told apart from what encloses it. -/
def Part.Readable : Part → Prop
  | segment label => ']' ∉ label
  | note label => Balanced label

instance : (part : Part) → Decidable part.Readable
  | .segment label => inferInstanceAs (Decidable (']' ∉ label))
  | .note label => inferInstanceAs (Decidable (Balanced label))

/-- A segment as a token of a pointer: a tilde is written `~0` and a slash `~1`. -/
def token : List Char → List Char
  | [] => []
  | '~' :: rest => '~' :: '0' :: token rest
  | '/' :: rest => '~' :: '1' :: token rest
  | c :: rest => c :: token rest

theorem token_cons (c : Char) (rest : List Char) : token (c :: rest) = escape c ++ token rest := by
  unfold escape
  split
  · rfl
  · rfl
  · next htilde hslash => rw [token, List.singleton_append] <;> assumption

/-- The pointer to a place behind segments. -/
def ofSegments (segments : List (List Char)) : List Char :=
  segments.flatMap fun segment => '/' :: token segment

theorem ofSegments_append (segments others : List (List Char)) :
    ofSegments (segments ++ others) = ofSegments segments ++ ofSegments others :=
  List.flatMap_append

/-! ### What a scan reads -/

theorem scan_segment {label : List Char} (h : ']' ∉ label) (rest : List Char) :
    scan .segment (label ++ ']' :: rest) = token label ++ scan .between rest := by
  induction label with
  | nil => rfl
  | cons c label ih =>
    rw [List.mem_cons, not_or] at h
    rw [List.cons_append, scan, if_neg (Ne.symm h.1), ih h.2, token_cons, List.append_assoc]

theorem scan_note {label : List Char} {depth depth' : Nat} (h : depthAfter depth label = some depth')
    (rest : List Char) : scan (.note depth) (label ++ rest) = scan (.note depth') rest := by
  induction label generalizing depth with
  | nil =>
    cases h
    rfl
  | cons c label ih =>
    unfold depthAfter at h
    rw [List.cons_append]
    conv =>
      lhs
      unfold scan
    by_cases hopen : c = '{'
    · rw [if_pos hopen] at h ⊢
      exact ih h
    · rw [if_neg hopen] at h ⊢
      by_cases hclose : c = '}'
      · rw [if_pos hclose] at h ⊢
        cases depth with
        | zero => cases h
        | succ outer => exact ih h
      · rw [if_neg hclose] at h ⊢
        exact ih h

theorem scan_between_write {part : Part} (h : part.Readable) (rest : List Char) :
    scan .between (part.write ++ rest) =
      ofSegments part.segment?.toList ++ scan .between rest := by
  cases part with
  | segment label =>
    show '/' :: scan .segment (label ++ [']'] ++ rest) = _
    rw [List.append_assoc, List.singleton_append, scan_segment h]
    simp [Part.segment?, ofSegments]
  | note label =>
    show scan (.note 0) (label ++ ['}'] ++ rest) = _
    rw [List.append_assoc, scan_note h]
    rfl

theorem scan_between_parts {parts : List Part} (h : ∀ part ∈ parts, part.Readable) :
    scan .between (parts.flatMap Part.write) = ofSegments (parts.filterMap Part.segment?) := by
  induction parts with
  | nil => rfl
  | cons part rest ih =>
    have hrest := ih fun other hother => h other (List.mem_cons_of_mem _ hother)
    rw [List.flatMap_cons, scan_between_write (h part List.mem_cons_self), hrest,
      Part.filterMap_segment?_cons, ofSegments_append]

/-! ### What is dropped before the first bracket -/

theorem dropWhile_of_not_mem {text : List Char} (h : '[' ∉ text) (rest : List Char) :
    (text ++ rest).dropWhile (· ≠ '[') = rest.dropWhile (· ≠ '[') := by
  refine List.dropWhile_append_of_pos fun c hc => ?_
  have hne : c ≠ '[' := fun heq => h (heq ▸ hc)
  exact decide_eq_true hne

/-- The path of parts behind a root marker, as it is written. -/
def written (root : List Char) (parts : List Part) : List Char := root ++ parts.flatMap Part.write

/-- Parts that can be read back behind a root marker: the marker and the notes before
the first segment have no opening bracket, and each part can be read. -/
structure Legible (root : List Char) (parts : List Part) : Prop where
  root : '[' ∉ root
  leading : ∀ part ∈ parts.takeWhile Part.isNote, '[' ∉ part.label
  readable : ∀ part ∈ parts, part.Readable

theorem scan_dropWhile_parts {parts : List Part}
    (leading : ∀ part ∈ parts.takeWhile Part.isNote, '[' ∉ part.label)
    (readable : ∀ part ∈ parts, part.Readable) :
    scan .between ((parts.flatMap Part.write).dropWhile (· ≠ '[')) =
      ofSegments (parts.filterMap Part.segment?) := by
  induction parts with
  | nil => rfl
  | cons part rest ih =>
    cases part with
    | segment label =>
      rw [← scan_between_parts readable]
      rfl
    | note label =>
      rw [List.takeWhile_cons_of_pos rfl] at leading
      have hlabel : '[' ∉ label := leading _ List.mem_cons_self
      have hwrite : '[' ∉ (Part.note label).write := by simp [Part.write, hlabel]
      rw [List.flatMap_cons, dropWhile_of_not_mem hwrite]
      exact ih (fun other hother => leading other (List.mem_cons_of_mem _ hother))
        (fun other hother => readable other (List.mem_cons_of_mem _ hother))

/-- What is read off a written path are its segments. -/
theorem ofWritten_written {root : List Char} {parts : List Part} (h : Legible root parts) :
    ofWritten (written root parts) = ofSegments (parts.filterMap Part.segment?) := by
  unfold ofWritten written
  rw [dropWhile_of_not_mem h.root]
  exact scan_dropWhile_parts h.leading h.readable

end Pointer

/-! ### Steps as parts -/

/-- What a step writes between its brackets or braces. -/
def Step.label : Step → List Char
  | .key name => name.toList
  | .index position => (toString position).toList
  | .branch position => 's' :: 'u' :: 'b' :: ':' :: (toString position).toList
  | .selection property selector => property.toList ++ '=' :: selector.toList

/-- The part of a written path that a step makes. -/
def Step.part (step : Step) : Pointer.Part :=
  if step.isNote then .note step.label else .segment step.label

namespace Step

theorem write_part (step : Step) : step.part.write = step.write := by
  cases step <;> simp [part, isNote, label, Pointer.Part.write, write, natText]

theorem isNote_part (step : Step) : step.part.isNote = step.isNote := by
  cases step <;> rfl

theorem label_part (step : Step) : step.part.label = step.label := by
  cases step <;> rfl

end Step

namespace Pointer

/-- The text that a step writes can be told apart from what encloses it. -/
def Readable (step : Step) : Prop :=
  if step.isNote then Balanced step.label else ']' ∉ step.label

theorem not_mem_toDigits {c : Char} (h : c.isDigit = false) (n : Nat) : c ∉ Nat.toDigits 10 n := by
  intro hmem
  have hdigit : c.isDigit := Nat.isDigit_of_mem_toDigits (by decide) (by decide) hmem
  rw [h] at hdigit
  cases hdigit

theorem readable_index (position : Nat) : Readable (.index position) := by
  simpa [Readable, Step.isNote, Step.label] using not_mem_toDigits (by decide) position

theorem readable_branch (position : Nat) : Readable (.branch position) := by
  refine depthAfter_of_not_mem ?_ ?_ 0
  · simp [Step.label, not_mem_toDigits]
  · simp [Step.label, not_mem_toDigits]

theorem Readable.part {step : Step} (h : Readable step) : step.part.Readable := by
  cases step <;> exact h

/-- The pointer that the keys and positions of a path make. -/
def ofSteps (steps : List Step) : List Char :=
  (steps.filter fun step => !step.isNote).flatMap fun step => '/' :: token step.label

theorem ofSteps_filter (steps : List Step) :
    ofSteps (steps.filter fun step => !step.isNote) = ofSteps steps := by
  simp [ofSteps]

theorem ofSteps_cons (step : Step) (rest : List Step) :
    ofSteps (step :: rest) = ofSegments step.part.segment?.toList ++ ofSteps rest := by
  unfold ofSteps Step.part
  by_cases hnote : step.isNote = true
  · rw [List.filter_cons_of_neg (by simp [hnote]), if_pos hnote]
    rfl
  · rw [List.filter_cons_of_pos (by simp [hnote]), if_neg hnote]
    simp [Part.segment?, ofSegments]

theorem ofSteps_eq (steps : List Step) :
    ofSteps steps = ofSegments ((steps.map Step.part).filterMap Part.segment?) := by
  induction steps with
  | nil => rfl
  | cons step rest ih =>
    rw [ofSteps_cons, ih, List.map_cons, Part.filterMap_segment?_cons, ofSegments_append]

theorem written_steps (path : Path) :
    written path.root.toList (path.steps.map Step.part) = path.write := by
  rw [Path.write, written, List.flatMap_map]
  simp only [Step.write_part]

/-- The path of a written place is read back: the root marker and the notes
before the first key have no opening bracket, and each step can be read. -/
theorem ofWritten_write {path : Path} (root : '[' ∉ path.root.toList)
    (leading : ∀ step ∈ path.steps.takeWhile Step.isNote, '[' ∉ step.label)
    (readable : ∀ step ∈ path.steps, Readable step) :
    ofWritten path.write = ofSteps path.steps := by
  rw [← written_steps, ofSteps_eq]
  refine ofWritten_written ⟨root, ?_, ?_⟩
  · simpa [List.takeWhile_map, Function.comp_def, Step.isNote_part, Step.label_part] using leading
  · simpa using fun step hstep => (readable step hstep).part

end Pointer
end ApiContract
