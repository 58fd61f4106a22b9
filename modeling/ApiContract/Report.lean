import ApiContract.Violation

/-!
# Reports

The violations of a run in the order in which they were found.  The violations
of a rejected branch are nested under the branch's key.
-/

namespace ApiContract

/-- A violation, or the entries of a branch under its key. -/
inductive Entry where
  | leaf (violation : Violation)
  | group (key : String) (entries : List Entry)

namespace Entry

mutual

/-- The violations of an entry, in order. -/
def leaves : Entry → List Violation
  | leaf violation => [violation]
  | group _ entries => leavesOf entries

/-- The violations of entries, in order. -/
def leavesOf : List Entry → List Violation
  | [] => []
  | entry :: rest => leaves entry ++ leavesOf rest

end

mutual

/-- The messages of an entry, each after the keys of the groups around it. -/
def messages (before : String) : Entry → List String
  | leaf violation => [before ++ violation.message]
  | group key entries => messagesOf (before ++ key ++ ": ") entries

/-- The messages of entries, in order. -/
def messagesOf (before : String) : List Entry → List String
  | [] => []
  | entry :: rest => messages before entry ++ messagesOf before rest

end

/-- An entry among entries, under the keys of the groups around it, outermost first. -/
inductive At (entry : Entry) : List String → List Entry → Prop where
  | here {entries : List Entry} (member : entry ∈ entries) : At entry [] entries
  | inside {key : String} {keys : List String} {inner entries : List Entry}
    (member : group key inner ∈ entries) (under : At entry keys inner) :
    At entry (key :: keys) entries

/-! ### Laws -/

theorem At.exists_mem {entry : Entry} {keys : List String} {entries : List Entry}
    (h : At entry keys entries) : ∃ top ∈ entries, At entry keys [top] := by
  cases h with
  | here member => exact ⟨entry, member, .here List.mem_cons_self⟩
  | inside member under => exact ⟨_, member, .inside List.mem_cons_self under⟩

theorem at_leaf_iff {entry : Entry} {keys : List String} {violation : Violation} :
    At entry keys [leaf violation] ↔ keys = [] ∧ entry = leaf violation := by
  constructor
  · intro h
    cases h with
    | here member => exact ⟨rfl, List.mem_singleton.mp member⟩
    | inside member _ => cases List.mem_singleton.mp member
  · rintro ⟨rfl, rfl⟩
    exact .here List.mem_cons_self

theorem at_group_iff {entry : Entry} {keys : List String} {key : String} {inner : List Entry} :
    At entry keys [group key inner] ↔
      (keys = [] ∧ entry = group key inner) ∨ ∃ rest, keys = key :: rest ∧ At entry rest inner := by
  constructor
  · intro h
    cases h with
    | here member => exact .inl ⟨rfl, List.mem_singleton.mp member⟩
    | inside member under =>
      cases List.mem_singleton.mp member
      exact .inr ⟨_, rfl, under⟩
  · rintro (⟨rfl, rfl⟩ | ⟨rest, rfl, under⟩)
    · exact .here List.mem_cons_self
    · exact .inside List.mem_cons_self under

theorem messagesOf_ne_nil {before : String} {violation : Violation} {entries : List Entry}
    (h : leaf violation ∈ entries) : messagesOf before entries ≠ [] := by
  induction entries with
  | nil => cases h
  | cons entry rest ih =>
    rcases List.mem_cons.mp h with rfl | hrest
    · exact List.cons_ne_nil _ _
    · exact List.append_ne_nil_of_right_ne_nil _ (ih hrest)

theorem leavesOf_append (front back : List Entry) :
    leavesOf (front ++ back) = leavesOf front ++ leavesOf back := by
  induction front with
  | nil => rfl
  | cons entry rest ih => simp [leavesOf, ih]

theorem messagesOf_append (before : String) (front back : List Entry) :
    messagesOf before (front ++ back) = messagesOf before front ++ messagesOf before back := by
  induction front with
  | nil => rfl
  | cons entry rest ih => simp [messagesOf, ih]

end Entry

/-- A growing list of entries. -/
structure Sink where
  entries : List Entry

namespace Sink

/-- No entries. -/
def empty : Sink := ⟨[]⟩

/-- Adds a violation at the end. -/
def push (sink : Sink) (violation : Violation) : Sink :=
  ⟨sink.entries ++ [.leaf violation]⟩

/-- Adds the entries of another sink under a key at the end. -/
def pushGroup (sink : Sink) (key : String) (branch : Sink) : Sink :=
  ⟨sink.entries ++ [.group key branch.entries]⟩

/-- Adds entries at the end. -/
def append (sink : Sink) (entries : List Entry) : Sink := ⟨sink.entries ++ entries⟩

/-- Count of entries; a group counts once. -/
def length (sink : Sink) : Nat := sink.entries.length

/-- Whether there are no entries. -/
def isEmpty (sink : Sink) : Bool := sink.entries.isEmpty

/-- All violations, groups flattened in order. -/
def leaves (sink : Sink) : List Violation := Entry.leavesOf sink.entries

/-- All messages, groups flattened in order. -/
def messages (sink : Sink) : List String := Entry.messagesOf "" sink.entries

/-! ### Laws -/

theorem push_eq_append (sink : Sink) (violation : Violation) :
    sink.push violation = sink.append [.leaf violation] := rfl

theorem pushGroup_eq_append (sink : Sink) (key : String) (branch : Sink) :
    sink.pushGroup key branch = sink.append [.group key branch.entries] := rfl

theorem leaves_append (sink : Sink) (entries : List Entry) :
    (sink.append entries).leaves = sink.leaves ++ Entry.leavesOf entries :=
  Entry.leavesOf_append sink.entries entries

theorem messages_append (sink : Sink) (entries : List Entry) :
    (sink.append entries).messages = sink.messages ++ Entry.messagesOf "" entries :=
  Entry.messagesOf_append "" sink.entries entries

theorem length_append (sink : Sink) (entries : List Entry) :
    (sink.append entries).length = sink.length + entries.length := by
  simp [length, append]

end Sink

/-- Outcome of checking one document. -/
structure Report where
  valid : Bool
  sink : Sink

/-- All messages of a report. -/
def Report.messages (report : Report) : List String := report.sink.messages

end ApiContract
