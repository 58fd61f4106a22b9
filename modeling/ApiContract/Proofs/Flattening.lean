import ApiContract.Report

/-!
# Flattened reports

A sink is read as a list of violations and as a list of messages.  Both lists go
through its groups in the same order, so a position in one is a position in the
other: the message there is the violation's own, after the keys of the groups
around it, the outermost first.  What is added to a sink is added at the end of
both lists.
-/

namespace ApiContract
namespace Entry

/-- The violation at a position among all violations of entries, in order, with the
keys of the groups around it, outermost first. -/
inductive Nth (violation : Violation) : (position : Nat) → (keys : List String) →
    List Entry → Prop where
  | here {rest : List Entry} : Nth violation 0 [] (leaf violation :: rest)
  | inside {position : Nat} {key : String} {keys : List String} {inner rest : List Entry}
    (under : Nth violation position keys inner) :
    Nth violation position (key :: keys) (group key inner :: rest)
  | behind (entry : Entry) {position : Nat} {keys : List String} {rest : List Entry}
    (later : Nth violation position keys rest) :
    Nth violation ((leaves entry).length + position) keys (entry :: rest)

/-- What stands before the message of a violation inside groups. -/
def heading : List String → String
  | [] => ""
  | key :: keys => key ++ ": " ++ heading keys

/-! ### Two readings of one tree -/

mutual

theorem length_messages (before : String) : (entry : Entry) →
    (messages before entry).length = (leaves entry).length
  | leaf _ => rfl
  | group key entries => length_messagesOf (before ++ key ++ ": ") entries

theorem length_messagesOf (before : String) : (entries : List Entry) →
    (messagesOf before entries).length = (leavesOf entries).length
  | [] => rfl
  | entry :: rest => by
    rw [messagesOf, leavesOf, List.length_append, List.length_append,
      length_messages before entry, length_messagesOf before rest]

end

mutual

/-- What stands before the messages of a part may as well be put there afterwards. -/
theorem messages_append_before (before after : String) : (entry : Entry) →
    messages (before ++ after) entry = (messages after entry).map (before ++ ·)
  | leaf violation => by
    rw [messages, messages, List.map_singleton, String.append_assoc]
  | group key entries => by
    rw [messages, messages, String.append_assoc, String.append_assoc,
      messagesOf_append_before before _ entries, String.append_assoc]

theorem messagesOf_append_before (before after : String) : (entries : List Entry) →
    messagesOf (before ++ after) entries = (messagesOf after entries).map (before ++ ·)
  | [] => rfl
  | entry :: rest => by
    rw [messagesOf, messagesOf, List.map_append, messages_append_before before after entry,
      messagesOf_append_before before after rest]

end

/-! ### Positions -/

namespace Nth
variable {violation : Violation} {position : Nat} {keys : List String} {entries : List Entry}

/-- The groups around a violation at a position are groups around the violation. -/
theorem at_leaf (h : Nth violation position keys entries) : At (leaf violation) keys entries := by
  induction h with
  | here => exact .here List.mem_cons_self
  | inside _ ih => exact .inside List.mem_cons_self ih
  | behind _ _ ih =>
    cases ih with
    | here member => exact .here (List.mem_cons_of_mem _ member)
    | inside member under => exact .inside (List.mem_cons_of_mem _ member) under

theorem getElem?_leavesOf (h : Nth violation position keys entries) :
    (leavesOf entries)[position]? = some violation := by
  induction h with
  | here => rfl
  | inside _ ih =>
    rw [leavesOf, leaves, List.getElem?_append_left (List.getElem?_eq_some_iff.mp ih).1]
    exact ih
  | behind _ _ ih =>
    rw [leavesOf, List.getElem?_append_right (Nat.le_add_right _ _), Nat.add_sub_cancel_left]
    exact ih

theorem getElem?_messagesOf (before : String) (h : Nth violation position keys entries) :
    (messagesOf before entries)[position]? = some (before ++ heading keys ++ violation.message) := by
  induction h generalizing before with
  | here =>
    rw [heading, String.append_empty]
    rfl
  | @inside position key keys inner rest _ ih =>
    have hinner := ih (before ++ key ++ ": ")
    rw [messagesOf, messages, List.getElem?_append_left (List.getElem?_eq_some_iff.mp hinner).1,
      hinner, heading]
    simp only [String.append_assoc]
  | @behind entry position keys rest _ ih =>
    rw [messagesOf, ← length_messages before entry,
      List.getElem?_append_right (Nat.le_add_right _ _), Nat.add_sub_cancel_left]
    exact ih before

end Nth

/-- Every position below the count of violations has one. -/
theorem exists_nth : (entries : List Entry) → {position : Nat} →
    position < (leavesOf entries).length → ∃ keys violation, Nth violation position keys entries
  | leaf violation :: rest, 0, _ => ⟨[], violation, .here⟩
  | leaf violation :: rest, position + 1, h => by
    have hrest : position < (leavesOf rest).length := Nat.lt_of_succ_lt_succ h
    obtain ⟨keys, later, hlater⟩ := exists_nth rest hrest
    rw [Nat.add_comm]
    exact ⟨keys, later, .behind (leaf violation) hlater⟩
  | group key inner :: rest, position, h => by
    -- inside the group, or behind all that it holds
    by_cases hinner : position < (leavesOf inner).length
    · obtain ⟨keys, under, hunder⟩ := exists_nth inner hinner
      exact ⟨key :: keys, under, .inside hunder⟩
    · rw [leavesOf, leaves, List.length_append] at h
      obtain ⟨left, rfl⟩ := Nat.exists_eq_add_of_le (Nat.le_of_not_lt hinner)
      obtain ⟨keys, later, hlater⟩ := exists_nth rest (Nat.lt_of_add_lt_add_left h)
      exact ⟨keys, later, .behind (group key inner) hlater⟩

end Entry

namespace Sink

theorem leaves_push (sink : Sink) (violation : Violation) :
    (sink.push violation).leaves = sink.leaves ++ [violation] := by
  rw [push_eq_append, leaves_append]
  rfl

theorem messages_push (sink : Sink) (violation : Violation) :
    (sink.push violation).messages = sink.messages ++ [violation.message] := by
  rw [push_eq_append, messages_append, Entry.messagesOf, Entry.messages, Entry.messagesOf,
    String.empty_append]
  rfl

theorem leaves_pushGroup (sink : Sink) (key : String) (branch : Sink) :
    (sink.pushGroup key branch).leaves = sink.leaves ++ branch.leaves := by
  rw [pushGroup_eq_append, leaves_append, Entry.leavesOf, Entry.leaves, Entry.leavesOf,
    List.append_nil]
  rfl

theorem messages_pushGroup (sink : Sink) (key : String) (branch : Sink) :
    (sink.pushGroup key branch).messages =
      sink.messages ++ branch.messages.map (fun message => key ++ ": " ++ message) := by
  have hgroup := Entry.messagesOf_append_before (key ++ ": ") "" branch.entries
  rw [String.append_empty] at hgroup
  rw [pushGroup_eq_append, messages_append, Entry.messagesOf, Entry.messages, Entry.messagesOf,
    List.append_nil, String.empty_append, hgroup]
  rfl

/-- Messages and violations of a sink go together, position by position.  The message
at a position is that of the violation there, which begins with the violation's
path, after the keys of the groups around it.  A violation that is added comes
last in both lists; so do those of a group, in order, their messages after its key. -/
theorem messages_announce_leaves (sink : Sink) :
    sink.messages.length = sink.leaves.length ∧
    (∀ position, position < sink.leaves.length →
      ∃ keys violation, Entry.Nth violation position keys sink.entries) ∧
    (∀ position keys violation, Entry.Nth violation position keys sink.entries →
      Entry.At (.leaf violation) keys sink.entries ∧
      sink.leaves[position]? = some violation ∧
      sink.messages[position]? = some (Entry.heading keys ++ violation.message) ∧
      violation.message = violation.path.text ++ ": " ++ violation.cause.message) ∧
    (∀ violation,
      (sink.push violation).leaves = sink.leaves ++ [violation] ∧
      (sink.push violation).messages = sink.messages ++ [violation.message]) ∧
    (∀ key branch,
      (sink.pushGroup key branch).leaves = sink.leaves ++ branch.leaves ∧
      (sink.pushGroup key branch).messages =
        sink.messages ++ branch.messages.map (fun message => key ++ ": " ++ message) ∧
      (sink.pushGroup key branch).length = sink.length + 1) := by
  refine ⟨Entry.length_messagesOf "" sink.entries, fun _ => Entry.exists_nth sink.entries,
    fun position keys violation hnth => ?_,
    fun violation => ⟨sink.leaves_push violation, sink.messages_push violation⟩,
    fun key branch => ⟨sink.leaves_pushGroup key branch, sink.messages_pushGroup key branch,
      sink.length_append _⟩⟩
  have hmessage := hnth.getElem?_messagesOf ""
  rw [String.empty_append] at hmessage
  exact ⟨hnth.at_leaf, hnth.getElem?_leavesOf, hmessage, rfl⟩

/-- A violation two groups deep, behind an empty group. -/
theorem messages_announce_leaves_nested :
    let missing : Violation := ⟨⟨"body", [.branch 1, .branch 0]⟩, .missingRequiredProperty "x"⟩
    let inner := (Sink.empty.push ⟨⟨"body", [.branch 1]⟩, .noAnyOfMatch⟩).pushGroup "anyOf[0]"
      (Sink.empty.push missing)
    let sink := (Sink.empty.pushGroup "oneOf[0]" .empty).pushGroup "oneOf[1]" inner
    1 < sink.leaves.length ∧
      Entry.Nth missing 1 ["oneOf[1]", "anyOf[0]"] sink.entries ∧
      sink.leaves[1]? = some missing ∧
      sink.messages[1]? = some
        "oneOf[1]: anyOf[0]: body\x7bsub:1\x7d\x7bsub:0\x7d: required property 'x' is missing" := by
  intro missing inner sink
  have hinner : Entry.Nth missing 1 ["anyOf[0]"] inner.entries :=
    .behind (.leaf ⟨⟨"body", [.branch 1]⟩, .noAnyOfMatch⟩) (.inside .here)
  have hnth : Entry.Nth missing (0 + 1) ["oneOf[1]", "anyOf[0]"] sink.entries :=
    .behind (.group "oneOf[0]" []) (.inside hinner)
  obtain ⟨_, _, hall, _, _⟩ := sink.messages_announce_leaves
  obtain ⟨-, hleaf, hmessage, -⟩ := hall 1 _ missing hnth
  exact ⟨by decide, hnth, hleaf, hmessage.trans (by decide +kernel)⟩

end Sink
end ApiContract
