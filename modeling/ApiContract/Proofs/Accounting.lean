import ApiContract.Exchange
import ApiContract.Proofs.Traversal

/-!
# Verdicts and what is reported

A check and its sink are kept in step: entries are only added, they are added
exactly when the value is rejected, and no group is left without a violation.
-/

namespace ApiContract

/-- A group among the entries, at any level, has a violation directly in it. -/
def Entry.GroupsHoldLeaves (entries : List Entry) : Prop :=
  ∀ keys key inner, At (group key inner) keys entries → ∃ violation, leaf violation ∈ inner

/-- Nothing is said of strings and faults, only that groups hold violations. -/
def Reading.accounting : Reading where
  seen _ _ _ _ := True
  fault _ _ _ _ := True
  entry _ _ _ entry := Entry.GroupsHoldLeaves [entry]

theorem Entry.groupsHoldLeaves_of_forall {entries : List Entry}
    (h : ∀ entry ∈ entries, GroupsHoldLeaves [entry]) : GroupsHoldLeaves entries := by
  intro keys key inner hat
  obtain ⟨top, htop, hat'⟩ := hat.exists_mem
  exact h top htop keys key inner hat'

theorem Entry.groupsHoldLeaves_leaf (violation : Violation) : GroupsHoldLeaves [leaf violation] := by
  intro keys key inner h
  cases (at_leaf_iff.mp h).2

theorem Entry.groupsHoldLeaves_group {key : String} {entries : List Entry}
    (hleaf : ∃ violation, leaf violation ∈ entries) (h : GroupsHoldLeaves entries) :
    GroupsHoldLeaves [group key entries] := by
  intro keys key' inner hat
  rcases at_group_iff.mp hat with ⟨_, hgroup⟩ | ⟨rest, _, hrest⟩
  · cases hgroup
    exact hleaf
  · exact h rest key' inner hrest

namespace Checker
variable (checker : Checker)

theorem carries_accounting : checker.Carries .accounting .accounting where
  seen_here _ _ _ := trivial
  seen_below _ _ _ _ := trivial
  fault_here _ _ := trivial
  fault_below _ _ _ _ := trivial
  leaf _ _ _ _ _ := Entry.groupsHoldLeaves_leaf _
  entry_below _ _ _ _ h := h
  group _ _ _ _ hleaf h := Entry.groupsHoldLeaves_group hleaf (Entry.groupsHoldLeaves_of_forall h)
  missing _ _ _ _ := Entry.groupsHoldLeaves_group ⟨_, List.mem_cons_self⟩
    (Entry.groupsHoldLeaves_leaf _)

theorem verdict_accounted {depth : Nat} {scope : Scope} {path : Path} {value : Json}
    {verdict : Verdict} (h : (checker.checkWithin depth scope path value).outcome = .ok verdict) :
    verdict.Backed ∧ Entry.GroupsHoldLeaves verdict.entries := by
  have hall := checker.checkWithin_describes (fun _ => .accounting) (fun _ _ _ => trivial)
    (fun _ => checker.carries_accounting) depth
  have hadmits := (hall scope path value).ends.result verdict h
  exact ⟨hadmits.backed, Entry.groupsHoldLeaves_of_forall hadmits.entries⟩

end Checker

/-- A report of which an empty sink, an empty list of messages and validity are one. -/
def Report.Consistent (report : Report) : Prop :=
  (report.valid = true ↔ report.sink.isEmpty = true) ∧ (report.valid = true ↔ report.messages = [])

theorem Report.consistent_of_backed {verdict : Verdict} (h : verdict.Backed) :
    (⟨verdict.accepted, Sink.empty.append verdict.entries⟩ : Report).Consistent := by
  constructor
  · exact h.accepted_iff.trans List.isEmpty_iff.symm
  · constructor
    · intro haccepted
      show Entry.messagesOf "" verdict.entries = []
      rw [h.none_of_accepted haccepted]
      rfl
    · intro hnone
      cases haccepted : verdict.accepted with
      | true => rfl
      | false =>
        obtain ⟨violation, hv⟩ := h.leaf_of_rejected haccepted
        exact absurd hnone (Entry.messagesOf_ne_nil hv)

theorem Report.consistent_of_push (violation : Violation) :
    (⟨false, Sink.empty.push violation⟩ : Report).Consistent :=
  ⟨⟨nofun, nofun⟩, ⟨nofun, nofun⟩⟩

/-- Whatever a check is given and whatever its sink already holds: if it ends in
a verdict, then entries were added behind those of the sink, none exactly if the
value is accepted, and each group among them holds a violation.  So a report is
valid exactly if its sink is empty and exactly if it has no messages. -/
theorem checkInto_accounts :
    (∀ (checker : Checker) (depth : Nat) (scope : Scope) (path : Path) (value : Json)
      (sink after : Sink) (accepted : Bool),
      (checker.checkInto depth scope path value sink).outcome = .ok (accepted, after) →
      ∃ added, after.entries = sink.entries ++ added ∧ (accepted = true ↔ added = []) ∧
        Entry.GroupsHoldLeaves added) ∧
    (∀ (validator : Validator) (value schema : Json) (root : String) (exchange : Exchange)
      (report : Report), (validator.validate value schema root exchange).1 = .ok report →
      report.Consistent) ∧
    (∀ (validator : Validator) (text : String) (schema : Json) (root : String) (exchange : Exchange)
      (report : Report), (validator.validateText text schema root exchange).1 = .ok report →
      report.Consistent) := by
  have hvalue (validator : Validator) (value schema : Json) (root : String) (exchange : Exchange)
      (report : Report) (h : (validator.validate value schema root exchange).1 = .ok report) :
      report.Consistent := by
    obtain ⟨verdict, hverdict, rfl⟩ := Validator.exists_verdict_of_validate h
    exact Report.consistent_of_backed (Checker.verdict_accounted _ hverdict).1
  refine ⟨?_, hvalue, ?_⟩
  · intro checker depth scope path value sink after accepted h
    obtain ⟨verdict, hverdict, rfl, rfl⟩ := Checker.exists_verdict_of_checkInto h
    obtain ⟨hbacked, hgroups⟩ := checker.verdict_accounted hverdict
    exact ⟨verdict.entries, rfl, hbacked.accepted_iff, hgroups⟩
  · intro validator text schema root exchange report h
    unfold Validator.validateText at h
    split at h
    · exact hvalue validator _ schema root exchange report h
    · cases h
      exact Report.consistent_of_push _

theorem checkInto_accounts_failed_branch :
    let schema := Json.object [("allOf", .array [.object []])]
    let sink : Sink := ⟨[.leaf ⟨⟨"body", []⟩, .allOfMismatch 1⟩,
      .group "allOf[0]" [.leaf ⟨⟨"body", [.branch 0]⟩, .invalidType "object" "null"⟩]]⟩
    let nullSchema := Json.object [("type", .string "null")]
    ((Checker.mk .empty .default .request).checkInto 2 (.root schema) (.ofRoot "body") .null
        .empty).outcome = .ok (false, sink) ∧
      (∃ added, sink.entries = [] ++ added ∧ (false = true ↔ added = []) ∧
        Entry.GroupsHoldLeaves added) ∧
      ((Validator.mk .empty .default).validate .null schema "body" (.ofDirection .request)).1 =
        .ok ⟨false, sink⟩ ∧ (⟨false, sink⟩ : Report).Consistent ∧
      ((Validator.mk .empty .default).validateText "null" nullSchema "body"
        (.ofDirection .request)).1 = .ok ⟨true, .empty⟩ ∧ (⟨true, .empty⟩ : Report).Consistent := by
  intro schema sink nullSchema
  obtain ⟨hsink, hvalue, htext⟩ := checkInto_accounts
  exact ⟨rfl, hsink ⟨.empty, .default, .request⟩ 2 (.root schema) _ .null .empty sink false rfl,
    rfl, hvalue ⟨.empty, .default⟩ .null schema "body" (.ofDirection .request) _ rfl,
    rfl, htext ⟨.empty, .default⟩ "null" nullSchema "body" (.ofDirection .request) _ rfl⟩

end ApiContract
