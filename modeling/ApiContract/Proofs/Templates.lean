import ApiContract.Proofs.Pointers

/-!
# Templates of paths

A template names the segments of a written path in order, and nothing else of it.
The escapes of a pointer can be read back, so paths share a template exactly when
they have the same segments.
-/

namespace ApiContract
namespace Pointer

/-! ### Reading a pointer -/

/-- The tokens of a pointer: what stands before its first slash, and the token behind
each slash. -/
def read : List Char → List Char × List (List Char)
  | [] => ([], [])
  | '/' :: rest => ([], (read rest).1 :: (read rest).2)
  | '~' :: '0' :: rest => ('~' :: (read rest).1, (read rest).2)
  | '~' :: '1' :: rest => ('/' :: (read rest).1, (read rest).2)
  | c :: rest => (c :: (read rest).1, (read rest).2)

theorem read_escape (c : Char) (rest : List Char) :
    read (escape c ++ rest) = (c :: (read rest).1, (read rest).2) := by
  by_cases htilde : c = '~'
  · subst htilde
    rfl
  by_cases hslash : c = '/'
  · subst hslash
    rfl
  have hescape : escape c = [c] := by simp [escape]
  rw [hescape, List.singleton_append, read]
  · exact hslash
  · rintro _ rfl
    contradiction
  · rintro _ rfl
    contradiction

theorem read_token (segment rest : List Char) :
    read (token segment ++ rest) = (segment ++ (read rest).1, (read rest).2) := by
  induction segment with
  | nil => rfl
  | cons c segment ih =>
    rw [token_cons, List.append_assoc, read_escape, ih]
    rfl

/-- The segments of a pointer are read back. -/
theorem read_ofSegments (segments : List (List Char)) :
    read (ofSegments segments) = ([], segments) := by
  induction segments with
  | nil => rfl
  | cons segment rest ih =>
    show read ('/' :: (token segment ++ ofSegments rest)) = _
    rw [read, read_token, ih, List.append_nil]

theorem ofSegments_injective : Function.Injective ofSegments := by
  intro segments others heq
  have hread : read (ofSegments segments) = read (ofSegments others) := by rw [heq]
  rw [read_ofSegments, read_ofSegments] at hread
  exact (Prod.mk.inj hread).2

/-! ### Templates -/

theorem template_written {root : List Char} {parts : List Part} (h : Legible root parts) :
    template (written root parts) =
      "\x7b$request.body#".toList ++ ofSegments (parts.filterMap Part.segment?) ++ ['}'] := by
  rw [template, ofWritten_written h]
  rfl

/-- A template points to the segments of the path, in order and escaped; notes leave no
trace in it.  Two paths have one template exactly when they have the same segments. -/
theorem template_names_segments {root root' : List Char} {parts parts' : List Part}
    (h : Legible root parts) (h' : Legible root' parts') :
    template (written root parts) =
        "\x7b$request.body#".toList ++ (parts.filterMap Part.segment?).flatMap
          (fun segment => '/' :: token segment) ++ ['}'] ∧
      (template (written root parts) = template (written root' parts') ↔
        parts.filterMap Part.segment? = parts'.filterMap Part.segment?) := by
  refine ⟨template_written h, ?_⟩
  rw [template_written h, template_written h', List.append_left_inj, List.append_right_inj]
  exact ofSegments_injective.eq_iff

/-- A key with brackets, braces, a slash and a tilde, below notes with nested braces:
the notes and the root may be others, the last key may not. -/
theorem template_names_segments_nested :
    let key := Part.segment "a[\x7b/~0".toList
    let parts := [.note "kind=\x7bx\x7d".toList, key, .note "sub:1[".toList, .segment ['0']]
    Legible "body\x7b".toList parts ∧ Legible [] [key, .segment ['0']] ∧
      template (written "body\x7b".toList parts) =
        "\x7b$request.body#/a[\x7b~1~00/0\x7d".toList ∧
      template (written "body\x7b".toList parts) = template (written [] [key, .segment ['0']]) ∧
      template (written "body\x7b".toList parts) ≠ template (written [] [key, .segment ['1']]) := by
  intro key parts
  have hparts : Legible "body\x7b".toList parts := ⟨by decide, by decide, by decide⟩
  have hsame : Legible [] [key, .segment ['0']] := ⟨by decide, by decide, by decide⟩
  have hother : Legible [] [key, .segment ['1']] := ⟨by decide, by decide, by decide⟩
  obtain ⟨hnamed, hequal⟩ := template_names_segments hparts hsame
  obtain ⟨-, hdifferent⟩ := template_names_segments hparts hother
  refine ⟨hparts, hsame, hnamed.trans (by decide), hequal.mpr (by decide), ?_⟩
  exact fun heq => absurd (hdifferent.mp heq) (by decide)

end Pointer
end ApiContract
