/-!
# Extents

What a machine that matches a pattern takes: a number of states and the bytes of
their tables.  Machines are limited, and building one stops where the limit is
passed.
-/

namespace ApiContract
namespace Pattern

/-- States, and bytes beside them. -/
structure Extent where
  states : Nat
  extra : Nat
  deriving DecidableEq

/-- Bytes that a machine may take. -/
def sizeLimit : Nat := 10485760

namespace Extent

/-- Bytes of a state. -/
def stateBytes : Nat := 32

/-- Bytes of a range of bytes in a state's table, with the state it leads to. -/
def rangeBytes : Nat := 8

/-- Bytes of a link from a state that branches. -/
def linkBytes : Nat := 4

/-- The extent of nothing. -/
def zero : Extent := ⟨0, 0⟩

/-- Both extents. -/
def add (a b : Extent) : Extent := ⟨a.states + b.states, a.extra + b.extra⟩

/-- The bytes of an extent. -/
def bytes (extent : Extent) : Nat := extent.states * stateBytes + extent.extra

/-- The extent if it keeps to the limit. -/
def limited (extent : Extent) : Option Extent :=
  if sizeLimit < extent.bytes then none else some extent

/-- The extent with more, if it keeps to the limit then. -/
def grow (extent more : Extent) : Option Extent := (extent.add more).limited

/-! ### Laws -/

theorem bytes_add (a b : Extent) : (a.add b).bytes = a.bytes + b.bytes := by
  simp only [bytes, add, Nat.add_mul]
  omega

theorem limited_eq_some_iff (a b : Extent) : a.limited = some b ↔ a = b ∧ a.bytes ≤ sizeLimit := by
  unfold limited
  split
  · simp; omega
  · simp; omega

theorem bytes_le_of_grow {a more b : Extent} (h : a.grow more = some b) : a.bytes ≤ b.bytes := by
  obtain ⟨rfl, _⟩ := (limited_eq_some_iff _ _).1 h
  rw [bytes_add]
  exact Nat.le_add_right _ _

end Extent
end Pattern
end ApiContract
