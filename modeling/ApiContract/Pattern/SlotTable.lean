import Std.Data.HashMap

/-!
# Slot tables

A table with a fixed count of slots that remembers numbers by keys.  Each slot
holds the last key that fell into it, so a key may be forgotten; what is found
is never wrong.
-/

namespace ApiContract
namespace Pattern

/-- A hash in 64 bits. -/
abbrev SlotHash := UInt64

namespace SlotHash

/-- The hash of nothing. -/
def start : SlotHash := 14695981039346656037

/-- The hash with one more number. -/
def mix (hash : SlotHash) (value : Nat) : SlotHash := (hash ^^^ UInt64.ofNat value) * 1099511628211

end SlotHash

/-- The keys and numbers by slots. -/
abbrev SlotTable (κ : Type) := Std.HashMap Nat (κ × Nat)

namespace SlotTable

variable {κ : Type} [DecidableEq κ]

/-- The number of a key, if its slot still holds it. -/
def number? (table : SlotTable κ) (slot : Nat) (key : κ) : Option Nat :=
  match table[slot]? with
  | some (held, number) => if held = key then some number else none
  | none => none

/-- The table with a key in its slot. -/
def hold (table : SlotTable κ) (slot : Nat) (key : κ) (number : Nat) : SlotTable κ :=
  table.insert slot (key, number)

theorem number?_eq_some_iff (table : SlotTable κ) (slot : Nat) (key : κ) (number : Nat) :
    table.number? slot key = some number ↔ table[slot]? = some (key, number) := by
  unfold number?
  split
  · rename_i held found heq
    by_cases same : held = key
    · simp [heq, same]
    · simp [heq, same]
  · rename_i heq
    simp [heq]

theorem number?_hold (table : SlotTable κ) (slot : Nat) (key : κ) (number : Nat) :
    (table.hold slot key number).number? slot key = some number := by
  simp [number?, hold]

theorem number?_hold_of_ne (table : SlotTable κ) {slot other : Nat} (h : slot ≠ other)
    (key key' : κ) (number : Nat) :
    (table.hold slot key number).number? other key' = table.number? other key' := by
  simp [number?, hold, Std.HashMap.getElem?_insert, h]

end SlotTable
end Pattern
end ApiContract
