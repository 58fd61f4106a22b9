import ApiContract.Pattern.ByteRange
import ApiContract.Pattern.Extent
import ApiContract.Pattern.SlotTable

/-!
# Fans

The states that match one character of a set by its bytes.  Read forward, the
byte sequences of the set are merged where they begin alike, and states that
would be the same are shared.  Read backward, they are merged where they lead
on alike.  Slot tables find the states that are shared.
-/

namespace ApiContract
namespace Pattern

/-! ### Forward -/

/-- Byte sequences, merged where they begin alike: the ranges that may come
next, each with what follows it. -/
inductive Fan where
  | nil
  | arm (range : ByteRange) (below rest : Fan)

/-- A range of bytes and the number of the state it leads to. -/
structure Arc where
  range : ByteRange
  target : Nat
  deriving DecidableEq

/-- The hash of the arcs of a state. -/
def Arc.hash (arcs : List Arc) : SlotHash :=
  arcs.foldl (fun hash arc =>
    ((hash.mix arc.range.first.toNat).mix arc.range.last.toNat).mix arc.target) SlotHash.start

/-- What has been built, and which states are remembered. -/
structure FanBuild where
  extent : Extent
  table : SlotTable (List Arc)

namespace FanBuild

/-- Slots of the table. -/
def slots : Nat := 10000

/-- The number of a state with the given arcs, built unless it is remembered. -/
def state (build : FanBuild) (arcs : List Arc) : Nat × FanBuild :=
  let slot := (Arc.hash arcs).toNat % slots
  match build.table.number? slot arcs with
  | some number => (number, build)
  | none =>
    let number := build.extent.states
    (number, ⟨build.extent.add ⟨1, arcs.length * Extent.rangeBytes⟩,
      build.table.hold slot arcs number⟩)

end FanBuild

namespace Fan

/-- The fan of one sequence. -/
def ofSequence : List ByteRange → Fan
  | [] => .nil
  | range :: rest => .arm range (ofSequence rest) .nil

/-- The fan with one more sequence. -/
def insert : Fan → List ByteRange → Fan
  | nil, sequence => ofSequence sequence
  | fan, [] => fan
  | arm range below rest, first :: sequence =>
    if first = range then .arm range (below.insert sequence) rest
    else .arm range below (rest.insert (first :: sequence))

/-- The fan of sequences. -/
def ofSequences (sequences : List (List ByteRange)) : Fan := sequences.foldl insert .nil

/-- The arcs of a fan, after the states below them are built; `stop` is the
number of the state after the last byte. -/
def arcs (stop : Nat) : Fan → FanBuild → List Arc × FanBuild
  | nil, build => ([], build)
  | arm range nil rest, build =>
    let (later, build) := rest.arcs stop build
    (⟨range, stop⟩ :: later, build)
  | arm range below rest, build =>
    let (lower, build) := below.arcs stop build
    let (target, build) := build.state lower
    let (later, build) := rest.arcs stop build
    (⟨range, target⟩ :: later, build)

/-- The extent after the states of a fan: first the one after the last byte. -/
def extend (fan : Fan) (extent : Extent) : Extent :=
  let stop := extent.states
  let (top, build) := fan.arcs stop ⟨extent.add ⟨1, 0⟩, ∅⟩
  (build.state top).2.extent

end Fan

/-! ### Backward -/

namespace ByteRange

/-- Slots of the table of states that match one range each. -/
def slots : Nat := 1000

/-- What has been built, and which states are remembered by their ranges and
the states they lead to. -/
structure Build where
  extent : Extent
  table : SlotTable Arc

/-- The number of a state that matches a range and leads to another, built
unless it is remembered. -/
def Build.state (build : Build) (target : Nat) (range : ByteRange) : Nat × Build :=
  let arc : Arc := ⟨range, target⟩
  let hash := ((SlotHash.start.mix target).mix range.first.toNat).mix range.last.toNat
  let slot := hash.toNat % slots
  match build.table.number? slot arc with
  | some number => (number, build)
  | none =>
    let number := build.extent.states
    (number, ⟨build.extent.add ⟨1, 0⟩, build.table.hold slot arc number⟩)

/-- The build after the states of a sequence, of which the first range leads to
`target` and each other to the one before, and a link to the last of them. -/
def Build.chain (build : Build) (target : Nat) : List ByteRange → Build
  | [] => { build with extent := build.extent.add ⟨0, Extent.linkBytes⟩ }
  | range :: rest =>
    let (number, build) := build.state target range
    build.chain number rest

/-- The extent after the states of sequences read backward: one that branches,
one after all, and the chains between them. -/
def extendBackward (sequences : List (List ByteRange)) (extent : Extent) : Extent :=
  let stop := extent.states + 1
  (sequences.foldl (fun build sequence => build.chain stop sequence)
    (⟨extent.add ⟨2, 0⟩, ∅⟩ : Build)).extent

end ByteRange
end Pattern
end ApiContract
