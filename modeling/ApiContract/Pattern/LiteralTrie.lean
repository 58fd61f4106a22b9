import ApiContract.Pattern.Extent

/-!
# Tries of texts

Alternatives that are all texts are matched by a trie of their bytes.  Below a
node the arms stand in order of preference: where a text ends, the arms before
are tried first, so a text that comes later never shares an arm with one from
before the end.
-/

namespace ApiContract
namespace Pattern

/-- The arms and ends of a node, in order. -/
inductive LiteralTrie where
  | nil
  | ending (rest : LiteralTrie)
  | arm (byte : UInt8) (below rest : LiteralTrie)

namespace LiteralTrie

/-- The trie of one text. -/
def ofBytes : List UInt8 → LiteralTrie
  | [] => .ending .nil
  | byte :: rest => .arm byte (ofBytes rest) .nil

/-- Whether a text ends at a node. -/
def hasEnding : LiteralTrie → Bool
  | nil => false
  | ending _ => true
  | arm _ _ rest => rest.hasEnding

/-- Whether a node has no arms. -/
def isLeaf : LiteralTrie → Bool
  | nil => true
  | ending rest => rest.isLeaf
  | arm .. => false

/-- Whether a node is empty. -/
def isNil : LiteralTrie → Bool
  | nil => true
  | _ => false

/-- The trie with one more text; `whole` tells whether the arms and ends given
are all that their node has.  At a node without arms one end is enough. -/
def insert (whole : Bool) : LiteralTrie → List UInt8 → LiteralTrie
  | nil, bytes => ofBytes bytes
  | ending rest, [] => if whole && rest.isNil then .ending rest else .ending (rest.insert false [])
  | ending rest, bytes => .ending (rest.insert false bytes)
  | arm byte below rest, [] => .arm byte below (rest.insert false [])
  | arm byte below rest, first :: bytes =>
    if first = byte && !rest.hasEnding then .arm byte (below.insert true bytes) rest
    else .arm byte below (rest.insert false (first :: bytes))

/-- The trie of texts. -/
def ofTexts (texts : List (List UInt8)) : LiteralTrie :=
  texts.foldl (fun trie bytes => trie.insert true bytes) .nil

/-- What arms with no end between them take: a state, listed by the node's own,
with a table unless there is one arm only. -/
def runExtent : (arms : Nat) → Extent
  | 0 => .zero
  | 1 => ⟨1, Extent.linkBytes⟩
  | arms => ⟨1, arms * Extent.rangeBytes + Extent.linkBytes⟩

/-- What the arms and ends of a node take, and all below; `arms` counts the arms
since the last end.  Each end is listed by the node's own state. -/
def extentFrom (arms : Nat) : LiteralTrie → Extent
  | nil => (runExtent arms).add ⟨1, 0⟩
  | ending rest => ((runExtent arms).add ⟨0, Extent.linkBytes⟩).add (rest.extentFrom 0)
  | arm _ below rest =>
    (if below.isLeaf then .zero else below.extentFrom 0).add (rest.extentFrom (arms + 1))

/-- What a trie takes, with the state where all its texts end. -/
def extent (trie : LiteralTrie) : Extent := (trie.extentFrom 0).add ⟨1, 0⟩

end LiteralTrie
end Pattern
end ApiContract
