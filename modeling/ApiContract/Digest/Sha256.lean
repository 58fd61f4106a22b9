/-!
# SHA-256

The digest of a list of bytes.  Words are 32 bits wide and bytes are taken most
significant first.
-/

namespace ApiContract
namespace Sha256

/-- Round constants. -/
def roundConstants : List UInt32 := [
  0x428a2f98, 0x71374491, 0xb5c0fbcf, 0xe9b5dba5, 0x3956c25b, 0x59f111f1, 0x923f82a4, 0xab1c5ed5,
  0xd807aa98, 0x12835b01, 0x243185be, 0x550c7dc3, 0x72be5d74, 0x80deb1fe, 0x9bdc06a7, 0xc19bf174,
  0xe49b69c1, 0xefbe4786, 0x0fc19dc6, 0x240ca1cc, 0x2de92c6f, 0x4a7484aa, 0x5cb0a9dc, 0x76f988da,
  0x983e5152, 0xa831c66d, 0xb00327c8, 0xbf597fc7, 0xc6e00bf3, 0xd5a79147, 0x06ca6351, 0x14292967,
  0x27b70a85, 0x2e1b2138, 0x4d2c6dfc, 0x53380d13, 0x650a7354, 0x766a0abb, 0x81c2c92e, 0x92722c85,
  0xa2bfe8a1, 0xa81a664b, 0xc24b8b70, 0xc76c51a3, 0xd192e819, 0xd6990624, 0xf40e3585, 0x106aa070,
  0x19a4c116, 0x1e376c08, 0x2748774c, 0x34b0bcb5, 0x391c0cb3, 0x4ed8aa4a, 0x5b9cca4f, 0x682e6ff3,
  0x748f82ee, 0x78a5636f, 0x84c87814, 0x8cc70208, 0x90befffa, 0xa4506ceb, 0xbef9a3f7, 0xc67178f2]

/-- The eight words of a state. -/
structure State where
  a : UInt32
  b : UInt32
  c : UInt32
  d : UInt32
  e : UInt32
  f : UInt32
  g : UInt32
  h : UInt32

/-- The state before the first block. -/
def initial : State :=
  ⟨0x6a09e667, 0xbb67ae85, 0x3c6ef372, 0xa54ff53a, 0x510e527f, 0x9b05688c, 0x1f83d9ab, 0x5be0cd19⟩

/-- Rotation to the right. -/
def rotate (x : UInt32) (n : UInt32) : UInt32 := (x >>> n) ||| (x <<< (32 - n))

/-- The word that follows sixteen words of a schedule. -/
def nextWord (w0 w1 w9 w14 : UInt32) : UInt32 :=
  let low := rotate w1 7 ^^^ rotate w1 18 ^^^ (w1 >>> 3)
  let high := rotate w14 17 ^^^ rotate w14 19 ^^^ (w14 >>> 10)
  w0 + low + w9 + high

/-- The schedule of a block: `count` words from a window of the latest sixteen. -/
def schedule : (count : Nat) → (window : List UInt32) → List UInt32
  | count + 1, w0 :: w1 :: rest =>
    let next := nextWord w0 w1 (rest.getD 7 0) (rest.getD 12 0)
    w0 :: schedule count (w1 :: rest ++ [next])
  | _, _ => []

/-- One round. -/
def step (s : State) (constant word : UInt32) : State :=
  let sum1 := rotate s.e 6 ^^^ rotate s.e 11 ^^^ rotate s.e 25
  let choice := (s.e &&& s.f) ^^^ ((s.e ^^^ 0xffffffff) &&& s.g)
  let t1 := s.h + sum1 + choice + constant + word
  let sum0 := rotate s.a 2 ^^^ rotate s.a 13 ^^^ rotate s.a 22
  let majority := (s.a &&& s.b) ^^^ (s.a &&& s.c) ^^^ (s.b &&& s.c)
  ⟨t1 + sum0 + majority, s.a, s.b, s.c, s.d + t1, s.e, s.f, s.g⟩

/-- The state after a block of sixteen words. -/
def compress (s : State) (block : List UInt32) : State :=
  let words := schedule 64 block
  let t := (roundConstants.zip words).foldl (fun t pair => step t pair.1 pair.2) s
  ⟨s.a + t.a, s.b + t.b, s.c + t.c, s.d + t.d, s.e + t.e, s.f + t.f, s.g + t.g, s.h + t.h⟩

/-- The big-endian bytes of a number, `count` of them. -/
def bytesOf (count n : Nat) : List UInt8 :=
  (List.range count).reverse.map (fun i => UInt8.ofNat (n >>> (8 * i)))

/-- The message with its closing bit, zeros and length. -/
def pad (message : List UInt8) : List UInt8 :=
  let length := message.length
  message ++ 0x80 :: List.replicate ((119 - length % 64) % 64) 0 ++ bytesOf 8 (8 * length)

/-- Bytes in words of four. -/
def wordsOf : List UInt8 → List UInt32
  | a :: b :: c :: d :: rest =>
    ((a.toUInt32 <<< 24) ||| (b.toUInt32 <<< 16) ||| (c.toUInt32 <<< 8) ||| d.toUInt32) :: wordsOf rest
  | _ => []

/-- The state after all words, block by block; `blocks` bounds the count of blocks. -/
def absorb (s : State) (words : List UInt32) : (blocks : Nat) → State
  | 0 => s
  | blocks + 1 => absorb (compress s (words.take 16)) (words.drop 16) blocks

/-- The digest in hexadecimal digits. -/
def hex (message : List UInt8) : String :=
  let words := wordsOf (pad message)
  let s := absorb initial words (words.length / 16)
  String.ofList ([s.a, s.b, s.c, s.d, s.e, s.f, s.g, s.h].flatMap (fun word =>
    (List.range 8).reverse.map (fun i => Nat.digitChar (word.toNat >>> (4 * i) % 16))))

end Sha256
end ApiContract
