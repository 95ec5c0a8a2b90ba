/-
This file computes the hash function SHA-256 of a byte string.
-/

namespace WorkflowEngine.Digest.Sha256

/-- The state of the function holds eight words. -/
structure Words where
  a : UInt32
  b : UInt32
  c : UInt32
  d : UInt32
  e : UInt32
  f : UInt32
  g : UInt32
  h : UInt32

namespace Words

def add (left right : Words) : Words :=
  ⟨left.a + right.a, left.b + right.b, left.c + right.c, left.d + right.d,
    left.e + right.e, left.f + right.f, left.g + right.g, left.h + right.h⟩

def toList (words : Words) : List UInt32 :=
  [words.a, words.b, words.c, words.d, words.e, words.f, words.g, words.h]

end Words

/-- The first state holds the fractions of the square roots of the first eight primes. -/
def initial : Words :=
  ⟨0x6a09e667, 0xbb67ae85, 0x3c6ef372, 0xa54ff53a, 0x510e527f, 0x9b05688c, 0x1f83d9ab, 0x5be0cd19⟩

/-- These are fractions of the cube roots of the first sixty-four primes. -/
def roundConstants : List UInt32 := [
  0x428a2f98, 0x71374491, 0xb5c0fbcf, 0xe9b5dba5, 0x3956c25b, 0x59f111f1, 0x923f82a4, 0xab1c5ed5,
  0xd807aa98, 0x12835b01, 0x243185be, 0x550c7dc3, 0x72be5d74, 0x80deb1fe, 0x9bdc06a7, 0xc19bf174,
  0xe49b69c1, 0xefbe4786, 0x0fc19dc6, 0x240ca1cc, 0x2de92c6f, 0x4a7484aa, 0x5cb0a9dc, 0x76f988da,
  0x983e5152, 0xa831c66d, 0xb00327c8, 0xbf597fc7, 0xc6e00bf3, 0xd5a79147, 0x06ca6351, 0x14292967,
  0x27b70a85, 0x2e1b2138, 0x4d2c6dfc, 0x53380d13, 0x650a7354, 0x766a0abb, 0x81c2c92e, 0x92722c85,
  0xa2bfe8a1, 0xa81a664b, 0xc24b8b70, 0xc76c51a3, 0xd192e819, 0xd6990624, 0xf40e3585, 0x106aa070,
  0x19a4c116, 0x1e376c08, 0x2748774c, 0x34b0bcb5, 0x391c0cb3, 0x4ed8aa4a, 0x5b9cca4f, 0x682e6ff3,
  0x748f82ee, 0x78a5636f, 0x84c87814, 0x8cc70208, 0x90befffa, 0xa4506ceb, 0xbef9a3f7, 0xc67178f2]

def rotate (word count : UInt32) : UInt32 :=
  (word >>> count) ||| (word <<< (32 - count))

/-- The schedule is held with its newest word first. -/
def extend : Nat → List UInt32 → List UInt32
  | 0, schedule => schedule
  | count + 1, schedule =>
    let old := schedule.getD 14 0
    let recent := schedule.getD 1 0
    let small := rotate old 7 ^^^ rotate old 18 ^^^ (old >>> 3)
    let large := rotate recent 17 ^^^ rotate recent 19 ^^^ (recent >>> 10)
    extend count ((schedule.getD 15 0 + small + schedule.getD 6 0 + large) :: schedule)

def round (words : Words) (input : UInt32 × UInt32) : Words :=
  let choice := (words.e &&& words.f) ^^^ ((~~~ words.e) &&& words.g)
  let majority := (words.a &&& words.b) ^^^ (words.a &&& words.c) ^^^ (words.b &&& words.c)
  let first := words.h + (rotate words.e 6 ^^^ rotate words.e 11 ^^^ rotate words.e 25) + choice +
    input.1 + input.2
  let second := (rotate words.a 2 ^^^ rotate words.a 13 ^^^ rotate words.a 22) + majority
  ⟨first + second, words.a, words.b, words.c, words.d + first, words.e, words.f, words.g⟩

def word (bytes : List UInt8) : UInt32 :=
  bytes.foldl (fun value byte => value * 256 + byte.toUInt32) 0

def pieces {A : Type} (size : Nat) : Nat → List A → List (List A)
  | 0, _ => []
  | count + 1, items => items.take size :: pieces size count (items.drop size)

def block (words : Words) (bytes : List UInt8) : Words :=
  let start := (pieces 4 16 bytes).map word
  let schedule := (extend 48 start.reverse).reverse
  words.add ((roundConstants.zip schedule).foldl round words)

def bigEndian : Nat → Nat → List UInt8
  | 0, _ => []
  | count + 1, value => bigEndian count (value / 256) ++ [UInt8.ofNat value]

/-- A one bit, zeros and the length in bits follow the message. -/
def padded (bytes : List UInt8) : List UInt8 :=
  let zeros := (119 - bytes.length % 64) % 64
  bytes ++ 0x80 :: List.replicate zeros 0 ++ bigEndian 8 (8 * bytes.length)

def digest (bytes : List UInt8) : List UInt8 :=
  let message := padded bytes
  let final := (pieces 64 (message.length / 64) message).foldl block initial
  final.toList.flatMap fun word => bigEndian 4 word.toNat

theorem bigEndianLength (count value : Nat) : (bigEndian count value).length = count := by
  induction count generalizing value with
  | zero => rfl
  | succ count inductionHypothesis => simp [bigEndian, inductionHypothesis]

theorem digestLength (bytes : List UInt8) : (digest bytes).length = 32 := by
  simp [digest, Words.toList, bigEndianLength]

end WorkflowEngine.Digest.Sha256
