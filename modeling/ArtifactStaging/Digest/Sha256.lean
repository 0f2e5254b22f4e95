/-
# ArtifactStaging.Digest.Sha256 -- the SHA-256 digest

The message is padded with one set bit, zeros and its length in bits to whole
blocks of sixteen words; each block is mixed into eight words of state by
sixty-four rounds.  `hex` writes the digest in lower-case hexadecimal.
-/
import ArtifactStaging.Json.Printer
import ArtifactStaging.Number.Power

set_option autoImplicit false

namespace ArtifactStaging.Sha256

/-! ## Words -/

/-- A word turned right by `n` bits. -/
def turn (n : UInt32) (x : UInt32) : UInt32 := (x >>> n) ||| (x <<< (32 - n))

/-- The cube roots of the first sixty-four primes: the first thirty-two bits after the point. -/
def roundConstants : List UInt32 :=
  [0x428a2f98, 0x71374491, 0xb5c0fbcf, 0xe9b5dba5, 0x3956c25b, 0x59f111f1, 0x923f82a4, 0xab1c5ed5,
   0xd807aa98, 0x12835b01, 0x243185be, 0x550c7dc3, 0x72be5d74, 0x80deb1fe, 0x9bdc06a7, 0xc19bf174,
   0xe49b69c1, 0xefbe4786, 0x0fc19dc6, 0x240ca1cc, 0x2de92c6f, 0x4a7484aa, 0x5cb0a9dc, 0x76f988da,
   0x983e5152, 0xa831c66d, 0xb00327c8, 0xbf597fc7, 0xc6e00bf3, 0xd5a79147, 0x06ca6351, 0x14292967,
   0x27b70a85, 0x2e1b2138, 0x4d2c6dfc, 0x53380d13, 0x650a7354, 0x766a0abb, 0x81c2c92e, 0x92722c85,
   0xa2bfe8a1, 0xa81a664b, 0xc24b8b70, 0xc76c51a3, 0xd192e819, 0xd6990624, 0xf40e3585, 0x106aa070,
   0x19a4c116, 0x1e376c08, 0x2748774c, 0x34b0bcb5, 0x391c0cb3, 0x4ed8aa4a, 0x5b9cca4f, 0x682e6ff3,
   0x748f82ee, 0x78a5636f, 0x84c87814, 0x8cc70208, 0x90befffa, 0xa4506ceb, 0xbef9a3f7, 0xc67178f2]

/-- The eight words of state. -/
structure State where
  a : UInt32
  b : UInt32
  c : UInt32
  d : UInt32
  e : UInt32
  f : UInt32
  g : UInt32
  h : UInt32
deriving DecidableEq, Repr

/-- The square roots of the first eight primes: the first thirty-two bits after the point. -/
def State.first : State :=
  ⟨0x6a09e667, 0xbb67ae85, 0x3c6ef372, 0xa54ff53a,
    0x510e527f, 0x9b05688c, 0x1f83d9ab, 0x5be0cd19⟩

/-- The words of two states added. -/
def State.add (s t : State) : State :=
  ⟨s.a + t.a, s.b + t.b, s.c + t.c, s.d + t.d, s.e + t.e, s.f + t.f, s.g + t.g, s.h + t.h⟩

/-- The words in order. -/
def State.words (s : State) : List UInt32 := [s.a, s.b, s.c, s.d, s.e, s.f, s.g, s.h]

/-! ## Padding -/

/-- The bytes of a number in `count` bytes, the highest first. -/
def bigEndian (count n : Nat) : List UInt8 :=
  (List.range count).reverse.map fun i => UInt8.ofNat (n / power 256 i % 256)

/-- The zeros between the set bit and the length. -/
def paddingZeros (length : Nat) : Nat := (119 - length % 64) % 64

/-- The message, padded to whole blocks. -/
def padded (message : List UInt8) : List UInt8 :=
  message ++ 0x80 :: (List.replicate (paddingZeros message.length) 0 ++
    bigEndian 8 (8 * message.length))

/-- Bytes as words, the highest byte first. -/
def words : List UInt8 → List UInt32
  | a :: b :: c :: d :: rest =>
      ((a.toUInt32 <<< 24) ||| (b.toUInt32 <<< 16) ||| (c.toUInt32 <<< 8) ||| d.toUInt32) ::
        words rest
  | _ => []

/-! ## Mixing -/

/-- The next word of the schedule from the sixteen before it, the latest first. -/
def nextWord (latest : List UInt32) : UInt32 :=
  let word (i : Nat) : UInt32 := latest.getD i 0
  let two := word 1
  let fifteen := word 14
  let s0 := turn 7 fifteen ^^^ turn 18 fifteen ^^^ (fifteen >>> 3)
  let s1 := turn 17 two ^^^ turn 19 two ^^^ (two >>> 10)
  s1 + word 6 + s0 + word 15

/-- The schedule, the latest word first. -/
def extend : Nat → List UInt32 → List UInt32
  | 0, latest => latest
  | steps + 1, latest => extend steps (nextWord latest :: latest)

/-- One round with a constant and a word of the schedule. -/
def round (s : State) (k w : UInt32) : State :=
  let s1 := turn 6 s.e ^^^ turn 11 s.e ^^^ turn 25 s.e
  let pick := (s.e &&& s.f) ^^^ ((s.e ^^^ 0xffffffff) &&& s.g)
  let t1 := s.h + s1 + pick + k + w
  let s0 := turn 2 s.a ^^^ turn 13 s.a ^^^ turn 22 s.a
  let most := (s.a &&& s.b) ^^^ (s.a &&& s.c) ^^^ (s.b &&& s.c)
  ⟨t1 + (s0 + most), s.a, s.b, s.c, s.d + t1, s.e, s.f, s.g⟩

/-- A block of sixteen words mixed into the state. -/
def mix (s : State) (block : List UInt32) : State :=
  let schedule := (extend 48 block.reverse).reverse
  s.add ((roundConstants.zip schedule).foldl (fun t (k, w) => round t k w) s)

/-- Blocks of sixteen words mixed in one after the other. -/
def mixAll : (blocks : Nat) → State → List UInt32 → State
  | 0, s, _ => s
  | blocks + 1, s, ws => mixAll blocks (mix s (ws.take 16)) (ws.drop 16)

/-! ## The digest -/

/-- The thirty-two bytes of the digest. -/
def digest (message : List UInt8) : List UInt8 :=
  let ws := words (padded message)
  (mixAll (ws.length / 16) .first ws).words.flatMap fun w => bigEndian 4 w.toNat

/-- Bytes in lower-case hexadecimal. -/
def hexText (bytes : List UInt8) : String :=
  String.ofList (bytes.flatMap fun b =>
    [Json.hexDigit (b.toNat / 16), Json.hexDigit (b.toNat % 16)])

/-- The digest of a message in hexadecimal. -/
def hex (message : List UInt8) : String := hexText (digest message)

end ArtifactStaging.Sha256
