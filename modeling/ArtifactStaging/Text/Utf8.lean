/-
# ArtifactStaging.Text.Utf8 -- text as bytes, and text from bytes

`decodeUtf8` reads UTF-8 and, where the bytes are not UTF-8, says where the first
fault is: the place of the bad sequence, and how many bytes of it could have
begun a character, or that the bytes end within one.

`decodeLossy` reads whatever bytes there are.  Each bad sequence, as far as it could
have begun a character, is shown as one replacement character.

The second byte decides whether a sequence is too long for its character, a
surrogate or beyond the last code point, so such a sequence is bad after its
first byte.
-/
import ArtifactStaging.Number.Power

set_option autoImplicit false

namespace ArtifactStaging.Text

/-- The bytes of a text. -/
def utf8Bytes (text : List Char) : List UInt8 := text.flatMap String.utf8EncodeChar

/-- Where bytes stop being UTF-8. -/
structure Utf8Fault where
  /-- The number of good bytes before the fault. -/
  place : Nat
  /-- How many bytes of the bad sequence belong together; none when the bytes just end. -/
  bad : Option Nat
deriving DecidableEq, Repr

/-- The text of a fault. -/
def Utf8Fault.message (fault : Utf8Fault) : String :=
  match fault.bad with
  | some count => s!"invalid utf-8 sequence of {count} bytes from index {fault.place}"
  | none => s!"incomplete utf-8 byte sequence from index {fault.place}"

/-- The bytes that may come second after a first one that begins a longer sequence, and
how many bytes follow the first. -/
def sequenceShape? (first : Nat) : Option (Nat × Nat × Nat) :=
  if 0xC2 ≤ first ∧ first ≤ 0xDF then some (1, 0x80, 0xBF)
  else if first = 0xE0 then some (2, 0xA0, 0xBF)
  else if first = 0xED then some (2, 0x80, 0x9F)
  else if 0xE1 ≤ first ∧ first ≤ 0xEF then some (2, 0x80, 0xBF)
  else if first = 0xF0 then some (3, 0x90, 0xBF)
  else if 0xF1 ≤ first ∧ first ≤ 0xF3 then some (3, 0x80, 0xBF)
  else if first = 0xF4 then some (3, 0x80, 0x8F)
  else none

/-- Take up to `count` more bytes of a sequence onto its value: the bytes taken, the
value, and what is left. -/
def continueSequence : (count low high taken value : Nat) → List UInt8 →
    Except (Option Nat) (Nat × List UInt8)
  | 0, _, _, _, value, rest => .ok (value, rest)
  | _ + 1, _, _, _, _, [] => .error none
  | count + 1, low, high, taken, value, byte :: rest =>
      let n := byte.toNat
      if low ≤ n ∧ n ≤ high then
        continueSequence count 0x80 0xBF (taken + 1) (value * 64 + (n - 0x80)) rest
      else .error (some taken)

/-- The characters from a place on. -/
def decodeFrom : (fuel place : Nat) → List UInt8 → Except Utf8Fault (List Char)
  | 0, _, _ => .ok []
  | _ + 1, _, [] => .ok []
  | fuel + 1, place, byte :: rest =>
      let n := byte.toNat
      if n < 0x80 then (decodeFrom fuel (place + 1) rest).map (Char.ofNat n :: ·)
      else match sequenceShape? n with
        | none => .error ⟨place, some 1⟩
        | some (count, low, high) =>
            match continueSequence count low high 1 (n % power 2 (6 - count)) rest with
            | .error bad => .error ⟨place, bad⟩
            | .ok (value, rest) =>
                (decodeFrom fuel (place + count + 1) rest).map (Char.ofNat value :: ·)

/-- The text that bytes hold. -/
def decodeUtf8 (bytes : List UInt8) : Except Utf8Fault String :=
  (decodeFrom (bytes.length + 1) 0 bytes).map String.ofList

/-! ## Whatever bytes there are -/

/-- What is shown of bytes that are no character. -/
def replacement : Char := '\uFFFD'

/-- A character that has begun. -/
structure Begun where
  /-- How many bytes are still to come. -/
  more : Nat
  /-- The least byte that may come next. -/
  low : Nat
  /-- The greatest byte that may come next. -/
  high : Nat
  /-- The bits of the character so far. -/
  value : Nat
deriving DecidableEq, Repr

/-- What a first byte settles, and the character that it begins. -/
def firstByte (n : Nat) : List Char × Option Begun :=
  if n < 0x80 then ([Char.ofNat n], none)
  else match sequenceShape? n with
    | none => ([replacement], none)
    | some (count, low, high) => ([], some ⟨count, low, high, n % power 2 (6 - count)⟩)

/-- What one more byte settles, and the character that has begun after it. -/
def nextByte : Option Begun → (n : Nat) → List Char × Option Begun
  | none, n => firstByte n
  | some begun, n =>
      if begun.low ≤ n ∧ n ≤ begun.high then
        let value := begun.value * 64 + (n - 0x80)
        if begun.more = 1 then ([Char.ofNat value], none)
        else ([], some ⟨begun.more - 1, 0x80, 0xBF, value⟩)
      else
        let (settled, next) := firstByte n
        (replacement :: settled, next)

/-- What bytes settle after a character has begun. -/
def lossyFrom : Option Begun → List UInt8 → List Char
  | none, [] => []
  | some _, [] => [replacement]
  | begun, byte :: rest =>
      let (settled, next) := nextByte begun byte.toNat
      settled ++ lossyFrom next rest

/-- The text that bytes show: a replacement character for each stretch that is none. -/
def decodeLossy (bytes : List UInt8) : String := String.ofList (lossyFrom none bytes)

end ArtifactStaging.Text
