/-
# ArtifactStaging.FileSystem.RawText -- names and paths as the system has them

To the system a name is any bytes but the slash, and a path is any bytes.  Text is
one of them by its UTF-8, and what is none is shown as text with replacement
characters (`RawText.lossy`), from which the name cannot be told any more.

The functions on paths are those of `FileSystem.PathText`, byte by byte.
-/
import ArtifactStaging.Dictionary
import ArtifactStaging.FileSystem.PathText
import ArtifactStaging.Text.Utf8

set_option autoImplicit false

namespace ArtifactStaging

/-- A name or a path as the system has it. -/
structure RawText where
  bytes : List UInt8
deriving DecidableEq, Repr, Inhabited

namespace RawText

/-- Text as the system has it. -/
def of (text : String) : RawText := ⟨Text.utf8Bytes text.toList⟩

instance : Coe String RawText := ⟨of⟩

/-- What is shown as text. -/
def lossy (raw : RawText) : String := Text.decodeLossy raw.bytes

instance : LT RawText := ⟨fun first second => first.bytes < second.bytes⟩

instance : DecidableLT RawText := fun first second =>
  inferInstanceAs (Decidable (first.bytes < second.bytes))

instance : KeyOrder RawText where
  trans {first second third} h₁ h₂ :=
    @KeyOrder.trans _ _ _ first.bytes second.bytes third.bytes h₁ h₂
  irrefl raw := KeyOrder.irrefl raw.bytes
  connected {first second} h₁ h₂ := by
    cases first
    cases second
    exact congrArg mk (KeyOrder.connected h₁ h₂)

/-- How many bytes there are. -/
def size (raw : RawText) : Nat := raw.bytes.length

/-- Whether there is nothing. -/
def isEmpty (raw : RawText) : Bool := raw.bytes.isEmpty

instance : Append RawText := ⟨fun first second => ⟨first.bytes ++ second.bytes⟩⟩

/-! ## Paths -/

/-- The byte that parts the names of a path. -/
def slash : UInt8 := 0x2F

/-- Whether the path starts at the root. -/
def isAbsolute (path : RawText) : Bool := path.bytes.head? == some slash

/-- Whether the path says that it names a directory. -/
def endsInSlash (path : RawText) : Bool := path.bytes.getLast? == some slash

/-- The pieces between slashes that are not empty. -/
def names (path : RawText) : List RawText :=
  ((Text.pieces slash path.bytes).map RawText.mk).filter fun name => !name.isEmpty

/-- Names with slashes between them. -/
def join (names : List RawText) : RawText := ⟨[slash].intercalate (names.map RawText.bytes)⟩

/-- `relative` beneath `base`; an absolute path stands for itself. -/
def append (base relative : RawText) : RawText :=
  if isAbsolute relative then relative
  else if base.isEmpty || base.endsInSlash then base ++ relative
  else base ++ ⟨[slash]⟩ ++ relative

/-- The path of what names lead to beneath a directory. -/
def down (directory : RawText) (names : List RawText) : RawText := directory.append (join names)

end RawText

end ArtifactStaging
