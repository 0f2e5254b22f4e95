/-
# ArtifactStaging.Application -- application identifiers and their directories

An identifier names one submitted application.  It becomes a path segment, so it
is one to 128 bytes long, starts with an ASCII letter or digit, goes on with
those, underscores, minus signs and dots, and never has two dots in a row.  The
rules are checked in that order.

An application's directory is `<home>/.<namespace>/<identifier>`.
-/
import ArtifactStaging.Json.Decode
import ArtifactStaging.Location.Basic
import ArtifactStaging.Text.Quoted

set_option autoImplicit false

namespace ArtifactStaging

/-- Why a text is no identifier. -/
inductive IdFault where
  | wrongLength (bytes : Nat)
  | badStart (id : String)
  | badCharacter (id : String) (c : Char)
  | twoDots (id : String)
deriving DecidableEq, Repr

namespace IdFault

/-- What is wrong with the identifier. -/
def reason : IdFault → String
  | .wrongLength bytes => s!"identifier must be 1-128 characters, got {bytes}"
  | .badStart id => s!"'{id}' must start with an alphanumeric character"
  | .badCharacter id c => s!"'{id}' contains invalid character " ++ Text.quotedChar c
  | .twoDots id => s!"'{id}' contains a forbidden pattern"

/-- The text of the fault. -/
def message (fault : IdFault) : String := "Invalid application id: " ++ fault.reason

end IdFault

/-- A character that may follow the first of an identifier. -/
def isIdChar (c : Char) : Bool := c.isAlphanum || c == '_' || c == '-' || c == '.'

/-- Check an identifier. -/
def checkId (id : String) : Except IdFault Unit :=
  if id.isEmpty || 128 < id.utf8ByteSize then .error (.wrongLength id.utf8ByteSize)
  else
    match id.toList with
    | [] => .error (.badStart id)
    | first :: rest =>
        if !first.isAlphanum then .error (.badStart id)
        else
          match rest.find? fun c => !isIdChar c with
          | some c => .error (.badCharacter id c)
          | none => if Text.occursIn ".." id then .error (.twoDots id) else .ok ()

/-- The identifier of one application. -/
structure ApplicationId where
  text : String
  valid : (checkId text).isOk = true
deriving DecidableEq

namespace ApplicationId

instance : Repr ApplicationId := ⟨fun id _ => repr id.text⟩

instance : ToString ApplicationId := ⟨ApplicationId.text⟩

/-- A text as an identifier, or what is wrong with it. -/
def parse (text : String) : Except IdFault ApplicationId :=
  match h : checkId text with
  | .ok () => .ok ⟨text, by rw [h]; rfl⟩
  | .error fault => .error fault

/-- An identifier in a JSON value. -/
def decode : Json.Decoder ApplicationId :=
  Json.Decoder.textWith fun text => (parse text).mapError IdFault.message

/-! ## Fresh identifiers -/

/-- The thirty-two digits of a tail, in lower case: no i, l, o or u. -/
def tailDigits : List Char := "0123456789abcdefghjkmnpqrstvwxyz".toList

/-- The number of digits in a tail. -/
def tailLength : Nat := 26

/-- `count` digits of a number, the lowest last. -/
def tailOf : (count : Nat) → Nat → List Char → List Char
  | 0, _, done => done
  | count + 1, n, done =>
      tailOf count (n / 32) (tailDigits.getD (n % 32) '0' :: done)

/-- The text of a fresh identifier: the time in milliseconds and then eighty random bits,
written as one number. -/
def freshText (millis random : Nat) : String :=
  "application_" ++
    String.ofList (tailOf tailLength (millis % power 2 48 * power 2 80 + random % power 2 80) [])

/-- A fresh identifier. -/
def fresh (millis random : Nat) : Except IdFault ApplicationId := parse (freshText millis random)

end ApplicationId

/-- `<home>/.<namespace>/<identifier>`. -/
def applicationDirectory (home : Location) (space : String) (id : ApplicationId) : Location :=
  home.join ("." ++ space ++ "/" ++ id.text)

end ArtifactStaging
