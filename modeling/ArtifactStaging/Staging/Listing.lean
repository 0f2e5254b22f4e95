/-
# ArtifactStaging.Staging.Listing -- waiting for a written file to show

Some storages do not show a file right after it was written.  The path is listed
a bounded number of times, with a pause between two listings.  An empty listing
and "not found" are tried again; a listing with something in it ends the wait,
and so does any other failure.  That nothing showed is no failure: it is the
answer none.
-/
import ArtifactStaging.Json.Decode
import ArtifactStaging.Storage.Basic

set_option autoImplicit false

namespace ArtifactStaging

open Json

/-- How often to list, and how many milliseconds to pause between two listings. -/
structure RetryPolicy where
  attempts : UInt32
  delay : UInt64
deriving DecidableEq, Repr

namespace RetryPolicy

/-- The policy where none is given. -/
def default : RetryPolicy := ⟨3, 100⟩

instance : Inhabited RetryPolicy := ⟨default⟩

/-- The policy as JSON. -/
def toJson (policy : RetryPolicy) : Json :=
  .obj [("attempts", .int policy.attempts.toNat), ("delay_ms", .int policy.delay.toNat)]

/-- The fields of a policy. -/
def record : Json.Record where
  name := "RetryPolicy"
  fields := [.required "attempts" Decoder.word32, .required "delay_ms" Decoder.word64]

/-- A policy in a JSON value. -/
def decode : Decoder RetryPolicy := fun value => do
  let members ← record.read value
  .ok {
    attempts := ← Record.get members "attempts" Decoder.word32
    delay := ← Record.get members "delay_ms" Decoder.word64 }

end RetryPolicy

namespace Listing

variable {σ : Type}

/-- What one listing means for the wait. -/
inductive Verdict where
  | shown (statuses : List FileStatus)
  | notYet
  | failed (error : StorageError)
deriving DecidableEq, Repr

/-- What a listing means. -/
def verdict : Except StorageError (List FileStatus) → Verdict
  | .ok [] => .notYet
  | .ok (first :: rest) => .shown (first :: rest)
  | .error error => if error.isNotFound then .notYet else .failed error

/-- List a path up to `attempts` times. -/
def awaitWithin (host : Host σ) (delay : UInt64) (path : Location) : (attempts : Nat) →
    Run σ StorageError (Option (List FileStatus))
  | 0 => return none
  | attempts + 1 => do
      match verdict (← (host.storage.listStatus path).attempt) with
      | .shown statuses => return some statuses
      | .failed error => throw error
      | .notYet =>
          if attempts != 0 then
            let _ ← (host.pause delay : StateM σ Bool)
          awaitWithin host delay path attempts

/-- The first listing of a path that shows something. -/
def await (host : Host σ) (policy : RetryPolicy) (path : Location) :
    Run σ StorageError (Option (List FileStatus)) :=
  awaitWithin host policy.delay path policy.attempts.toNat

end Listing

end ArtifactStaging
