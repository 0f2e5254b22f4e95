/-
# ArtifactStaging.Proofs.Staging.Waiting -- how long a wait goes on, and what it answers

A wait lists a path, and pauses and lists again as long as the answers say that nothing shows
yet.  An answer `ends` the wait if it is a listing with something in it or a failure other than
that nothing is there.

On any host, the answers of a wait that goes on are a sequence (`answer`), and the wait depends on
nothing else: it answers what the first of them that ends it says, if that is among so many as may
be listed (`outcome_awaitWithin_of_endsAt`), and that nothing showed otherwise
(`outcome_awaitWithin_of_waits`).  An empty listing is never its answer (`awaitWithin_ne_empty`).

`await_schedule` counts: for every sequence of answers, it says which listings and pauses take
place, in order, and that a pause that was cut short makes no difference.
-/
import ArtifactStaging.Proofs.Run
import Mathlib.Logic.Function.Iterate

set_option autoImplicit false

namespace ArtifactStaging.Listing

/-- What one listing answers. -/
abbrev Answer := Except StorageError (List FileStatus)

/-- Whether an answer ends a wait: something shows, or there is another failure than that nothing
is there. -/
def ends : Answer → Bool
  | .ok statuses => !statuses.isEmpty
  | .error error => !error.isNotFound

/-- The first of a sequence of answers that ends a wait. -/
structure EndsAt (answers : Nat → Answer) (position : Nat) : Prop where
  ends : ends (answers position) = true
  waits : ∀ earlier < position, Listing.ends (answers earlier) = false

/-- Of so many answers, one is the first that ends the wait, or none ends it. -/
theorem endsAt_or_waits (answers : Nat → Answer) (count : Nat) :
    (∃ position < count, EndsAt answers position) ∨
      ∀ position < count, ends (answers position) = false := by
  induction count with
  | zero => exact .inr fun _ h => absurd h (Nat.not_lt_zero _)
  | succ count ih =>
      rcases ih with ⟨position, within, first⟩ | waits
      · exact .inl ⟨position, Nat.lt_succ_of_lt within, first⟩
      cases hends : ends (answers count) with
      | true => exact .inl ⟨count, Nat.lt_succ_self count, hends, waits⟩
      | false =>
          refine .inr fun position within => ?_
          rcases Nat.lt_succ_iff_lt_or_eq.1 within with within | rfl
          · exact waits position within
          · exact hends

/-! ## On any host -/

section

variable {σ : Type} (host : Host σ) (delay : UInt64) (path : Location)

/-- The state after a listing and a pause. -/
def lap (s : σ) : σ := (host.pause delay ((host.storage.listStatus path).outcome s).2).2

/-- What a listing answers, counted from zero, when the wait goes on until then. -/
def answer (s : σ) (position : Nat) : Answer :=
  ((host.storage.listStatus path).outcome ((lap host delay path)^[position] s)).1

/-- The state after so many listings, with a pause between two. -/
def reached (s : σ) : Nat → σ
  | 0 => s
  | count + 1 => ((host.storage.listStatus path).outcome ((lap host delay path)^[count] s)).2

variable {host delay path} {s : σ} {attempts position : Nat}

/-- An answer that ends a wait is what the wait answers. -/
theorem outcome_awaitWithin_ends (h : ends (answer host delay path s 0) = true) :
    (awaitWithin host delay path (attempts + 1)).outcome s =
      ((answer host delay path s 0).map some, reached host delay path s 1) := by
  rw [awaitWithin, Run.outcome_bind, Run.outcome_attempt]
  simp only [answer, reached, Function.iterate_zero, id_eq] at h ⊢
  cases hlisted : ((host.storage.listStatus path).outcome s).1 with
  | ok statuses =>
      cases statuses with
      | nil => rw [hlisted] at h; cases h
      | cons first rest => rfl
  | error error =>
      have hother : error.isNotFound = false := by
        rw [hlisted] at h
        simpa [ends] using h
      simp [verdict, hother, Run.outcome_throw, Except.map]

/-- After any other answer the wait goes on, with a pause if another listing is to come. -/
theorem outcome_awaitWithin_waits (h : ends (answer host delay path s 0) = false) :
    (awaitWithin host delay path (attempts + 1)).outcome s =
      if attempts = 0 then (.ok none, reached host delay path s 1)
      else (awaitWithin host delay path attempts).outcome (lap host delay path s) := by
  have hverdict : verdict (answer host delay path s 0) = .notYet := by
    cases hanswer : answer host delay path s 0 with
    | ok statuses =>
        cases statuses with
        | nil => rfl
        | cons first rest => rw [hanswer] at h; cases h
    | error error =>
        have hmissing : error.isNotFound = true := by
          rw [hanswer] at h
          simpa [ends] using h
        simp [verdict, hmissing]
  simp only [answer, Function.iterate_zero, id_eq] at hverdict
  rw [awaitWithin, Run.outcome_bind, Run.outcome_attempt]
  simp only [hverdict]
  cases attempts with
  | zero => rfl
  | succ attempts => rfl

/-- **A wait that ends.**  If an answer is the first to end the wait and may still be listed, it is
what the wait answers, and no listing comes after it. -/
theorem outcome_awaitWithin_of_endsAt (within : position < attempts)
    (first : EndsAt (answer host delay path s) position) :
    (awaitWithin host delay path attempts).outcome s =
      ((answer host delay path s position).map some,
        reached host delay path s (position + 1)) := by
  induction attempts generalizing s position with
  | zero => cases within
  | succ attempts ih =>
      cases position with
      | zero => exact outcome_awaitWithin_ends first.ends
      | succ position =>
          have later : position < attempts := Nat.lt_of_succ_lt_succ within
          rw [outcome_awaitWithin_waits (first.waits 0 (Nat.succ_pos _)),
            if_neg (Nat.ne_zero_of_lt later)]
          exact ih later ⟨first.ends, fun earlier h =>
            first.waits (earlier + 1) (Nat.succ_lt_succ h)⟩

/-- **A wait that is given up.**  If none of so many answers ends the wait, it answers that nothing
showed, after so many listings. -/
theorem outcome_awaitWithin_of_waits
    (waits : ∀ position < attempts, ends (answer host delay path s position) = false) :
    (awaitWithin host delay path attempts).outcome s =
      (.ok none, reached host delay path s attempts) := by
  induction attempts generalizing s with
  | zero => rfl
  | succ attempts ih =>
      rw [outcome_awaitWithin_waits (waits 0 (Nat.succ_pos _))]
      cases attempts with
      | zero => rfl
      | succ attempts =>
          rw [if_neg (Nat.succ_ne_zero _)]
          exact ih fun position h => waits (position + 1) (Nat.succ_lt_succ h)

/-- A wait never answers an empty listing. -/
theorem awaitWithin_ne_empty {t : σ} :
    (awaitWithin host delay path attempts).outcome s ≠ (.ok (some []), t) := by
  rcases endsAt_or_waits (answer host delay path s) attempts with ⟨position, within, first⟩ | waits
  · rw [outcome_awaitWithin_of_endsAt within first]
    intro heq
    have hends := first.ends
    cases hanswer : answer host delay path s position with
    | ok statuses =>
        rw [hanswer] at heq hends
        cases heq
        cases hends
    | error error =>
        rw [hanswer] at heq
        cases heq
  · rw [outcome_awaitWithin_of_waits waits]
    intro heq
    cases heq

end

/-! ## For given answers -/

/-- What takes place in a wait. -/
inductive Event where
  | listing (path : Location)
  | pause (milliseconds : UInt64)
deriving DecidableEq, Repr

/-- Whether an event is a listing. -/
def Event.isListing : Event → Bool
  | .listing _ => true
  | .pause _ => false

/-- A storage that can only be listed.  Listings are answered in order, each is written down, and
every other operation is refused. -/
def answering (answers : Nat → Answer) : Storage (List Event) where
  pathExists path := refuse "exists" path
  isDirectory path := refuse "is_directory" path
  stat path := refuse "stat" path
  listStatus path := .ofFunction fun events =>
    (answers (events.countP Event.isListing), events ++ [.listing path])
  listFiles path := refuse "list_files_recursive" path
  copyFromLocal _ path _ _ := refuse "copy_from_local" path
  setReplication path _ := refuse "set_replication" path
  makeDirectories path _ := refuse "mkdirs" path
where
  refuse {α : Type} (operation : String) (path : Location) : Run (List Event) StorageError α :=
    .ofExcept (.error (.unsupported operation path.render))

/-- A host with that storage, on which some pauses, by number, are cut short. -/
def answeringHost (answers : Nat → Answer) (interrupted : Nat → Bool) : Host (List Event) where
  storage := answering answers
  files _ := default
  pause milliseconds := fun events =>
    (!interrupted (events.countP fun event => !event.isListing), events ++ [.pause milliseconds])

/-- So many listings, with a pause between each two and none at the end. -/
def schedule (delay : UInt64) (path : Location) (listings : Nat) : List Event :=
  (List.replicate listings (.listing path)).intersperse (.pause delay)

variable {answers : Nat → Answer} {interrupted : Nat → Bool} {delay : UInt64} {path : Location}

/-- One more listing comes after one more pause. -/
theorem schedule_append (listings : Nat) :
    schedule delay path (listings + 2) =
      schedule delay path (listings + 1) ++ [.pause delay, .listing path] := by
  have hmore (count : Nat) : schedule delay path (count + 2) =
      .listing path :: .pause delay :: schedule delay path (count + 1) := rfl
  induction listings with
  | zero => rfl
  | succ listings ih =>
      calc schedule delay path (listings + 3)
        _ = .listing path :: .pause delay :: schedule delay path (listings + 2) := hmore _
        _ = .listing path :: .pause delay :: schedule delay path (listings + 1) ++
              [.pause delay, .listing path] := by rw [ih]; rfl
        _ = schedule delay path (listings + 2) ++ [.pause delay, .listing path] := by
              rw [hmore listings]

theorem lap_answeringHost (events : List Event) :
    lap (answeringHost answers interrupted) delay path events =
      events ++ [.listing path] ++ [.pause delay] := rfl

/-- The host answers with the sequence that it was given. -/
theorem answer_answeringHost :
    answer (answeringHost answers interrupted) delay path [] = answers := by
  funext position
  have hcount : ((lap (answeringHost answers interrupted) delay path)^[position] []).countP
      Event.isListing = position := by
    induction position with
    | zero => rfl
    | succ position ih =>
        rw [Function.iterate_succ_apply', lap_answeringHost, List.countP_append,
          List.countP_append, ih]
        rfl
  exact congrArg answers hcount

/-- What took place are the listings, with a pause between each two. -/
theorem reached_answeringHost (listings : Nat) :
    reached (answeringHost answers interrupted) delay path [] listings =
      schedule delay path listings := by
  induction listings with
  | zero => rfl
  | succ listings ih =>
      cases listings with
      | zero => rfl
      | succ listings =>
          have hlisted (count : Nat) :
              reached (answeringHost answers interrupted) delay path [] (count + 1) =
                (lap (answeringHost answers interrupted) delay path)^[count] [] ++
                  [.listing path] := rfl
          rw [schedule_append, ← ih, hlisted, hlisted, Function.iterate_succ_apply',
            lap_answeringHost]
          simp

theorem outcome_await_of_endsAt {policy : RetryPolicy} {position : Nat}
    (first : EndsAt answers position) (within : position < policy.attempts.toNat) :
    (await (answeringHost answers interrupted) policy path).outcome [] =
      ((answers position).map some, schedule policy.delay path (position + 1)) := by
  have first' : EndsAt (answer (answeringHost answers interrupted) policy.delay path []) position :=
    answer_answeringHost ▸ first
  rw [await, outcome_awaitWithin_of_endsAt within first', answer_answeringHost,
    reached_answeringHost]

theorem outcome_await_of_waits {policy : RetryPolicy}
    (waits : ∀ position < policy.attempts.toNat, ends (answers position) = false) :
    (await (answeringHost answers interrupted) policy path).outcome [] =
      (.ok none, schedule policy.delay path policy.attempts.toNat) := by
  rw [await, outcome_awaitWithin_of_waits (by rwa [answer_answeringHost]), reached_answeringHost]

/-- **What takes place in a wait.**  Let an answer be the first in the sequence that ends a wait, at
a position counted from zero.  Then there are as many listings as it takes to reach it, but no more
than the policy allows, with one pause of the policy's length between each two and none after the
last; the wait answers what the listing said if it was reached, and that nothing showed otherwise.
If no answer ends the wait, there are all the listings that the policy allows.  Which pauses are cut
short makes no difference. -/
theorem await_schedule (policy : RetryPolicy) (path : Location) (answers : Nat → Answer)
    (interrupted : Nat → Bool) :
    (∀ position, EndsAt answers position →
      (await (answeringHost answers interrupted) policy path).outcome [] =
        (if position + 1 ≤ policy.attempts.toNat then (answers position).map some else .ok none,
          schedule policy.delay path (min (position + 1) policy.attempts.toNat))) ∧
    ((∀ position, ends (answers position) = false) →
      (await (answeringHost answers interrupted) policy path).outcome [] =
        (.ok none, schedule policy.delay path policy.attempts.toNat)) ∧
    ∀ interrupted' : Nat → Bool,
      (await (answeringHost answers interrupted') policy path).outcome [] =
        (await (answeringHost answers interrupted) policy path).outcome [] := by
  refine ⟨fun position first => ?_, fun waits => outcome_await_of_waits fun position _ =>
    waits position, fun interrupted' => ?_⟩
  · by_cases within : position + 1 ≤ policy.attempts.toNat
    · rw [if_pos within, Nat.min_eq_left within]
      exact outcome_await_of_endsAt first within
    · have short : policy.attempts.toNat ≤ position := Nat.le_of_lt_succ (Nat.lt_of_not_le within)
      rw [if_neg within, Nat.min_eq_right (Nat.le_succ_of_le short)]
      exact outcome_await_of_waits fun earlier h => first.waits earlier (Nat.lt_of_lt_of_le h short)
  · rcases endsAt_or_waits answers policy.attempts.toNat with ⟨position, within, first⟩ | waits
    · rw [outcome_await_of_endsAt first within, outcome_await_of_endsAt first within]
    · rw [outcome_await_of_waits waits, outcome_await_of_waits waits]

/-- The third listing of three shows something, though both pauses were cut short. -/
example (path : Location) (status : FileStatus) :
    (await (answeringHost
        (fun | 0 => .error (.notFound "a") | 1 => .ok [] | _ => .ok [status]) fun _ => true)
        ⟨3, 9⟩ path).outcome [] =
      (.ok (some [status]),
        [.listing path, .pause 9, .listing path, .pause 9, .listing path]) := rfl

end ArtifactStaging.Listing
