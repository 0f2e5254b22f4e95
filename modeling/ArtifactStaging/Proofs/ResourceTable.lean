/-
# ArtifactStaging.Proofs.ResourceTable -- a table accounts for its registrations

Which record a key had last is told from the calls alone (`LastRecord`).  A table
`Reflects` the calls made on it if under every key it holds that record, and
nothing under a key of no call.

One registration keeps this (`Reflects.register`), and what it answers is decided
by the calls before it (`Reflects.answer`).  A run of registrations is one after
the other (`registerEach_append`), so each of its answers looks back at the whole
run up to it, and `registerEach_account` says so of every call.

A call inserts a key if and only if the key is new, so the keys of the table are
as many as the calls that inserted one (`size_registerEach`).
-/
import ArtifactStaging.Proofs.Text.ByteOrder
import ArtifactStaging.ResourceTable
import Mathlib.Data.List.Induction

set_option autoImplicit false

namespace ArtifactStaging

/-! ## How many keys there are -/

namespace Dictionary

variable {κ ν : Type} [LT κ] [KeyOrder κ]

theorem nodup_keys (d : Dictionary κ ν) : d.keys.Nodup := by
  refine d.keys_ascending.imp fun {a b} less same => ?_
  subst same
  exact KeyOrder.irrefl a less

/-- A new key is one more. -/
theorem size_insert [DecidableLT κ] [DecidableEq κ] (d : Dictionary κ ν) (key : κ) (value : ν) :
    (d.insert key value).size = if d.contains key then d.size else d.size + 1 := by
  have counted (d : Dictionary κ ν) : d.size = d.keys.length := (List.length_map _).symm
  have held : d.contains key = true ↔ key ∈ d.keys := mem_keys_iff.symm
  rw [counted, counted]
  split
  · next here =>
    apply List.Perm.length_eq
    rw [List.perm_ext_iff_of_nodup (nodup_keys _) (nodup_keys _)]
    intro other
    rw [mem_keys_insert]
    refine ⟨?_, .inr⟩
    rintro (rfl | there)
    · exact held.1 here
    · exact there
  · next new =>
    have fresh : (key :: d.keys).Nodup := List.nodup_cons.2 ⟨mt held.2 new, nodup_keys d⟩
    rw [← List.length_cons (a := key)]
    apply List.Perm.length_eq
    rw [List.perm_ext_iff_of_nodup (nodup_keys _) fresh]
    intro other
    rw [mem_keys_insert, List.mem_cons, eq_comm]

end Dictionary

namespace ResourceTable

variable {table : ResourceTable} {calls : List (String × LocalResource)} {key other : String}
  {resource previous : LocalResource}

/-! ## What the calls say -/

/-- Some call was under the key. -/
def Registered (calls : List (String × LocalResource)) (key : String) : Prop :=
  ∃ resource, (key, resource) ∈ calls

/-- The last call under the key was with the record. -/
def LastRecord (calls : List (String × LocalResource)) (key : String)
    (resource : LocalResource) : Prop :=
  ∃ before after, calls = before ++ (key, resource) :: after ∧ ¬ Registered after key

theorem registered_concat :
    Registered (calls ++ [(other, resource)]) key ↔ other = key ∨ Registered calls key := by
  simp only [Registered, List.mem_append, List.mem_singleton, Prod.mk.injEq]
  constructor
  · rintro ⟨found, there | ⟨rfl, -⟩⟩
    · exact .inr ⟨found, there⟩
    · exact .inl rfl
  · rintro (rfl | ⟨found, there⟩)
    · exact ⟨resource, .inr ⟨rfl, rfl⟩⟩
    · exact ⟨found, .inl there⟩

theorem not_lastRecord_nil : ¬ LastRecord [] key resource := by
  rintro ⟨before, after, same, -⟩
  simp at same

/-- One more call is the last of its key, and changes nothing of the others. -/
theorem lastRecord_concat :
    LastRecord (calls ++ [(other, resource)]) key previous ↔
      if other = key then resource = previous else LastRecord calls key previous := by
  constructor
  · rintro ⟨before, after, same, absent⟩
    rcases List.eq_nil_or_concat after with rfl | ⟨front, last, rfl⟩
    · obtain ⟨-, same⟩ := List.append_inj' same rfl
      simp only [List.cons.injEq, Prod.mk.injEq, and_true] at same
      rw [if_pos same.1, same.2]
    · rw [List.concat_eq_append] at same absent
      rw [← List.cons_append, ← List.append_assoc] at same
      obtain ⟨rfl, last⟩ := List.append_inj' same rfl
      obtain rfl := List.singleton_inj.1 last
      rw [registered_concat, not_or] at absent
      rw [if_neg absent.1]
      exact ⟨before, front, rfl, absent.2⟩
  · intro h
    split at h
    · next same =>
      subst same h
      exact ⟨calls, [], rfl, by simp [Registered]⟩
    · next differs =>
      obtain ⟨before, after, rfl, absent⟩ := h
      refine ⟨before, after ++ [(other, resource)], by simp, ?_⟩
      rw [registered_concat]
      exact not_or.2 ⟨differs, absent⟩

theorem registered_iff : Registered calls key ↔ ∃ resource, LastRecord calls key resource := by
  induction calls using List.reverseRecOn with
  | nil => simp [Registered, not_lastRecord_nil]
  | append_singleton calls call ih =>
      obtain ⟨other, resource⟩ := call
      rw [registered_concat]
      by_cases same : other = key <;> simp [lastRecord_concat, same, ih]

/-! ## One registration -/

/-- Under every key the table holds the record of the last call, and nothing if there was none. -/
def Reflects (table : ResourceTable) (calls : List (String × LocalResource)) : Prop :=
  ∀ key resource, table.get? key = some resource ↔ LastRecord calls key resource

namespace Reflects

theorem empty : ResourceTable.empty.Reflects [] := by
  intro key resource
  simp [not_lastRecord_nil]

theorem get?_eq_none (h : table.Reflects calls) :
    table.get? key = none ↔ ¬ Registered calls key := by
  rw [registered_iff, Option.eq_none_iff_forall_ne_some, not_exists]
  exact forall_congr' fun resource => not_congr (h key resource)

/-- A registration is one more call. -/
theorem register (h : table.Reflects calls) (key : String) (resource : LocalResource) :
    (table.register key resource).2.Reflects (calls ++ [(key, resource)]) := by
  intro other found
  rw [get?_register, lastRecord_concat]
  split
  · exact Option.some_inj
  · exact h other found

/-- What a registration answers is decided by the calls before it. -/
theorem answer (h : table.Reflects calls) (key : String) (resource : LocalResource) :
    ((table.register key resource).1 = .inserted ↔ ¬ Registered calls key) ∧
    ((table.register key resource).1 = .unchanged ↔ LastRecord calls key resource) ∧
    ∀ previous, (table.register key resource).1 = .replaced previous ↔
      LastRecord calls key previous ∧ previous ≠ resource := by
  simp only [← h key, ← h.get?_eq_none]
  unfold ResourceTable.register
  cases held : table.get? key with
  | none => simp
  | some old =>
      by_cases same : old = resource
      · subst same
        simp
      · simp only [if_neg same]
        refine ⟨by simp, by simpa using same, fun previous => ?_⟩
        simp only [TableInsert.replaced.injEq, Option.some.injEq]
        constructor
        · rintro rfl
          exact ⟨rfl, same⟩
        · exact And.left

end Reflects

/-- A registration adds a key if it answers that it inserted one, and none otherwise. -/
theorem size_register (table : ResourceTable) (key : String) (resource : LocalResource) :
    (table.register key resource).2.size =
      table.size + if (table.register key resource).1 = .inserted then 1 else 0 := by
  have inserted : (table.insert key resource).size =
      if (table.get? key).isSome then table.size else table.size + 1 :=
    Dictionary.size_insert _ _ _
  unfold register
  cases held : table.get? key with
  | none => simpa [held] using inserted
  | some previous =>
      rw [held] at inserted
      by_cases same : previous = resource <;> simp [same, inserted]

/-! ## A run of registrations -/

/-- Register records one after the other: what each registration did, and the table after all. -/
def registerEach (table : ResourceTable) :
    List (String × LocalResource) → List TableInsert × ResourceTable
  | [] => ([], table)
  | (key, resource) :: rest =>
      let (answer, next) := table.register key resource
      let (answers, last) := next.registerEach rest
      (answer :: answers, last)

theorem registerEach_append (table : ResourceTable) (first second : List (String × LocalResource)) :
    table.registerEach (first ++ second) =
      ((table.registerEach first).1 ++ ((table.registerEach first).2.registerEach second).1,
        ((table.registerEach first).2.registerEach second).2) := by
  induction first generalizing table with
  | nil => rfl
  | cons call first ih =>
      obtain ⟨key, resource⟩ := call
      simp only [List.cons_append, registerEach, ih]

theorem length_registerEach (table : ResourceTable) (calls : List (String × LocalResource)) :
    (table.registerEach calls).1.length = calls.length := by
  induction calls generalizing table with
  | nil => rfl
  | cons call calls ih =>
      obtain ⟨key, resource⟩ := call
      simp only [registerEach, List.length_cons, ih]

theorem size_registerEach (table : ResourceTable) (calls : List (String × LocalResource)) :
    (table.registerEach calls).2.size =
      table.size + (table.registerEach calls).1.count .inserted := by
  induction calls generalizing table with
  | nil => simp [registerEach]
  | cons call calls ih =>
      obtain ⟨key, resource⟩ := call
      simp only [registerEach, ih, size_register, List.count_cons, beq_iff_eq]
      omega

/-- The table after some calls reflects them. -/
theorem reflects_registerEach (calls : List (String × LocalResource)) :
    (empty.registerEach calls).2.Reflects calls := by
  induction calls using List.reverseRecOn with
  | nil => exact .empty
  | append_singleton calls call ih =>
      obtain ⟨key, resource⟩ := call
      rw [registerEach_append]
      exact ih.register key resource

/-- **A table accounts for its registrations.**  Of some registrations in a new table each answers
`inserted` if its key was not registered before, `unchanged` if its record is the last one that was
registered under its key, and otherwise `replaced` with that last one.  Afterwards every key has the
record that was registered last under it, the table has as many keys as were inserted, and it lists
every registered key once, in the strictly ascending order of bytes. -/
theorem registerEach_account (calls : List (String × LocalResource)) :
    ∃ answers table, empty.registerEach calls = (answers, table) ∧
      answers.length = calls.length ∧
      (∀ before key resource after, calls = before ++ (key, resource) :: after →
        ∃ answer, answers[before.length]? = some answer ∧
          (answer = .inserted ↔ ¬ Registered before key) ∧
          (answer = .unchanged ↔ LastRecord before key resource) ∧
          ∀ previous, answer = .replaced previous ↔
            LastRecord before key previous ∧ previous ≠ resource) ∧
      (∀ key resource, table.get? key = some resource ↔ LastRecord calls key resource) ∧
      (∀ key, table.get? key = none ↔ ¬ Registered calls key) ∧
      table.size = answers.count .inserted ∧
      Text.Enumerates (table.entries.map Prod.fst) (Registered calls) ∧
      ∀ entry ∈ table.entries, LastRecord calls entry.1 entry.2 := by
  have reflects := reflects_registerEach calls
  refine ⟨_, _, rfl, length_registerEach _ _, ?_, reflects, fun key => reflects.get?_eq_none,
    ?_, ?_, ?_⟩
  · rintro before key resource after rfl
    refine ⟨_, ?_, (reflects_registerEach before).answer key resource⟩
    rw [registerEach_append, ← length_registerEach empty before]
    simp [registerEach]
  · rw [size_registerEach]
    exact Nat.zero_add _
  · refine .of_ascending (Dictionary.keys_ascending _) fun key => ?_
    rw [← not_iff_not, ← reflects.get?_eq_none]
    exact (not_congr Dictionary.mem_keys_iff).trans Option.not_isSome_iff_eq_none
  · rintro ⟨key, resource⟩ here
    exact (reflects key resource).1 (Dictionary.mem_entries_iff.1 here)

namespace Sample

/-- A record of so many bytes. -/
def sized (size : UInt64) : LocalResource := ⟨⟨some "hh", "", "/a"⟩, size, 0, .application⟩

/-- Of three records under one key the second is reported as the one before the third, also with
another key registered in between. -/
theorem registerEach_account_sample :
    ∃ answers table, empty.registerEach
        [("b", sized 1), ("b", sized 2), ("a", sized 1), ("b", sized 3)] = (answers, table) ∧
      answers[3]? = some (.replaced (sized 2)) ∧ answers.count .inserted = table.size ∧
      table.get? "b" = some (sized 3) := by
  obtain ⟨answers, table, run, -, answered, holds, -, counted, -⟩ := registerEach_account
    [("b", sized 1), ("b", sized 2), ("a", sized 1), ("b", sized 3)]
  obtain ⟨answer, here, -, -, replaced⟩ :=
    answered [("b", sized 1), ("b", sized 2), ("a", sized 1)] "b" (sized 3) [] rfl
  have last : LastRecord [("b", sized 1), ("b", sized 2), ("a", sized 1)] "b" (sized 2) :=
    ⟨[("b", sized 1)], [("a", sized 1)], rfl, by simp [Registered]⟩
  rw [(replaced (sized 2)).2 ⟨last, by decide⟩] at here
  refine ⟨answers, table, run, here, counted.symm, (holds _ _).2 ?_⟩
  exact ⟨[("b", sized 1), ("b", sized 2), ("a", sized 1)], [], rfl, by simp [Registered]⟩

end Sample

end ResourceTable

end ArtifactStaging
