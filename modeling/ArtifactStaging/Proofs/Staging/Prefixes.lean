/-
# ArtifactStaging.Proofs.Staging.Prefixes -- how far a bulk registration gets

A bulk registration changes a table, a shipment and storage, and may fail at any of its
calls.  What it leaves behind is told by how far it got.

* It may not begin: its arguments are refused, which changes nothing at all, or its plan
  fails, and planning only looks.
* Else it goes through the files of its plan that are no distribution bundle, in order.
  Those before the first failure, or all of them, were registered one after the other
  (`Registrations`): the shipment has their artifacts added in that order, and the table
  their private records (`recorded`).  The file that failed left no trace in either.

A shipment lists artifacts and, apart from them, where they are.  Both lists grow together
(`Shipment.InStep.push`), so they are in step after every run that they were in step before.

`registerMany_prefix` puts these together for any host and any submission to begin with.
-/
import ArtifactStaging.Proofs.Staging.Framing

set_option autoImplicit false

namespace ArtifactStaging

namespace Shipment

variable {shipment : Shipment}

/-- The one list says of each artifact of the other where it is, in the same position. -/
def InStep (shipment : Shipment) : Prop :=
  shipment.remotePaths = shipment.descriptors.map ArtifactDescriptor.path

theorem inStep_empty : empty.InStep := rfl

/-- One more artifact keeps the lists in step. -/
theorem InStep.push (h : shipment.InStep) (descriptor : ArtifactDescriptor) :
    (shipment.push descriptor).InStep := by
  simp only [InStep, Shipment.push, List.map_append, List.map_singleton]
  rw [h]

end Shipment

namespace Uploader

open Submission

variable {σ : Type} {host : Host σ} {uploader : Uploader} {replication : UInt16}
  {s t u : Submission σ} {done : List (PlanEntry × Registration)}

/-! ## What registrations leave behind -/

/-- A table with the private records of some registrations inserted in order, each under the
destination of its file. -/
def recorded (done : List (PlanEntry × Registration)) (table : ResourceTable) : ResourceTable :=
  (done.filter fun (_, registration) => registration.isPrivate).foldl
    (fun table (entry, registration) =>
      (table.register entry.destination registration.descriptor.toLocalResource).2) table

theorem Registrations.resources (run : Registrations host uploader replication s done t) :
    t.resources = recorded done s.resources := by
  induction run with
  | nil => rfl
  | cons first others ih =>
      have registers := registerSingle_ok_iff.1 first
      rw [ih, registers.resources, recorded, recorded, List.filter_cons]
      split
      · next own => rw [List.foldl_cons, registers.key_of_isPrivate own]
      · rfl

/-- A run keeps the lists of a shipment in step. -/
theorem Registrations.inStep (run : Registrations host uploader replication s done t)
    (h : s.shipment.InStep) : t.shipment.InStep := by
  induction run with
  | nil => exact h
  | cons first others ih =>
      refine ih ?_
      rw [← (registerSingle_ok_iff.1 first).shipment] at h
      exact h.push _

/-! ## How the files of a plan end -/

/-- How registering some files ends, after some registrations that reached a submission. -/
inductive Ends (host : Host σ) (uploader : Uploader) (replication : UInt16)
    (entries : List PlanEntry) (done : List (PlanEntry × Registration)) (u : Submission σ) :
    Except StagingError (List String) → Submission σ → Prop
  /-- All of them were registered. -/
  | completed (all : entries = done.map Prod.fst) :
      Ends host uploader replication entries done u
        (.ok (Classpath.ofEntries (privateEntries done))) u
  /-- The file after those fails, and leaves the table and the shipment as it found them. -/
  | stopped {entry : PlanEntry} {rest : List PlanEntry} {error : StagingError}
      {t : Submission σ} (next : entries = done.map Prod.fst ++ entry :: rest)
      (failed : (uploader.registerSingle host entry.destination entry.source entry.directory
        replication).outcome u = (.error error, t))
      (table : t.resources = u.resources) (shipped : t.shipment = u.shipment) :
      Ends host uploader replication entries done u (.error error) t

/-- However it ends, the table and the shipment are those that the registrations reached. -/
theorem Ends.kept {entries : List PlanEntry} {answer : Except StagingError (List String)}
    (ends : Ends host uploader replication entries done u answer t) :
    t.resources = u.resources ∧ t.shipment = u.shipment := by
  cases ends with
  | completed all => exact ⟨rfl, rfl⟩
  | stopped next failed table shipped => exact ⟨table, shipped⟩

/-- Whether it answers or fails, registering a plan registers its files one after the other. -/
theorem registerPlan_ends {plan : List PlanEntry} {result : Except StagingError Classpath}
    (run : (uploader.registerPlan host replication Classpath.empty plan).outcome s =
      (result, t)) :
    ∃ done u, Registrations host uploader replication s done u ∧
      Ends host uploader replication (plan.filter uploader.takes) done u
        (result.map Classpath.toList) t := by
  cases result with
  | ok classpath =>
      obtain ⟨done, registered, hdone, rfl⟩ := registerPlan_ok_iff.1 run
      exact ⟨done, t, registered, .completed hdone.symm⟩
  | error error =>
      obtain ⟨done, u, entry, rest, registered, next, failed⟩ := registerPlan_error_iff.1 run
      have framed := (framed_of_registerSingle failed).failed error rfl
      exact ⟨done, u, registered, .stopped next failed framed.1 framed.2⟩

/-! ## Bulk registration -/

variable {inputs : List Location} {logicalRoot : String}

/-- Arguments that are refused change nothing. -/
theorem registerMany_of_refused {fault : ArgumentFault}
    (refused : checkArguments logicalRoot replication = .error fault) :
    (uploader.registerMany host inputs logicalRoot replication).outcome s =
      (.error (.invalidArgument fault), s) := by
  simp [registerMany, Run.outcome_bind, refused, Except.mapError]

theorem registerMany_of_unplanned {cause : StorageError} {world : σ}
    (accepted : checkArguments logicalRoot replication = .ok ())
    (unplanned : (Plan.ofInputs host logicalRoot inputs).outcome s.world =
      (.error cause, world)) :
    (uploader.registerMany host inputs logicalRoot replication).outcome s =
      (.error (.storage cause), { s with world }) := by
  simp [registerMany, Run.outcome_bind, accepted, Except.mapError,
    onWorld_error_iff.2 ⟨cause, world, unplanned, rfl, rfl⟩]

theorem registerMany_of_planned {plan : List PlanEntry} {world : σ}
    {result : Except StagingError Classpath}
    (accepted : checkArguments logicalRoot replication = .ok ())
    (planned : (Plan.ofInputs host logicalRoot inputs).outcome s.world = (.ok plan, world))
    (run : (uploader.registerPlan host replication Classpath.empty plan).outcome
      { s with world } = (result, t)) :
    (uploader.registerMany host inputs logicalRoot replication).outcome s =
      (result.map Classpath.toList, t) := by
  simp only [registerMany, Run.outcome_bind, Run.outcome_ofExcept, accepted, Except.mapError,
    onWorld_ok_iff.2 ⟨world, planned, rfl⟩, run]
  cases result <;> rfl

/-- A bulk registration fails with nothing registered, having looked at storage at most, and it is
storage that fails unless the arguments are refused; or else it looks, plans and registers the files
of its plan up to where it ends. -/
theorem registerMany_cases {answer : Except StagingError (List String)}
    (run : (uploader.registerMany host inputs logicalRoot replication).outcome s = (answer, t)) :
    (∃ error world, answer = .error error ∧ t = { s with world } ∧
      Effects host [] s.world world ∧
      (checkArguments logicalRoot replication = .ok () → ∃ cause, error = .storage cause)) ∨
    ∃ plan world done u,
      (Plan.ofInputs host logicalRoot inputs).outcome s.world = (.ok plan, world) ∧
      Effects host [] s.world world ∧
      Registrations host uploader replication { s with world } done u ∧
      Ends host uploader replication (plan.filter uploader.takes) done u answer t := by
  cases checked : checkArguments logicalRoot replication with
  | error fault =>
      cases (registerMany_of_refused checked).symm.trans run
      exact .inl ⟨_, s.world, rfl, rfl, .refl _, nofun⟩
  | ok =>
      have looked := Plan.ofInputs_looks host logicalRoot inputs s.world
      cases planned : (Plan.ofInputs host logicalRoot inputs).outcome s.world with
      | mk result world =>
      rw [planned] at looked
      cases result with
      | error cause =>
          cases (registerMany_of_unplanned checked planned).symm.trans run
          exact .inl ⟨_, world, rfl, rfl, looked, fun _ => ⟨cause, rfl⟩⟩
      | ok plan =>
          cases hplan : (uploader.registerPlan host replication Classpath.empty plan).outcome
            { s with world } with
          | mk result u =>
          cases (registerMany_of_planned checked planned hplan).symm.trans run
          obtain ⟨done, v, registered, ends⟩ := registerPlan_ends hplan
          exact .inr ⟨plan, world, done, v, rfl, looked, registered, ends⟩

/-- **What a bulk registration leaves behind.**  With arguments that are refused it changes nothing.
With a plan that fails it leaves the table and the shipment as they were, and storage as well: that
is only looked at, which leaves a host alone that is steady, as a disk is (`Disk.steady`).  Else
some first files of its plan, the distribution bundle left out, were registered one after the other:
the shipment is the old one with their artifacts behind it, and where these are behind its other
list, and the table the old one with their private records inserted, in the same order.  So the two
lists of the shipment stay in step, if they were.  Either these are all, or the next file failed and
added nothing to shipment and table. -/
theorem registerMany_prefix (host : Host σ) (uploader : Uploader) (inputs : List Location)
    (logicalRoot : String) (replication : UInt16) (s : Submission σ) :
    (∀ fault, checkArguments logicalRoot replication = .error fault →
      (uploader.registerMany host inputs logicalRoot replication).outcome s =
        (.error (.invalidArgument fault), s)) ∧
    (checkArguments logicalRoot replication = .ok () →
      (∀ cause world,
        (Plan.ofInputs host logicalRoot inputs).outcome s.world = (.error cause, world) →
        (uploader.registerMany host inputs logicalRoot replication).outcome s =
            (.error (.storage cause), { s with world }) ∧
          Effects host [] s.world world ∧ (host.Steady → world = s.world)) ∧
      ∀ plan world,
        (Plan.ofInputs host logicalRoot inputs).outcome s.world = (.ok plan, world) →
        ∃ done u answer t,
          (uploader.registerMany host inputs logicalRoot replication).outcome s = (answer, t) ∧
          Registrations host uploader replication { s with world } done u ∧
          Ends host uploader replication (plan.filter uploader.takes) done u answer t ∧
          t.resources = recorded done s.resources ∧
          t.shipment.descriptors =
            s.shipment.descriptors ++ done.map (fun one => one.2.descriptor) ∧
          t.shipment.remotePaths =
            s.shipment.remotePaths ++ done.map (fun one => one.2.descriptor.path) ∧
          (s.shipment.InStep → t.shipment.InStep)) := by
  refine ⟨fun fault => registerMany_of_refused, fun accepted => ⟨?_, ?_⟩⟩
  · intro cause world unplanned
    have looked := Plan.ofInputs_looks host logicalRoot inputs s.world
    rw [unplanned] at looked
    exact ⟨registerMany_of_unplanned accepted unplanned, looked, looked.eq_of_steady⟩
  · intro plan world planned
    cases hplan : (uploader.registerPlan host replication Classpath.empty plan).outcome
      { s with world } with
    | mk result t =>
    obtain ⟨done, u, run, ends⟩ := registerPlan_ends hplan
    refine ⟨done, u, _, t, registerMany_of_planned accepted planned hplan, run, ends, ?_⟩
    rw [ends.kept.1, ends.kept.2]
    exact ⟨run.resources, run.shipment, run.remotePaths, run.inStep⟩

/-- A call on an uploader, whether it succeeds or fails, keeps the lists of a shipment in step. -/
theorem inStep_call (h : s.shipment.InStep) (call : Call σ) :
    (call.after host uploader s).shipment.InStep := by
  cases call with
  | provided => exact h
  | elsewhere change => exact h
  | single key source directory replication =>
      rw [Call.after]
      cases run : (uploader.registerSingle host key source directory replication).outcome s with
      | mk answer t =>
      cases answer with
      | ok registration => rwa [(registerSingle_ok_iff.1 run).shipment]
      | error error => rwa [((framed_of_registerSingle run).failed error rfl).2]
  | many inputs logicalRoot replication =>
      rw [Call.after]
      cases run : (uploader.registerMany host inputs logicalRoot replication).outcome s with
      | mk answer t =>
      rcases registerMany_cases run with
        ⟨error, world, -, rfl, -⟩ | ⟨plan, world, done, u, -, -, registered, ends⟩
      · exact h
      · rw [ends.kept.2]
        exact registered.inStep h

/-- **A shipment says where its artifacts are.**  After any calls on an uploader for which nothing
was shipped before, its two lists are in step. -/
theorem inStep_afterCalls (host : Host σ) (uploader : Uploader) (world : σ)
    (calls : List (Call σ)) : (afterCalls host uploader (.start world) calls).shipment.InStep := by
  have run (s : Submission σ) (h : s.shipment.InStep) :
      (afterCalls host uploader s calls).shipment.InStep := by
    induction calls generalizing s with
    | nil => exact h
    | cons call rest ih => exact ih _ (inStep_call h call)
  exact run _ Shipment.inStep_empty

end Uploader

end ArtifactStaging

namespace ArtifactStaging.Sample

/-- The files of `x` are registered, one of them as the shared library, and then a file is
missing: the table and the shipment keep what came before it. -/
example :
    (registering (here "h") [here "x", here "none", here "y"] (start (here "h"))).1.toOption =
        none ∧
      (registering (here "h") [here "x", here "none", here "y"]
        (start (here "h"))).2.resources.keys = ["l/x/a", "l/x/b.jar"] ∧
      (registering (here "h") [here "x", here "none", here "y"]
        (start (here "h"))).2.shipment.descriptors.map ArtifactDescriptor.key =
          ["l/x/a", "l/x/b.jar", "s"] := by
  decide +kernel

end ArtifactStaging.Sample
