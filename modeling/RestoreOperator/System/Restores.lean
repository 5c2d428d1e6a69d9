import RestoreOperator.Calls.Keeps
import RestoreOperator.Replica.Reconcile
import RestoreOperator.Restore.Phases

/-!
# `System.Restores` — what the controllers do to the stored restores

Most of what a pass does has nothing to do with the restores that are stored, nor with the failures that
are counted.  An invariant is *about the restores* when nothing else matters to it, the supply of identities
apart, which only grows; such an invariant is kept by every block of a pass that neither moves a restore to
another phase nor counts a failure.

  * `Steady` — no change elsewhere breaks the invariant: most of a pass.
  * `AboutRecords` — no write to a restore does either that leaves its lifecycle and its records alone.
  * `AboutBuild` — nor what a build writes and records.
  * `AboutRestores` — no record matters to the invariant at all.
-/

namespace RestoreOperator

open Calls Calls.Prog

/-- **A write that leaves the lifecycle of a restore alone.** -/
structure SameLife (s s' : RestoreStatus) : Prop where
  phase : s'.phase = s.phase
  createdAt : s'.createdAt = s.createdAt
  migrationResult : s'.migrationResult = s.migrationResult
  /-- A version may come to be known, and the result of a build. -/
  version : s.postgresVersion.isSome = true → s'.postgresVersion.isSome = true
  built : s.schemaBuildResult.isSome = true → s'.schemaBuildResult.isSome = true

/-- What such a write leaves alone, and more. -/
def RestoreStatus.life (s : RestoreStatus) : Option RestorePhase × Option Timestamp ×
    Option MigrationResult × Option String × Option SchemaBuildResult :=
  (s.phase, s.createdAt, s.migrationResult, s.postgresVersion, s.schemaBuildResult)

theorem SameLife.of_eq {s s' : RestoreStatus} (h : s'.life = s.life) : SameLife s s' := by
  simp only [RestoreStatus.life, Prod.mk.injEq] at h
  obtain ⟨hphase, hcreated, hmigration, hversion, hbuilt⟩ := h
  refine ⟨hphase, hcreated, hmigration, ?_, ?_⟩
  · rw [hversion]
    exact id
  · rw [hbuilt]
    exact id

/-- The entry records a failure. -/
def Entry.isFailure : Entry → Bool
  | .failureRecorded _ _ _ => true
  | _ => false

/-- The failures in the log. -/
def failureLog (history : List Entry) : List Entry :=
  history.filter Entry.isFailure

/-- The markers in the status of a replica that invariants of its restores speak of. -/
def ReplicaStatus.markers (s : ReplicaStatus) : Option RedactionPhase × Option String :=
  (s.redactionPhase, s.verifiedSnapshotId)

/-- **Nothing about the restores changed**, nor about the replica being there or the marker of their
    redaction. -/
structure SameRestores (w w' : World) : Prop where
  restores : w'.restores = w.restores
  phaseChanges : w'.phaseChanges = w.phaseChanges
  failures : failureLog w'.history = failureLog w.history
  replicaDeleted : w'.replicaDeleted = w.replicaDeleted
  redaction : w'.replica.status.redactionPhase = w.replica.status.redactionPhase
  nextUid : w.nextUid ≤ w'.nextUid

/-- What the status of a restore records of its run id and of its build. -/
def RestoreStatus.recorded (s : RestoreStatus) : Option String × Option Int × Option SchemaBuildResult :=
  (s.runId, s.schemaBuildAttempts, s.schemaBuildResult)

/-- **A write beside the records** of a restore. -/
structure Aside (s s' : RestoreStatus) : Prop extends SameLife s s' where
  recorded : s'.recorded = s.recorded

/-- **A change beside the records**, the spec of the replica and the marker of the verified snapshot. -/
structure Elsewhere (w w' : World) : Prop extends SameRestores w w' where
  records : w'.records = w.records
  verified : w'.replica.status.verifiedSnapshotId = w.replica.status.verifiedSnapshotId
  spec : w'.replica.spec = w.replica.spec

/-- Everything that such a change leaves alone. -/
def World.lifecycles (w : World) : List Restore × List PhaseChange × List Entry × Bool ×
    Option RedactionPhase × Nat × List Record × Option String × ReplicaSpec :=
  (w.restores, w.phaseChanges, failureLog w.history, w.replicaDeleted, w.replica.status.redactionPhase,
    w.nextUid, w.records, w.replica.status.verifiedSnapshotId, w.replica.spec)

theorem Elsewhere.of_eq {w w' : World} (h : w'.lifecycles = w.lifecycles) : Elsewhere w w' := by
  simp only [World.lifecycles, Prod.mk.injEq] at h
  obtain ⟨hrestores, hchanges, hfailures, hdeleted, hredaction, hnext, hrecords, hverified, hspec⟩ := h
  exact ⟨⟨hrestores, hchanges, hfailures, hdeleted, hredaction, hnext.ge⟩, hrecords, hverified, hspec⟩

theorem Elsewhere.refl (w : World) : Elsewhere w w := .of_eq rfl

theorem Elsewhere.trans {w w' w'' : World} (h : Elsewhere w w') (h' : Elsewhere w' w'') :
    Elsewhere w w'' where
  restores := h'.restores.trans h.restores
  phaseChanges := h'.phaseChanges.trans h.phaseChanges
  failures := h'.failures.trans h.failures
  replicaDeleted := h'.replicaDeleted.trans h.replicaDeleted
  redaction := h'.redaction.trans h.redaction
  nextUid := h.nextUid.trans h'.nextUid
  records := h'.records.trans h.records
  verified := h'.verified.trans h.verified
  spec := h'.spec.trans h.spec

/-- **An invariant about the stored restores**, which no record matters to. -/
structure AboutRestores (I : World → Prop) : Prop where
  frame : ∀ {w w' : World}, SameRestores w w' → I w → I w'
  patch : ∀ {w : World} {name : String} {f : RestoreStatus → RestoreStatus},
    (∀ s, SameLife s (f s)) → I w → I (w.patchRestore name f)

/-- **An invariant that no change elsewhere breaks.** -/
structure Steady (I : World → Prop) : Prop where
  frame : ∀ {w w' : World}, Elsewhere w w' → I w → I w'

/-- **An invariant about the stored restores and their records**: no write beside them breaks it either. -/
structure AboutRecords (I : World → Prop) : Prop extends Steady I where
  patch : ∀ {w : World} {name : String} {f : RestoreStatus → RestoreStatus},
    (∀ s, Aside s (f s)) → I w → I (w.patchRestore name f)

/-- **An invariant that the build of a restore keeps**, whatever it records of it. -/
structure AboutBuild (r : Restore) (I : World → Prop) : Prop extends AboutRecords I where
  write : ∀ {w : World} {f : RestoreStatus → RestoreStatus},
    (∀ s, SameLife s (f s) ∧ (f s).runId = s.runId) → I w → I (w.patchRestore r.name f)
  failed : ∀ {w : World}, I w → I (w.record (.buildRoundFailed r.uid))
  registered : ∀ {w : World}, I w → I (w.record (.schemaRegistered r (runIdFromStatus r)))

theorem AboutRestores.records {I : World → Prop} (hI : AboutRestores I) : AboutRecords I where
  frame := fun h => hI.frame h.toSameRestores
  patch := fun hf => hI.patch fun s => (hf s).toSameLife

/-- A record matters to no invariant of the lifecycles. -/
theorem AboutRestores.record {I : World → Prop} (hI : AboutRestores I) (e : Record) {w : World}
    (h : I w) : I (w.record e) := by
  refine hI.frame (w := w) ?_ h
  exact ⟨rfl, rfl, rfl, rfl, rfl, le_rfl⟩

theorem AboutRestores.build {I : World → Prop} (hI : AboutRestores I) (r : Restore) :
    AboutBuild r I where
  toAboutRecords := hI.records
  write := fun hf => hI.patch fun s => (hf s).1
  failed := hI.record _
  registered := hI.record _

/-- Looking the replica up changes nothing. -/
theorem keeps_getReplica {I : World → Prop} (c : Call) : Keeps I (Op.getReplica c) := by
  refine Keeps.bind Keeps.get ?_
  intro w
  split
  · exact Keeps.fail _
  · exact Keeps.read _ _

theorem getReplica_eq_done {ρ : Call → Reply Error} {c : Call} {replica : Replica} {w w' : World}
    (h : Op.getReplica c ρ w = .done replica w') : replica = w.replica ∧ w' = w := by
  obtain ⟨w₁, w₂, hget, hrest⟩ := bind_eq_done h
  cases hget
  split at hrest
  · cases hrest
  · exact read_eq_done hrest

theorem keeps_getRestore {I : World → Prop} (c : Call) (name : String) : Keeps I (Op.getRestore c name) := by
  refine Keeps.bind (Keeps.read _ _) fun found => ?_
  cases found with
  | none => exact Keeps.fail _
  | some s => exact Keeps.ret s

/-- A restore that is looked up is stored. -/
theorem getRestore_mem {ρ : Call → Reply Error} {c : Call} {name : String} {w w' : World} {r : Restore}
    (h : Op.getRestore c name ρ w = .done r w') : r ∈ w.restores := by
  obtain ⟨found, w₁, hread, hrest⟩ := bind_eq_done h
  obtain ⟨hfound, rfl⟩ := read_eq_done hread
  cases found with
  | none => cases hrest
  | some s =>
    cases hrest
    exact List.mem_of_find?_eq_some hfound.symm

namespace Steady

variable {I : World → Prop} (hI : Steady I)
include hI

/-! ## Pieces of a pass -/

theorem call {c : Call} {f : World → World} (hf : ∀ w, Elsewhere w (f w)) :
    Keeps I (Prog.call c f : Op Unit) :=
  Keeps.call fun w => hI.frame (hf w)

theorem modify {f : World → World} (hf : ∀ w, Elsewhere w (f w)) :
    Keeps I (Prog.modify f : Op Unit) :=
  Keeps.modify fun w => hI.frame (hf w)

theorem touch (c : Call) : Keeps I (Op.touch c) :=
  hI.call fun _ => .of_eq rfl

theorem log {e : Entry} (he : e.isFailure = false) : Keeps I (Prog.modify (World.log e) : Op Unit) :=
  hI.modify fun _ => ⟨⟨rfl, rfl, List.filter_cons_of_neg (by simp [he]), rfl, rfl, le_rfl⟩, rfl, rfl, rfl⟩

theorem patchStatus {c : Call} {f : ReplicaStatus → ReplicaStatus}
    (hf : ∀ s, (f s).markers = s.markers) : Keeps I (Op.patchStatus c f) := by
  refine hI.call fun w => ⟨⟨rfl, rfl, rfl, rfl, ?_, le_rfl⟩, rfl, ?_, rfl⟩
  · exact congrArg Prod.fst (hf w.replica.status)
  · exact congrArg Prod.snd (hf w.replica.status)

theorem deleteJob (c : Call) (k : JobKey) :
    Keeps I (Prog.bestEffort (Prog.call c (World.deleteJob k)) : Op Bool) :=
  Keeps.bestEffort (hI.call fun _ => .of_eq rfl)

/-- Any Job but one that restores. -/
theorem createJob {c : Call} {mk : Nat → Job} {entries : Nat → List Entry}
    (he : ∀ uid, failureLog (entries uid) = [] ∧ (mk uid).records = []) :
    Keeps I (Op.createJob c mk entries) := by
  refine Keeps.bind Keeps.get ?_
  intro w
  split
  · exact Keeps.fail _
  · refine hI.call fun w => ⟨⟨rfl, rfl, ?_, rfl, rfl, Nat.le_succ _⟩, ?_, rfl, rfl⟩
    · simp only [failureLog] at he
      simp only [failureLog, World.addJob, List.filter_append, he, List.nil_append]
    · simp only [World.addJob, he, List.nil_append]

theorem scaleDeployment (c : Call) (name : String) (replicas : Nat) :
    Keeps I (Op.scaleDeployment c name replicas) := by
  refine Keeps.bind Keeps.get ?_
  intro w
  split
  · exact Keeps.fail _
  · exact hI.call fun _ => .of_eq rfl

theorem publishEvent (reason : String) : Keeps I (Op.publishEvent reason) :=
  Keeps.bind (Keeps.bestEffort (hI.touch _)) fun _ => Keeps.ret _

theorem updateCondition (type status reason message : String) :
    Keeps I (Op.updateCondition type status reason message) :=
  Keeps.bind (Keeps.read _ _) fun _ => hI.patchStatus fun _ => rfl

/-- A report is made from a restore that was read. -/
theorem report {J : World → Prop} {r : Restore} (hJ : Steady J)
    (hreport : ∀ {w : World}, I w → J (w.record (.verificationReported r (runIdFromStatus r))))
    (ρ : Call → Reply Error)
    (uid : Nat) (outcome : RunOutcome) : Leads ρ I J J (Op.report uid r outcome) := by
  refine Leads.bind (Q := J) (Leads.modify fun w h => hreport ?_) fun _ => ?_
  · refine hI.frame (w := w) ⟨⟨rfl, rfl, ?_, rfl, rfl, le_rfl⟩, rfl, rfl, rfl⟩ h
    exact List.filter_cons_of_neg (by simp [Entry.isFailure])
  · refine Leads.of_keeps ?_ fun _ h => h
    exact Keeps.bind (Keeps.bestEffort (hJ.touch _)) fun _ => Keeps.ret _

theorem releaseRestoreSlot : Keeps I Op.releaseRestoreSlot :=
  hI.modify fun _ => .of_eq rfl

/-! ## The redaction gate -/

theorem patchDatabase (c : Call) (name : String) (f : Database → Database) :
    Keeps I (Prog.call c (World.patchDatabase name f) : Op Unit) :=
  hI.call fun _ => .of_eq rfl

theorem runRedaction (p : ReplicaPass) (replica : Replica) (spec : RedactionSpec) (name : String) :
    Keeps I (RestoreOperator.runRedaction p replica spec name) := by
  refine Keeps.bind (hI.touch _) fun _ => Keeps.bind (hI.touch _) fun _ => ?_
  refine Keeps.bind (hI.touch _) fun _ => Keeps.bind ?_ fun _ => ?_
  · unfold resolveVersion
    split
    · exact Keeps.ret _
    · split
      · exact Keeps.ret _
      · exact Keeps.ask _ _
  refine Keeps.bind (hI.touch _) fun _ => Keeps.bind (Keeps.ask _ _) fun _ => ?_
  refine Keeps.bind (Keeps.when fun _ => ?_) fun _ => Keeps.ret _
  refine Keeps.bind (hI.patchDatabase _ _ _) fun _ => ?_
  exact Keeps.bind (hI.patchDatabase _ _ _) fun _ => hI.patchDatabase _ _ _

theorem reconcileRedaction (p : ReplicaPass) (replica : Replica) (r : Restore) :
    Keeps I (RestoreOperator.reconcileRedaction p replica r) := by
  unfold RestoreOperator.reconcileRedaction
  split
  · exact Keeps.fail _
  split
  · exact Keeps.fail _
  · exact Keeps.bind (hI.runRedaction _ _ _ _) fun _ => Keeps.bind (hI.log rfl) fun _ => Keeps.ret _

/-- **The redaction gate**, which writes the marker. -/
theorem redactionGate (p : ReplicaPass) (replica : Replica) (r : Restore)
    (hmark : ∀ (f : ReplicaStatus → ReplicaStatus),
      (∀ s, (f s).verifiedSnapshotId = s.verifiedSnapshotId) → ∀ {w : World}, I w → I (w.patchStatus f)) :
    Keeps I (RestoreOperator.redactionGate p replica r) := by
  have hpatch : ∀ (c : Call) (f : ReplicaStatus → ReplicaStatus),
      (∀ s, (f s).verifiedSnapshotId = s.verifiedSnapshotId) → Keeps I (Op.patchStatus c f) :=
    fun _ f hf => Keeps.call fun _ => hmark f hf
  unfold RestoreOperator.redactionGate
  split
  swap
  · exact Keeps.ret _
  unfold reconcileRedactionStep
  split
  · exact Keeps.ret _
  refine Keeps.bind (Keeps.when fun _ => hpatch _ _ fun _ => rfl) fun _ => ?_
  refine Keeps.bind (Keeps.attempt (hI.reconcileRedaction _ _ _)) fun result => ?_
  cases result with
  | ok outcome => exact Keeps.bind (hpatch _ _ fun _ => rfl) fun _ => Keeps.ret _
  | error e => exact Keeps.bind (hpatch _ _ fun _ => rfl) fun _ => Keeps.bind (hI.publishEvent _) fun _ => Keeps.ret _

/-! ## The schema-migration gate -/

theorem ensureCredentialReset (r : Restore) : Keeps I (RestoreOperator.ensureCredentialReset r) := by
  refine Keeps.bind (Keeps.read _ _) ?_
  intro job
  cases job with
  | some job =>
    dsimp only
    split
    · exact Keeps.ret _
    · refine Keeps.bind (Keeps.bestEffort (hI.scaleDeployment _ _ _)) fun _ => ?_
      exact Keeps.bind (hI.deleteJob _ _) fun _ => Keeps.ret _
    · refine Keeps.bind (hI.deleteJob _ _) fun _ => ?_
      exact Keeps.bind (Keeps.bestEffort (hI.scaleDeployment _ _ _)) fun _ => Keeps.ret _
  | none =>
    refine Keeps.bind (hI.scaleDeployment _ _ _) fun _ => Keeps.bind (Keeps.read _ _) fun pods => ?_
    split
    · exact Keeps.ret _
    split
    · exact Keeps.fail _
    · rename_i hbuilt
      unfold buildCredentialResetJob at hbuilt
      split at hbuilt
      · cases hbuilt
      · cases hbuilt
        exact Keeps.bind (hI.createJob fun _ => ⟨rfl, rfl⟩) fun _ => Keeps.ret _

theorem discoverOrReset (r : Restore) : Keeps I (RestoreOperator.discoverOrReset r) := by
  apply Keeps.bind (Keeps.attempt (hI.touch _))
  intro found
  cases found with
  | ok _ => exact Keeps.ret _
  | error e =>
    dsimp only
    split
    · exact Keeps.bind (hI.ensureCredentialReset r) fun _ => Keeps.ret _
    · exact Keeps.fail _

theorem takeMigrationResult : Keeps I RestoreOperator.takeMigrationResult :=
  Keeps.bind Keeps.get fun _ =>
    Keeps.bind (hI.modify fun _ => .of_eq rfl) fun _ => Keeps.ret _

theorem timeoutSchemaMigration (replica : Replica) (r : Restore) (job : Job) :
    Keeps I (RestoreOperator.timeoutSchemaMigration replica r job) := by
  refine Keeps.bind (hI.deleteJob _ _) fun _ => Keeps.bind (Keeps.when fun _ => ?_) fun _ => ?_
  · refine Keeps.bind (Keeps.bestEffort ?_) fun _ => Keeps.ret _
    refine Keeps.bind (hI.touch _) fun _ => Keeps.bind (hI.touch _) fun _ => ?_
    exact Keeps.bind (hI.touch _) fun _ => hI.touch _
  refine Keeps.bind (hI.publishEvent _) fun _ => Keeps.bind (hI.log rfl) fun _ => ?_
  exact hI.patchStatus fun _ => rfl

theorem followMigrationJob (ctx : Context) (p : ReplicaPass) (replica : Replica) (r : Restore)
    (job : Job) : Keeps I (RestoreOperator.followMigrationJob ctx p replica r job) := by
  unfold RestoreOperator.followMigrationJob
  split
  · split
    · exact Keeps.bind (hI.timeoutSchemaMigration _ _ _) fun _ => Keeps.ret _
    · exact Keeps.ret _
  · refine Keeps.bind (hI.log rfl) fun _ => Keeps.bind hI.takeMigrationResult fun _ => ?_
    refine Keeps.bind (Keeps.when fun _ => hI.publishEvent _) fun _ => ?_
    refine Keeps.bind (hI.patchStatus fun _ => rfl) fun _ => ?_
    exact Keeps.bind (hI.deleteJob _ _) fun _ => Keeps.ret _
  · refine Keeps.bind hI.takeMigrationResult fun _ => Keeps.bind (hI.deleteJob _ _) fun _ => ?_
    exact Keeps.bind (hI.patchStatus fun _ => rfl) fun _ => Keeps.fail _

theorem startMigration (p : ReplicaPass) (replica : Replica) (schemas : List String)
    (newRestore oldRestore : Restore) :
    Keeps I (RestoreOperator.startMigration p replica schemas newRestore oldRestore) := by
  refine Keeps.bind (hI.touch _) fun _ => Keeps.bind (hI.discoverOrReset _) fun source => ?_
  cases source with
  | none => exact Keeps.ret _
  | some _ =>
  refine Keeps.bind (hI.touch _) fun _ => Keeps.bind (Keeps.ask _ _) fun found => ?_
  refine Keeps.bind (hI.touch _) fun _ => ?_
  split
  · exact Keeps.bind (hI.log rfl) fun _ => Keeps.bind (hI.patchStatus fun _ => rfl) fun _ => Keeps.ret _
  refine Keeps.bind (hI.patchStatus fun _ => rfl) fun _ => Keeps.bind (hI.discoverOrReset _) fun target => ?_
  cases target with
  | none => exact Keeps.ret _
  | some _ =>
  refine Keeps.bind (hI.touch _) fun _ => Keeps.bind (Keeps.ask _ _) fun preexisting => ?_
  refine Keeps.bind (Keeps.when fun _ => hI.touch _) fun _ => ?_
  refine Keeps.bind (hI.createJob fun _ => ⟨rfl, rfl⟩) fun _ => ?_
  exact Keeps.bind (hI.patchStatus fun _ => rfl) fun _ => Keeps.ret _

theorem reconcileSchemaMigration (ctx : Context) (p : ReplicaPass) (replica : Replica)
    (newRestore : Restore) (oldRestore : Option Restore) :
    Keeps I (RestoreOperator.reconcileSchemaMigration ctx p replica newRestore oldRestore) := by
  unfold RestoreOperator.reconcileSchemaMigration
  split
  · exact Keeps.fail _
  split
  · exact Keeps.ret _
  split
  · exact Keeps.bind (hI.patchStatus fun _ => rfl) fun _ => Keeps.ret _
  split
  · exact Keeps.ret _
  refine Keeps.bind (Keeps.read _ _) ?_
  intro job
  cases job with
  | some job => exact hI.followMigrationJob _ _ _ _ _
  | none => exact hI.startMigration _ _ _ _ _

/-! ## The store of a build -/

theorem takeSchema : Keeps I RestoreOperator.takeSchema := by
  refine Keeps.bind Keeps.get fun _ => Keeps.bind (hI.modify fun _ => ?_) fun _ => Keeps.ret _
  exact .of_eq rfl

theorem keepSchema (sql : String) : Keeps I (RestoreOperator.keepSchema sql) :=
  hI.modify fun _ => .of_eq rfl

theorem deleteBuildJob : Keeps I RestoreOperator.deleteBuildJob :=
  Keeps.bind (hI.deleteJob _ _) fun _ => Keeps.ret _

end Steady

/-! ## The reporting-schema gate -/

namespace AboutBuild

variable {I : World → Prop} {r : Restore} (hB : AboutBuild r I)
include hB

theorem failRound : Keeps I (RestoreOperator.failRound r) :=
  Keeps.modify fun _ h => hB.failed h

theorem recordSchemaBuild (jobName : Option String) (result : SchemaBuildResult) :
    Keeps I (RestoreOperator.recordSchemaBuild r jobName result) :=
  Keeps.call fun _ => hB.write fun _ => ⟨⟨rfl, rfl, rfl, id, fun _ => rfl⟩, rfl⟩

theorem recordBuildAttempt (attempts : Int) :
    Keeps I (RestoreOperator.recordBuildAttempt r attempts) :=
  Keeps.call fun _ => hB.write fun _ => ⟨.of_eq rfl, rfl⟩

theorem settleFailed (error : String) : Keeps I (RestoreOperator.settleFailed r error) :=
  Keeps.bind (hB.recordSchemaBuild _ _) fun _ => Keeps.ret _

theorem retryOrSettle (err : Error) : Keeps I (RestoreOperator.retryOrSettle r err) := by
  refine Keeps.bind hB.failRound fun _ => ?_
  split
  · exact hB.settleFailed _
  · exact Keeps.bind (hB.recordBuildAttempt _) fun _ => Keeps.ret _

theorem startBuild (ctx : Context) (p : ReplicaPass) : Keeps I (RestoreOperator.startBuild ctx p r) := by
  have hI := hB.toSteady
  refine Keeps.bind hI.takeSchema fun _ => Keeps.bind (Keeps.attempt (hI.touch _)) fun discovered => ?_
  cases discovered with
  | error err => exact hB.retryOrSettle _
  | ok _ =>
  refine Keeps.bind (Keeps.attempt (Keeps.when fun _ => hI.touch _)) fun secret => ?_
  cases secret with
  | error err => exact hB.retryOrSettle _
  | ok _ =>
  refine Keeps.bind Keeps.get fun w => ?_
  split
  · exact Keeps.ret _
  · exact Keeps.bind (hI.createJob fun _ => ⟨rfl, rfl⟩) fun _ => Keeps.ret _

theorem registerReportingSchema (ctx : Context) (p : ReplicaPass) :
    Keeps I (RestoreOperator.registerReportingSchema ctx p r) := by
  unfold RestoreOperator.registerReportingSchema
  split
  · refine Keeps.bind (Keeps.modify fun _ h => hB.registered h) fun _ => ?_
    exact Keeps.bind (Keeps.attempt (Keeps.ask _ _)) fun _ => Keeps.ret _
  · exact Keeps.ret _

theorem finishBuild (ctx : Context) (p : ReplicaPass) (replica : Replica) (job : Job) :
    Keeps I (RestoreOperator.finishBuild ctx p replica r job) := by
  have hI := hB.toSteady
  have hsettle : ∀ (sql : String) (elapsed : Int) (registration : Option String)
      (registered : List String),
      Keeps I (finishBuild.settle replica r sql elapsed registration registered) := by
    intro sql elapsed registration registered
    refine Keeps.bind (Keeps.attempt (hB.recordSchemaBuild _ _)) fun recorded => ?_
    cases recorded with
    | error err => exact Keeps.bind (hI.keepSchema _) fun _ => Keeps.fail _
    | ok _ => exact Keeps.bind hI.deleteBuildJob fun _ => Keeps.ret _
  refine Keeps.bind hI.takeSchema fun schema => ?_
  cases schema with
  | none =>
    dsimp only
    split
    · refine Keeps.bind hB.failRound fun _ => Keeps.bind (hB.recordBuildAttempt _) fun _ => ?_
      exact Keeps.bind hI.deleteBuildJob fun _ => Keeps.ret _
    · refine Keeps.bind (hB.recordSchemaBuild _ _) fun _ => ?_
      exact Keeps.bind hI.deleteBuildJob fun _ => Keeps.ret _
  | some sql =>
    refine Keeps.bind (hB.registerReportingSchema ctx p) fun registration => ?_
    dsimp only
    split
    · refine Keeps.bind hB.failRound fun _ => ?_
      split
      · refine Keeps.bind (hI.keepSchema _) fun _ => ?_
        exact Keeps.bind (hB.recordBuildAttempt _) fun _ => Keeps.ret _
      · exact hsettle _ _ _ _
    · exact hsettle _ _ _ _
    · exact hsettle _ _ _ _

theorem failBuild (p : ReplicaPass) (replica : Replica) (job : Job) :
    Keeps I (RestoreOperator.failBuild p replica r job) := by
  have hI := hB.toSteady
  refine Keeps.bind (Keeps.bestEffort (hI.touch _)) fun _ => ?_
  refine Keeps.bind (Keeps.bestEffort (hI.touch _)) fun _ => ?_
  refine Keeps.bind (hB.recordSchemaBuild _ _) fun _ => Keeps.bind hI.takeSchema fun _ => ?_
  exact Keeps.bind hI.deleteBuildJob fun _ => Keeps.ret _

theorem reconcileSchemaBuild (ctx : Context) (p : ReplicaPass) (replica : Replica) :
    Keeps I (RestoreOperator.reconcileSchemaBuild ctx p replica r) := by
  unfold RestoreOperator.reconcileSchemaBuild
  split
  · exact Keeps.ret _
  · exact hB.settleFailed _
  · exact hB.settleFailed _
  · exact hB.settleFailed _
  · exact Keeps.bind hB.toSteady.takeSchema fun _ => Keeps.ret _
  · exact Keeps.ret _
  · refine Keeps.bind (Keeps.read _ _) fun job => ?_
    cases job with
    | none => exact hB.startBuild _ _
    | some job =>
      dsimp only
      split
      · exact Keeps.ret _
      split
      · exact Keeps.ret _
      · exact hB.finishBuild _ _ _ _
      · exact hB.failBuild _ _ _

end AboutBuild

namespace Steady

variable {I : World → Prop} (hI : Steady I)
include hI

/-! ## Around the switchover -/

theorem reconcileExtraUserGrants (p : ReplicaPass) (replica : Replica) :
    Keeps I (RestoreOperator.reconcileExtraUserGrants p replica) := by
  unfold RestoreOperator.reconcileExtraUserGrants
  split
  · exact Keeps.ret _
  refine Keeps.bind (hI.touch _) fun _ => Keeps.bind (hI.touch _) fun _ => ?_
  exact Keeps.bind (Keeps.ask _ _) fun _ => Keeps.when fun _ => hI.touch _

/-- The gates after the redaction, where the build leads from one invariant to another. -/
theorem laterGates {J K : World → Prop} {ρ : Call → Reply Error} (hJ : Steady J)
    (hIJ : ∀ w, I w → J w) (hJK : ∀ w, J w → K w) (ctx : Context) (p : ReplicaPass) (replica : Replica)
    (switching : Restore) (active : Option Restore)
    (hbuild : Leads ρ I J K (RestoreOperator.reconcileSchemaBuild ctx p replica switching)) :
    Leads ρ I J K (do
      let migrated ← schemaMigrationGate ctx p replica switching active
      if !migrated then return false
      else do
        let built ← RestoreOperator.reconcileSchemaBuild ctx p replica switching
        if !built then return false
        else do
          RestoreOperator.reconcileExtraUserGrants p replica
          return true : Op Bool) := by
  have hIK : ∀ w, I w → K w := fun w h => hJK w (hIJ w h)
  refine Leads.keeps_bind ?_ hIK fun migrated => ?_
  · unfold schemaMigrationGate
    split
    · exact hI.reconcileSchemaMigration _ _ _ _ _
    · exact Keeps.ret _
  split
  · exact Leads.ret hIJ hIK
  refine Leads.bind hbuild fun built => ?_
  split
  · exact Leads.ret (fun _ h => h) hJK
  · refine Leads.of_keeps ?_ hJK
    exact Keeps.bind (hJ.reconcileExtraUserGrants _ _) fun _ => Keeps.ret _

/-- **The gates of the switchover.** -/
theorem switchoverGates {J K : World → Prop} {ρ : Call → Reply Error} (hJ : Steady J)
    (hIJ : ∀ w, I w → J w) (hJK : ∀ w, J w → K w) (ctx : Context) (p : ReplicaPass) (replica : Replica)
    (switching : Restore) (active : Option Restore)
    (hredaction : Keeps I (RestoreOperator.redactionGate p replica switching))
    (hbuild : Leads ρ I J K (RestoreOperator.reconcileSchemaBuild ctx p replica switching)) :
    Leads ρ I J K (RestoreOperator.switchoverGates ctx p replica switching active) := by
  have hIK : ∀ w, I w → K w := fun w h => hJK w (hIJ w h)
  refine Leads.keeps_bind hredaction hIK fun redacted => ?_
  split
  · exact Leads.ret hIJ hIK
  · exact hI.laterGates hJ hIJ hJK _ _ _ _ _ hbuild

/-! ## Around the restores of a replica -/

theorem validateCredentials (p : ReplicaPass) (replica : Replica) :
    Keeps I (RestoreOperator.validateCredentials p replica) := by
  unfold RestoreOperator.validateCredentials
  split
  · exact Keeps.bind (hI.updateCondition _ _ _ _) fun _ => Keeps.ret _
  · exact Keeps.bind (hI.updateCondition _ _ _ _) fun _ => Keeps.ret _
  · refine Keeps.bind (Keeps.attempt (hI.touch _)) fun secret => ?_
    cases secret with
    | error e => exact Keeps.bind (hI.updateCondition _ _ _ _) fun _ => Keeps.ret _
    | ok _ =>
      dsimp only
      split
      · exact Keeps.bind (hI.updateCondition _ _ _ _) fun _ => Keeps.ret _
      · exact Keeps.bind (hI.updateCondition _ _ _ _) fun _ => Keeps.ret _
  · exact Keeps.bind (hI.updateCondition _ _ _ _) fun _ => Keeps.ret _

theorem ensureObjects (replica : Replica) : Keeps I (RestoreOperator.ensureObjects replica) := by
  refine Keeps.bind (hI.touch _) fun _ => Keeps.bind (hI.touch _) fun _ => ?_
  refine Keeps.bind (hI.call fun _ => .of_eq rfl) fun _ => ?_
  exact Keeps.bind (hI.patchStatus fun _ => rfl) fun _ => hI.touch _

theorem noSnapshotCondition (replica : Replica) :
    Keeps I (RestoreOperator.noSnapshotCondition replica) := by
  unfold RestoreOperator.noSnapshotCondition
  split
  · exact hI.updateCondition _ _ _ _
  · exact hI.updateCondition _ _ _ _

theorem takeSnapshotResult : Keeps I RestoreOperator.takeSnapshotResult :=
  Keeps.bind Keeps.get fun _ =>
    Keeps.bind (hI.modify fun _ => .of_eq rfl) fun _ => Keeps.ret _

theorem deleteSnapshotJob : Keeps I RestoreOperator.deleteSnapshotJob :=
  Keeps.bind (hI.deleteJob _ _) fun _ => Keeps.ret _

theorem updateScheduleStatus (c : Call) (ctx : Context) (replica : Replica) (next : Option Timestamp) :
    Keeps I (RestoreOperator.updateScheduleStatus c ctx replica next) := by
  unfold RestoreOperator.updateScheduleStatus
  split
  · exact Keeps.ret _
  · exact hI.patchStatus fun _ => rfl

theorem startRestore (p : ReplicaPass) : Keeps I (RestoreOperator.startRestore p) := by
  refine Keeps.bind Keeps.get fun w => ?_
  split
  · refine Keeps.bind (hI.modify fun _ => .of_eq rfl) fun _ => Keeps.bind Keeps.get fun _ => ?_
    exact Keeps.bind (hI.patchStatus fun _ => rfl) fun _ => Keeps.ret _
  · exact Keeps.bind (hI.createJob fun _ => ⟨rfl, rfl⟩) fun _ => Keeps.ret _

/-- **The trigger block.** -/
theorem reconcileTrigger (ctx : Context) (p : ReplicaPass) (replica : Replica)
    (restores : List Restore) (job : Option Job) :
    Keeps I (RestoreOperator.reconcileTrigger ctx p replica restores job) := by
  refine Keeps.unlessReturned ?_ (Keeps.bind (hI.updateScheduleStatus _ _ _ _) fun _ => ?_)
  · unfold waitForProgress
    split
    · exact Keeps.ret _
    · exact Keeps.bind (hI.patchStatus fun _ => rfl) fun _ => Keeps.ret _
  split
  · exact hI.startRestore p
  · refine Keeps.bind (hI.updateScheduleStatus _ _ _ _) fun _ => ?_
    refine Keeps.bind (hI.patchStatus fun _ => rfl) fun _ => ?_
    exact Keeps.bind (hI.patchStatus fun _ => rfl) fun _ => Keeps.ret _

/-! ## Around the phases of a restore -/

theorem cleanupPreviousJobs (r : Restore) : Keeps I (RestoreOperator.cleanupPreviousJobs r) := by
  refine Keeps.bind (Keeps.read _ _) fun jobs => Keeps.each fun k _ => ?_
  exact Keeps.bind (hI.deleteJob _ _) fun _ => Keeps.ret _

theorem ensureDataPvc (r : Restore) : Keeps I (RestoreOperator.ensureDataPvc r) := by
  refine Keeps.bind (Keeps.read _ _) fun pvcs => ?_
  split
  · exact Keeps.ret _
  · exact Keeps.bind (keeps_getReplica _) fun _ => hI.call fun _ => .of_eq rfl

theorem ensureKopiaCachePvc (r : Restore) : Keeps I (RestoreOperator.ensureKopiaCachePvc r) := by
  refine Keeps.bind (Keeps.read _ _) fun current => ?_
  cases current with
  | none => exact Keeps.bind (keeps_getReplica _) fun _ => hI.call fun _ => .of_eq rfl
  | some current =>
    dsimp only
    split
    · refine Keeps.bind (Keeps.bestEffort ?_) fun _ => Keeps.ret _
      exact hI.call fun _ => .of_eq rfl
    · exact Keeps.ret _

theorem reindexVerdict (p : RestorePass) (r : Restore) : Keeps I (RestoreOperator.reindexVerdict p r) := by
  have hobserve : ∀ previous, Keeps I (reindexVerdict.observe p r previous) := by
    intro previous
    refine Keeps.bind (Keeps.attempt (Keeps.ask _ _)) fun seen => ?_
    split
    · exact Keeps.bind (hI.modify fun _ => .of_eq rfl) fun _ => Keeps.ret _
    · exact Keeps.bind (hI.modify fun _ => .of_eq rfl) fun _ => Keeps.ret _
    · exact Keeps.ret _
  refine Keeps.bind Keeps.get fun w => ?_
  dsimp only
  split
  · split
    · exact Keeps.ret _
    · exact hobserve _
  · exact hobserve _

theorem consultReindex (p : RestorePass) (r : Restore) (replica : Replica) :
    Keeps I (RestoreOperator.consultReindex p r replica) := by
  unfold RestoreOperator.consultReindex
  split
  · exact Keeps.bind (hI.reindexVerdict _ _) fun _ => Keeps.ret _
  · exact Keeps.ret _

theorem applyDeployment (d : Deployment) :
    Keeps I (Prog.call .applyDeployment (World.applyDeployment d) : Op Unit) := by
  refine hI.call fun w => ?_
  unfold World.applyDeployment
  split
  · exact .of_eq rfl
  · exact .of_eq rfl

theorem applyRestoreDeployment (replica : Replica) (r : Restore) :
    Keeps I (RestoreOperator.applyRestoreDeployment replica r) := by
  unfold RestoreOperator.applyRestoreDeployment
  split
  · exact Keeps.fail _
  · exact Keeps.bind (hI.applyDeployment _) fun _ => Keeps.bind Keeps.get fun _ => Keeps.ret _

theorem convergeDeployment (r : Restore) (replica : Replica) :
    Keeps I (RestoreOperator.convergeDeployment r replica) := by
  unfold RestoreOperator.convergeDeployment
  split
  · exact Keeps.bind (hI.applyRestoreDeployment _ _) fun _ => Keeps.ret _
  · exact Keeps.ret _

/-- **Phase Switching.** -/
theorem reconcileSwitching (r : Restore) : Keeps I (RestoreOperator.reconcileSwitching r) := by
  refine Keeps.bind (Keeps.read _ _) fun replica => ?_
  cases replica with
  | none => exact Keeps.ret _
  | some replica => exact Keeps.bind (hI.convergeDeployment _ _) fun _ => Keeps.ret _

/-- **Phase Active.** -/
theorem reconcileActive (r : Restore) : Keeps I (RestoreOperator.reconcileActive r) := by
  refine Keeps.bind (Keeps.read _ _) fun replica => ?_
  cases replica with
  | none => exact Keeps.ret _
  | some replica =>
    refine Keeps.bind (hI.convergeDeployment _ _) fun _ => Keeps.bind ?_ fun _ => Keeps.ret _
    exact hI.call fun _ => .of_eq rfl

end Steady

namespace AboutRecords

variable {I : World → Prop} (hI : AboutRecords I)
include hI

/-! ## Writes beside the records -/

theorem patchRestore {c : Call} {name : String} {f : RestoreStatus → RestoreStatus}
    (hf : ∀ s, Aside s (f s)) : Keeps I (Op.patchRestore c name f) :=
  Keeps.call fun _ => hI.patch hf

theorem stillRunning (r : Restore) : Keeps I (reconcileRestoring.stillRunning r) :=
  Keeps.bind (hI.patchRestore fun _ => ⟨.of_eq rfl, rfl⟩) fun _ => Keeps.ret _

/-- **What follows once the restore is Active.** -/
theorem recordSwitchover {J : World → Prop} (hJ : Steady J) (hIJ : ∀ w, I w → J w)
    (p : ReplicaPass) (replica : Replica) (switching : Restore) (active : Option Restore)
    (hreport : ∀ {w : World}, I w →
      J (w.record (.verificationReported switching (runIdFromStatus switching))))
    (ρ : Call → Reply Error) :
    Leads ρ I J J (RestoreOperator.recordSwitchover p replica switching active) := by
  have hactivated : Keeps I (updateActivatedAt p switching) :=
    hI.patchRestore fun _ => ⟨.of_eq rfl, rfl⟩
  refine Leads.keeps_bind hactivated hIJ fun _ => ?_
  refine Leads.keeps_bind (hI.patchStatus fun _ => rfl) hIJ fun _ => ?_
  refine Leads.bind (Q := J) ?_ fun _ => Leads.ret (fun _ h => h) fun _ h => h
  refine Leads.keeps_bind ?_ hIJ fun _ => ?_
  · unfold markRestoreOutgoing
    split
    · exact Keeps.ret _
    · exact Keeps.bind (Keeps.bestEffort (hI.patchDatabase _ _ _)) fun _ => Keeps.ret _
  refine Leads.keeps_bind (Keeps.when fun _ => hI.updateCondition _ _ _ _) hIJ fun _ => ?_
  refine Leads.keeps_bind (hI.publishEvent _) hIJ fun _ => ?_
  exact Leads.keeps_bind (Keeps.bestEffort (hI.touch _)) hIJ fun _ => hI.report hJ hreport ρ _ _

end AboutRecords

end RestoreOperator
