import RestoreOperator.Calls.Prog
import RestoreOperator.Objects.Context

/-!
# `Objects.Calls` — the calls a reconcile makes

Every call site of the two controllers has a name, so that an oracle can answer each of them
separately: a run in which one given write fails is a choice of the oracle.  Loops name the object
they are at.

What a call learns from outside the stored objects (the clock, a database, canopy) is an input of
the pass; a call that has nothing to learn but whether it worked has only its reply.
-/

namespace RestoreOperator

open Calls

/-- **The call sites of the controllers.** -/
inductive Call where
  -- the replica controller, before its blocks
  | getKopiaSecret
  | ensureCredentialsSecret
  | ensureExtraUserSecrets
  | ensureService
  | patchServiceName
  | patchConnectionInfo
  | listRestores
  | conditionGet (type : String)
  | conditionPatch (type : String)
  | publishEvent (reason : String)
  -- redaction
  | redactionPatchActive
  | redactionCredentials
  | redactionDiscover
  | redactionConnect
  | redactionVersion
  | redactionManifest
  | redactionApply
  | redactionAlterDatabase
  | redactionGrant
  | redactionDemote
  | redactionPatchSettled
  | redactionPatchFailed
  -- schema migration and credential reset
  | migrationGetJob
  | migrationPatchPhase
  | migrationDeleteJob
  | migrationCredentials
  | migrationDiscover (restore : String)
  | migrationConnect (restore : String)
  | migrationExistingSchemas (restore : String)
  | migrationDatabaseSize
  | migrationPatchSize
  | migrationDropSchemas
  | migrationCreateJob
  | migrationPatchActive
  | resetGetJob (restore : String)
  | resetScaleUp (restore : String)
  | resetDeleteJob (restore : String)
  | resetScaleDown (restore : String)
  | resetListPods (restore : String)
  | resetCreateJob (restore : String)
  -- reporting-schema build
  | buildGetJob
  | buildDiscover
  | buildPullSecret
  | buildCreateJob
  | buildRegister
  | buildRecord
  | buildRecordAttempt
  | buildDeleteJob
  | buildLog
  | buildSecrets
  -- grants and switchover
  | grantCredentials
  | grantConnect
  | grantSuperuser
  | grantSchemaRead
  | markPodReady
  | updateServiceSelector
  | updatePhaseActive
  | updateActivatedAt
  | patchSwitchover
  | markOutgoing
  | sendNotifications
  | sendReport
  -- teardown, sweep and cleanup
  | patchVerified
  | deleteVerified
  | deleteStale (restore : String)
  | patchSwept
  | deleteFailedPods (restore : String)
  | deleteFailed (restore : String)
  -- snapshot list
  | getSnapshotJob
  | deleteSnapshotJob
  | patchSnapshotJobTtl
  | patchLatestSnapshot
  | relistRestores
  | createRestore
  -- trigger
  | patchReplicaPhase
  | patchSchedule
  | patchQueuePosition
  | createSnapshotJob
  | patchAdvance
  | patchFinalPhase
  | clearQueuePosition
  -- the restore controller
  | getReplica
  | patchCreatedAt
  | listJobs
  | deletePreviousJob (job : JobKey)
  | getDataPvc
  | createDataPvc
  | getCachePvc
  | createCachePvc
  | growCachePvc
  | patchRestoring
  | getRestoreJob
  | patchRunId
  | createRestoreJob
  | readVersion
  | patchReady
  | deleteRestoreJob
  | patchRestoreJobTtl
  | patchJobRunning
  | patchFailed
  | getFailedReplica
  | patchFailureCount
  | getReported
  | getReportedReplica
  | getVersionJob
  | createVersionJob
  | deleteVersionJob
  | patchVersion
  | ensureRestoreService
  | applyDeployment
  | patchMigrating
  | patchSwitching
  | observeReindex
  | patchUnmigrated
  | migratingCredentials
  | migratingDiscover
  | getMigrationJob
  | latestBatch
  | patchBaseline
  | dropPreMigrateSchemas
  | runPreMigrateSql
  | createMigrationJob
  | readMigrationResult
  | patchMigrated
  -- the callback of a full cache
  | getPressuredRestore
  | getPressuredCache
  | growPressuredCache

/-- When a reconcile asks to be called again, in seconds. -/
structure Action where
  requeue : Nat
  deriving Repr, DecidableEq

/-- **A piece of a reconcile**: a program over the world, answered call by call. -/
abbrev Op (α : Type) := Prog Call World Error α

namespace Op

/-- Look a Job up. -/
def getJob (c : Call) (k : JobKey) : Op (Option Job) :=
  Prog.read c fun w => w.job k

/-- Create a Job, and log what its creation is.  The name of a Job that exists is taken. -/
def createJob (c : Call) (mk : Nat → Job) (entries : Nat → List Entry := fun _ => []) : Op Unit := do
  let w ← Prog.get
  if (w.job (mk w.nextUid).key).isSome then Prog.fail (.kube "AlreadyExists")
  else Prog.call c (World.addJob mk entries)

/-- Scale the Deployment of a restore.  One that is not there cannot be patched. -/
def scaleDeployment (c : Call) (name : String) (replicas : Nat) : Op Unit := do
  let w ← Prog.get
  if (w.deployment name).isNone then Prog.fail (.kube "NotFound")
  else Prog.call c (World.scaleDeployment name replicas)

/-- Patch the status of the replica. -/
def patchStatus (c : Call) (f : ReplicaStatus → ReplicaStatus) : Op Unit :=
  Prog.call c (World.patchStatus f)

/-- Patch the status of a restore. -/
def patchRestore (c : Call) (name : String) (f : RestoreStatus → RestoreStatus) : Op Unit :=
  Prog.call c (World.patchRestore name f)

/-- A call of which nothing is kept but that it worked. -/
def touch (c : Call) : Op Unit :=
  Prog.call c id

/-- Publish an event; a failure to do so is only logged. -/
def publishEvent (reason : String) : Op Unit := do
  let _ ← Prog.bestEffort (touch (.publishEvent reason))

/-- The replica, which may be gone. -/
def getReplica (c : Call) : Op Replica := do
  let w ← Prog.get
  if w.replicaDeleted then Prog.fail (.kube "NotFound")
  else Prog.read c fun w => w.replica

/-- The replica, if it is still there. -/
def getReplicaOpt (c : Call) : Op (Option Replica) :=
  Prog.read c fun w => if w.replicaDeleted then none else some w.replica

/-- The restore of a name. -/
def getRestore (c : Call) (name : String) : Op Restore := do
  let found ← Prog.read c fun w => w.restores.find? fun r => r.name == name
  match found with
  | some restore => pure restore
  | none => Prog.fail (.kube "NotFound")

/-- Set a condition among the others. -/
def setCondition (c : Condition) (conditions : List Condition) : List Condition :=
  if conditions.any (fun e => e.type == c.type) then
    conditions.map fun e => if e.type == c.type then c else e
  else conditions ++ [c]

/-- **Record a condition** on the replica: it reads the replica afresh and writes all of them. -/
def updateCondition (type status reason message : String) : Op Unit := do
  let conditions ← Prog.read (.conditionGet type) fun w => w.replica.status.conditions
  patchStatus (.conditionPatch type) fun s =>
    { s with conditions := setCondition ⟨type, status, reason, message⟩ conditions }

/-- Give the replica's slot in the restore queue back. -/
def releaseRestoreSlot : Op Unit :=
  Prog.modify fun w => w.patchQueue fun q => q.releaseRestoreSlot w.key w.maxConcurrentRestores

/-- **Report a verification** to canopy, with what `restore` tells of the run.  The report itself is best
    effort, but it was made. -/
def report (uid : Nat) (restore : Restore) (outcome : RunOutcome) : Op Unit := do
  Prog.modify fun w =>
    (w.log (.reported uid outcome)).record (.verificationReported restore (runIdFromStatus restore))
  let _ ← Prog.bestEffort (touch .sendReport)

end Op

/-- What a redaction run came to. -/
structure RedactionOutcome where
  columnsAttempted : Nat := 0
  columnsFailed : Nat := 0
  tablesAttempted : Nat := 0
  tablesFailed : Nat := 0
  deriving Repr, DecidableEq

/-- Some entries of the manifest could not be applied. -/
def RedactionOutcome.isPartial (o : RedactionOutcome) : Bool :=
  o.columnsFailed > 0 || o.tablesFailed > 0

/-- **What a pass of the replica controller meets**: the reply to each of its calls, its readings of
    the clock and of the random generator, and the answers of the databases and of canopy. -/
structure ReplicaPass where
  replies : Call → Reply Error := fun _ => .ok
  /-- The reading `reconcile` starts with. -/
  now : Timestamp
  /-- The switchover's own reading. -/
  switchedAt : Timestamp := now
  /-- The readings that judge the migration Job's age and its budget. -/
  migrationNow : Timestamp := now
  /-- The API server's own clock, which stamps the objects it creates. -/
  serverNow : Timestamp := now
  /-- The reading of `check_schedule`. -/
  scheduleNow : Timestamp := now
  /-- The reading that names a created restore. -/
  createdAt : Timestamp := now
  /-- The jitter samples of the two computations of the next scheduled restore. -/
  recomputeJitter : Duration := 0
  advanceJitter : Duration := 0
  kopiaSecretValid : Except String Unit := .ok ()
  redactionVersion : Option String := none
  redactionOutcome : RedactionOutcome := {}
  /-- The schemas of the migration's source and of its target. -/
  sourceSchemas : List String := []
  targetSchemas : List String := []
  databaseSize : Nat := 0
  /-- The analytics role of the switching restore is still a superuser. -/
  roleIsSuperuser : Bool := true
  buildToken : String := ""
  /-- The artifact canopy registered. -/
  registered : Option String := none
  /-- What a failed build records of its log. -/
  buildFailure : String := "the build job failed"
  /-- Where in the list of restores a created one appears. -/
  listPosition : Nat := 0

/-- **What a pass of the restore controller meets.** -/
structure RestorePass where
  replies : Call → Reply Error := fun _ => .ok
  now : Timestamp
  /-- The reading `fail_restore` counts the backoff from. -/
  failedAt : Timestamp := now
  mintedRunId : Uuid := ⟨Vector.replicate 16 0⟩
  /-- What the termination message of the pod says about the version. -/
  postgresVersion : Option String := none
  /-- The progress of a locale reindex, if one is running. -/
  reindexProgress : Option String := none
  latestBatch : Option String := none
  migrationResult : MigrationResult := { totalElapsedSeconds := 0 }

end RestoreOperator
