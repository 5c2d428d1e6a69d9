import RestoreOperator.Replica.Scheduling
import RestoreOperator.Replica.Switchover
import RestoreOperator.Restore.Deployment

/-!
# `Restore.Phases` — the phases of a restore

One function for each phase the restore controller drives, and `failRestore`, through which a
restore fails from any of them.
-/

namespace RestoreOperator

open Calls

/-! ## Failing -/

/-- The status after so many failures, the last of them at the given time: the next attempt is the
    backoff's delay away. -/
def World.recordFailure (uid newCount : Nat) (failedAt : Timestamp) (w : World) : World :=
  (w.patchStatus fun s =>
    { s with
      consecutiveRestoreFailures := some newCount
      nextScheduledRestore := (failureBackoffDelay newCount).map (failedAt + ·) }).log
    (.failureRecorded uid newCount failedAt)

/-- **The backoff write of a failure**: one more failure than the replica had. -/
def recordFailure (p : RestorePass) (restore : Restore) (replica : Replica) : Op Unit :=
  let newCount := replica.status.consecutiveRestoreFailures.getD 0 + 1
  Prog.call .patchFailureCount (World.recordFailure restore.uid newCount p.failedAt)

/-- Count the failure on the replica, if it is still there; a write that fails is only logged. -/
def countFailure (p : RestorePass) (restore : Restore) : Op Unit := do
  let replica ← Prog.attempt (Op.getReplica .getFailedReplica)
  match replica with
  | .error _ => pure ()
  | .ok replica => do
    let _ ← Prog.bestEffort (recordFailure p restore replica)

/-- Report the failure, if both objects can be read.  The restore is read afresh. -/
def reportFailure (restore : Restore) : Op Unit := do
  let found ← Prog.attempt (Op.getRestore .getReported restore.name)
  let parent ← Prog.attempt (Op.getReplica .getReportedReplica)
  match found, parent with
  | .ok found, .ok _ => Op.report restore.uid found .failure
  | _, _ => pure ()

/-- **Fail a restore**: the phase first, then the queue, the backoff and the report.  Only the write
    of the phase can end the pass. -/
def failRestore (p : RestorePass) (restore : Restore)
    (f : RestoreStatus → RestoreStatus) : Op Action := do
  Op.patchRestore .patchFailed restore.name fun s => { f s with phase := some .failed }
  Op.releaseRestoreSlot
  countFailure p restore
  Op.publishEvent "RestoreFailed"
  reportFailure restore
  return ⟨300⟩

/-! ## Pending -/

/-- **Delete the Jobs of earlier restores**: every Job of the replica that is not labelled with this
    restore. -/
def cleanupPreviousJobs (restore : Restore) : Op Unit := do
  let jobs ← Prog.read .listJobs fun w => w.jobs
  Prog.each ((jobs.map (·.key)).filter fun k => k.restoreLabel.getD "" ≠ restore.name) fun k => do
    let _ ← Prog.bestEffort (Prog.call (.deletePreviousJob k) (World.deleteJob k))

/-- Make sure of the volume of the restore's data. -/
def ensureDataPvc (restore : Restore) : Op Unit := do
  let pvcs ← Prog.read .getDataPvc fun w => w.dataPvcs
  if restore.name ∈ pvcs then pure ()
  else do
    let _ ← Op.getReplica .getReplica
    Prog.call .createDataPvc fun w => { w with dataPvcs := w.dataPvcs ++ [restore.name] }

/-- The size of the shared cache volume: 20% of the snapshot, and at least 10 GiB. -/
def kopiaCachePvcSize (snapshotSize : Quantity) : ℚ :=
  let twentyPercent := (snapshotSize.parsed.map (· * (2 / 10))).getD 0
  if twentyPercent > 10 * gibibyte then twentyPercent else 10 * gibibyte

/-- **Make sure of the shared cache volume.**  It grows with the snapshots and never shrinks; a
    resize that is refused is only logged. -/
def ensureKopiaCachePvc (restore : Restore) : Op Unit := do
  let desired := kopiaCachePvcSize restore.spec.snapshotSize
  let current ← Prog.read .getCachePvc fun w => w.cachePvc
  match current with
  | none => do
    let _ ← Op.getReplica .getReplica
    Prog.call .createCachePvc fun w => { w with cachePvc := some desired }
  | some current =>
    if desired > current then do
      let _ ← Prog.bestEffort
        (Prog.call .growCachePvc fun w => { w with cachePvc := some desired })
    else pure ()

/-- Mark the restore Restoring, and take a slot in the queue for it. -/
def startRestoring (restore : Restore) : Op Action := do
  Op.patchRestore .patchRestoring restore.name fun s =>
    { s with phase := some .restoring, pvc := some (restore.name ++ "-data") }
  -- the slot is taken whether or not one is free
  Prog.modify fun w => w.patchQueue fun q => q.markActive w.key
  return ⟨5⟩

/-- **Phase Pending** (or none yet): volumes, then Restoring, then the slot in the queue. -/
def reconcilePending (p : RestorePass) (restore : Restore) : Op Action := do
  Prog.when restore.status.createdAt.isNone
    (Op.patchRestore .patchCreatedAt restore.name fun s =>
      { s with createdAt := some p.now, phase := some .pending })
  cleanupPreviousJobs restore
  ensureDataPvc restore
  ensureKopiaCachePvc restore
  startRestoring restore

/-! ## Restoring -/

/-- The run id of a canopy-backed restore: minted once, and written before the Job is created. -/
def ensureRunId (p : RestorePass) (restore : Restore) (replica : Replica) : Op (Option String) :=
  if replica.spec.canopySource.isSome then
    match restore.status.runId with
    | some existing => return some existing
    | none => do
      let runId := p.mintedRunId.display
      Op.patchRestore .patchRunId restore.name fun s => { s with runId := some runId }
      return some runId
  else return none

/-- The Job that restores the snapshot. -/
def buildRestoreJob (restore : Restore) (runId : Option String) (uid : Nat) : Job :=
  { key := .restore restore.name, uid := uid, target := restore.uid, backoffLimit := some 3
    runId := runId }

/-- The counts a Job's status gives, absent ones read as none. -/
def jobCounts (job : Job) : Nat × Nat :=
  match job.report with
  | none => (0, 0)
  | some r => (r.succeeded.getD 0, r.failed.getD 0)

/-- The name of the Job that restores the snapshot. -/
def restoreJobName (name : String) : String := name ++ "-restore"

/-- Record a restore Job that succeeded. -/
def finishRestoring (p : RestorePass) (restore : Restore) (job : Job) : Op Action := do
  let version ← Prog.attempt (Prog.ask .readVersion p.postgresVersion)
  let pgVersion :=
    match version with
    | .ok v => v
    | .error _ => none
  Op.patchRestore .patchReady restore.name fun s =>
    { s with
      phase := some .ready
      restoredAt := some p.now
      restoreJob := some
        { name := restoreJobName restore.name
          phase := "Succeeded"
          completedAt := some ((job.report.bind JobReport.completionTime).getD p.now) }
      postgresVersion :=
        match pgVersion with
        | some v => some v
        | none => s.postgresVersion }
  let _ ← Prog.bestEffort
    (Prog.call .deleteRestoreJob (World.deleteJob (.restore restore.name)))
  return ⟨5⟩

/-- **Phase Restoring**: create the restore Job and follow it. -/
def reconcileRestoring (p : RestorePass) (restore : Restore) : Op Action := do
  let existing ← Op.getJob .getRestoreJob (.restore restore.name)
  match existing with
  | none => do
    let replica ← Op.getReplica .getReplica
    let runId ← ensureRunId p restore replica
    Op.createJob .createRestoreJob (buildRestoreJob restore runId)
    stillRunning
  | some job =>
    -- the counts decide here, and not the conditions that classify a Job elsewhere
    if (jobCounts job).1 > 0 then finishRestoring p restore job
    else if (jobCounts job).2 > job.backoffLimit.getD 3 then do
      let _ ← Prog.bestEffort (Op.touch .patchRestoreJobTtl)
      failRestore p restore fun s =>
        { s with restoreJob := some { name := restoreJobName restore.name, phase := "Failed" } }
    else stillRunning
where
  /-- A Job that has neither succeeded nor failed. -/
  stillRunning : Op Action := do
    Op.patchRestore .patchJobRunning restore.name fun s =>
      { s with restoreJob := some { name := restoreJobName restore.name, phase := "Running" } }
    return ⟨15⟩

/-! ## Ready -/

/-- The Job that detects the version of a restore's data. -/
def buildVersionDetectJob (restore : Restore) (uid : Nat) : Job :=
  { key := .versionDetect restore.name, uid := uid, backoffLimit := some 2 }

@[simp] theorem key_buildVersionDetectJob (restore : Restore) (uid : Nat) :
    (buildVersionDetectJob restore uid).key = .versionDetect restore.name := rfl

/-- **Detect the version** of a restore whose Job did not tell it. -/
def detectVersion (p : RestorePass) (restore : Restore) : Op Action := do
  let existing ← Op.getJob .getVersionJob (.versionDetect restore.name)
  match existing with
  | none => do
    Op.createJob .createVersionJob (buildVersionDetectJob restore)
    return ⟨5⟩
  | some job =>
    if (jobCounts job).1 > 0 then do
      let version ← Prog.attempt (Prog.ask .readVersion p.postgresVersion)
      deleteVersionJob
      match version with
      | .ok (some v) =>
        if v = "" then failRestore p restore id
        else do
          Op.patchRestore .patchVersion restore.name fun s => { s with postgresVersion := some v }
          return ⟨1⟩
      | _ => failRestore p restore id
    else if (jobCounts job).2 > job.backoffLimit.getD 2 then do
      deleteVersionJob
      failRestore p restore id
    else return ⟨5⟩
where
  /-- Drop the detection Job. -/
  deleteVersionJob : Op Unit := do
    let _ ← Prog.bestEffort
      (Prog.call .deleteVersionJob (World.deleteJob (.versionDetect restore.name)))

/-- Forget the watch of a restore. -/
def forgetReindexWatch (restore : Restore) : Op Unit :=
  Prog.modify fun w =>
    { w with reindexWatches := w.reindexWatches.filter fun e => e.1 ≠ restore.name }

/-- Keep a watch, and drop the abandoned ones. -/
def keepReindexWatch (now : Timestamp) (restore : Restore) (watch : Watch) : Op Unit :=
  Prog.modify fun w =>
    { w with reindexWatches := (restore.name, watch) ::
        w.reindexWatches.filter fun e => e.1 ≠ restore.name && !e.2.isAbandoned now }

/-- **Whether a reindex holds the restore back** and still moves.  The database is asked at most once
    per interval. -/
def reindexVerdict (p : RestorePass) (restore : Restore) : Op Verdict := do
  let w ← Prog.get
  let previous := (w.reindexWatches.find? fun e => e.1 == restore.name).map (·.2)
  match previous with
  | some prev =>
    if !prev.needsObservation p.now then return prev.verdict p.now
    else observe (some prev)
  | none => observe none
where
  /-- Ask the database, and fold its answer in. -/
  observe (previous : Option Watch) : Op Verdict := do
    let seen ← Prog.attempt (Prog.ask .observeReindex p.reindexProgress)
    match seen, previous with
    | .ok progress, _ => do
      let watch := Watch.record previous progress p.now
      keepReindexWatch p.now restore watch
      return watch.verdict p.now
    -- one answer that did not come does not undo what was seen before
    | .error _, some prev => do
      let watch := prev.unobserved p.now
      keepReindexWatch p.now restore watch
      return watch.verdict p.now
    | .error _, none => return .notReindexing

/-- The verdict on the reindex.  An explicit timeout is the last word, and asks for none. -/
def consultReindex (p : RestorePass) (restore : Restore) (replica : Replica) : Op (Option Verdict) :=
  if replica.spec.deploymentReadyTimeout.isNone then do
    let verdict ← reindexVerdict p restore
    return some verdict
  else return none

/-- **Wait for the Deployment**, up to its budget. -/
def awaitReadiness (ctx : Context) (p : RestorePass) (restore : Restore) (replica : Replica) :
    Op Action :=
  match restore.status.restoredAt with
  | none => return ⟨10⟩
  | some restoredAt =>
    let elapsed := p.now - restoredAt
    let timeout := deploymentReadyTimeout replica.spec.deploymentReadyTimeout
      restore.spec.snapshotSize ctx.deploymentReadyTimeoutSecs
    if elapsed > timeout then do
      let verdict ← consultReindex p restore replica
      match pastBudget elapsed timeout verdict with
      | none => return ⟨10⟩
      | some _ => do
        forgetReindexWatch restore
        failRestore p restore id
    else return ⟨10⟩

/-- **Phase Ready**: bring the Deployment up, then migrate or switch. -/
def reconcileReady (ctx : Context) (p : RestorePass) (restore : Restore) : Op Action :=
  if restore.status.postgresVersion.isNone then detectVersion p restore
  else do
    let replica ← Op.getReplica .getReplica
    Prog.call .ensureRestoreService fun w =>
      { w with restoreServices :=
          if restore.name ∈ w.restoreServices then w.restoreServices
          else w.restoreServices ++ [restore.name] }
    let readyReplicas ← applyRestoreDeployment replica restore
    if readyReplicas > 0 then do
      forgetReindexWatch restore
      if restore.spec.migrateTo.isSome && restore.status.migrationResult.isNone then do
        Op.patchRestore .patchMigrating restore.name fun s =>
          { s with phase := some .migrating, deployment := some restore.name }
        return ⟨1⟩
      else do
        Prog.call .patchSwitching fun w =>
          (w.patchRestore restore.name fun s =>
            { s with phase := some .switching, deployment := some restore.name }).log
            (.enteredSwitching restore.uid)
        -- a replica that waits is promoted in its place
        Op.releaseRestoreSlot
        return ⟨5⟩
    else awaitReadiness ctx p restore replica

/-! ## Migrating -/

/-- The Job that runs the migrations of a restore's target version. -/
def buildMigrationJob (restore : Restore) (uid : Nat) : Job :=
  { key := .migration restore.name, uid := uid, backoffLimit := some 0 }

@[simp] theorem key_buildMigrationJob (restore : Restore) (uid : Nat) :
    (buildMigrationJob restore uid).key = .migration restore.name := rfl

/-- **Phase Migrating**: run the target version's migrations, and record what they came to. -/
def reconcileMigrating (p : RestorePass) (restore : Restore) : Op Action :=
  match restore.spec.migrateTo with
  -- the target was taken away under way
  | none => do
    Op.patchRestore .patchUnmigrated restore.name fun s => { s with phase := some .ready }
    return ⟨1⟩
  | some _ => do
    let _ ← Op.getReplica .getReplica
    Op.touch .migratingCredentials
    let found ← Prog.attempt (Op.touch .migratingDiscover)
    match found with
    -- a restore without an application database will never migrate
    | .error .noApplicationDatabase => failRestore p restore id
    | .error e => Prog.fail e
    | .ok _ => do
      let existing ← Op.getJob .getMigrationJob (.migration restore.name)
      match existing with
      | none => do
        let baseline ← Prog.ask .latestBatch p.latestBatch
        Prog.when baseline.isSome
          (Op.patchRestore .patchBaseline restore.name fun s => { s with migrationBaseline := baseline })
        Op.touch .dropPreMigrateSchemas
        Op.touch .runPreMigrateSql
        Op.createJob .createMigrationJob (buildMigrationJob restore)
        return ⟨15⟩
      | some job =>
        if (jobCounts job).1 = 0 ∧ (jobCounts job).2 = 0 then return ⟨15⟩
        else do
          let result ← Prog.ask .readMigrationResult p.migrationResult
          Op.patchRestore .patchMigrated restore.name fun s =>
            { s with
              phase := some .ready
              migrationJob := some
                { name := restore.name ++ "-migrate"
                  phase := if (jobCounts job).2 > 0 then "Failed" else "Succeeded" }
              migrationResult := some result }
          return ⟨1⟩

/-! ## Switching and Active -/

/-- Keep the Deployment converged with the specs, where the version is known. -/
def convergeDeployment (restore : Restore) (replica : Replica) : Op Unit :=
  if restore.status.postgresVersion.isSome then do
    let _ ← applyRestoreDeployment replica restore
  else pure ()

/-- **Phase Switching**: the replica controller drives the switchover; here only the Deployment is
    kept converged. -/
def reconcileSwitching (restore : Restore) : Op Action := do
  let replica ← Op.getReplicaOpt .getReplica
  match replica with
  | none => return ⟨30⟩
  | some replica => do
    convergeDeployment restore replica
    return ⟨10⟩

/-- **Phase Active**: the Deployment is kept converged, and its pod labelled to take traffic. -/
def reconcileActive (restore : Restore) : Op Action := do
  let replica ← Op.getReplicaOpt .getReplica
  match replica with
  | none => return ⟨300⟩
  | some replica => do
    convergeDeployment restore replica
    markPodReadyForTraffic restore.name
    return ⟨300⟩

/-! ## The phase machine -/

/-- **One pass of the restore controller**, on the restore as it is stored. -/
def reconcileRestore (ctx : Context) (p : RestorePass) (restore : Restore) : Op Action :=
  match restore.status.phase with
  | none => reconcilePending p restore
  | some .pending => reconcilePending p restore
  | some .restoring => reconcileRestoring p restore
  | some .migrating => reconcileMigrating p restore
  | some .ready => reconcileReady ctx p restore
  | some .switching => reconcileSwitching restore
  | some .active => reconcileActive restore
  | some .failed => return ⟨300⟩

end RestoreOperator
