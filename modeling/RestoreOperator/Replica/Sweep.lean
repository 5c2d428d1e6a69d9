import RestoreOperator.Replica.Switchover

/-!
# `Replica.Sweep` — deleting restores

The three ways a pass deletes restores: the teardown of a verified ephemeral restore, the sweep of
Active restores that are no longer current, and the cleanup of failed ones.
-/

namespace RestoreOperator

open Calls

/-! ## Ephemeral teardown -/

/-- The restore an ephemeral replica has verified and still keeps. -/
def verifiedRestore (replica : Replica) (restores : List Restore) : Option Restore :=
  if replica.spec.ephemeral then
    match activeRestore restores with
    | none => none
    | some active => if active.deletionRequested then none else some active
  else none

/-- Record the verified snapshot.  The restore is torn down next, so it is no longer current. -/
def patchVerified (active : Restore) : Op Unit :=
  Prog.call .patchVerified fun w =>
    (w.patchStatus fun s =>
      { s with
        verifiedSnapshotId := some active.spec.snapshot
        currentRestore := none
        previousRestore := none }).log (.verified active.uid)

/-- **The ephemeral teardown.**  The marker is written before the restore is deleted. -/
def ephemeralTeardown (replica : Replica) (restores : List Restore) : Op (Option Action) :=
  match verifiedRestore replica restores with
  | none => pure none
  | some active => do
    patchVerified active
    -- a refused delete is only logged: the restore stays Active, and the next pass comes back to it
    let _ ← Prog.bestEffort (Prog.call .deleteVerified (World.deleteRestore active.name))
    Op.releaseRestoreSlot
    return some ⟨30⟩

/-! ## The sweep of stale Active restores -/

/-- The Active restores that are not the current one. -/
def staleRestores (current : String) (restores : List Restore) : List Restore :=
  restores.filter fun r => r.inPhase .active && r.name ≠ current

/-- The current restore is in the list and Active. -/
def hasMatchingCurrent (current : String) (restores : List Restore) : Bool :=
  restores.any fun r => r.name == current && r.inPhase .active

/-- No redaction is in flight. -/
def redactionSettled (status : ReplicaStatus) : Bool :=
  match status.redactionPhase with
  | none => true
  | some ph => ph.isSettled

/-- The grace period after the last switchover is over. -/
def graceElapsed (spec : ReplicaSpec) (status : ReplicaStatus) (now : Timestamp) : Bool :=
  match status.lastRestoreCompletedAt with
  -- no switchover is recorded, so there is none to count from
  | none => false
  | some completedAt => now - completedAt > spec.switchoverGracePeriod.toSignedDuration.getD 0

/-- **What the sweep deletes**: every stale Active restore, once nothing can still need one. -/
def sweepTargets (p : ReplicaPass) (replica : Replica) (restores : List Restore) : List Restore :=
  match replica.status.currentRestore with
  | none => []
  | some current =>
    if persistentSchemasMigrationSettled replica && redactionSettled replica.status &&
        hasMatchingCurrent current restores && graceElapsed replica.spec replica.status p.now then
      staleRestores current restores
    else []

/-- Delete one stale restore. -/
def deleteStale (name : String) : Op Unit :=
  Prog.call (.deleteStale name) fun w =>
    (w.deleteRestore name).log (.swept name w.serviceSelector)

/-- What the sweep clears once every stale restore is gone. -/
def patchSwept : Op Unit :=
  Op.patchStatus .patchSwept fun s =>
    { s with
      previousRestore := none
      schemaMigrationJob := none
      schemaMigrationPhase := none
      redactionPhase := none
      redactionVersion := none
      redactionColumnsApplied := none }

/-- **The sweep of stale Active restores.**  Its markers are cleared only when every delete
    succeeded, so that the next pass tries the rest again. -/
def sweepStale (p : ReplicaPass) (replica : Replica) (restores : List Restore) : Op Unit :=
  let stale := (sweepTargets p replica restores).map (·.name)
  if stale = [] then pure ()
  else do
    let allDeleted ← Prog.eachAll stale fun name => Prog.bestEffort (deleteStale name)
    Prog.when allDeleted patchSwept

/-! ## Failed restores -/

/-- The failed restores that are old enough to be deleted. -/
def expiredFailures (now : Timestamp) (restores : List Restore) : List Restore :=
  restores.filter fun r =>
    r.inPhase .failed &&
      match r.status.createdAt with
      -- a restore without a creation time never expires
      | none => false
      | some createdAt => now - createdAt > 300

/-- Delete a failed restore, its pods first; every failure is only logged. -/
def deleteFailed (name : String) : Op Unit := do
  let _ ← Prog.bestEffort (Prog.call (.deleteFailedPods name) fun w =>
    { w with pods := w.pods.filter fun p => p.restore ≠ name })
  let _ ← Prog.bestEffort (Prog.call (.deleteFailed name) (World.deleteRestore name))

/-- **Clean up the failed restores.** -/
def cleanupFailed (p : ReplicaPass) (restores : List Restore) : Op Unit :=
  Prog.each ((expiredFailures p.now restores).map (·.name)) deleteFailed

end RestoreOperator
