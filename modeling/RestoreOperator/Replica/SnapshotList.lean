import RestoreOperator.Replica.Snapshots
import RestoreOperator.Replica.Sweep

/-!
# `Replica.SnapshotList` — the snapshot-list Job and the restore it leads to

A replica that is due lists the snapshots of its repository by a Job, which posts the list back.
The pass that sees the Job done picks a snapshot and creates a restore for it.
-/

namespace RestoreOperator

open Calls

/-- How many live restores a replica may have. -/
def maxRestoresPerReplica : Nat := 3

/-- **The snapshot needs no other restore**: it was verified, or a restore that has not failed is
    already working on it. -/
def snapshotAlreadyCovered (snapshotId : String) (verifiedSnapshotId : Option String)
    (restores : List Restore) : Bool :=
  verifiedSnapshotId == some snapshotId ||
    restores.any fun r => r.spec.snapshot == snapshotId && !r.inPhase .failed

/-- The restores that count against the limit. -/
def liveRestores (restores : List Restore) : List Restore :=
  restores.filter fun r => !r.inPhase .failed

/-- The message of the guardrail. -/
def tooManyRestores (live : List Restore) : String :=
  "Refusing to create new restore: " ++ toString live.length ++
    " live restores already exist for this replica (limit " ++ toString maxRestoresPerReplica ++
    "). Existing: [" ++ String.intercalate ", " (live.map (·.name)) ++
    "]. Reduce the count by deleting stale restores or fix the pruning issue."

/-- The restore of a snapshot. What the replica asks for is copied, so that a restore does not
    change under way. -/
def newRestore (ctx : Context) (p : ReplicaPass) (replica : Replica) (snap : Snapshot)
    (storageSize : ℚ) (uid : Nat) : Restore :=
  { uid := uid
    name := replica.name ++ "-" ++ ctx.strftime p.createdAt
    spec :=
      { replica := replica.name
        snapshot := snap.id
        snapshotSize := .amount snap.totalSizeBytes
        snapshotTime := if snap.startTime = "" then none else some snap.startTime
        storageSize := .amount storageSize
        migrateTo := replica.spec.migrateTo
        builderImage := replica.spec.builderImage
        rank := replica.spec.rank } }

/-- Add a restore to the list, at the place the API server lists it. -/
def insertRestore (position : Nat) (mk : Nat → Restore) (w : World) : World :=
  { w with
    restores := w.restores.take position ++ mk w.nextUid :: w.restores.drop position
    nextUid := w.nextUid + 1
    history := .restoreCreated w.nextUid :: w.history }

/-- The volume of the restore of a snapshot. -/
def restoreStorageSize (replica : Replica) (snap : Snapshot) : Except Error ℚ :=
  computeStorageSize snap.totalSizeBytes replica.spec.storageSizeOverride
    replica.spec.storageSizeMaximum replica.spec.writesIntoRestore
    (replica.status.persistentSchemaDataSize.bind Quantity.parsed)

/-- **Create the restore of a snapshot**, unless the replica has too many already. -/
def createRestoreForSnapshot (ctx : Context) (p : ReplicaPass) (replica : Replica)
    (snap : Snapshot) : Op Bool := do
  -- listed afresh, and not as the pass found them
  let existing ← Prog.read .relistRestores fun w => w.restores
  if (liveRestores existing).length ≥ maxRestoresPerReplica then do
    Op.updateCondition "RestoreCreationBlocked" "True" "TooManyRestores"
      (tooManyRestores (liveRestores existing))
    return false
  else
    match restoreStorageSize replica snap with
    | .error e => Prog.fail e
    | .ok size => do
      -- a name is a time in seconds, and the API server refuses one that is taken
      let w ← Prog.get
      if w.restores.any fun r => r.name == (newRestore ctx p replica snap size w.nextUid).name then
        Prog.fail (.kube "AlreadyExists")
      else do
        Prog.call .createRestore (insertRestore p.listPosition (newRestore ctx p replica snap size))
        Op.updateCondition "RestoreCreationBlocked" "False" "Healthy"
          "Restore count is below the per-replica limit"
        return true

/-- **Restore a picked snapshot**, unless it is covered already. -/
def restorePicked (ctx : Context) (p : ReplicaPass) (replica : Replica) (restores : List Restore)
    (snap : Snapshot) : Op Unit := do
  Op.patchStatus .patchLatestSnapshot fun s => { s with latestAvailableSnapshot := some snap.id }
  Op.updateCondition "SnapshotAvailable" "True" "SnapshotFound"
    ("Snapshot " ++ snap.id ++ " available (" ++ toString snap.totalSizeBytes ++ " bytes)")
  if snapshotAlreadyCovered snap.id replica.status.verifiedSnapshotId restores then pure ()
  else do
    let created ← createRestoreForSnapshot ctx p replica snap
    if created then Op.publishEvent "RestoreStarted"
    else Op.publishEvent "RestoreCreationBlocked"

/-- Why no snapshot could be picked. -/
def noSnapshotCondition (replica : Replica) : Op Unit :=
  if replica.spec.canopySource.isSome then
    let desired := replica.status.canopyDesiredSnapshotId.getD "<none>"
    Op.updateCondition "SnapshotAvailable" "False" "CanopyDesiredSnapshotMissing"
      ("canopyDesiredSnapshotId " ++ desired ++ " was not found in the kopia snapshot list — canopy " ++
        "may be pointing at a snapshot that hasn't been indexed yet")
  else
    Op.updateCondition "SnapshotAvailable" "False" "NoMatchingSnapshots"
      "Snapshot list job returned no snapshots matching the configured filter"

/-- **Act on a list of snapshots.** -/
def handleSnapshots (ctx : Context) (p : ReplicaPass) (replica : Replica) (restores : List Restore)
    (raw : String) : Op Unit :=
  match parseSnapshotListOutput ctx raw with
  | .ok all =>
    match pickSnapshot ctx replica all with
    | some snap => restorePicked ctx p replica restores snap
    | none => noSnapshotCondition replica
  | .error e =>
    Op.updateCondition "SnapshotAvailable" "False" "ParseError"
      ("Failed to parse snapshot list output: " ++ e)

/-- Take the list the Job posted. -/
def takeSnapshotResult : Op (Option String) := do
  -- a pass that ends after this has lost the list
  let w ← Prog.get
  Prog.modify fun w => { w with snapshotResults := none }
  return w.snapshotResults

/-- Delete the snapshot-list Job; a failure to do so is only logged. -/
def deleteSnapshotJob : Op Unit := do
  let _ ← Prog.bestEffort (Prog.call .deleteSnapshotJob (World.deleteJob .snapshotList))

/-- The Job completed more than a minute ago. -/
def resultsOverdue (now : Timestamp) (job : Job) : Bool :=
  match job.report.bind JobReport.completionTime with
  | none => false
  | some t => now - t > 60

/-- **Follow the snapshot-list Job.** -/
def followSnapshotJob (ctx : Context) (p : ReplicaPass) (replica : Replica)
    (restores : List Restore) (job : Job) : Op (Option Action) :=
  match classifyJob job with
  | .succeeded => do
    let raw ← takeSnapshotResult
    match raw with
    | none =>
      -- the list comes by a callback of its own, and may have been lost with the operator
      if resultsOverdue p.now job then do
        deleteSnapshotJob
        return some ⟨10⟩
      else return some ⟨5⟩
    | some raw => do
      deleteSnapshotJob
      handleSnapshots ctx p replica restores raw
      return none
  -- the Job stays until its TTL is over, and no other is created until then
  | .failed => do
    let _ ← Prog.bestEffort (Op.touch .patchSnapshotJobTtl)
    Op.updateCondition "SnapshotAvailable" "False" "JobFailed"
      "Snapshot list job failed, check job logs for details"
    return none
  | .active => return some ⟨10⟩

/-- **The snapshot-list block.**  The Job it read is handed on: whether one existed decides about
    creating the next. -/
def reconcileSnapshotList (ctx : Context) (p : ReplicaPass) (replica : Replica)
    (restores : List Restore) (job : Option Job) : Op (Option Action) :=
  match job with
  | none => pure none
  | some job => followSnapshotJob ctx p replica restores job

end RestoreOperator
