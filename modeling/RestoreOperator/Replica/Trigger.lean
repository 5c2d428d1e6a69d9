import RestoreOperator.Replica.Scheduling
import RestoreOperator.Replica.SnapshotList

/-!
# `Replica.Trigger` — deciding whether to restore

The last block of a replica pass: with nothing in flight, four triggers are weighed (never restored,
the current restore deleted, canopy offering another snapshot, the schedule), and a due replica
starts by listing its snapshots, if the restore queue lets it.
-/

namespace RestoreOperator

open Calls

/-! ## The decision -/

/-- Nothing records a successful restore. -/
def noSuccessfulRestore (status : ReplicaStatus) : Bool :=
  status.lastRestoreCompletedAt.isNone && status.verifiedSnapshotId.isNone

/-- The replica never restored, and no failure backoff holds it back. -/
def neverRestored (status : ReplicaStatus) (restores : List Restore) (now : Timestamp) : Bool :=
  ((activeRestore restores).isNone && noSuccessfulRestore status) && !backoffPending status now

/-- The restore the status calls current is gone. -/
def activeRestoreDeleted (status : ReplicaStatus) (restores : List Restore) : Bool :=
  (activeRestore restores).isNone && (inProgressRestore restores).isNone &&
    status.currentRestore.isSome

/-- The snapshot the replica carries: that of its active restore, or the one it verified. -/
def effectiveCurrentSnapshot (status : ReplicaStatus) (restores : List Restore) : Option String :=
  match activeRestore restores with
  | some r => some r.spec.snapshot
  | none => status.verifiedSnapshotId

/-- Canopy asks for a snapshot other than the one the replica carries. -/
def canopyDesiredChanged (replica : Replica) (restores : List Restore) (now : Timestamp) : Bool :=
  replica.spec.canopySource.isSome &&
    (match replica.status.canopyDesiredSnapshotId,
        effectiveCurrentSnapshot replica.status restores with
      | some desired, some current => desired != current
      | some _, none => true
      | none, _ => false) &&
    !withinMinimumTtl replica.spec replica.status now

/-- **Whether a pass is to start a restore.** -/
def shouldRestore (p : ReplicaPass) (replica : Replica) (restores : List Restore) : Bool :=
  -- the first of the four is the one that asks for the backoff
  neverRestored replica.status restores p.now ||
    activeRestoreDeleted replica.status restores ||
    canopyDesiredChanged replica restores p.now ||
    checkSchedule replica.spec replica.status p.scheduleNow == .trigger

/-- The schedule or its jitter changed since the next restore was computed. -/
def scheduleChanged (ctx : Context) (replica : Replica) : Bool :=
  replica.status.scheduleInputHash != some (scheduleInputHash ctx replica.spec)

/-- The next scheduled restore, where it has to be computed anew. -/
def recomputedSchedule (ctx : Context) (p : ReplicaPass) (replica : Replica) : Option Timestamp :=
  if scheduleChanged ctx replica || replica.status.nextScheduledRestore.isNone then
    computeNextScheduledRestore ctx replica.spec p.recomputeJitter p.now
  else none

/-- The next scheduled restore, once this one has been acted on. -/
def advancedSchedule (ctx : Context) (p : ReplicaPass) (replica : Replica) : Option Timestamp :=
  match checkSchedule replica.spec replica.status p.scheduleNow with
  | .notDue => none
  | .trigger => computeNextScheduledRestore ctx replica.spec p.advanceJitter p.now
  | .skippedByTtl => computeNextScheduledRestore ctx replica.spec p.advanceJitter p.now

/-! ## The blocks -/

/-- Write the next scheduled restore with the hash of the schedule it follows. -/
def updateScheduleStatus (c : Call) (ctx : Context) (replica : Replica) (next : Option Timestamp) :
    Op Unit :=
  match next with
  | none => pure ()
  | some next => Op.patchStatus c fun s =>
      { s with
        nextScheduledRestore := some next
        scheduleInputHash := some (scheduleInputHash ctx replica.spec) }

/-- Clear the legacy condition that suspended scheduling. -/
def clearSuspension (replica : Replica) : Op Unit :=
  Prog.when (schedulingSuspended replica.status)
    (Op.updateCondition "RestoreSchedulingSuspended" "False" "SuspensionRemoved"
      "Operator no longer suspends on consecutive failures; backoff is used instead")

/-- A restore in progress ends the pass. -/
def waitForProgress (restores : List Restore) : Op (Option Action) :=
  match inProgressRestore restores with
  | none => pure none
  | some _ => do
    Op.patchStatus .patchReplicaPhase fun s => { s with phase := some .restoring }
    return some ⟨30⟩

/-- Wait in the queue for a slot. -/
def enqueueRestore (p : ReplicaPass) : Op Action := do
  Prog.modify fun w => w.patchQueue fun q => q.enqueue w.key p.now
  let w ← Prog.get
  Op.patchStatus .patchQueuePosition fun s => { s with queuePosition := w.queue.position w.key }
  return ⟨30⟩

/-- The Job that lists the snapshots. -/
def buildSnapshotListJob (p : ReplicaPass) (uid : Nat) : Job :=
  { key := .snapshotList
    uid := uid
    creationTimestamp := some p.serverNow
    backoffLimit := some 2 }

/-- **Start a restore**: list the snapshots if the queue has a free slot, or wait for one. -/
def startRestore (p : ReplicaPass) : Op Action := do
  let w ← Prog.get
  -- the slot is only looked at: the restore controller takes it, once the restore starts
  if !w.queue.canStart w.maxConcurrentRestores then enqueueRestore p
  else do
    Op.createJob .createSnapshotJob (buildSnapshotListJob p) fun uid => [.snapshotJobCreated uid]
    return ⟨10⟩

/-- What a pass that started nothing leaves in the status. -/
def settlePass (ctx : Context) (p : ReplicaPass) (replica : Replica) (restores : List Restore) :
    Op Action := do
  updateScheduleStatus .patchAdvance ctx replica (advancedSchedule ctx p replica)
  Op.patchStatus .patchFinalPhase fun s =>
    { s with phase := some (if (activeRestore restores).isSome then .ready else .pending) }
  Op.patchStatus .clearQueuePosition fun s => { s with queuePosition := some 0 }
  return ⟨300⟩

/-- **The trigger block.** -/
def reconcileTrigger (ctx : Context) (p : ReplicaPass) (replica : Replica)
    (restores : List Restore) (snapshotJob : Option Job) : Op Action :=
  Prog.unlessReturned (waitForProgress restores) do
    -- the decision below still goes by the status as the pass read it
    updateScheduleStatus .patchSchedule ctx replica (recomputedSchedule ctx p replica)
    if shouldRestore p replica restores && snapshotJob.isNone then startRestore p
    else settlePass ctx p replica restores

end RestoreOperator
