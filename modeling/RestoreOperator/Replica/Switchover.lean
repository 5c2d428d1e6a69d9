import RestoreOperator.Replica.ExtraUsers
import RestoreOperator.Replica.Redaction
import RestoreOperator.Replica.SchemaBuild
import RestoreOperator.Replica.SchemaMigration

/-!
# `Replica.Switchover` — the gates and the switchover block

With a restore in phase Switching, a pass runs the three gates in order (redaction, schema
migration, reporting schema) and, once all of them let it, moves the Service to the restore.
-/

namespace RestoreOperator

open Calls

/-- **The active restore**: the first one in the list whose phase is Active. -/
def activeRestore (restores : List Restore) : Option Restore :=
  restores.find? fun r => r.inPhase .active

/-- The restore that is switching. -/
def switchingRestore (restores : List Restore) : Option Restore :=
  restores.find? fun r => r.inPhase .switching

/-- A restore is working toward a switchover. -/
def restoreInProgress (r : Restore) : Bool :=
  r.inPhase .pending || r.inPhase .restoring || r.inPhase .migrating || r.inPhase .ready

/-- The first restore that is working toward a switchover. -/
def inProgressRestore (restores : List Restore) : Option Restore :=
  restores.find? restoreInProgress

/-- Whether the legacy condition that suspends scheduling is still set. -/
def schedulingSuspended (status : ReplicaStatus) : Bool :=
  match status.conditions.find? fun c => c.type == "RestoreSchedulingSuspended" with
  | none => false
  | some c => c.status == "True"

/-- The redaction gate, for a replica that redacts. -/
def redactionGate (p : ReplicaPass) (replica : Replica) (switching : Restore) : Op Bool :=
  if replica.spec.redaction.isSome then reconcileRedactionStep p replica switching
  else pure true

/-- The schema-migration gate, for a replica with persistent schemas. -/
def schemaMigrationGate (ctx : Context) (p : ReplicaPass) (replica : Replica)
    (switching : Restore) (active : Option Restore) : Op Bool :=
  if replica.spec.persistentSchemas.isSome then
    reconcileSchemaMigration ctx p replica switching active
  else pure true

/-- **The gates of the switchover**, in order: it answers whether all of them let it proceed. -/
def switchoverGates (ctx : Context) (p : ReplicaPass) (replica : Replica) (switching : Restore)
    (active : Option Restore) : Op Bool := do
  let redacted ← redactionGate p replica switching
  if !redacted then return false
  else do
    let migrated ← schemaMigrationGate ctx p replica switching active
    if !migrated then return false
    else do
      let built ← reconcileSchemaBuild ctx p replica switching
      if !built then return false
      else do
        reconcileExtraUserGrants p replica
        return true

/-- Tell the clients of the outgoing restore that it is on its way out. Every failure is swallowed. -/
def markRestoreOutgoing (outgoing : Option Restore) : Op Unit :=
  match outgoing with
  | none => pure ()
  | some r => do
    let _ ← Prog.bestEffort
      (Prog.call .markOutgoing (World.patchDatabase r.name fun d => { d with outgoing := true }))

/-- The restore's Running pod is labelled to take traffic. -/
def markPodReadyForTraffic (restoreName : String) : Op Unit :=
  Prog.call .markPodReady fun w =>
    { w with pods := w.pods.map fun p =>
        if p.restore = restoreName ∧ p.phase = .running then { p with readyForTraffic := true }
        else p }

/-- Point the Service at the restore. -/
def updateServiceSelector (switching : Restore) : Op Unit :=
  Prog.call .updateServiceSelector fun w =>
    { w with serviceSelector := some switching.name }.log (.selectorMoved switching.uid)

/-- Mark the restore Active. -/
def updatePhaseActive (switching : Restore) : Op Unit :=
  Prog.call .updatePhaseActive fun w =>
    (w.patchRestore switching.name fun s => { s with phase := some .active }).log
      (.activated switching.uid (activeRestore w.restores).isSome)

/-- Record the time of the activation. -/
def updateActivatedAt (p : ReplicaPass) (switching : Restore) : Op Unit :=
  Op.patchRestore .updateActivatedAt switching.name fun s =>
    { s with activatedAt := some p.switchedAt }

/-- Record the switchover on the replica. -/
def patchSwitchover (p : ReplicaPass) (replica : Replica) (switching : Restore) : Op Unit :=
  Op.patchStatus .patchSwitchover fun s =>
    { s with
      phase := some .ready
      currentRestore := some switching.name
      previousRestore := replica.status.currentRestore
      lastRestoreCompletedAt := some p.switchedAt
      consecutiveRestoreFailures := some 0 }

/-- What follows the switchover: the outgoing restore is marked, the suspension cleared, and the
    verification reported. -/
def announceSwitchover (replica : Replica) (switching : Restore) (active : Option Restore) :
    Op Unit := do
  markRestoreOutgoing active
  Prog.when (schedulingSuspended replica.status)
    (Op.updateCondition "RestoreSchedulingSuspended" "False" "RestoreSucceeded"
      "Consecutive failure counter reset after successful restore")
  Op.publishEvent "RestoreCompleted"
  let _ ← Prog.bestEffort (Op.touch .sendNotifications)
  Op.report switching.uid switching .success

/-- What follows once the restore is Active: its time, the replica's record of it, and the news. -/
def recordSwitchover (p : ReplicaPass) (replica : Replica) (switching : Restore)
    (active : Option Restore) : Op Action := do
  updateActivatedAt p switching
  patchSwitchover p replica switching
  announceSwitchover replica switching active
  return ⟨10⟩

/-- **The switchover block.** -/
def switchover (p : ReplicaPass) (replica : Replica) (switching : Restore)
    (active : Option Restore) : Op Action := do
  markPodReadyForTraffic switching.name
  -- from here on the restore is live, and no longer to be found as the switching one once it is
  -- Active: a pass that ends before the record below is not resumed
  updateServiceSelector switching
  updatePhaseActive switching
  recordSwitchover p replica switching active

/-- **The whole block of a switching restore**: gates first, then the switchover. -/
def reconcileSwitchover (ctx : Context) (p : ReplicaPass) (replica : Replica)
    (restores : List Restore) : Op (Option Action) :=
  match switchingRestore restores with
  | none => pure none
  | some switching => do
    let open_ ← switchoverGates ctx p replica switching (activeRestore restores)
    if !open_ then return some ⟨30⟩
    else do
      let action ← switchover p replica switching (activeRestore restores)
      return some action

end RestoreOperator
