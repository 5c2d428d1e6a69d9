import RestoreOperator.Replica.CredentialReset
import RestoreOperator.Replica.Scheduling

/-!
# `Replica.SchemaMigration` — the persistent-schema gate of the switchover

A replica with `spec.persistentSchemas` carries those schemas from its active restore into the
switching one, by a Job that runs before the switchover.  The gate is kept by
`status.schemaMigrationPhase`, which lives on the replica.
-/

namespace RestoreOperator

open Calls

/-- The sweep may go ahead: no migration is in flight. -/
def persistentSchemasMigrationSettled (replica : Replica) : Bool :=
  if replica.spec.persistentSchemas.isNone then true
  else
    match replica.status.schemaMigrationPhase with
    | none => true
    | some ph => ph.isSettled

/-- Record how the migration stands, once no Job of it is left to wait for. -/
def patchMigrationPhase (phase : SchemaMigrationPhase) : Op Unit :=
  Op.patchStatus .migrationPatchPhase fun s =>
    { s with schemaMigrationJob := none, schemaMigrationPhase := some phase }

/-- Record a migration that needed no Job. -/
def markSchemaMigrationComplete : Op Unit :=
  patchMigrationPhase .complete

/-- The Job has been alive longer than the migration's budget. -/
def migrationExceededBudget (ctx : Context) (p : ReplicaPass) (replica : Replica) (job : Job) :
    Bool :=
  match job.creationTimestamp with
  | none => false
  | some created =>
    p.migrationNow - created > schemaMigrationTimeout ctx replica.spec p.migrationNow

/-- Drop the persistent schemas on the new restore. -/
def dropPersistentSchemasOnTarget (newRestore : Restore) : Op Unit := do
  Op.touch .migrationCredentials
  Op.touch (.migrationDiscover newRestore.name)
  Op.touch (.migrationConnect newRestore.name)
  Op.touch .migrationDropSchemas

/-- **Give up on a migration** past its budget: drop the Job and the schemas, and let the
    switchover proceed. -/
def timeoutSchemaMigration (replica : Replica) (newRestore : Restore) (job : Job) : Op Unit := do
  let schemas := replica.spec.persistentSchemas.getD []
  -- nothing before the record of the phase can end the pass
  let _ ← Prog.bestEffort (Prog.call .migrationDeleteJob (World.deleteJob .schemaMigration))
  Prog.when (schemas ≠ []) do
    let _ ← Prog.bestEffort (dropPersistentSchemasOnTarget newRestore)
  Op.publishEvent "SchemaMigrationTimedOut"
  Prog.modify (World.log (.migrationJobTimedOut job.uid))
  patchMigrationPhase .timeoutSkipped

/-- The Job reported that some statements failed. -/
def isPartialCallback (callback : Option String) : Bool :=
  match callback with
  | none => false
  | some body => "partial".toList.isPrefixOf body.toList

/-- The Job that copies the schemas into the new restore. -/
def buildSchemaMigrationJob (p : ReplicaPass) (newRestore : Restore) (uid : Nat) : Job :=
  { key := .schemaMigration
    uid := uid
    target := newRestore.uid
    creationTimestamp := some p.serverNow
    backoffLimit := some 0 }

/-- The name of the migration Job. -/
def migrationJobName (replicaName : String) : String :=
  replicaName ++ "-schema-migration"

/-- Take the callback of the migration Job. -/
def takeMigrationResult : Op (Option String) := do
  let w ← Prog.get
  Prog.modify fun w => { w with schemaMigrationResults := none }
  return w.schemaMigrationResults

/-- **Follow the migration Job.** -/
def followMigrationJob (ctx : Context) (p : ReplicaPass) (replica : Replica)
    (newRestore : Restore) (job : Job) : Op Bool :=
  match classifyJob job with
  | .active =>
    if migrationExceededBudget ctx p replica job then do
      timeoutSchemaMigration replica newRestore job
      return true
    else return false
  | .succeeded => do
    Prog.modify (World.log (.migrationJobSucceeded job.uid))
    let callback ← takeMigrationResult
    let isPartial := isPartialCallback callback
    Prog.when isPartial (Op.publishEvent "SchemaMigrationPartial")
    patchMigrationPhase (if isPartial then .partly else .complete)
    let _ ← Prog.bestEffort (Prog.call .migrationDeleteJob (World.deleteJob .schemaMigration))
    return true
  -- the Job is dropped, so that the next pass starts over
  | .failed => do
    let callback ← takeMigrationResult
    let lastError := callback.getD "no callback received"
    let _ ← Prog.bestEffort (Prog.call .migrationDeleteJob (World.deleteJob .schemaMigration))
    patchMigrationPhase (.failed lastError)
    Prog.fail (.schemaMigration ("schema migration failed: " ++ lastError))

/-- Find the database of a restore.  `none` means that the credentials were refused and a reset is
    under way. -/
def discoverOrReset (restore : Restore) : Op (Option Unit) := do
  let found ← Prog.attempt (Op.touch (.migrationDiscover restore.name))
  match found with
  | .ok _ => return some ()
  | .error e =>
    if isAuthError e then do
      let _ ← ensureCredentialReset restore
      return none
    else Prog.fail e

/-- What the persistent schemas add to the snapshot the source was restored from, in bytes. -/
def schemaDataBytes (p : ReplicaPass) (oldRestore : Restore) : Nat :=
  (Rat.floor (max ((p.databaseSize : ℚ) - oldRestore.spec.snapshotSize.parsed.getD 0) 0)).toNat

/-- **Create the migration Job**: find which schemas exist on the source, clear the target of them,
    and start copying. -/
def startMigration (p : ReplicaPass) (replica : Replica) (allSchemas : List String)
    (newRestore oldRestore : Restore) : Op Bool := do
  Op.touch .migrationCredentials
  let source ← discoverOrReset oldRestore
  match source with
  | none => return false
  | some _ => do
    Op.touch (.migrationConnect oldRestore.name)
    let schemas ← Prog.ask (.migrationExistingSchemas oldRestore.name)
      (allSchemas.filter (· ∈ p.sourceSchemas))
    Op.touch .migrationDatabaseSize
    if schemas = [] then do
      Prog.modify (World.log (.schemasMissing newRestore.uid))
      markSchemaMigrationComplete
      return true
    else do
      Op.patchStatus .migrationPatchSize fun s =>
        { s with persistentSchemaDataSize := some (.amount (schemaDataBytes p oldRestore)) }
      let target ← discoverOrReset newRestore
      match target with
      | none => return false
      | some _ => do
        Op.touch (.migrationConnect newRestore.name)
        let preexisting ← Prog.ask (.migrationExistingSchemas newRestore.name)
          (schemas.filter (· ∈ p.targetSchemas))
        -- what an earlier attempt left on the target would collide with the copy
        Prog.when (preexisting ≠ []) (Op.touch .migrationDropSchemas)
        Op.createJob .migrationCreateJob (buildSchemaMigrationJob p newRestore)
          fun uid => [.migrationJobCreated uid newRestore.uid]
        Op.patchStatus .migrationPatchActive fun s =>
          { s with
            schemaMigrationJob := some (migrationJobName replica.name)
            schemaMigrationPhase := some .active }
        return false

/-- **The schema-migration gate.**  It answers whether the switchover may proceed. -/
def reconcileSchemaMigration (ctx : Context) (p : ReplicaPass) (replica : Replica)
    (newRestore : Restore) (oldRestore : Option Restore) : Op Bool :=
  match replica.spec.persistentSchemas with
  | none => Prog.fail (.schemaMigration "missing persistent_schemas config")
  | some schemas =>
    match oldRestore with
    -- the first restore: there is nothing to migrate from
    | none => pure true
    | some oldRestore =>
      if schemas = [] then do
        markSchemaMigrationComplete
        return true
      -- the marker is the replica's, whichever restore it was written for
      else if replica.status.schemaMigrationPhase = some .complete then pure true
      else do
        let job ← Op.getJob .migrationGetJob .schemaMigration
        match job with
        | some job => followMigrationJob ctx p replica newRestore job
        | none => startMigration p replica schemas newRestore oldRestore

end RestoreOperator
