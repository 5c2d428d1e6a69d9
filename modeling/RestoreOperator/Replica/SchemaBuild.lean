import RestoreOperator.Objects.Calls

/-!
# `Replica.SchemaBuild` — the reporting-schema gate of the switchover

A restore with a builder image has a reporting schema built against it before the switchover, and
what the build posts back is registered with canopy.  A failed build does not hold the switchover:
its result is recorded on the restore, and the pass that records it leaves the switchover to the
next one.
-/

namespace RestoreOperator

open Calls

/-- How many times one restore may go round before its build is recorded as failed. -/
def buildAttempts : Int := 5

/-- The name of the build Job. -/
def buildJobName (replicaName : String) : String :=
  replicaName ++ "-schema-build"

/-- How often this restore's build has been tried. -/
def attemptsSoFar (restore : Restore) : Int :=
  restore.status.schemaBuildAttempts.getD 0

/-- The restore's database reached the version it targets. -/
def migratedToTarget (restore : Restore) : Bool :=
  match restore.status.migrationResult with
  | none => false
  | some result => result.failedMigration.isNone

/-- The canopy group the replica's data belongs to: the spec names it, and a label repeats it. -/
def buildGroup (replica : Replica) : Option Uuid :=
  match replica.spec.canopySource.bind fun source => Uuid.parse source.group with
  | some group => some group
  | none => replica.groupLabel.bind Uuid.parse

/-- **Whether a pass has a build to do.** -/
inductive BuildToDo where
  | settled
  | noTarget
  | noImage
  | noGroup
  | noRank
  | unmigrated
  | build (image target : String) (group : Uuid) (rank : String)
  deriving Repr, DecidableEq

/-- What is to be built for a restore. -/
def buildToDo (replica : Replica) (restore : Restore) : BuildToDo :=
  if restore.status.schemaBuildResult.isSome then .settled
  else
    match restore.spec.builderImage with
    | none => .noImage
    | some image =>
      match restore.spec.migrateTo with
      | none => .noTarget
      | some target =>
        if !migratedToTarget restore then .unmigrated
        else
          match buildGroup replica with
          | none => .noGroup
          | some group =>
            match restore.spec.rank with
            | none => .noRank
            | some rank => if rank = "" then .noRank else .build image target.version group rank

/-- Record the outcome of a build on the restore. -/
def recordSchemaBuild (restore : Restore) (jobName : Option String) (result : SchemaBuildResult) :
    Op Unit :=
  Op.patchRestore .buildRecord restore.name fun s =>
    { s with schemaBuildJob := jobName, schemaBuildResult := some result }

/-- Record another round of a build. -/
def recordBuildAttempt (restore : Restore) (attempts : Int) : Op Unit :=
  Op.patchRestore .buildRecordAttempt restore.name fun s =>
    { s with schemaBuildAttempts := some attempts }

/-- Drop the finished build Job; a failure to do so is only logged. -/
def deleteBuildJob : Op Unit := do
  let _ ← Prog.bestEffort (Prog.call .buildDeleteJob (World.deleteJob .schemaBuild))

/-- Settle a build that never ran. -/
def settleFailed (restore : Restore) (error : String) : Op Bool := do
  recordSchemaBuild restore none { built := false, error := some error, totalElapsedSeconds := 0 }
  return false

/-- A round of the restore's build has come to nothing. -/
def failRound (restore : Restore) : Op Unit :=
  Prog.modify (World.record (.buildRoundFailed restore.uid))

/-- **Answer a setup failure**: try again while attempts are left. -/
def retryOrSettle (restore : Restore) (err : Error) : Op Bool := do
  let attempts := attemptsSoFar restore + 1
  failRound restore
  if attempts ≥ buildAttempts then
    -- the last attempt is not recorded as such: the result takes its place
    settleFailed restore ("the build could not be set up: " ++ err.display)
  else do
    recordBuildAttempt restore attempts
    return false

/-- What a build Job that exited zero records. -/
def completedBuildResult (sql : Option String) (registration : Option String)
    (elapsedSeconds : Int) (artifacts : List String) : SchemaBuildResult :=
  { built := sql.isSome && registration.isNone
    error :=
      match registration with
      | some e => some e
      | none => if sql.isNone then some "the build produced no schema" else none
    totalElapsedSeconds := elapsedSeconds
    schemaBytes := sql.map fun s => (s.utf8ByteSize : Int)
    artifacts := artifacts }

/-- Put a taken schema back for the next pass. -/
def keepSchema (sql : String) : Op Unit :=
  Prog.modify fun w => { w with schemaBuildResults := some sql }

/-- Take the schema a build posted. -/
def takeSchema : Op (Option String) := do
  let w ← Prog.get
  Prog.modify fun w => { w with schemaBuildResults := none }
  return w.schemaBuildResults

/-- Whole seconds a Job took. -/
def jobElapsedSeconds (now : Timestamp) (job : Job) : Int :=
  match job.report with
  | none => 0
  | some r =>
    match r.startTime with
    | none => 0
    | some start => max (r.completionTime.getD now - start) 0

/-- **Start a build.** -/
def startBuild (ctx : Context) (p : ReplicaPass) (restore : Restore) : Op Bool := do
  -- what an earlier build posted is not this one's
  let _ ← takeSchema
  let discovered ← Prog.attempt (Op.touch .buildDiscover)
  match discovered with
  | .error err => retryOrSettle restore err
  | .ok _ => do
    let secret ← Prog.attempt (Prog.when ctx.builderPullSecret.isSome (Op.touch .buildPullSecret))
    match secret with
    | .error err => retryOrSettle restore err
    | .ok _ => do
      -- a Job that appeared in between is another reconcile's
      let w ← Prog.get
      if (w.job .schemaBuild).isSome then return false
      else do
        Op.createJob .buildCreateJob fun uid =>
          { key := .schemaBuild, uid := uid, backoffLimit := some 0, token := some p.buildToken
            target := restore.uid }
        return false

/-- Register a schema with canopy, with what `restore` tells of the run; without a canopy client there is
    nowhere to. -/
def registerReportingSchema (ctx : Context) (p : ReplicaPass) (restore : Restore) :
    Op (Option (Except Error (Option String))) :=
  if ctx.canopy then do
    Prog.modify (World.record (.schemaRegistered restore (runIdFromStatus restore)))
    let registered ← Prog.attempt (Prog.ask .buildRegister p.registered)
    return some registered
  else return none

/-- **Record a build that succeeded**, once canopy took its schema in or the attempts ran out. -/
def finishBuild (ctx : Context) (p : ReplicaPass) (replica : Replica) (restore : Restore)
    (job : Job) : Op Bool := do
  let elapsed := jobElapsedSeconds p.now job
  let schema ← takeSchema
  match schema with
  | none =>
    let attempts := attemptsSoFar restore + 1
    -- the Job says it posted a schema, but this operator no longer holds it: build it again
    if job.receipt.isSome && attempts < buildAttempts then do
      failRound restore
      recordBuildAttempt restore attempts
      deleteBuildJob
      return false
    else do
      recordSchemaBuild restore (some (buildJobName replica.name))
        (completedBuildResult none none elapsed [])
      deleteBuildJob
      return false
  | some sql => do
    let registration ← registerReportingSchema ctx p restore
    let attempts := attemptsSoFar restore + 1
    match registration with
    | some (.error err) => do
      failRound restore
      if attempts < buildAttempts then do
        -- the Job is kept, so that the next pass comes here again and not to a new build
        keepSchema sql
        recordBuildAttempt restore attempts
        return false
      else
        settle sql elapsed (some ("canopy did not take the schema in: " ++ err.display)) []
    | some (.ok artifact) => settle sql elapsed none artifact.toList
    | none => settle sql elapsed (some "no canopy client to register the schema with") []
where
  /-- Record the result; a record that fails puts the schema back. -/
  settle (sql : String) (elapsed : Int) (registration : Option String)
      (registered : List String) : Op Bool := do
    let recorded ← Prog.attempt
      (recordSchemaBuild restore (some (buildJobName replica.name))
        (completedBuildResult (some sql) registration elapsed registered))
    match recorded with
    | .error err => do
      keepSchema sql
      Prog.fail err
    | .ok _ => do
      deleteBuildJob
      return false

/-- Record a build that failed, with the tail of its log. -/
def failBuild (p : ReplicaPass) (replica : Replica) (restore : Restore) (job : Job) : Op Bool := do
  let _ ← Prog.bestEffort (Op.touch .buildLog)
  let _ ← Prog.bestEffort (Op.touch .buildSecrets)
  recordSchemaBuild restore (some (buildJobName replica.name))
    { built := false
      error := some p.buildFailure
      totalElapsedSeconds := jobElapsedSeconds p.now job
      schemaBytes := job.receipt }
  let _ ← takeSchema
  deleteBuildJob
  return false

/-- **The reporting-schema gate.**  It answers whether the switchover may proceed. -/
def reconcileSchemaBuild (ctx : Context) (p : ReplicaPass) (replica : Replica)
    (restore : Restore) : Op Bool :=
  match buildToDo replica restore with
  | .noTarget => pure true
  | .noGroup => settleFailed restore "the replica names no group to register the schema for"
  | .noRank => settleFailed restore
      "the replica names no environment, and a schema is registered against one"
  | .unmigrated => settleFailed restore
      "the restore did not migrate to the target version, so there is no database to build against"
  | .settled => do
    let _ ← takeSchema
    return true
  | .noImage => pure true
  | .build _ _ _ _ => do
    let job ← Op.getJob .buildGetJob .schemaBuild
    match job with
    | none => startBuild ctx p restore
    | some job =>
      if job.deletionRequested then return false
      else
        match classifyJob job with
        | .active => return false
        | .succeeded => finishBuild ctx p replica restore job
        | .failed => failBuild p replica restore job

end RestoreOperator
