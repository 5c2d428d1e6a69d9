import Mathlib.Data.List.MinMax
import RestoreOperator.Canopy.Syncer

/-!
# `Canopy.Verification` — the report of a restore to canopy

When a restore of a canopy-managed replica has come to its end, canopy is told how it went: which replica
it was, what was found in it, and what its migration or its schema build came to.  Who the report is for is
read from the labels the syncer put on the replica, or else from those of the namespace.

Reading the database, the statistics of the proxy and the tailnet are parameters: a report gets what was found.
-/

namespace RestoreOperator

/-! ## Whom the report is for -/

/-- **The three ids no report is made without.** -/
structure CanopyIds where
  group : Uuid
  serverId : Uuid
  replicaId : Uuid
  deriving DecidableEq

/-- The id a label tells. -/
def labelId (own : Labels) (key : String) : Option Uuid := (own.get key).bind Uuid.parse

/-- **The ids the labels tell**, or the labels that do not tell theirs. -/
def canopyIds (own : Labels) : Except (List String) CanopyIds :=
  match labelId own labels.group, labelId own labels.server, labelId own labels.declarationId with
  | some group, some serverId, some replicaId =>
    .ok { group := group, serverId := serverId, replicaId := replicaId }
  | group, serverId, replicaId =>
    .error <|
      [(labels.group, group.isNone), (labels.server, serverId.isNone),
        (labels.declarationId, replicaId.isNone)].filterMap fun (key, absent) =>
          if absent then some key else none

/-- Fill the gaps of the labels, and leave what is there. -/
def fillMissingLabels (own fallback : Labels) : Labels := own.fill fallback

/-- **The labels a report is made from**, with the ids.  The namespace is asked only if the replica does not
    tell all three, and may not answer. -/
def reportLabels (own : Labels) (namespaceLabels : Option Labels) : Option (Labels × CanopyIds) :=
  match canopyIds own with
  | .ok ids => some (own, ids)
  | .error _ =>
    let merged :=
      match namespaceLabels with
      | some fallback => fillMissingLabels own fallback
      | none => own
    match canopyIds merged with
    | .ok ids => some (merged, ids)
    | .error _ => none

/-! ## What it says -/

/-- What the proxy counted. -/
structure CanopyStats where
  sentRawBytes : Nat := 0
  sentPayloadBytes : Nat := 0
  receivedRawBytes : Nat := 0
  receivedPayloadBytes : Nat := 0
  deriving DecidableEq

/-- What was read from the restored database: its sizes, and the repairs it needed. -/
structure PostgresHealth where
  sizes : List (String × Nat)
  fixes : Value

/-- **The largest database postgres did not create itself**, the last of several. -/
def applicationDatabase (sizes : List (String × Nat)) : Option String :=
  let own := sizes.filter fun e => e.1 ∉ ["postgres", "template0", "template1"]
  (own.reverse.argmax Prod.snd).map Prod.fst

/-- **The verdict**: a restore that holds only postgres' own databases restored nothing. -/
def verdict (outcome : RunOutcome) (error : Option String) (pg : Option PostgresHealth) :
    RunOutcome × Option String :=
  let empty := pg.any fun pg => (applicationDatabase pg.sizes).isNone
  if outcome = .success ∧ empty then (.failure, some Error.noApplicationDatabase.display)
  else (outcome, error)

/-- The word for an outcome. -/
def outcomeWire : RunOutcome → String
  | .success => "success"
  | .failure => "failure"

/-- The number as JSON has it. -/
def Value.ofInt (n : Int) : Value := .number (toString n)

/-- The schema build in the details. -/
def schemaBuildDetails (build : SchemaBuildResult) : Value :=
  let block := OrderedMap.ofList
    [("built", Value.bool build.built), ("elapsed_sec", Value.ofInt build.totalElapsedSeconds)]
  let block :=
    match build.error with
    | some error => block.insert "error" (.string error)
    | none => block
  let block :=
    match build.schemaBytes with
    | some bytes => block.insert "schema_bytes" (.ofInt bytes)
    | none => block
  let block :=
    if build.artifacts ≠ [] then block.insert "artifacts" (.array (build.artifacts.map .string)) else block
  .object block.entries

/-- **The details of a report**: what was gathered, and nothing for the rest. -/
def buildHealthDetails (durationSec : Option Nat) (pg : Option PostgresHealth)
    (schemaBuild : Option SchemaBuildResult) : OrderedMap String Value :=
  let details : OrderedMap String Value := ∅
  let details :=
    match durationSec with
    | some secs => details.insert "restore_duration_sec" (.ofInt secs)
    | none => details
  let details :=
    match pg with
    | some pg =>
      let sizes := OrderedMap.ofList (pg.sizes.map fun e => (e.1, Value.ofInt e.2))
      (details.insert "sizes" (.object sizes.entries)).insert "fixes" pg.fixes
    | none => details
  match schemaBuild with
  | some build => details.insert "schema_build" (schemaBuildDetails build)
  | none => details

/-- The URL of a replica on the tailnet. -/
def replicaUrl (hostname magicDnsSuffix : String) : String :=
  "https://" ++ hostname ++ "." ++ String.ofList (magicDnsSuffix.toList.dropWhile (· == '.'))

/-- The URL of a replica that is exposed. -/
def exposedReplicaUrl (spec : ReplicaSpec) (magicDnsSuffix : Option String) : Option String :=
  spec.serviceAnnotations.bind fun annotations =>
    if annotations.lookup "tailscale.com/expose" = some "true" then
      (annotations.lookup "tailscale.com/hostname").bind fun hostname =>
        magicDnsSuffix.map (replicaUrl hostname)
    else none

/-- What canopy is told of a migration. -/
structure MigrationArgs where
  targetVersionId : Uuid
  totalElapsedSeconds : Int
  failedMigration : Option String
  error : Option String
  dataBytesBefore : Int
  dataBytesAfter : Int
  timings : List MigrationTiming
  deriving DecidableEq

/-- The result in canopy's shape.  A version whose id is none canopy cannot join is left out. -/
def migrationArgs (result : MigrationResult) (target : MigrationTarget) : Option MigrationArgs :=
  (Uuid.parse target.versionId).map fun targetVersionId =>
    { targetVersionId := targetVersionId
      totalElapsedSeconds := result.totalElapsedSeconds
      failedMigration := result.failedMigration
      error := result.error
      dataBytesBefore := result.dataBytesBefore
      dataBytesAfter := result.dataBytesAfter
      timings := result.timings }

/-- **The migration a report tells of**: only an upgrade verifies a version. -/
def migrationFor (intent : String) (restore : Restore) : Option MigrationArgs :=
  if intent ≠ "upgrade" then none
  else
    restore.status.migrationResult.bind fun result =>
      restore.spec.migrateTo.bind fun target => migrationArgs result target

/-- What canopy is told of a schema build. -/
structure ReportingSchemaArgs where
  artifacts : List Uuid
  built : Bool
  error : Option String
  targetVersion : Option String
  targetVersionId : Option Uuid
  deriving DecidableEq

/-- The build in canopy's shape. -/
def reportingSchemaArgs (result : SchemaBuildResult) (target : Option MigrationTarget) :
    ReportingSchemaArgs :=
  { artifacts := result.artifacts.filterMap Uuid.parse
    built := result.built
    error := result.error
    targetVersion := target.map (·.version)
    targetVersionId := target.bind fun t => Uuid.parse t.versionId }

/-- **The schema build a report tells of**, under the intent that builds one. -/
def reportingSchemaFor (intent : String) (restore : Restore) : Option ReportingSchemaArgs :=
  if intent ≠ reportingSchemaIntent then none
  else
    restore.status.schemaBuildResult.map fun result =>
      reportingSchemaArgs result restore.spec.migrateTo

/-- **What canopy is told.** -/
structure VerificationArgs where
  replicaId : Uuid
  runId : Option Uuid
  group : Uuid
  serverId : Uuid
  type : String
  intent : String
  snapshotId : String
  outcome : String
  error : Option String
  replicaHealthy : Bool
  postgresVersion : Option String
  observedAt : Timestamp
  stats : CanopyStats
  healthDetails : Option Value
  migration : Option MigrationArgs
  reportingSchema : Option ReportingSchemaArgs

/-- **What is found when a report is made**, each part if it could be. -/
structure ReportFacts where
  namespaceLabels : Option Labels := none
  stats : Option CanopyStats := none
  durationSec : Option Nat := none
  pg : Option PostgresHealth := none
  magicDnsSuffix : Option String := none
  now : Timestamp

/-- A replica as the operator reads it: its labels, and the spec its fields make. -/
structure ReadReplica where
  labels : Labels
  spec : ReplicaSpec

/-- **The report of a restore**, if one is made: only for a replica of canopy's, and only if the labels tell
    who it is. -/
def verificationReport (canopy : Bool) (replica : ReadReplica) (restore : Restore) (outcome : RunOutcome)
    (error : Option String) (facts : ReportFacts) : Option VerificationArgs :=
  if replica.spec.canopySource.isNone ∨ canopy = false then none
  else
    (reportLabels replica.labels facts.namespaceLabels).map fun (own, ids) =>
      let type := (own.get labels.type).getD ""
      let intent := (own.get labels.intent).getD ""
      let (outcome, error) := verdict outcome error facts.pg
      let health := buildHealthDetails facts.durationSec facts.pg restore.status.schemaBuildResult
      let health :=
        match exposedReplicaUrl replica.spec facts.magicDnsSuffix with
        | some url => health.insert "url" (.string url)
        | none => health
      { replicaId := ids.replicaId
        runId := runIdFromStatus restore
        group := ids.group
        serverId := ids.serverId
        type := type
        intent := intent
        snapshotId := restore.spec.snapshot
        outcome := outcomeWire outcome
        error := error
        replicaHealthy := decide (outcome = .success)
        postgresVersion := restore.status.postgresVersion
        observedAt := facts.now
        stats := facts.stats.getD {}
        healthDetails := if health.isEmpty then none else some (.object health.entries)
        migration := migrationFor intent restore
        reportingSchema := reportingSchemaFor intent restore }

end RestoreOperator
