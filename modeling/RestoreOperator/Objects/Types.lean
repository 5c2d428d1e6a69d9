import Mathlib.Data.Rat.Defs
import Mathlib.Algebra.Order.Ring.Rat
import RestoreOperator.Base.Calendar

/-!
# `Objects.Types` — the custom resources and their fields

The two custom resources (`PostgresPhysicalReplica`, `PostgresPhysicalRestore`) and the pieces of
Kubernetes they lean on, with the fields the controllers read or write.  An absent `status` reads
exactly as one whose fields are all absent, so both statuses are plain records here.
-/

namespace RestoreOperator

/-! ## Time and sizes -/

/-- A point in time, in whole seconds: the resolution at which a status keeps its times. -/
abbrev Timestamp := Int

/-- A length of time, in seconds. -/
abbrev Duration := Int

/-- **A configured span.**  Months (a year is twelve) and days are kept apart from the seconds: not
    every reader of a span takes them to be of a fixed length. -/
structure TimeSpan where
  months : Int := 0
  days : Int := 0
  secs : Int
  deriving Repr, DecidableEq

/-- The span as a fixed duration, which a span of calendar units is not. -/
def TimeSpan.toSignedDuration (span : TimeSpan) : Option Duration :=
  if span.months = 0 ∧ span.days = 0 then some span.secs else none

/-- The span in seconds, with days of 24 hours.  Months have no length of their own. -/
def TimeSpan.totalSeconds (span : TimeSpan) : Option Duration :=
  if span.months = 0 then some (span.days * 86400 + span.secs) else none

/-- **A span later**, by the calendar of UTC: first the months, then the days, then the seconds. -/
def Timestamp.add (t : Timestamp) (span : TimeSpan) : Timestamp :=
  let day := t / 86400
  let later := if span.months = 0 then day else Calendar.addMonths day span.months
  (later + span.days) * 86400 + t % 86400 + span.secs

/-- **A resource quantity**: a number, or a text that does not parse as one. -/
inductive Quantity where
  | amount (q : ℚ)
  | unparsable (text : String)
  deriving Repr, DecidableEq

/-- Parse a quantity. -/
def Quantity.parsed : Quantity → Option ℚ
  | .amount q => some q
  | .unparsable _ => none

/-- The number of bytes in a MiB. -/
def mebibyte : ℚ := 1048576

/-- The number of bytes in a GiB. -/
def gibibyte : ℚ := 1073741824

/-- **Amounts of resources**, by name and in the order of the names. -/
structure ResourceMap where
  entries : List (String × Quantity) := []
  deriving Repr, DecidableEq

/-- The amount of a resource. -/
def ResourceMap.get (m : ResourceMap) (name : String) : Option Quantity := m.entries.lookup name

/-- Put an amount, in place of the one there was. -/
def ResourceMap.insert (m : ResourceMap) (name : String) (q : Quantity) : ResourceMap :=
  ⟨insertEntry m.entries⟩
where
  insertEntry : List (String × Quantity) → List (String × Quantity)
    | [] => [(name, q)]
    | (other, r) :: rest =>
      if name < other then (name, q) :: (other, r) :: rest
      else if name = other then (name, q) :: rest
      else (other, r) :: insertEntry rest

/-- **What a container asks for, and what it may use at most.** -/
structure ResourceRequirements where
  requests : Option ResourceMap := none
  limits : Option ResourceMap := none
  deriving Repr, DecidableEq

/-! ## Errors -/

/-- **The errors a reconcile ends with.** -/
inductive Error where
  | kube (message : String)
  | kopia (message : String)
  | missingField (field : String)
  | noApplicationDatabase
  | schemaMigration (message : String)
  | storageLimitExceeded (computed maximum : ℚ)
  /-- A database error; `auth` tells an authentication failure from the rest. -/
  | postgres (auth : Bool) (message : String)
  | redaction (message : String)
  | canopy (message : String)
  deriving Repr, DecidableEq

/-- The text of an error. -/
def Error.display : Error → String
  | .kube m => "Kubernetes API error: " ++ m
  | .kopia m => "Kopia error: " ++ m
  | .missingField f => "Missing field: " ++ f
  | .noApplicationDatabase => "restore contains no application database"
  | .schemaMigration m => "Schema migration error: " ++ m
  | .storageLimitExceeded computed maximum =>
      "Computed PVC size (" ++ toString computed ++ ") exceeds storageSizeMaximum (" ++
        toString maximum ++ ")"
  | .postgres _ m => "Database connection error: " ++ m
  | .redaction m => "Redaction error: " ++ m
  | .canopy m => "Canopy error: " ++ m

/-- Whether a database refused the credentials. -/
def isAuthError : Error → Bool
  | .postgres auth _ => auth
  | _ => false

/-! ## Phases -/

/-- The lifecycle of a replica as a whole. -/
inductive ReplicaPhase where
  | pending
  | restoring
  | ready
  | failed
  deriving Repr, DecidableEq

/-- **The lifecycle of one restore.** -/
inductive RestorePhase where
  | pending
  | restoring
  | migrating
  | ready
  | switching
  | active
  | failed
  deriving Repr, DecidableEq

/-- The lifecycle of the persistent-schema migration of a switchover. -/
inductive SchemaMigrationPhase where
  | active
  | complete
  | partly
  | timeoutSkipped
  | failed (reason : String)
  deriving Repr, DecidableEq

/-- Nothing is in flight: every phase but `active`. -/
def SchemaMigrationPhase.isSettled : SchemaMigrationPhase → Bool
  | .active => false
  | _ => true

/-- The lifecycle of the redaction of a switchover. -/
inductive RedactionPhase where
  | active
  | complete
  | partly
  | failed (reason : String)
  deriving Repr, DecidableEq

/-- Nothing is in flight: every phase but `active`. -/
def RedactionPhase.isSettled : RedactionPhase → Bool
  | .active => false
  | _ => true

/-- Redaction has done all it is going to do, and the switchover may proceed. -/
def RedactionPhase.isDone : RedactionPhase → Bool
  | .complete => true
  | .partly => true
  | _ => false

/-! ## The replica -/

/-- Where a canopy-sourced replica takes its backups from. -/
structure CanopySource where
  group : String
  type : String
  deriving Repr, DecidableEq

/-- Which snapshots a replica may restore. -/
structure SnapshotFilter where
  tags : Option (List (String × String)) := none
  hostPattern : Option String := none
  descriptionPattern : Option String := none
  pathPattern : Option String := none
  deriving Repr, DecidableEq

/-- An additional login role. -/
structure ExtraUserSpec where
  name : String
  schemas : List String := []
  deriving Repr, DecidableEq

/-- How the data of a restore is redacted before it goes live. -/
structure RedactionSpec where
  manifestUrl : String
  version : Option String := none
  versionQuery : Option String := none
  versionFallbackToBase : Bool := false
  deriving Repr, DecidableEq

/-- The version whose schema migrations a restore proves. -/
structure MigrationTarget where
  version : String
  versionId : String
  deriving Repr, DecidableEq

/-- **The spec of a replica.** -/
structure ReplicaSpec where
  kopiaSecretRef : Option String := none
  canopySource : Option CanopySource := none
  snapshotFilter : Option SnapshotFilter := none
  schedule : String
  scheduleJitter : TimeSpan := { secs := 600 }
  minimumTtl : Option TimeSpan := none
  switchoverGracePeriod : TimeSpan := { secs := 300 }
  analyticsUsername : String := "analytics"
  extraUsers : List ExtraUserSpec := []
  storageSizeOverride : Option Quantity := none
  resources : Option ResourceRequirements := none
  resourcesFloor : Option ResourceRequirements := none
  resourcesMaximum : Option Quantity := none
  deploymentReadyTimeout : Option TimeSpan := none
  shmSizeFloor : Option Quantity := none
  serviceAnnotations : Option (List (String × String)) := none
  readOnly : Bool := true
  ephemeral : Bool := false
  persistentSchemas : Option (List String) := none
  preMigrateDropSchemas : Option (List String) := none
  preMigrateSql : Option String := none
  migrateTo : Option MigrationTarget := none
  builderImage : Option String := none
  rank : Option String := none
  storageSizeMaximum : Quantity := .amount (2048 * gibibyte)
  redaction : Option RedactionSpec := none
  deriving DecidableEq

/-- A condition of a status. -/
structure Condition where
  type : String
  status : String
  reason : String
  message : String
  deriving Repr, DecidableEq

/-- **The status of a replica.** -/
structure ReplicaStatus where
  phase : Option ReplicaPhase := none
  currentRestore : Option String := none
  previousRestore : Option String := none
  serviceName : Option String := none
  lastRestoreCompletedAt : Option Timestamp := none
  nextScheduledRestore : Option Timestamp := none
  latestAvailableSnapshot : Option String := none
  canopyDesiredSnapshotId : Option String := none
  verifiedSnapshotId : Option String := none
  queuePosition : Option Nat := none
  conditions : List Condition := []
  scheduleInputHash : Option String := none
  schemaMigrationJob : Option String := none
  schemaMigrationPhase : Option SchemaMigrationPhase := none
  persistentSchemaDataSize : Option Quantity := none
  consecutiveRestoreFailures : Option Nat := none
  redactionPhase : Option RedactionPhase := none
  redactionVersion : Option String := none
  redactionColumnsApplied : Option Nat := none
  deriving DecidableEq

/-- **A replica.**  `groupLabel` is the label that names its canopy group. -/
structure Replica where
  name : String
  groupLabel : Option String := none
  spec : ReplicaSpec
  status : ReplicaStatus := {}
  deriving DecidableEq

/-! ## The restore -/

/-- How long one migration took. -/
structure MigrationTiming where
  name : String
  elapsedSeconds : Int
  deriving Repr, DecidableEq

/-- What the schema migrations of a restore came to: with the sizes of the database before and after them,
    and their times in the order they ran. -/
structure MigrationResult where
  totalElapsedSeconds : Int
  failedMigration : Option String := none
  error : Option String := none
  dataBytesBefore : Int := 0
  dataBytesAfter : Int := 0
  timings : List MigrationTiming := []
  deriving Repr, DecidableEq

/-- What the reporting-schema build of a restore came to. -/
structure SchemaBuildResult where
  built : Bool
  error : Option String := none
  totalElapsedSeconds : Int
  schemaBytes : Option Int := none
  artifacts : List String := []
  deriving Repr, DecidableEq

/-- What a restore's status tells of one of its Jobs. -/
structure JobStatus where
  name : String
  phase : String
  completedAt : Option Timestamp := none
  deriving Repr, DecidableEq

/-- **The spec of a restore**, fixed when the restore is created. -/
structure RestoreSpec where
  replica : String
  snapshot : String
  snapshotSize : Quantity
  snapshotTime : Option String := none
  storageSize : Quantity
  migrateTo : Option MigrationTarget := none
  builderImage : Option String := none
  rank : Option String := none
  deriving DecidableEq

/-- **The status of a restore.** -/
structure RestoreStatus where
  phase : Option RestorePhase := none
  runId : Option String := none
  postgresVersion : Option String := none
  createdAt : Option Timestamp := none
  restoredAt : Option Timestamp := none
  activatedAt : Option Timestamp := none
  restoreJob : Option JobStatus := none
  migrationJob : Option JobStatus := none
  migrationBaseline : Option String := none
  migrationResult : Option MigrationResult := none
  schemaBuildResult : Option SchemaBuildResult := none
  schemaBuildJob : Option String := none
  schemaBuildAttempts : Option Int := none
  pvc : Option String := none
  deployment : Option String := none
  deriving DecidableEq

/-- **A restore.**  `uid` is the object's identity: it outlives nothing and is never reused, where
    a name is free again once its restore is deleted. -/
structure Restore where
  uid : Nat
  name : String
  deletionRequested : Bool := false
  spec : RestoreSpec
  status : RestoreStatus := {}
  deriving DecidableEq

/-- Whether a restore is in the given phase. -/
def Restore.inPhase (r : Restore) (ph : RestorePhase) : Bool :=
  r.status.phase == some ph

end RestoreOperator
