import RestoreOperator.Calls.Prog
import RestoreOperator.Canopy.Verification
import RestoreOperator.Jobs.Log

/-!
# `Restore.MigrationTest` — trying a version's migrations on a restore

A restore with a target version is migrated before it is switched to: a Job of that version runs against the
restored database, and what it did is read back from `logs.migrations`, the table in which it records its
batches.  That table was restored with the rest, so it already holds the batches of the source deployment.
-/

namespace RestoreOperator

open Calls

namespace MigrationTest

/-! ## The database -/

/-- A row of `logs.migrations`. -/
structure Batch where
  loggedAt : Int
  direction : String
  migrations : List String
  durationMs : Option Int
  stats : Option Value

/-- A database of the restore.  It may have no `logs.migrations`. -/
structure Database where
  name : String
  size : Nat
  allowsConnections : Bool := true
  schemas : List String := []
  batches : Option (List Batch) := none

namespace Database

/-- The rows there are. -/
def rows (d : Database) : List Batch := d.batches.getD []

/-- `DROP SCHEMA … CASCADE`. -/
def dropSchema (schema : String) (d : Database) : Database :=
  { d with
    schemas := d.schemas.filter (· ≠ schema)
    batches := if schema = "logs" then none else d.batches }

/-- A batch is recorded, in a table that is made if need be. -/
def record (b : Batch) (d : Database) : Database := { d with batches := some (d.rows ++ [b]) }

/-- The newest batch. -/
def latestBatchAt (d : Database) : Option Int := (d.rows.map (·.loggedAt)).max?

/-- The batches after the baseline that migrated upwards. -/
def newBatches (baseline : Option Int) (d : Database) : List Batch :=
  d.rows.filter fun b => b.direction == "up" && baseline.all (· < b.loggedAt)

/-- **The newest of them.** -/
def newBatch (baseline : Option Int) (d : Database) : Option Batch :=
  ((d.newBatches baseline).mergeSort fun a b => b.loggedAt ≤ a.loggedAt).head?

end Database

/-- The sizes of the databases, the largest first. -/
def databaseSizes (databases : List Database) : List (String × Nat) :=
  ((databases.filter fun d => d.name ∉ ["template0", "template1"] ∧ d.allowsConnections).map fun d =>
    (d.name, d.size)).mergeSort fun a b => b.2 ≤ a.2

/-! ## What a batch tells -/

/-- A whole number in a text. -/
def parseInt (s : String) : Option Int :=
  match s.toList with
  | '+' :: digits => (parseI64.decimal digits).bind fun n => if n < 2 ^ 63 then some (n : Int) else none
  | '-' :: digits => (parseI64.decimal digits).bind fun n => if n ≤ 2 ^ 63 then some (-(n : Int)) else none
  | digits => (parseI64.decimal digits).bind fun n => if n < 2 ^ 63 then some (n : Int) else none

/-- The size before, if it could be read then. -/
def bytesBefore (stats : Option Value) : Option Int :=
  (((stats.bind (·.get "preSnapshot")).bind (·.get "databaseSizeBytes")).bind fun v =>
    v.asI64.or (v.asStr.bind parseInt)).filter (0 ≤ ·)

/-- The migration a failed batch stopped at. -/
def failedMigration (stats : Option Value) : String :=
  ((stats.bind (·.get "failedMigration")).bind Value.asStr).getD "unknown"

/-- **A row in the shape canopy is sent**, in the order of the row's own list. -/
def resultFromBatch (b : Batch) (dataBytesAfter : Int) (jobFailed : Bool) : MigrationResult :=
  let durations := ((b.stats.bind (·.get "durationMsPerMigration")).bind Value.asObject).getD []
  let timings := b.migrations.map fun name =>
    { name := name, elapsedSeconds := (((durations.lookup name).bind Value.asI64).getD 0).tdiv 1000 : MigrationTiming }
  { totalElapsedSeconds :=
      match b.durationMs with
      | some ms => ms.tdiv 1000
      | none => (timings.map (·.elapsedSeconds)).sum
    failedMigration := if jobFailed then some (failedMigration b.stats) else none
    error := none
    dataBytesBefore := (bytesBefore b.stats).getD dataBytesAfter
    dataBytesAfter := dataBytesAfter
    timings := timings }

/-- What is said of a Job that recorded nothing. -/
def resultWithoutBatch (dataBytesAfter : Int) (jobFailed : Bool) : MigrationResult :=
  { totalElapsedSeconds := 0
    failedMigration := if jobFailed then some "unknown" else none
    error := none
    dataBytesBefore := dataBytesAfter
    dataBytesAfter := dataBytesAfter
    timings := [] }

def resultOf (row : Option Batch) (dataBytesAfter : Int) (jobFailed : Bool) : MigrationResult :=
  match row with
  | none => resultWithoutBatch dataBytesAfter jobFailed
  | some b => resultFromBatch b dataBytesAfter jobFailed

/-- The error of a batch, in one line; empty if it says nothing. -/
def errorLine (error : Value) : String :=
  let field (key : String) : Option String := (((error.get key).bind Value.asStr).map trim).filter (· ≠ "")
  let head :=
    match (field "code").or (field "name"), field "message" with
    | some label, some message => label ++ ": " ++ message
    | some label, none => label
    | none, some message => message
    | none, none => ""
  let place :=
    match field "table", field "column" with
    | some table, some column => [table ++ "." ++ column]
    | some one, none => [one]
    | none, some one => [one]
    | none, none => []
  let context := String.intercalate ", " (place ++ (field "constraint").toList)
  let line :=
    if head ≠ "" ∧ context ≠ "" then head ++ " [" ++ context ++ "]"
    else if head ≠ "" then head
    else if context ≠ "" then "[" ++ context ++ "]"
    else ""
  line ++ ((field "detail").map fun value => " DETAIL: " ++ value).getD "" ++
    ((field "hint").map fun value => " HINT: " ++ value).getD ""

/-- **The cause of a failure**: what the batch says, or the end of the log. -/
def migrationError (stats : Option Value) (log : Option String) : Option (Option String) :=
  let line := ((stats.bind (·.get "error")).map errorLine).getD ""
  if line ≠ "" then some (some (trim line))
  else
    match log with
    | none => some none
    | some log => (logTail log).map fun tail => if tail = "" then none else some tail

/-! ## The test -/

/-- The Job of a test, and what it recorded. -/
structure MigrationJob where
  database : String
  succeeded : Nat := 0
  failed : Nat := 0
  wrote : List Batch := []

namespace MigrationJob

def isEnded (job : MigrationJob) : Bool := job.succeeded != 0 || job.failed != 0

end MigrationJob

/-- **A restore under test**: its status as far as the test goes, its Job and its databases.  `written` is all
    that any of its Jobs ever recorded. -/
structure Test where
  phase : RestorePhase := .migrating
  baseline : Option Int := none
  jobPhase : Option String := none
  result : Option MigrationResult := none
  job : Option MigrationJob := none
  databases : List Database
  written : List Batch := []

namespace Test

def database (t : Test) (name : String) : Option Database := t.databases.find? (·.name = name)

def updateDatabase (name : String) (f : Database → Database) (t : Test) : Test :=
  { t with databases := t.databases.map fun d => if d.name = name then f d else d }

end Test

/-- The calls of a pass. -/
inductive MigratingCall where
  | patchUnmigrated
  | getReplica
  | credentials
  | sizes
  | patchFailed
  | getJob
  | latestBatch
  | patchBaseline
  | existingSchemas
  | terminateBackends
  | dropSchema (schema : String)
  | preMigrateSql
  | createJob
  | size
  | newBatch
  | patchMigrated
  deriving DecidableEq

/-- Why a pass ends early. -/
inductive MigratingError where
  | error (e : Error)
  | panicked
  deriving DecidableEq

/-- **What a pass goes by**, besides the restore's state: the spec of the restore and of the replica, the
    baseline in the restore as the pass has it, and what the Job's log and the Secret tell. -/
structure MigratingPass where
  target : Option MigrationTarget
  preMigrateDropSchemas : Option (List String) := none
  preMigrateSql : Option (Database → Database) := none
  baseline : Option Int := none
  log : Option String := none
  password : String := ""
  replies : MigratingCall → Reply MigratingError

abbrev MigratingOp := Prog MigratingCall Test MigratingError

/-- A query of a database.  It fails where there is nothing to query. -/
def query {α : Type} (c : MigratingCall) (name : String) (f : Database → Option α) : MigratingOp α := do
  match ← Prog.read c fun t => (t.database name).bind f with
  | some a => pure a
  | none => Prog.fail (.error (.postgres false "does not exist"))

/-- A schema that carries neither the restore's own data nor a catalog. -/
def isDroppableSchema (schema : String) : Bool :=
  schema ∉ ["public", "information_schema"] && !"pg_".toList.isPrefixOf schema.toList

/-- **Drop the schemas that are made anew around an upgrade.**  Reserved ones are refused, however they came to
    be named. -/
def dropPreMigrateSchemas (p : MigratingPass) (dbname : String) : MigratingOp Unit := do
  let droppable := (p.preMigrateDropSchemas.getD []).filter isDroppableSchema
  Prog.when (droppable != []) do
    let present ← query .existingSchemas dbname fun d => some (droppable.filter (· ∈ d.schemas))
    Prog.when (present != []) do
      Prog.ask .terminateBackends ()
      Prog.each present fun schema =>
        Prog.call (.dropSchema schema) (Test.updateDatabase dbname (Database.dropSchema schema))

def runPreMigrateSql (p : MigratingPass) (dbname : String) : MigratingOp Unit :=
  match p.preMigrateSql with
  | none => pure ()
  | some sql => Prog.call .preMigrateSql (Test.updateDatabase dbname sql)

/-- The log of a failed Job, with the password masked. -/
def failedLog (text : LogText) (p : MigratingPass) (jobFailed : Bool) : MigratingOp (Option String) :=
  match if jobFailed then p.log else none with
  | none => pure none
  | some log =>
    match redact text log [p.password] with
    | some masked => pure (some masked)
    | none => Prog.fail .panicked

/-- **Read what the Job did**: the newest batch after the baseline, if there is one. -/
def readResult (text : LogText) (p : MigratingPass) (dbname : String) (jobFailed : Bool) :
    MigratingOp MigrationResult := do
  let log ← failedLog text p jobFailed
  let size ← query .size dbname fun d => some (d.size : Int)
  let row ← query .newBatch dbname fun d => d.batches.map fun _ => d.newBatch p.baseline
  if jobFailed then
    match migrationError (row.bind (·.stats)) log with
    | some error => pure { resultOf row size jobFailed with error := error }
    | none => Prog.fail .panicked
  else pure (resultOf row size jobFailed)

/-- Start the Job, from a database that is prepared for it. -/
def startJob (p : MigratingPass) (dbname : String) : MigratingOp Unit := do
  let latest ← query .latestBatch dbname fun d => some d.latestBatchAt
  -- before the Job exists, so that what it records comes after
  Prog.when latest.isSome (Prog.call .patchBaseline fun t => { t with baseline := latest })
  dropPreMigrateSchemas p dbname
  runPreMigrateSql p dbname
  Prog.call .createJob fun t => { t with job := some { database := dbname } }

/-- Record what the Job did. -/
def recordResult (text : LogText) (p : MigratingPass) (dbname : String) (job : MigrationJob) :
    MigratingOp Unit := do
  let result ← readResult text p dbname (job.failed != 0)
  Prog.call .patchMigrated fun t =>
    { t with
      phase := .ready
      jobPhase := some (if job.failed ≠ 0 then "Failed" else "Succeeded")
      result := some result }

/-- **A pass over a restore that is Migrating.** -/
def reconcileMigrating (text : LogText) (p : MigratingPass) : MigratingOp Unit :=
  match p.target with
  -- the target was taken away under way
  | none => Prog.call .patchUnmigrated fun t => { t with phase := .ready }
  | some _ => do
    Prog.ask .getReplica ()
    Prog.ask .credentials ()
    let sizes ← Prog.read .sizes fun t => databaseSizes t.databases
    match applicationDatabase sizes with
    -- nothing to migrate: that will not change
    | none => Prog.call .patchFailed fun t => { t with phase := .failed }
    | some dbname => do
      match ← Prog.read .getJob fun t => t.job with
      | none => startJob p dbname
      | some job => Prog.when job.isEnded (recordResult text p dbname job)

/-! ## What happens to a test -/

/-- **What happens.**  The Job records its batches and ends, somebody may delete it, and databases grow. -/
inductive TestEvent where
  | pass (p : MigratingPass)
  | wrote (b : Batch)
  | ended (failed : Bool)
  | deleted
  | resized (name : String) (size : Nat)

/-- **One event.** -/
def step (text : LogText) (t : Test) : TestEvent → Test
  | .pass p => (reconcileMigrating text p p.replies t).state
  | .wrote b =>
    match t.job with
    | some job =>
      if job.isEnded then t
      else
        { t.updateDatabase job.database (Database.record b) with
          job := some { job with wrote := job.wrote ++ [b] }
          written := t.written ++ [b] }
    | none => t
  | .ended failed =>
    match t.job with
    | some job =>
      if job.isEnded then t
      else
        { t with job := some (if failed then { job with failed := 1 } else { job with succeeded := 1 }) }
    | none => t
  | .deleted => { t with job := none }
  | .resized name size => t.updateDatabase name fun d => { d with size := size }

end MigrationTest

end RestoreOperator
