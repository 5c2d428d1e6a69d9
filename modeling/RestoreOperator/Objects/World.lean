import RestoreOperator.Objects.Queue
import RestoreOperator.Objects.ReindexWatch
import RestoreOperator.Objects.Uuid

/-!
# `Objects.World` — the stored objects of one replica

What the API server stores for one replica (its CR, its restores, Jobs, Deployments, pods and
Service), the databases behind it, what the operator's process holds in memory, and a log of the
events the results speak about.

The log (`history`, newest first, `phaseChanges` for the phases of the restores and `records` for run ids
and builds) is not read by any controller: it is how a statement about a whole run is put, and every entry
is written by the call that makes it true.
-/

namespace RestoreOperator

/-! ## Jobs -/

/-- **The Jobs of a replica.**  Every one of them has a fixed name built from the replica's or the
    restore's; the suffixes differ, so the key stands for the name. -/
inductive JobKey where
  | snapshotList
  | schemaMigration
  | schemaBuild
  | restore (restore : String)
  | versionDetect (restore : String)
  | migration (restore : String)
  | credentialReset (restore : String)
  deriving Repr, DecidableEq

/-- The `pgro.bes.au/restore` label: Jobs owned by the replica itself carry none. -/
def JobKey.restoreLabel : JobKey → Option String
  | .snapshotList => none
  | .schemaMigration => none
  | .schemaBuild => none
  | .restore r => some r
  | .versionDetect r => some r
  | .migration r => some r
  | .credentialReset r => some r

/-- What Kubernetes reports about a Job. -/
structure JobReport where
  succeeded : Option Nat := none
  failed : Option Nat := none
  /-- The type and the status of each condition. -/
  conditions : List (String × String) := []
  startTime : Option Timestamp := none
  completionTime : Option Timestamp := none
  deriving Repr, DecidableEq

/-- **A Job.**  `uid` is its identity and `target` the restore it works on: the one it restores, builds a
    schema of, or migrates into.  `runId` is what the canopy proxy beside a restore is given. -/
structure Job where
  key : JobKey
  uid : Nat
  target : Nat := 0
  creationTimestamp : Option Timestamp := none
  deletionRequested : Bool := false
  backoffLimit : Option Nat
  token : Option String := none
  receipt : Option Int := none
  runId : Option String := none
  report : Option JobReport := none
  deriving Repr, DecidableEq

/-- How a Job stands. -/
inductive JobState where
  | active
  | succeeded
  | failed
  deriving Repr, DecidableEq

/-- **Classify a Job** from its status. -/
def classifyJob (job : Job) : JobState :=
  match job.report with
  | none => .active
  | some s =>
    if s.succeeded.getD 0 > 0 then .succeeded
    else if s.failed.getD 0 > job.backoffLimit.getD 0 then .failed
    else if s.conditions.any (fun c => c.1 == "Failed" && c.2 == "True") then .failed
    else .active

/-! ## Workloads -/

/-- The parts of a restore's Deployment that its writers disagree on: how many pods it asks for,
    and how its init script is told to set up the roles. -/
structure Deployment where
  name : String
  replicas : Nat
  readOnly : Bool
  readyReplicas : Nat := 0
  deriving Repr, DecidableEq

/-- The phase of a pod. -/
inductive PodPhase where
  | pending
  | running
  | succeeded
  | failed
  deriving Repr, DecidableEq

/-- A pod of a restore. -/
structure Pod where
  restore : String
  phase : PodPhase
  readyForTraffic : Bool := false
  deriving Repr, DecidableEq

/-- **A restored database**, as far as the analytics role goes. -/
structure Database where
  /-- The major version in the data directory. -/
  pgMajor : Nat := 16
  serving : Bool := false
  superuser : Bool := false
  readAllData : Bool := false
  /-- The database's own `default_transaction_read_only`. -/
  databaseReadOnly : Bool := false
  /-- The `default_transaction_read_only` of the server's configuration. -/
  serverReadOnly : Bool := false
  /-- The stage recorded for connected clients says the database is on its way out. -/
  outgoing : Bool := false
  deriving Repr, DecidableEq

/-! ## The log -/

/-- What a verification report says about a restore. -/
inductive RunOutcome where
  | success
  | failure
  deriving Repr, DecidableEq

/-- **The events the results speak about.**  Restores and Jobs are named by their identity. -/
inductive Entry where
  | restoreCreated (uid : Nat)
  | enteredSwitching (uid : Nat)
  /-- `reconcile_redaction` returned `Ok` for the restore. -/
  | redacted (uid : Nat)
  | migrationJobCreated (job : Nat) (target : Nat)
  /-- The migration Job was seen `Succeeded`, or given up on past its budget. -/
  | migrationJobSucceeded (job : Nat)
  | migrationJobTimedOut (job : Nat)
  /-- None of the persistent schemas was found on the source of the restore's migration. -/
  | schemasMissing (uid : Nat)
  | selectorMoved (uid : Nat)
  /-- The switchover marked the restore Active; `predecessor` tells whether one was Active. -/
  | activated (uid : Nat) (predecessor : Bool)
  /-- The sweep deleted a restore while the Service selected `selector`. -/
  | swept (name : String) (selector : Option String)
  | verified (uid : Nat)
  | reported (uid : Nat) (outcome : RunOutcome)
  | snapshotJobCreated (uid : Nat)
  | failureRecorded (uid : Nat) (failures : Nat) (at_ : Timestamp)
  deriving Repr, DecidableEq

/-- **A change of phase**: the restore as it was stored, and the phase that was written. -/
structure PhaseChange where
  restore : Restore
  phase : Option RestorePhase

/-- **The run id canopy is told** for a restore.  One that does not parse is left out. -/
def runIdFromStatus (restore : Restore) : Option Uuid :=
  restore.status.runId.bind Uuid.parse

/-- **What becomes of run ids and of builds**: a restore Job with the run id it carries, what canopy is told
    of a restore with the run id it is told, and the rounds of a build that came to nothing. -/
inductive Record where
  | restoreJobCreated (job : Job)
  | verificationReported (restore : Restore) (runId : Option Uuid)
  | schemaRegistered (restore : Restore) (runId : Option Uuid)
  | buildRoundFailed (restore : Nat)

/-- The record that the creation of a Job leaves. -/
def Job.records (job : Job) : List Record :=
  match job.key with
  | .restore _ => [.restoreJobCreated job]
  | _ => []

/-! ## The world -/

/-- **The world of one replica.** -/
structure World where
  key : ReplicaKey
  replica : Replica
  replicaDeleted : Bool := false
  restores : List Restore := []
  /-- The Service of the replica exists, and the restore its selector names. -/
  serviceExists : Bool := false
  serviceSelector : Option String := none
  jobs : List Job := []
  deployments : List Deployment := []
  pods : List Pod := []
  databases : String → Database := fun _ => {}
  dataPvcs : List String := []
  cachePvc : Option ℚ := none
  restoreServices : List String := []
  /-- In the operator's memory. -/
  queue : RestoreQueue := {}
  snapshotResults : Option String := none
  schemaMigrationResults : Option String := none
  schemaBuildResults : Option String := none
  reindexWatches : List (String × Watch) := []
  maxConcurrentRestores : Nat := 2
  nextUid : Nat := 0
  history : List Entry := []
  /-- The changes of the restores' phases: a log too, newest first. -/
  phaseChanges : List PhaseChange := []
  /-- The records of run ids and of builds, newest first. -/
  records : List Record := []

namespace World

/-- Change the replica's status. -/
def patchStatus (f : ReplicaStatus → ReplicaStatus) (w : World) : World :=
  { w with replica := { w.replica with status := f w.replica.status } }

/-- The change of phase that a write to the status of the restore of that name makes, if it makes one. -/
def phaseChange (name : String) (f : RestoreStatus → RestoreStatus) (w : World) : List PhaseChange :=
  match w.restores.find? fun r => r.name == name with
  | none => []
  | some r => if (f r.status).phase = r.status.phase then [] else [⟨r, (f r.status).phase⟩]

/-- Change the status of the restore of the given name. -/
def patchRestore (name : String) (f : RestoreStatus → RestoreStatus) (w : World) : World :=
  { w with
    restores := w.restores.map fun r => if r.name = name then { r with status := f r.status } else r
    phaseChanges := w.phaseChange name f ++ w.phaseChanges }

/-- Delete the restore of the given name. -/
def deleteRestore (name : String) (w : World) : World :=
  { w with restores := w.restores.filter fun r => r.name ≠ name }

/-- The Job of the given key. -/
def job (w : World) (k : JobKey) : Option Job :=
  w.jobs.find? fun j => j.key == k

/-- Delete the Job of the given key. -/
def deleteJob (k : JobKey) (w : World) : World :=
  { w with jobs := w.jobs.filter fun j => j.key ≠ k }

/-- Create a Job with a fresh identity. -/
def addJob (mk : Nat → Job) (entries : Nat → List Entry) (w : World) : World :=
  { w with
    jobs := w.jobs ++ [mk w.nextUid]
    nextUid := w.nextUid + 1
    history := entries w.nextUid ++ w.history
    records := (mk w.nextUid).records ++ w.records }

/-- The Deployment of the given restore. -/
def deployment (w : World) (name : String) : Option Deployment :=
  w.deployments.find? fun d => d.name == name

/-- Scale the Deployment of the given restore. -/
def scaleDeployment (name : String) (replicas : Nat) (w : World) : World :=
  { w with deployments := w.deployments.map fun d =>
      if d.name = name then { d with replicas := replicas } else d }

/-- Change the database of the given restore. -/
def patchDatabase (name : String) (f : Database → Database) (w : World) : World :=
  { w with databases := fun n => if n = name then f (w.databases n) else w.databases n }

/-- Change the restore queue. -/
def patchQueue (f : RestoreQueue → RestoreQueue) (w : World) : World :=
  { w with queue := f w.queue }

/-- Write an event to the log. -/
def log (e : Entry) (w : World) : World :=
  { w with history := e :: w.history }

/-- Write a record. -/
def record (e : Record) (w : World) : World :=
  { w with records := e :: w.records }

/-- **The operator's process is replaced**: what it held in memory is gone. -/
def restart (w : World) : World :=
  { w with
    queue := {}
    snapshotResults := none
    schemaMigrationResults := none
    schemaBuildResults := none
    reindexWatches := [] }

/-- The restores in the given phase. -/
def inPhase (w : World) (ph : RestorePhase) : List Restore :=
  w.restores.filter fun r => r.inPhase ph

end World

end RestoreOperator
