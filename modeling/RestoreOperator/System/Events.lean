import RestoreOperator.Calls.Runs
import RestoreOperator.Replica.Reconcile
import RestoreOperator.Restore.Phases

/-!
# `System.Events` — runs of one replica and its restores

The controllers take turns with each other and with the rest of the cluster: Kubernetes reports on
Jobs and Deployments, Jobs post their results, the worklist syncer asks for another snapshot, people
change specs and delete restores, and the operator's process is restarted.  A pass reads the objects
as they are stored when it starts; a pass that is cut takes the operator's memory with it.
-/

namespace RestoreOperator

open Calls

/-- **What can happen to a replica.** -/
inductive Event where
  /-- A pass of the replica controller. -/
  | replicaPass (p : ReplicaPass)
  /-- A pass of the restore controller on the restore of that name. -/
  | restorePass (name : String) (p : RestorePass)
  /-- The operator's process is replaced. -/
  | restart
  /-- Kubernetes reports on a Job. -/
  | jobReported (k : JobKey) (report : JobReport)
  /-- A Job goes away: its TTL, garbage collection, or by hand. -/
  | jobRemoved (k : JobKey)
  | snapshotsPosted (body : String)
  | migrationPosted (body : String)
  | schemaPosted (sql : String)
  /-- A restore is deleted, by hand or by garbage collection. -/
  | restoreDeleted (name : String)
  | deletionRequested (name : String)
  | replicaDeleted
  /-- The worklist syncer writes the snapshot canopy asks for. -/
  | snapshotDesired (id : Option String)
  | specChanged (spec : ReplicaSpec)
  | limitChanged (max : Nat)
  | podsChanged (pods : List Pod)
  | deploymentReported (name : String) (readyReplicas : Nat)
  | deploymentRemoved (name : String)
  /-- The other replicas and the reaper change the shared queue. -/
  | queueChanged (queue : RestoreQueue)

/-- The world a pass leaves behind; the operator does not survive a pass that was cut. -/
def World.after {α : Type} (outcome : Outcome World Error α) : World :=
  match outcome with
  | .done _ w => w
  | .failed _ w => w
  | .halted w => w.restart

/-- What a restart of the operator does not touch is as the pass left it. -/
theorem view_after {α β : Type} (view : World → β) (h : ∀ w, view w.restart = view w)
    (outcome : Outcome World Error α) : view (World.after outcome) = view outcome.state := by
  cases outcome with
  | done a w => rfl
  | failed e w => rfl
  | halted w => exact h w

/-- Kubernetes reports on a Job; a Job that has finished stays as it finished. -/
def World.reportJob (k : JobKey) (report : JobReport) (w : World) : World :=
  { w with jobs := w.jobs.map fun j =>
      if j.key = k ∧ classifyJob j = .active then { j with report := some report } else j }

/-- **One step.** -/
def step (ctx : Context) (w : World) : Event → World
  | .replicaPass p =>
    if w.replicaDeleted then w else World.after (reconcile ctx p p.replies w)
  | .restorePass name p =>
    match w.restores.find? fun r => r.name == name with
    | none => w
    | some r => World.after (reconcileRestore ctx p r p.replies w)
  | .restart => w.restart
  | .jobReported k report => w.reportJob k report
  | .jobRemoved k => w.deleteJob k
  | .snapshotsPosted body => { w with snapshotResults := some body }
  | .migrationPosted body => { w with schemaMigrationResults := some body }
  | .schemaPosted sql => { w with schemaBuildResults := some sql }
  | .restoreDeleted name => w.deleteRestore name
  | .deletionRequested name =>
    { w with restores := w.restores.map fun r =>
        if r.name = name then { r with deletionRequested := true } else r }
  | .replicaDeleted => { w with replicaDeleted := true }
  | .snapshotDesired id => w.patchStatus fun s => { s with canopyDesiredSnapshotId := id }
  | .specChanged spec => { w with replica := { w.replica with spec := spec } }
  | .limitChanged max => { w with maxConcurrentRestores := max }
  | .podsChanged pods => { w with pods := pods }
  | .deploymentReported name ready =>
    { w with deployments := w.deployments.map fun d =>
        if d.name = name then { d with readyReplicas := ready } else d }
  | .deploymentRemoved name =>
    { w with deployments := w.deployments.filter fun d => d.name ≠ name }
  | .queueChanged queue => { w with queue := queue }

/-- **The operator does not survive the event**: it is restarted, or a pass is cut. -/
def endsOperator (ctx : Context) (w : World) : Event → Bool
  | .restart => true
  | .replicaPass p => !w.replicaDeleted && (reconcile ctx p p.replies w).isHalted
  | .restorePass name p =>
    match w.restores.find? fun r => r.name == name with
    | none => false
    | some r => (reconcileRestore ctx p r p.replies w).isHalted
  | _ => false

/-- **A run** from a world. -/
def run (ctx : Context) (w : World) (es : List Event) : World :=
  runFrom (step ctx) w es

/-- A replica that was just created: no restore, no Job, nothing in memory. -/
def World.initial (key : ReplicaKey) (spec : ReplicaSpec) : World :=
  { key := key, replica := { name := key.name, spec := spec } }

/-! ## Uneventful stretches of a run -/

/-- A context whose schedule fires every hour and whose lists are `[id]`, of one snapshot each. -/
def Context.hourly : Context where
  findNext := fun _ _ t => some (t + 3600)
  hashSchedule := fun schedule _ => schedule
  strftime := fun t => toString t
  parseSnapshots := fun raw =>
    .ok [{ id := String.ofList (raw.toList.filter fun c => c ≠ '[' && c ≠ ']') }]
  globMatches := fun _ _ => true

/-- A replica with nothing but a schedule. -/
def plainSpec : ReplicaSpec := { kopiaSecretRef := some "kopia", schedule := "H" }

/-- A replica that takes its snapshots from canopy. -/
def canopySpec : ReplicaSpec :=
  { canopySource := some ⟨"11111111-1111-1111-1111-111111111111", "type"⟩, schedule := "H" }

/-- A restore of a snapshot. -/
def plainRestore (uid : Nat) (name snapshot : String) (status : RestoreStatus) : Restore :=
  { uid := uid
    name := name
    spec :=
      { replica := "r"
        snapshot := snapshot
        snapshotSize := .amount gibibyte
        storageSize := .amount gibibyte }
    status := status }

/-- A due replica lists its snapshots and creates a restore for the one it finds. -/
def listSnapshots (t : Timestamp) (snapshot : String) : List Event :=
  [.replicaPass { now := t }, .jobReported .snapshotList { succeeded := some 1 },
    .snapshotsPosted ("[" ++ snapshot ++ "]"), .replicaPass { now := t + 10 }]

/-- A restore goes through its phases, up to Switching. -/
def bringUp (name : String) (t : Timestamp) : List Event :=
  [.restorePass name { now := t }, .restorePass name { now := t },
    .jobReported (.restore name) { succeeded := some 1 },
    .restorePass name { now := t, postgresVersion := some "16" }, .restorePass name { now := t },
    .deploymentReported name 1, .restorePass name { now := t }]

end RestoreOperator
