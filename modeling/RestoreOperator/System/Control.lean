import RestoreOperator.Calls.Along
import RestoreOperator.System.Events

/-!
# `System.Control` — the abstract state of a replica and the acts on it

What decides which restore is live, which are deleted and when the next one starts is a small part of
the world: the phases of the restores, the Service's selector, the markers in the replica's status,
the two Jobs the replica controller follows, and the queue.  `Control` is that part, and `control`
reads it off a world.

An *act* is one change a pass makes to it, together with what the pass knew when it made it.  The
acts of a pass are given relative to the world `w₀` it started in, because that is where the pass
takes its decisions from.
-/

namespace RestoreOperator

open Calls

/-- A restore, as far as its lifecycle goes. -/
structure Slot where
  uid : Nat
  name : String
  phase : Option RestorePhase
  deriving DecidableEq

/-- A restore has come to its end. -/
def Slot.settled (s : Slot) : Prop :=
  s.phase = some .active ∨ s.phase = some .failed

/-- The lifecycle of a restore. -/
def Restore.slot (r : Restore) : Slot :=
  { uid := r.uid, name := r.name, phase := r.status.phase }

/-- **The abstract state of a replica.** -/
structure Control where
  key : ReplicaKey
  /-- How many replicas may restore at once. -/
  limit : Nat
  slots : List Slot
  selector : Option String
  current : Option String
  redaction : Option RedactionPhase
  migration : Option SchemaMigrationPhase
  /-- The identity and the target of the migration Job. -/
  migrationJob : Option (Nat × Nat)
  snapshotJob : Option Job
  /-- The list of snapshots that is waiting to be taken. -/
  results : Option String
  failures : Nat
  next : Option Timestamp
  queue : RestoreQueue
  nextUid : Nat
  history : List Entry

/-- **The abstract state of a world.** -/
def control (w : World) : Control :=
  { key := w.key
    limit := w.maxConcurrentRestores
    slots := w.restores.map Restore.slot
    selector := w.serviceSelector
    current := w.replica.status.currentRestore
    redaction := w.replica.status.redactionPhase
    migration := w.replica.status.schemaMigrationPhase
    migrationJob := (w.job .schemaMigration).map fun j => (j.uid, j.target)
    snapshotJob := w.job .snapshotList
    results := w.snapshotResults
    failures := w.replica.status.consecutiveRestoreFailures.getD 0
    next := w.replica.status.nextScheduledRestore
    queue := w.queue
    nextUid := w.nextUid
    history := w.history }

namespace Control

/-- Move the restore of the given name to a phase. -/
def setPhase (name : String) (ph : RestorePhase) (a : Control) : Control :=
  { a with slots := a.slots.map fun s => if s.name = name then { s with phase := some ph } else s }

/-- Delete the restore of the given name. -/
def drop (name : String) (a : Control) : Control :=
  { a with slots := a.slots.filter fun s => s.name ≠ name }

/-- Write an event to the log. -/
def log (e : Entry) (a : Control) : Control :=
  { a with history := e :: a.history }

/-- Delete a Job. -/
def dropJob (k : JobKey) (a : Control) : Control :=
  { a with
    migrationJob := if k = .schemaMigration then none else a.migrationJob
    snapshotJob := if k = .snapshotList then none else a.snapshotJob }

/-- The redaction marker lets a switchover proceed. -/
def redactionDone (a : Control) : Bool :=
  a.redaction.any RedactionPhase.isDone

end Control

/-! ## What a pass knew -/

/-- The reply pattern of a switchover that marked its restore Active but did not get to record it as
    the current one. -/
def tornSwitchover (ρ : Call → Reply Error) : Bool :=
  (ρ .updatePhaseActive).tookEffect &&
    !((ρ .updatePhaseActive).isOk && (ρ .updateActivatedAt).isOk &&
      (ρ .patchSwitchover).tookEffect)

/-- The replies with which the announcement of a switchover reaches its report.  Only calls it makes
    count: an outgoing restore is told, and a suspension cleared, where there is one. -/
def announced (status : ReplicaStatus) (outgoing : Option Restore) (ρ : Call → Reply Error) : Bool :=
  (outgoing.isNone || (ρ .markOutgoing).survived) &&
    (!schedulingSuspended status ||
      ((ρ (.conditionGet "RestoreSchedulingSuspended")).isOk &&
        (ρ (.conditionPatch "RestoreSchedulingSuspended")).isOk)) &&
    (ρ (.publishEvent "RestoreCompleted")).survived && (ρ .sendNotifications).survived

/-- The reply pattern of a switchover that marked its restore Active and ended before it reported the
    verification. -/
def unreportedSwitchover (w : World) (ρ : Call → Reply Error) : Bool :=
  (ρ .updatePhaseActive).tookEffect &&
    !((ρ .updatePhaseActive).isOk && (ρ .updateActivatedAt).isOk && (ρ .patchSwitchover).isOk &&
      announced w.replica.status (activeRestore w.restores) ρ)

/-- **A list of snapshots leads to a restore**: one can be picked that no restore covers yet. -/
def listLeadsToRestore (ctx : Context) (w : World) (raw : String) : Bool :=
  match parseSnapshotListOutput ctx raw with
  | .ok all =>
    match pickSnapshot ctx w.replica all with
    | some snap => !snapshotAlreadyCovered snap.id w.replica.status.verifiedSnapshotId w.restores
    | none => false
  | .error _ => false

/-- **The pass comes to create a restore**: no restore is switching or to be torn down, the
    snapshot-list Job has succeeded, and the list that is waiting leads to a restore. -/
def comesToCreate (ctx : Context) (w : World) : Bool :=
  (switchingRestore w.restores).isNone && (verifiedRestore w.replica w.restores).isNone &&
    (w.job .snapshotList).any (fun job => classifyJob job = .succeeded) &&
    w.snapshotResults.any (listLeadsToRestore ctx w)

/-- **The pass comes to its trigger**: no restore is switching, to be torn down or in progress. -/
def comesToTrigger (w : World) : Bool :=
  (switchingRestore w.restores).isNone && (verifiedRestore w.replica w.restores).isNone &&
    (inProgressRestore w.restores).isNone

/-- **The replica is let in**: it is due, lists no snapshots yet, and the queue has a free slot. -/
def isAdmitted (w : World) : Event → Bool
  | .replicaPass p =>
    comesToTrigger w && shouldRestore p w.replica w.restores && (w.job .snapshotList).isNone &&
      w.queue.canStart w.maxConcurrentRestores
  | _ => false

/-- **What settles a migration**: the Job the pass found has ended, or the source has none of the
    schemas. -/
inductive Settles (w₀ : World) (r : Restore) : Entry → Prop where
  | succeeded {job target : Nat} (h : (control w₀).migrationJob = some (job, target)) :
      Settles w₀ r (.migrationJobSucceeded job)
  | timedOut {job target : Nat} (h : (control w₀).migrationJob = some (job, target)) :
      Settles w₀ r (.migrationJobTimedOut job)
  | missing : Settles w₀ r (.schemasMissing r.uid)

/-- The migration was settled in this pass. -/
def SettledInPass (w₀ : World) (r : Restore) (a : Control) : Prop :=
  ∃ e l, Settles w₀ r e ∧ a.history = l ++ w₀.history ∧ e ∈ l

/-- **Why the migration gate let a restore through.** -/
inductive MigrationPassed (w₀ : World) (r : Restore) (a : Control) : Prop where
  | notConfigured (h : w₀.replica.spec.persistentSchemas = none)
  | noneConfigured (h : w₀.replica.spec.persistentSchemas = some [])
  | firstRestore (h : activeRestore w₀.restores = none)
  | markedComplete (h : w₀.replica.status.schemaMigrationPhase = some .complete)
  | settled (h : SettledInPass w₀ r a)

/-- **The gates let a restore through.** -/
structure GatesPassed (w₀ : World) (r : Restore) (a : Control) : Prop where
  switching : switchingRestore w₀.restores = some r
  slots : a.slots = (control w₀).slots
  current : a.current = w₀.replica.status.currentRestore
  redacted : w₀.replica.spec.redaction.isSome → a.redactionDone = true
  migrated : MigrationPassed w₀ r a

/-- **What became of the list of snapshots** in a pass that goes on to its trigger: no Job was there, or
    it had failed, or its list was taken. -/
inductive ListSettled (w₀ : World) (a : Control) : Prop where
  | idle (hjob : w₀.job .snapshotList = none)
  | failed {job : Job} (hjob : w₀.job .snapshotList = some job) (hfailed : classifyJob job = .failed)
  | taken {job : Job} (hjob : w₀.job .snapshotList = some job)
      (hsucceeded : classifyJob job = .succeeded) (hwaiting : w₀.snapshotResults.isSome = true)
      (htaken : a.results = none)

/-! ## The acts of the replica controller -/

/-- **What a pass of the replica controller may do**, starting in `w₀`. -/
inductive ReplicaAct (ctx : Context) (p : ReplicaPass) (w₀ : World) : Control → Control → Prop where
  /-- Redaction starts, or fails. -/
  | redactionMarked {a : Control} (ph : RedactionPhase) (hph : ph.isDone = false) :
      ReplicaAct ctx p w₀ a { a with redaction := some ph }
  | redacted {a : Control} {r : Restore} (hr : switchingRestore w₀.restores = some r) :
      ReplicaAct ctx p w₀ a (a.log (.redacted r.uid))
  /-- Redaction is recorded as done, right after it ran. -/
  | redactionSettled {a : Control} {r : Restore} (ph : RedactionPhase)
      (hr : switchingRestore w₀.restores = some r) (hslots : a.slots = (control w₀).slots)
      (hhead : a.history.head? = some (.redacted r.uid)) :
      ReplicaAct ctx p w₀ a { a with redaction := some ph }
  | migrationMarked {a : Control} (ph : SchemaMigrationPhase) (hph : ph ≠ .complete) :
      ReplicaAct ctx p w₀ a { a with migration := some ph }
  | migrationSettled {a : Control} {r : Restore} {e : Entry}
      (hr : switchingRestore w₀.restores = some r) (he : Settles w₀ r e) :
      ReplicaAct ctx p w₀ a (a.log e)
  /-- The migration is recorded as complete, once this pass settled it. -/
  | migrationCompleted {a : Control} {r : Restore} (hr : switchingRestore w₀.restores = some r)
      (hslots : a.slots = (control w₀).slots)
      (hwhy : w₀.replica.spec.persistentSchemas = some [] ∨ SettledInPass w₀ r a) :
      ReplicaAct ctx p w₀ a { a with migration := some .complete }
  | migrationJobDeleted {a : Control} : ReplicaAct ctx p w₀ a (a.dropJob .schemaMigration)
  | migrationJobCreated {a : Control} {r : Restore} (hr : switchingRestore w₀.restores = some r)
      (hslots : a.slots = (control w₀).slots) (hnone : a.migrationJob = none) :
      ReplicaAct ctx p w₀ a
        { a with
          migrationJob := some (a.nextUid, r.uid)
          nextUid := a.nextUid + 1
          history := .migrationJobCreated a.nextUid r.uid :: a.history }
  /-- A Job of another kind is created. -/
  | jobCreated {a : Control} : ReplicaAct ctx p w₀ a { a with nextUid := a.nextUid + 1 }
  | selectorMoved {a : Control} {r : Restore} (hgates : GatesPassed w₀ r a) :
      ReplicaAct ctx p w₀ a ({ a with selector := some r.name }.log (.selectorMoved r.uid))
  /-- The restore is marked Active, and the pass ends before it is recorded as current. -/
  | activated {a : Control} {r : Restore} (hgates : GatesPassed w₀ r a)
      (hselector : a.selector = some r.name) (htorn : tornSwitchover p.replies = true) :
      ReplicaAct ctx p w₀ a
        ((a.setPhase r.name .active).log
          (.activated r.uid (activeRestore w₀.restores).isSome))
  /-- The restore is marked Active and recorded as current, and the pass ends before the report. -/
  | switchedOver {a : Control} {r : Restore} (hgates : GatesPassed w₀ r a)
      (hselector : a.selector = some r.name)
      (hunreported : unreportedSwitchover w₀ p.replies = true) :
      ReplicaAct ctx p w₀ a
        { (a.setPhase r.name .active).log
            (.activated r.uid (activeRestore w₀.restores).isSome) with
          current := some r.name
          failures := 0 }
  /-- The whole switchover, the report included. -/
  | switchedOverReported {a : Control} {r : Restore} (hgates : GatesPassed w₀ r a)
      (hselector : a.selector = some r.name) :
      ReplicaAct ctx p w₀ a
        (Control.log (.reported r.uid .success)
          { (a.setPhase r.name .active).log
              (.activated r.uid (activeRestore w₀.restores).isSome) with
            current := some r.name
            failures := 0 })
  /-- The ephemeral restore is recorded as verified. -/
  | verified {a : Control} {r : Restore}
      (hr : verifiedRestore w₀.replica w₀.restores = some r)
      (hslots : a.slots = (control w₀).slots) :
      ReplicaAct ctx p w₀ a ({ a with current := none }.log (.verified r.uid))
  | verifiedDeleted {a : Control} {r : Restore}
      (hr : verifiedRestore w₀.replica w₀.restores = some r) :
      ReplicaAct ctx p w₀ a (a.drop r.name)
  | swept {a : Control} (name : String)
      (hname : name ∈ (sweepTargets p w₀.replica w₀.restores).map (·.name))
      (hselector : a.selector = w₀.serviceSelector) :
      ReplicaAct ctx p w₀ a ((a.drop name).log (.swept name a.selector))
  | sweepCleared {a : Control} (hsome : sweepTargets p w₀.replica w₀.restores ≠ []) :
      ReplicaAct ctx p w₀ a { a with redaction := none, migration := none }
  | failedDeleted {a : Control} (name : String)
      (hname : name ∈ (expiredFailures p.now w₀.restores).map (·.name)) :
      ReplicaAct ctx p w₀ a (a.drop name)
  /-- The slot in the queue is given back, after a teardown. -/
  | released {a : Control} {r : Restore}
      (hr : verifiedRestore w₀.replica w₀.restores = some r) :
      ReplicaAct ctx p w₀ a
        { a with queue := a.queue.releaseRestoreSlot a.key a.limit }
  /-- The list of a Job that succeeded is taken. -/
  | snapshotsTaken {a : Control} {job : Job} (hjob : w₀.job .snapshotList = some job)
      (hsucceeded : classifyJob job = .succeeded) (hwaiting : a.results = w₀.snapshotResults) :
      ReplicaAct ctx p w₀ a { a with results := none }
  | snapshotJobDeleted {a : Control} : ReplicaAct ctx p w₀ a (a.dropJob .snapshotList)
  /-- A restore is created, for the list that was waiting. -/
  | restoreCreated {a : Control} (position : Nat) (name : String)
      (hwhy : comesToCreate ctx w₀ = true)
      (hslots : ∀ s ∈ a.slots, s ∈ (control w₀).slots) (hname : ∀ s ∈ a.slots, s.name ≠ name) :
      ReplicaAct ctx p w₀ a
        { a with
          slots := a.slots.take position ++
            { uid := a.nextUid, name := name, phase := none } :: a.slots.drop position
          nextUid := a.nextUid + 1
          history := .restoreCreated a.nextUid :: a.history }
  | scheduleRecomputed {a : Control} (next : Timestamp) (htrigger : comesToTrigger w₀ = true)
      (hnext : recomputedSchedule ctx p w₀.replica = some next) :
      ReplicaAct ctx p w₀ a { a with next := some next }
  | scheduleAdvanced {a : Control} (next : Timestamp) (htrigger : comesToTrigger w₀ = true)
      (hsettle : (shouldRestore p w₀.replica w₀.restores && (w₀.job .snapshotList).isNone) = false)
      (hnext : advancedSchedule ctx p w₀.replica = some next) (hlist : ListSettled w₀ a) :
      ReplicaAct ctx p w₀ a { a with next := some next }
  | enqueued {a : Control} :
      ReplicaAct ctx p w₀ a { a with queue := a.queue.enqueue a.key p.now }
  /-- The replica starts a restore by listing its snapshots. -/
  | snapshotJobCreated {a : Control} (htrigger : comesToTrigger w₀ = true)
      (hshould : shouldRestore p w₀.replica w₀.restores = true)
      (hjob : w₀.job .snapshotList = none) (hnone : a.snapshotJob = none)
      (hstart : w₀.queue.canStart w₀.maxConcurrentRestores = true)
      (hwaiting : a.results = w₀.snapshotResults) :
      ReplicaAct ctx p w₀ a
        { a with
          snapshotJob := some (buildSnapshotListJob p a.nextUid)
          nextUid := a.nextUid + 1
          history := .snapshotJobCreated a.nextUid :: a.history }

/-! ## The acts of the restore controller -/

/-- A restore that has not been started yet. -/
def Restore.isPending (r : Restore) : Bool :=
  r.status.phase.isNone || r.inPhase .pending

/-- A phase from which a restore can fail. -/
def Restore.canFail (r : Restore) : Prop :=
  r.inPhase .restoring = true ∨ r.inPhase .ready = true ∨ r.inPhase .migrating = true

/-- **The restore switches in this pass**: it is Ready and its version known, its Deployment is up,
    and no schema migration is owed. -/
def readyToSwitch (w : World) (r : Restore) : Bool :=
  r.inPhase .ready && r.status.postgresVersion.isSome &&
    ((w.deployment r.name).map (·.readyReplicas)).getD 0 > 0 &&
    !(r.spec.migrateTo.isSome && r.status.migrationResult.isNone)

/-- **A restore enters Switching** in the pass. -/
def entersSwitching (w : World) : Event → Bool
  | .restorePass name _ => (w.restores.find? fun r => r.name == name).any (readyToSwitch w)
  | _ => false

/-- **What a pass of the restore controller may do** to the restore `r`, starting in `w₀`. -/
inductive RestoreAct (p : RestorePass) (w₀ : World) (r : Restore) : Control → Control → Prop where
  | pending {a : Control} (hr : r.isPending = true) (hlog : a.history = w₀.history) :
      RestoreAct p w₀ r a (a.setPhase r.name .pending)
  /-- A Job of an earlier restore, or of the replica, is deleted. -/
  | jobDropped {a : Control} (k : JobKey) (hr : r.isPending = true) :
      RestoreAct p w₀ r a (a.dropJob k)
  /-- The restore is Restoring, and the pass ends before it takes its slot. -/
  | restoring {a : Control} (hr : r.isPending = true) (hlog : a.history = w₀.history)
      (hlost : (p.replies .patchRestoring).tookEffect = true)
      (hfault : (p.replies .patchRestoring).isOk = false) :
      RestoreAct p w₀ r a (a.setPhase r.name .restoring)
  | restoringMarked {a : Control} (hr : r.isPending = true) (hlog : a.history = w₀.history) :
      RestoreAct p w₀ r a
        { a.setPhase r.name .restoring with queue := a.queue.markActive a.key }
  | jobCreated {a : Control} : RestoreAct p w₀ r a { a with nextUid := a.nextUid + 1 }
  | ready {a : Control} (hr : r.inPhase .restoring = true ∨ r.inPhase .migrating = true)
      (hlog : a.history = w₀.history) :
      RestoreAct p w₀ r a (a.setPhase r.name .ready)
  | migrating {a : Control} (hr : r.inPhase .ready = true) (hlog : a.history = w₀.history) :
      RestoreAct p w₀ r a (a.setPhase r.name .migrating)
  | switching {a : Control} (hr : readyToSwitch w₀ r = true) (hlog : a.history = w₀.history) :
      RestoreAct p w₀ r a ((a.setPhase r.name .switching).log (.enteredSwitching r.uid))
  | failed {a : Control} (hr : r.canFail) (hlog : a.history = w₀.history) :
      RestoreAct p w₀ r a (a.setPhase r.name .failed)
  | released {a : Control} (hr : r.canFail)
      (hphase : ∀ s ∈ a.slots, s.name = r.name → s.phase ≠ some .restoring) :
      RestoreAct p w₀ r a
        { a with queue := a.queue.releaseRestoreSlot a.key a.limit }
  | failureRecorded {a : Control} (hr : r.canFail) (hlog : a.history = w₀.history)
      (hmarked : (p.replies .patchFailed).isOk = true) :
      RestoreAct p w₀ r a
        ({ a with
            failures := a.failures + 1
            next := (failureBackoffDelay (a.failures + 1)).map (p.failedAt + ·) }.log
          (.failureRecorded r.uid (a.failures + 1) p.failedAt))
  | reported {a : Control} (hr : r.canFail)
      (hphase : ∀ s ∈ a.slots, s.name = r.name → s.phase = some .failed)
      (hfresh : ∀ o, .reported r.uid o ∈ a.history → .reported r.uid o ∈ w₀.history) :
      RestoreAct p w₀ r a (a.log (.reported r.uid .failure))

/-! ## The acts of a run -/

/-- **What an event may do** to the abstract state, starting in `w₀`. -/
inductive Act (ctx : Context) (w₀ : World) : Event → Control → Control → Prop where
  | replica {a a' : Control} {p : ReplicaPass} (h : ReplicaAct ctx p w₀ a a') :
      Act ctx w₀ (.replicaPass p) a a'
  | restore {a a' : Control} {name : String} {p : RestorePass} {r : Restore}
      (hr : w₀.restores.find? (fun r => r.name == name) = some r) (h : RestoreAct p w₀ r a a') :
      Act ctx w₀ (.restorePass name p) a a'
  /-- The operator's memory is gone: by a restart, or with a pass that was cut. -/
  | forgotten {a : Control} {e : Event} (he : endsOperator ctx w₀ e = true) :
      Act ctx w₀ e a { a with queue := {}, results := none }
  | jobReported {a : Control} (k : JobKey) (report : JobReport) :
      Act ctx w₀ (.jobReported k report) a
        { a with snapshotJob := a.snapshotJob.map fun j =>
            if j.key = k ∧ classifyJob j = .active then { j with report := some report } else j }
  | jobRemoved {a : Control} (k : JobKey) : Act ctx w₀ (.jobRemoved k) a (a.dropJob k)
  | snapshotsPosted {a : Control} (body : String) :
      Act ctx w₀ (.snapshotsPosted body) a { a with results := some body }
  | restoreDeleted {a : Control} (name : String) :
      Act ctx w₀ (.restoreDeleted name) a (a.drop name)
  | limitChanged {a : Control} (max : Nat) :
      Act ctx w₀ (.limitChanged max) a { a with limit := max }
  | queueChanged {a : Control} (queue : RestoreQueue) :
      Act ctx w₀ (.queueChanged queue) a { a with queue := queue }

end RestoreOperator
