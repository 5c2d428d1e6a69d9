import Mathlib.Data.String.Basic
import RestoreOperator.Calls.Routines
import RestoreOperator.Canopy.Intent
import RestoreOperator.Canopy.Namespace
import RestoreOperator.Canopy.SpecFields

/-!
# `Canopy.Syncer` — the worklist syncer

Canopy says in a worklist which replicas there should be, and every tick of the syncer makes the cluster
agree: each entry gets a namespace of its own with a Secret and a replica in it, and a managed namespace that
no entry names is deleted.  The entries of a tick are reconciled side by side, and then the deletions are.

An entry's calls all go to one namespace, so the namespaces are the cells of a pool and the entries its routines.
A namespace that is being deleted takes updates of what is in it, but nothing new.
-/

namespace RestoreOperator

open Calls

/-! ## Labels -/

namespace labels

def managedBy : String := "pgro.bes.au/managed-by"
def managedByValue : String := "pgro-canopy"
def declarationId : String := "pgro.bes.au/declaration-id"
def group : String := "pgro.bes.au/group"
def server : String := "pgro.bes.au/server"
def type : String := "pgro.bes.au/type"
def intent : String := "pgro.bes.au/intent"

end labels

abbrev Labels := OrderedMap String String

/-! ## The worklist -/

/-- **An entry of canopy's worklist.** -/
structure CanopyEntry where
  replicaId : Uuid
  groupId : Uuid
  serverId : Uuid
  type : String
  intent : String
  name : String
  params : Params := []
  snapshotId : Option String := none
  bucket : String
  region : String
  pathPrefix : String
  rank : Option String := none
  targetVersion : Option String := none
  targetVersionId : Option Uuid := none

namespace CanopyEntry

/-- What identifies the replica of the entry. -/
def identity (entry : CanopyEntry) : EntryIdentity :=
  { intent := entry.intent
    name := entry.name
    replicaId := entry.replicaId
    serverId := entry.serverId
    targetVersionId := entry.targetVersionId }

/-- What the spec of its replica is made from. -/
def worklistEntry (entry : CanopyEntry) : WorklistEntry :=
  { name := entry.name
    groupId := entry.groupId.display
    type := entry.type
    rank := entry.rank
    targetVersion := entry.targetVersion
    targetVersionId := entry.targetVersionId.map Uuid.display
    params := entry.params }

/-- The labels of its namespace and of its replica. -/
def labels (entry : CanopyEntry) : Labels :=
  .ofList
    [(labels.managedBy, labels.managedByValue),
      (labels.declarationId, entry.replicaId.display),
      (labels.group, entry.groupId.display),
      (labels.server, entry.serverId.display),
      (labels.type, entry.type),
      (labels.intent, entry.intent)]

/-- The data of its Secret.  The proxy signs with real keys, so the ones here are dummies. -/
def credsData (entry : CanopyEntry) (repoPassword : String) : OrderedMap String String :=
  .ofList
    [("bucket", entry.bucket),
      ("region", entry.region),
      ("prefix", entry.pathPrefix),
      ("repositoryPassword", repoPassword),
      ("accessKeyId", "PROXY_DUMMY_ACCESS_KEY"),
      ("secretAccessKey", "PROXY_DUMMY_SECRET_KEY")]

end CanopyEntry

/-! ## The cluster -/

/-- The Secret a restore reads the repository from. -/
structure CanopySecret where
  labels : Labels
  data : OrderedMap String String
  deriving DecidableEq

/-- The replica of a namespace. -/
structure CanopyReplica where
  labels : Labels
  spec : StoredSpec
  status : Option ReplicaStatus := none
  deriving DecidableEq

/-- The snapshot the status says canopy wants. -/
def CanopyReplica.desiredSnapshot (cr : CanopyReplica) : Option String :=
  cr.status.bind (·.canopyDesiredSnapshotId)

/-- **A namespace**, as far as the syncer reads and writes it. -/
structure CanopyNamespace where
  labels : Labels
  terminating : Bool := false
  creds : Option CanopySecret := none
  replica : Option CanopyReplica := none
  deriving DecidableEq

/-- The namespace is listed as managed. -/
def CanopyNamespace.isManaged (ns : CanopyNamespace) : Bool :=
  ns.labels.get labels.managedBy = some labels.managedByValue

/-- The snapshot a namespace's replica is told to restore. -/
def currentSnapshot (ns : Option CanopyNamespace) : Option String :=
  (ns.bind (·.replica)).bind (·.desiredSnapshot)

/-! ## What the API does -/

/-- Create a namespace.  One that exists stays as it is. -/
def createNamespace (own : Labels) (ns : Option CanopyNamespace) : Option (Option CanopyNamespace) :=
  some (some (ns.getD { labels := own }))

/-- Apply a Secret, in a namespace that is there. -/
def applySecret (own : Labels) (data : OrderedMap String String) (ns : Option CanopyNamespace) :
    Option (Option CanopyNamespace) :=
  match ns with
  | none => none
  | some n =>
    if n.terminating ∧ n.creds = none then none
    else
      let old := n.creds.getD { labels := ∅, data := ∅ }
      some (some
        { n with creds := some { labels := old.labels.overlay own, data := old.data.overlay data } })

/-- Apply a replica by force, in a namespace that is there. -/
def applyReplica (own : Labels) (spec : ReplicaSpec) (ns : Option CanopyNamespace) :
    Option (Option CanopyNamespace) :=
  match ns with
  | none => none
  | some n =>
    if n.terminating ∧ n.replica = none then none
    else
      let old := n.replica.getD { labels := ∅, spec := ∅ }
      some (some
        { n with
          replica := some
            { old with labels := old.labels.overlay own, spec := old.spec.apply spec.fields } })

/-- Get the replica, which is there. -/
def getReplica (ns : Option CanopyNamespace) : Option (Option CanopyNamespace) :=
  match ns.bind (·.replica) with
  | none => none
  | some _ => some ns

/-- Patch the status of the replica, which is there. -/
def patchDesired (desired : String) (ns : Option CanopyNamespace) : Option (Option CanopyNamespace) :=
  match ns with
  | none => none
  | some n =>
    match n.replica with
    | none => none
    | some cr =>
      let status := { cr.status.getD {} with canopyDesiredSnapshotId := some desired }
      some (some { n with replica := some { cr with status := some status } })

/-- Delete a namespace.  What is in it goes first. -/
def deleteNamespace (ns : Option CanopyNamespace) : Option (Option CanopyNamespace) :=
  some (ns.map fun n => { n with terminating := true })

/-! ## The calls of an entry -/

/-- Whose credentials canopy is asked for. -/
structure CredsRequest where
  type : String
  group : Uuid
  deriving DecidableEq

abbrev NamespaceRoutine := Routine CredsRequest String (Option CanopyNamespace)

def ensureNamespace (entry : CanopyEntry) (next : NamespaceRoutine) : NamespaceRoutine :=
  .call (createNamespace entry.labels) fun _ => next

def ensureCanopyCredsSecret (entry : CanopyEntry) (repoPassword : String) (next : NamespaceRoutine) :
    NamespaceRoutine :=
  .call (applySecret (.ofList [(labels.managedBy, labels.managedByValue)]) (entry.credsData repoPassword))
    fun _ => next

/-- The credentials are those of the entry's repository. -/
def CanopyEntry.credsRequest (entry : CanopyEntry) : CredsRequest :=
  { type := entry.type, group := entry.groupId }

section Tick

variable (sha256 : List UInt8 → Vector UInt8 32) (parse : String → Option ℚ)

/-- Apply the replica: its spec and labels go back to what the entry asks for. -/
def ensureReplicaCr (entry : CanopyEntry) (intent : IntentConfig) (next : NamespaceRoutine) :
    NamespaceRoutine :=
  .call (applyReplica entry.labels (intent.toReplicaSpec parse entry.worklistEntry)) fun _ => next

/-- Tell the replica which snapshot canopy wants, if canopy says and it was not told. -/
def setDesiredSnapshot (entry : CanopyEntry) : NamespaceRoutine :=
  match entry.snapshotId with
  | none => .done
  | some desired =>
    .call getReplica fun ns =>
      if currentSnapshot ns = some desired then .done
      else .call (patchDesired desired) fun _ => .done

/-- **Reconcile an entry.**  An intent the operator does not know is skipped. -/
def reconcileEntry (entry : CanopyEntry) : NamespaceRoutine :=
  match configFor entry.intent with
  | none => .done
  | some intent =>
    ensureNamespace entry
      (.ask entry.credsRequest fun repoPassword =>
        ensureCanopyCredsSecret entry repoPassword
          (ensureReplicaCr parse entry intent
            (setDesiredSnapshot entry)))

/-- **Delete a namespace.**  One that is gone is no failure. -/
def teardown : NamespaceRoutine :=
  .call deleteNamespace fun _ => .done

/-! ## A tick -/

/-- The name of an entry's namespace. -/
def CanopyEntry.namespaceName (entry : CanopyEntry) : String := namespaceNameFor sha256 entry.identity

/-- The managed namespaces that no entry names. -/
def orphans (entries : List CanopyEntry) (namespaces : List String) : List String :=
  namespaces.filter fun ns => ns ∉ entries.map (·.namespaceName sha256)

/-- The managed namespaces among those with some names. -/
def managed (cluster : String → Option CanopyNamespace) (names : List String) : List String :=
  names.filter fun n => ((cluster n).map (·.isManaged)).getD false

/-- **Where a tick is**: it waits for the worklist, or for the list of managed namespaces, or for the
    calls of the entries, or for the deletions. -/
inductive Pass where
  | idle
  | fetched (entries : List CanopyEntry)
  | provisioning (entries : List CanopyEntry) (namespaces : List String)
  | tearingDown (entries : List CanopyEntry) (namespaces : List String)

/-- **The syncer and the cluster it keeps.** -/
structure Syncer where
  pass : Pass := .idle
  pool : Pool String CredsRequest String (Option CanopyNamespace)

/-- The namespaces of the cluster. -/
def Syncer.cluster (s : Syncer) : String → Option CanopyNamespace := s.pool.cells

/-- **What happens to the syncer.**  `names` are the names of the cluster's namespaces; a tick that fails to
    fetch or list, or dies, is over. -/
inductive SyncerEvent where
  | worklist (entries : List CanopyEntry)
  | listed (names : List String)
  | pool (e : PoolEvent String String (Option CanopyNamespace))
  | provisioned
  | tornDown
  | stopped

/-- Every routine has come to its end. -/
def Syncer.allEnded (s : Syncer) : Bool := s.pool.workers.all (·.routine.isEnded)

/-- **One event of the syncer's life.** -/
def Syncer.step (s : Syncer) : SyncerEvent → Syncer
  | .worklist entries =>
    match s.pass with
    | .idle => { s with pass := .fetched entries }
    | _ => s
  | .listed names =>
    match s.pass with
    | .fetched entries =>
      { pass := .provisioning entries (managed s.cluster names)
        pool := { s.pool with
          workers := entries.map fun entry =>
            { key := entry.namespaceName sha256, routine := reconcileEntry parse entry } } }
    | _ => s
  | .pool e => { s with pool := s.pool.step e }
  | .provisioned =>
    match s.pass with
    | .provisioning entries namespaces =>
      if s.allEnded then
        { pass := .tearingDown entries namespaces
          pool := { s.pool with
            workers := (orphans sha256 entries namespaces).map fun ns => { key := ns, routine := teardown } } }
      else s
    | _ => s
  | .tornDown =>
    match s.pass with
    | .tearingDown _ _ =>
      if s.allEnded then { pass := .idle, pool := { s.pool with workers := [] } } else s
    | _ => s
  | .stopped => { pass := .idle, pool := { s.pool with workers := [] } }

end Tick

end RestoreOperator
