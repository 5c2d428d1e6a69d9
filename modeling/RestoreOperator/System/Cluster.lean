import RestoreOperator.System.Events

/-!
# `System.Cluster` — many replicas and one queue

The replicas of a cluster run side by side, each with its own objects.  What they share is the
operator's memory: the restore queue and its limit.  The queue reaper lists the restores of the whole
cluster and, some time later, drops the slots of replicas that had none in Restoring.
-/

namespace RestoreOperator

open Calls

/-- A restore of the replica is in Restoring. -/
def isRestoring (w : World) : Bool :=
  w.restores.any fun r => r.inPhase .restoring

/-- **A cluster.** -/
structure Cluster where
  /-- How many replicas may restore at once. -/
  limit : Nat
  queue : RestoreQueue := {}
  replicas : List World := []
  /-- What the reaper found live, between its list and its use of it. -/
  live : Option (List ReplicaKey) := none

/-- **What can happen in a cluster.** -/
inductive ClusterEvent where
  | replicaCreated (key : ReplicaKey) (spec : ReplicaSpec)
  /-- Something happens to the replica at that place. -/
  | replica (i : Nat) (e : Event)
  | reaperLists
  | reaperRetains

/-- The event is one of the replica itself, and not of what the replicas share. -/
def Event.isOwn : Event → Bool
  | .queueChanged _ => false
  | .limitChanged _ => false
  | _ => true

namespace Cluster

/-- A replica as the operator sees it, with what the replicas share. -/
def view (c : Cluster) (w : World) : World :=
  { w with queue := c.queue, maxConcurrentRestores := c.limit }

/-- The operator's process is replaced, for every replica. -/
def restart (c : Cluster) : Cluster :=
  { c with queue := {}, replicas := c.replicas.map World.restart, live := none }

/-- The replicas with a restore in Restoring, in the reaper's list. -/
def liveKeys (c : Cluster) : List ReplicaKey :=
  (c.replicas.filter isRestoring).map World.key

/-- **One step of a replica.**  It leaves the queue it has changed to the others. -/
def stepReplica (ctx : Context) (c : Cluster) (i : Nat) (w : World) (e : Event) : Cluster :=
  let w' := RestoreOperator.step ctx (c.view w) e
  let c' := { c with queue := w'.queue, replicas := c.replicas.set i w' }
  if endsOperator ctx (c.view w) e then c'.restart else c'

/-- **One step of a cluster.** -/
def step (ctx : Context) (c : Cluster) : ClusterEvent → Cluster
  | .replicaCreated key spec =>
    if c.replicas.any (fun w => w.key == key) then c
    else { c with replicas := c.replicas ++ [World.initial key spec] }
  | .replica i e =>
    match c.replicas[i]? with
    | none => c
    | some w => if e.isOwn then c.stepReplica ctx i w e else c
  | .reaperLists => { c with live := some c.liveKeys }
  | .reaperRetains =>
    match c.live with
    | none => c
    | some live => { c with queue := c.queue.retainActive live, live := none }

/-- **A run** of a cluster that starts with no replica and an empty queue. -/
def run (ctx : Context) (limit : Nat) (es : List ClusterEvent) : Cluster :=
  runFrom (step ctx) { limit := limit } es

end Cluster

end RestoreOperator
