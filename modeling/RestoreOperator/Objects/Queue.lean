import RestoreOperator.Objects.Types

/-!
# `Objects.Queue` — the restore queue

The in-memory queue that bounds how many restores run at once across the whole cluster.  A replica
is `active` while its restore holds a slot and `pending` while it waits for one.
-/

namespace RestoreOperator

/-- **A replica's key**: its namespace and its name, since names repeat across namespaces. -/
structure ReplicaKey where
  ns : String
  name : String
  deriving Repr, DecidableEq

/-- **The restore queue.** -/
structure RestoreQueue where
  active : List ReplicaKey := []
  pending : List (ReplicaKey × Timestamp) := []
  deriving Repr, DecidableEq

namespace RestoreQueue

/-- Whether another restore may start. -/
def canStart (q : RestoreQueue) (max : Nat) : Bool :=
  q.active.length < max

/-- The 1-based position of a waiting replica.  The source counts it in 32 bits, which no queue of replicas
    comes near. -/
def position (q : RestoreQueue) (key : ReplicaKey) : Option Nat :=
  (q.pending.findIdx? (fun e => e.1 == key)).map (· + 1)

/-- Wait for a slot; a replica that waits already keeps its place. -/
def enqueue (q : RestoreQueue) (key : ReplicaKey) (now : Timestamp) : RestoreQueue :=
  if q.pending.any (fun e => e.1 == key) then q
  else { q with pending := q.pending ++ [(key, now)] }

/-- Take a slot, whether or not one is free. -/
def markActive (q : RestoreQueue) (key : ReplicaKey) : RestoreQueue :=
  { active := if key ∈ q.active then q.active else q.active ++ [key]
    pending := q.pending.filter (fun e => e.1 ≠ key) }

/-- Forget a replica altogether. -/
def remove (q : RestoreQueue) (key : ReplicaKey) : RestoreQueue :=
  { active := q.active.filter (· ≠ key)
    pending := q.pending.filter (fun e => e.1 ≠ key) }

/-- Keep only the slots of the replicas that are still restoring. -/
def retainActive (q : RestoreQueue) (live : List ReplicaKey) : RestoreQueue :=
  { q with active := q.active.filter (· ∈ live) }

/-- Give a free slot to the replica that has waited longest. -/
def tryPromote (q : RestoreQueue) (max : Nat) : RestoreQueue × Option ReplicaKey :=
  match q.pending with
  | [] => (q, none)
  | (key, _) :: rest =>
    if q.active.length < max then
      ({ active := q.active ++ [key], pending := rest }, some key)
    else (q, none)

/-- Give back a replica's slot and promote the next one waiting. -/
def releaseRestoreSlot (q : RestoreQueue) (key : ReplicaKey) (max : Nat) : RestoreQueue :=
  ((q.remove key).tryPromote max).1

end RestoreQueue

end RestoreOperator
