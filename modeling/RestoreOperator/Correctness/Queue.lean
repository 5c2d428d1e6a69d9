import Mathlib.Data.List.Nodup
import RestoreOperator.Calls.Runs
import RestoreOperator.Objects.Queue

/-!
# `Correctness.Queue` — each replica has one place in the queue

A replica holds a slot, or waits for one, or neither, and never twice.  Five of the six operations keep
it so.  `enqueue` looks at the replicas that wait and not at those that hold a slot, so a replica that
holds one and asks again is in both lists, and its next promotion gives it a second slot.
-/

namespace RestoreOperator

open Calls

/-- **An operation on the queue.** -/
inductive QueueOp where
  | enqueue (key : ReplicaKey) (now : Timestamp)
  | markActive (key : ReplicaKey)
  | remove (key : ReplicaKey)
  | retainActive (live : List ReplicaKey)
  | tryPromote (max : Nat)
  | releaseRestoreSlot (key : ReplicaKey) (max : Nat)

namespace RestoreQueue

/-- **One operation.** -/
def apply (q : RestoreQueue) : QueueOp → RestoreQueue
  | .enqueue key now => q.enqueue key now
  | .markActive key => q.markActive key
  | .remove key => q.remove key
  | .retainActive live => q.retainActive live
  | .tryPromote max => (q.tryPromote max).1
  | .releaseRestoreSlot key max => q.releaseRestoreSlot key max

/-- **Each replica has at most one place.** -/
structure Distinct (q : RestoreQueue) : Prop where
  active : q.active.Nodup
  pending : (q.pending.map Prod.fst).Nodup
  disjoint : ∀ key ∈ q.active, key ∉ q.pending.map Prod.fst

/-- **A replica that holds a slot asks for another.** -/
def enqueuesActive (q : RestoreQueue) : QueueOp → Bool
  | .enqueue key _ => key ∈ q.active
  | _ => false

/-! ## What each operation keeps -/

variable {q : RestoreQueue}

theorem distinct_empty : Distinct {} := by
  constructor
  · exact List.nodup_nil
  · exact List.nodup_nil
  · intro key hkey
    cases hkey

/-- The replicas that wait, without one of them. -/
theorem pending_filter_ne (q : RestoreQueue) (key : ReplicaKey) :
    (q.pending.filter (fun e => e.1 ≠ key)).map Prod.fst =
      (q.pending.map Prod.fst).filter (· ≠ key) := by
  rw [List.filter_map]
  rfl

theorem waits_iff {key : ReplicaKey} :
    q.pending.any (fun e => e.1 == key) = true ↔ key ∈ q.pending.map Prod.fst := by
  simp only [List.any_eq_true, beq_iff_eq, List.mem_map]

/-- A replica added at the end of a list it is not in. -/
theorem nodup_pushed {keys : List ReplicaKey} {key : ReplicaKey} (h : keys.Nodup)
    (hkey : key ∉ keys) : (keys ++ [key]).Nodup := by
  rw [← List.concat_eq_append]
  exact (List.nodup_concat keys key).mpr ⟨hkey, h⟩

/-- A queue with fewer places. -/
theorem Distinct.of_sublist (h : q.Distinct) {q' : RestoreQueue} (hactive : q'.active.Sublist q.active)
    (hpending : (q'.pending.map Prod.fst).Sublist (q.pending.map Prod.fst)) : q'.Distinct where
  active := h.active.sublist hactive
  pending := h.pending.sublist hpending
  disjoint := by
    intro key hkey hwaits
    exact h.disjoint key (hactive.subset hkey) (hpending.subset hwaits)

theorem Distinct.remove (h : q.Distinct) (key : ReplicaKey) : (q.remove key).Distinct := by
  apply h.of_sublist List.filter_sublist
  rw [RestoreQueue.remove, pending_filter_ne]
  exact List.filter_sublist

theorem Distinct.retainActive (h : q.Distinct) (live : List ReplicaKey) :
    (q.retainActive live).Distinct :=
  h.of_sublist List.filter_sublist (List.Sublist.refl _)

theorem Distinct.markActive (h : q.Distinct) (key : ReplicaKey) : (q.markActive key).Distinct := by
  have hpending : ((q.markActive key).pending.map Prod.fst) =
      (q.pending.map Prod.fst).filter (· ≠ key) := pending_filter_ne q key
  constructor
  · show (if key ∈ q.active then q.active else q.active ++ [key]).Nodup
    by_cases hkey : key ∈ q.active
    · rw [if_pos hkey]
      exact h.active
    · rw [if_neg hkey]
      exact nodup_pushed h.active hkey
  · rw [hpending]
    exact h.pending.filter _
  · intro other hother
    rw [hpending, List.mem_filter, decide_eq_true_eq]
    rintro ⟨hwaits, hne⟩
    have hactive : other ∈ q.active ∨ other = key := by
      change other ∈ (if key ∈ q.active then q.active else q.active ++ [key]) at hother
      split at hother
      · exact .inl hother
      · simpa using hother
    exact hactive.elim (fun hmem => h.disjoint other hmem hwaits) hne

theorem Distinct.tryPromote (h : q.Distinct) (max : Nat) : (q.tryPromote max).1.Distinct := by
  rcases q with ⟨active, pending⟩
  cases pending with
  | nil => exact h
  | cons first rest =>
    obtain ⟨key, since⟩ := first
    simp only [RestoreQueue.tryPromote]
    split
    · have hpending : key ∉ rest.map Prod.fst ∧ (rest.map Prod.fst).Nodup :=
        List.nodup_cons.mp h.pending
      have hfresh : key ∉ active := fun hkey => h.disjoint key hkey List.mem_cons_self
      refine ⟨nodup_pushed h.active hfresh, hpending.2, ?_⟩
      intro other hother
      rcases List.mem_append.mp hother with hactive | hkey
      · exact fun hwaits => h.disjoint other hactive (List.mem_cons_of_mem _ hwaits)
      · rw [List.mem_singleton.mp hkey]
        exact hpending.1
    · exact h

theorem Distinct.releaseRestoreSlot (h : q.Distinct) (key : ReplicaKey) (max : Nat) :
    (q.releaseRestoreSlot key max).Distinct :=
  (h.remove key).tryPromote max

/-- A replica that waits already changes nothing; one that does not goes to the end. -/
theorem enqueue_pending (q : RestoreQueue) (key : ReplicaKey) (now : Timestamp) :
    (q.enqueue key now).pending.map Prod.fst =
      if key ∈ q.pending.map Prod.fst then q.pending.map Prod.fst
      else q.pending.map Prod.fst ++ [key] := by
  unfold RestoreQueue.enqueue
  by_cases hwaits : key ∈ q.pending.map Prod.fst
  · rw [if_pos hwaits, if_pos (waits_iff.mpr hwaits)]
  · rw [if_neg hwaits, if_neg (fun hany => hwaits (waits_iff.mp hany))]
    rw [List.map_append]
    rfl

theorem enqueue_active (q : RestoreQueue) (key : ReplicaKey) (now : Timestamp) :
    (q.enqueue key now).active = q.active := by
  unfold RestoreQueue.enqueue
  split <;> rfl

/-- **Waiting is safe exactly for a replica that holds no slot.** -/
theorem Distinct.enqueue_iff (h : q.Distinct) (key : ReplicaKey) (now : Timestamp) :
    (q.enqueue key now).Distinct ↔ key ∉ q.active := by
  constructor
  · intro h' hkey
    apply h'.disjoint key (by rwa [enqueue_active])
    rw [enqueue_pending, if_neg (h.disjoint key hkey)]
    exact List.mem_append_right _ List.mem_cons_self
  · intro hkey
    have hmem : ∀ other ∈ (q.enqueue key now).pending.map Prod.fst,
        other ∈ q.pending.map Prod.fst ∨ other = key := by
      intro other hother
      rw [enqueue_pending] at hother
      split at hother
      · exact .inl hother
      · simpa using hother
    constructor
    · rw [enqueue_active]
      exact h.active
    · rw [enqueue_pending]
      split
      · exact h.pending
      · exact nodup_pushed h.pending ‹_›
    · intro other hother hwaits
      rw [enqueue_active] at hother
      rcases hmem other hwaits with hold | rfl
      · exact h.disjoint other hother hold
      · exact hkey hother

/-- **One operation**: only a replica that holds a slot and asks for another gets a second place. -/
theorem Distinct.apply_iff (h : q.Distinct) (op : QueueOp) :
    (q.apply op).Distinct ↔ q.enqueuesActive op = false := by
  cases op with
  | enqueue key now =>
    have hiff := h.enqueue_iff key now
    simpa only [apply, enqueuesActive, decide_eq_false_iff_not] using hiff
  | markActive key => exact iff_of_true (h.markActive key) rfl
  | remove key => exact iff_of_true (h.remove key) rfl
  | retainActive live => exact iff_of_true (h.retainActive live) rfl
  | tryPromote max => exact iff_of_true (h.tryPromote max) rfl
  | releaseRestoreSlot key max => exact iff_of_true (h.releaseRestoreSlot key max) rfl

end RestoreQueue

/-! ## Every sequence of operations -/

/-- **Each replica has one place, all along a sequence of operations on the empty queue, exactly when
    no operation of it enqueues a replica that holds a slot.** -/
theorem queue_distinct_iff_no_active_enqueued (ops : List QueueOp) :
    Always RestoreQueue.apply RestoreQueue.Distinct {} ops ↔
      Meets RestoreQueue.apply (fun q op => q.enqueuesActive op = false) {} ops := by
  refine always_iff_meets (I := fun _ => True) (fun _ _ _ => trivial) ?_ trivial
    RestoreQueue.distinct_empty ops
  intro q op _ hdistinct
  exact hdistinct.apply_iff op

/-- The operations of a promotion that does not help: a waiting replica gets the one slot, finds no
    slot free, waits again, and is promoted again when the limit is raised. -/
def promotedTwice : List QueueOp :=
  [.enqueue ⟨"ns", "a"⟩ 0, .tryPromote 1, .enqueue ⟨"ns", "a"⟩ 10, .tryPromote 2]

/-- **A replica is in both lists, and then holds two slots.** -/
theorem promotedTwice_not_distinct :
    ¬ Always RestoreQueue.apply RestoreQueue.Distinct {} promotedTwice ∧
      (runFrom RestoreQueue.apply {} (promotedTwice.take 3)) =
        { active := [⟨"ns", "a"⟩], pending := [(⟨"ns", "a"⟩, 10)] } ∧
      (runFrom RestoreQueue.apply {} promotedTwice).active = [⟨"ns", "a"⟩, ⟨"ns", "a"⟩] := by
  refine ⟨?_, by decide +kernel, by decide +kernel⟩
  rintro ⟨_, _, _, hdistinct, _⟩
  exact hdistinct.disjoint ⟨"ns", "a"⟩ (by decide) (by decide)

end RestoreOperator
