import RestoreOperator.Base.Line
import RestoreOperator.Correctness.Queue

/-!
# `Correctness.QueueOrder` — who waits first is promoted first

The replicas that wait stand in a line: an operation takes some of them out of it, or puts one that is not in
it at the end.  So nobody moves back while it waits, and nobody overtakes one that waited before it did.
A promotion takes the first of the line.
-/

namespace RestoreOperator

open Calls Line

namespace RestoreQueue

variable {q : RestoreQueue} {key : ReplicaKey}

/-- The replicas that wait, in their order. -/
def waiting (q : RestoreQueue) : List ReplicaKey := q.pending.map Prod.fst

/-- The replica that an operation promotes. -/
def promotes (q : RestoreQueue) : QueueOp → Option ReplicaKey
  | .tryPromote max => (q.tryPromote max).2
  | .releaseRestoreSlot key max => ((q.remove key).tryPromote max).2
  | _ => none

/-- An operation that forgets a replica. -/
def removes (key : ReplicaKey) : QueueOp → Bool
  | .remove k => k = key
  | .releaseRestoreSlot k _ => k = key
  | _ => false

/-! ## What each operation does to the line -/

/-- **The position of a waiting replica** is its place in the line, counted from one. -/
theorem position_eq (q : RestoreQueue) (key : ReplicaKey) :
    q.position key = if key ∈ q.waiting then some (q.waiting.idxOf key + 1) else none := by
  have hfind : q.pending.findIdx? (fun e => e.1 == key) =
      if key ∈ q.waiting then some (q.waiting.idxOf key) else none := by
    unfold waiting
    induction q.pending with
    | nil => rfl
    | cons e rest ih =>
      rw [List.findIdx?_cons, List.map_cons]
      by_cases hkey : e.1 = key
      · rw [if_pos (beq_iff_eq.mpr hkey), hkey, List.idxOf_cons_self, if_pos List.mem_cons_self]
      · rw [if_neg (fun hbeq => hkey (beq_iff_eq.mp hbeq)), ih, List.idxOf_cons_ne _ hkey]
        by_cases hrest : key ∈ rest.map Prod.fst
        · rw [if_pos hrest, if_pos (List.mem_cons_of_mem _ hrest)]
          rfl
        · rw [if_neg hrest, if_neg (fun hmem => hrest (List.mem_of_ne_of_mem (Ne.symm hkey) hmem))]
          rfl
  unfold position
  rw [hfind]
  split <;> rfl

theorem waiting_remove (q : RestoreQueue) (key : ReplicaKey) :
    (q.remove key).waiting = q.waiting.filter (· ≠ key) :=
  pending_filter_ne q key

theorem waiting_markActive (q : RestoreQueue) (key : ReplicaKey) :
    (q.markActive key).waiting = q.waiting.filter (· ≠ key) :=
  pending_filter_ne q key

/-- **What a promotion does**: nothing, or the first of the line gets a slot. -/
theorem tryPromote_cases (q : RestoreQueue) (max : Nat) :
    q.tryPromote max = (q, none) ∨
      ∃ key rest, q.waiting = key :: rest ∧ (q.tryPromote max).2 = some key ∧
        (q.tryPromote max).1.waiting = rest ∧ (q.tryPromote max).1.active = q.active ++ [key] := by
  rcases q with ⟨active, pending⟩
  cases pending with
  | nil => exact Or.inl rfl
  | cons first rest =>
    obtain ⟨key, since⟩ := first
    by_cases hfree : active.length < max
    · refine Or.inr ⟨key, rest.map Prod.fst, rfl, ?_⟩
      unfold tryPromote
      dsimp only
      rw [if_pos hfree]
      exact ⟨rfl, rfl, rfl⟩
    · left
      unfold tryPromote
      dsimp only
      rw [if_neg hfree]

theorem waiting_tryPromote (q : RestoreQueue) (max : Nat) :
    ((q.tryPromote max).1.waiting).Sublist q.waiting := by
  rcases q.tryPromote_cases max with hnone | ⟨key, rest, hwaiting, _, hrest, _⟩
  · rw [hnone]
  · rw [hrest, hwaiting]
    exact List.sublist_cons_self key rest

/-- **Every operation moves the line.** -/
theorem waiting_apply (q : RestoreQueue) (op : QueueOp) : Moves q.waiting (q.apply op).waiting := by
  cases op with
  | enqueue key now =>
    have hpending : (q.apply (.enqueue key now)).waiting =
        if key ∈ q.waiting then q.waiting else q.waiting ++ [key] := q.enqueue_pending key now
    rw [hpending]
    by_cases hkey : key ∈ q.waiting
    · rw [if_pos hkey]
      exact Or.inl (List.Sublist.refl _)
    · rw [if_neg hkey]
      exact Or.inr ⟨key, hkey, rfl⟩
  | markActive key =>
    left
    exact q.waiting_markActive key ▸ List.filter_sublist
  | remove key =>
    left
    exact q.waiting_remove key ▸ List.filter_sublist
  | retainActive live => exact Or.inl (List.Sublist.refl _)
  | tryPromote max => exact Or.inl (q.waiting_tryPromote max)
  | releaseRestoreSlot key max =>
    left
    have hremoved : (q.remove key).waiting.Sublist q.waiting :=
      q.waiting_remove key ▸ List.filter_sublist
    exact ((q.remove key).waiting_tryPromote max).trans hremoved

/-- **A promotion takes the first.** -/
theorem position_of_promoted {max : Nat} (h : (q.tryPromote max).2 = some key) :
    q.position key = some 1 := by
  rcases q.tryPromote_cases max with hnone | ⟨first, rest, hwaiting, hfirst, _⟩
  · rw [hnone] at h
    cases h
  · obtain rfl := Option.some.inj (hfirst.symm.trans h)
    rw [position_eq, hwaiting, if_pos List.mem_cons_self, List.idxOf_cons_self]

/-- Whoever waits and asks again keeps its place. -/
theorem enqueue_waiting (h : key ∈ q.waiting) (now : Timestamp) : q.enqueue key now = q := by
  unfold enqueue
  rw [if_pos (waits_iff.mpr h)]

/-- A promotion takes the promoted one out of the line, and no other. -/
theorem leaves_tryPromote {max : Nat} (h : key ∈ q.waiting)
    (hleft : key ∉ (q.tryPromote max).1.waiting) :
    (q.tryPromote max).2 = some key ∧ key ∈ (q.tryPromote max).1.active := by
  rcases q.tryPromote_cases max with hnone | ⟨first, rest, hwaiting, hfirst, hrest, hactive⟩
  · rw [hnone] at hleft
    exact absurd h hleft
  · rw [hwaiting] at h
    rw [hrest] at hleft
    have hkey : key = first := (List.mem_cons.mp h).resolve_right hleft
    subst hkey
    refine ⟨hfirst, ?_⟩
    rw [hactive]
    exact List.mem_append_right _ List.mem_cons_self

theorem eq_of_not_mem_filter {keys : List ReplicaKey} {other : ReplicaKey} (h : key ∈ keys)
    (hleft : key ∉ keys.filter (· ≠ other)) : key = other := by
  by_contra hne
  exact hleft (List.mem_filter.mpr ⟨h, decide_eq_true hne⟩)

/-- **How a replica leaves the line**: it is forgotten, it takes a slot itself, or it is promoted. -/
theorem leaves_apply {op : QueueOp} (h : key ∈ q.waiting) (hleft : key ∉ (q.apply op).waiting) :
    removes key op ∨ (op = .markActive key ∨ q.promotes op = some key) ∧ key ∈ (q.apply op).active := by
  cases op with
  | enqueue other now =>
    have hstays : key ∈ (q.enqueue other now).waiting := by
      unfold waiting
      rw [enqueue_pending]
      split
      · exact h
      · exact List.mem_append_left _ h
    exact absurd hstays hleft
  | markActive other =>
    have hleft' : key ∉ q.waiting.filter (· ≠ other) := q.waiting_markActive other ▸ hleft
    obtain rfl := eq_of_not_mem_filter h hleft'
    refine Or.inr ⟨Or.inl rfl, ?_⟩
    show key ∈ (if key ∈ q.active then q.active else q.active ++ [key])
    split
    · assumption
    · exact List.mem_append_right _ List.mem_cons_self
  | remove other =>
    left
    have hleft' : key ∉ q.waiting.filter (· ≠ other) := q.waiting_remove other ▸ hleft
    exact decide_eq_true (eq_of_not_mem_filter h hleft').symm
  | retainActive live => exact absurd h hleft
  | tryPromote max =>
    obtain ⟨hpromoted, hactive⟩ := leaves_tryPromote h hleft
    exact Or.inr ⟨Or.inr hpromoted, hactive⟩
  | releaseRestoreSlot other max =>
    by_cases hother : key = other
    · left
      exact decide_eq_true hother.symm
    · right
      have hwaits : key ∈ (q.remove other).waiting := by
        rw [waiting_remove]
        exact List.mem_filter.mpr ⟨h, decide_eq_true hother⟩
      obtain ⟨hpromoted, hactive⟩ := leaves_tryPromote hwaits hleft
      exact ⟨Or.inr hpromoted, hactive⟩

theorem idxOf_of_promoted {max : Nat} (h : (q.tryPromote max).2 = some key) :
    key ∈ q.waiting ∧ q.waiting.idxOf key = 0 := by
  have hposition := position_of_promoted h
  rw [position_eq] at hposition
  split at hposition
  · exact ⟨‹_›, Nat.succ.inj (Option.some.inj hposition)⟩
  · cases hposition

/-- **Nobody is promoted past one that is ahead and goes on waiting.** -/
theorem promoted_not_behind {op : QueueOp} {other : ReplicaKey} (hnodup : q.waiting.Nodup)
    (hpromoted : q.promotes op = some key) (hother : other ∈ q.waiting)
    (hstays : other ∈ (q.apply op).waiting) : ¬ Ahead other key q.waiting := by
  intro hahead
  cases op with
  | tryPromote max =>
    obtain ⟨hkey, hfirst⟩ := idxOf_of_promoted hpromoted
    have hlt := hahead hkey
    rw [hfirst] at hlt
    exact Nat.not_lt_zero _ hlt
  | releaseRestoreSlot k max =>
    obtain ⟨hkey, hfirst⟩ := idxOf_of_promoted hpromoted
    -- the release has let others go, and left the order as it was
    have hother' : other ∈ (q.remove k).waiting := ((q.remove k).waiting_tryPromote max).subset hstays
    have hlt := (q.waiting_apply (.remove k)).ahead hnodup hother hother' hahead hkey
    change _ < (q.remove k).waiting.idxOf key at hlt
    rw [hfirst] at hlt
    exact Nat.not_lt_zero _ hlt
  | _ => cases hpromoted

end RestoreQueue

/-! ## Every sequence of operations -/

/-- The queue after the first operations of a sequence. -/
def queueAfter (ops : List QueueOp) (n : Nat) : RestoreQueue :=
  runFrom RestoreQueue.apply {} (ops.take n)

/-- **A stay in the line**: the replica does not wait after so many operations, and has waited since. -/
structure Stay (ops : List QueueOp) (key : ReplicaKey) (began now : Nat) : Prop where
  began_lt : began < now
  outside : key ∉ (queueAfter ops began).waiting
  waits : ∀ n, began < n → n ≤ now → key ∈ (queueAfter ops n).waiting

/-- **A stay that ends by promotion**, in the operation `n`. -/
def PromotedFrom (ops : List QueueOp) (key : ReplicaKey) (began n : Nat) : Prop :=
  Stay ops key began n ∧ ∃ op, ops[n]? = some op ∧ (queueAfter ops n).promotes op = some key

section Order

variable {ops : List QueueOp}

theorem queueAfter_succ {n : Nat} {op : QueueOp} (h : ops[n]? = some op) :
    queueAfter ops (n + 1) = (queueAfter ops n).apply op := by
  unfold queueAfter
  rw [List.take_add_one, h, runFrom_append]
  rfl

theorem queueAfter_succ_of_none {n : Nat} (h : ops[n]? = none) :
    queueAfter ops (n + 1) = queueAfter ops n := by
  unfold queueAfter
  rw [List.take_add_one, h, Option.toList_none, List.append_nil]

/-- The line over the operations. -/
def lineAfter (ops : List QueueOp) (n : Nat) : List ReplicaKey := (queueAfter ops n).waiting

theorem queueAfter_moves (ops : List QueueOp) (n : Nat) :
    Moves (lineAfter ops n) (lineAfter ops (n + 1)) := by
  unfold lineAfter
  cases hop : ops[n]? with
  | none => exact queueAfter_succ_of_none hop ▸ Or.inl (List.Sublist.refl _)
  | some op =>
    rw [queueAfter_succ hop]
    exact RestoreQueue.waiting_apply _ op

theorem queueAfter_nodup (ops : List QueueOp) (n : Nat) : (lineAfter ops n).Nodup :=
  nodup_of_moves (queueAfter_moves ops) List.nodup_nil n

/-- **A position never rises while the replica waits.** -/
theorem position_le (key : ReplicaKey) {first last : Nat} (hle : first ≤ last)
    (h : ∀ n, first ≤ n → n ≤ last → key ∈ (queueAfter ops n).waiting) :
    ∃ p p', (queueAfter ops first).position key = some p ∧
      (queueAfter ops last).position key = some p' ∧ p' ≤ p := by
  have hplace := idxOf_le_of_stays (queueAfter_moves ops) (queueAfter_nodup ops) hle h
  refine ⟨(queueAfter ops first).waiting.idxOf key + 1, (queueAfter ops last).waiting.idxOf key + 1,
    ?_, ?_, Nat.succ_le_succ hplace⟩
  · rw [RestoreQueue.position_eq, if_pos (h first (Nat.le_refl _) hle)]
  · rw [RestoreQueue.position_eq, if_pos (h last hle (Nat.le_refl _))]

/-- **The stay that began first has ended** when one that began later ends by promotion. -/
theorem stay_ended {a b : ReplicaKey} {beganA beganB n : Nat} (hbegan : beganA < beganB)
    (hpromoted : PromotedFrom ops b beganB n) : ¬ Stay ops a beganA (n + 1) := by
  intro hstay
  obtain ⟨hb, op, hop, hb'⟩ := hpromoted
  have hwaits : Stays (lineAfter ops) a beganB n := by
    intro m hm hmn
    exact hstay.waits m (hbegan.trans_le hm) (Nat.le_succ_of_le hmn)
  have hahead : Ahead a b (lineAfter ops n) :=
    ahead_of_stays (queueAfter_moves ops) (queueAfter_nodup ops) hb.began_lt.le hwaits hb.outside
  have hstays : a ∈ ((queueAfter ops n).apply op).waiting := by
    rw [← queueAfter_succ hop]
    exact hstay.waits (n + 1) (Nat.lt_succ_of_lt (hbegan.trans hb.began_lt)) (Nat.le_refl _)
  exact RestoreQueue.promoted_not_behind (queueAfter_nodup ops n) hb'
    (hwaits n hb.began_lt.le (Nat.le_refl _)) hstays hahead

/-- **Promoted in the order in which they began to wait.** -/
theorem promoted_in_order {a b : ReplicaKey} {beganA beganB now n m : Nat} (ha : Stay ops a beganA now)
    (hb : Stay ops b beganB now) (hbegan : beganA < beganB) (hpa : PromotedFrom ops a beganA n)
    (hpb : PromotedFrom ops b beganB m) : n < m := by
  have hended := stay_ended (a := a) hbegan hpb
  rcases Nat.lt_trichotomy n m with hlt | rfl | hgt
  · exact hlt
  · -- one operation promotes one replica
    obtain ⟨_, op, hop, ha'⟩ := hpa
    obtain ⟨_, op', hop', hb'⟩ := hpb
    obtain rfl := Option.some.inj (hop.symm.trans hop')
    obtain rfl := Option.some.inj (ha'.symm.trans hb')
    exact absurd (ha.waits beganB hbegan hb.began_lt.le) hb.outside
  · refine absurd ⟨?_, ha.outside, fun k hk hkm => ?_⟩ hended
    · exact Nat.lt_succ_of_lt (hbegan.trans hpb.1.began_lt)
    · exact hpa.1.waits k hk (hkm.trans hgt)

/-- **The queue is fair**, whatever is done with it: positions only fall, a promotion takes the first, who
    began to wait first is never promoted after the other, asking again changes nothing, and a replica leaves
    the line only when it is forgotten, takes a slot, or is promoted. -/
theorem queue_first_come_first_served (ops : List QueueOp) :
    (∀ key first last, first ≤ last →
      (∀ n, first ≤ n → n ≤ last → key ∈ (queueAfter ops n).waiting) →
      ∃ p p', (queueAfter ops first).position key = some p ∧
        (queueAfter ops last).position key = some p' ∧ p' ≤ p) ∧
    (∀ n max key, ((queueAfter ops n).tryPromote max).2 = some key →
      (queueAfter ops n).position key = some 1) ∧
    (∀ a b beganA beganB now, Stay ops a beganA now → Stay ops b beganB now → beganA < beganB →
      ∀ m, PromotedFrom ops b beganB m →
        ¬ Stay ops a beganA (m + 1) ∧ ∀ n, PromotedFrom ops a beganA n → n < m) ∧
    (∀ n key now, key ∈ (queueAfter ops n).waiting →
      (queueAfter ops n).enqueue key now = queueAfter ops n) ∧
    (∀ n key op, key ∈ (queueAfter ops n).waiting → key ∉ ((queueAfter ops n).apply op).waiting →
      RestoreQueue.removes key op ∨
        (op = .markActive key ∨ (queueAfter ops n).promotes op = some key) ∧
          key ∈ ((queueAfter ops n).apply op).active) := by
  refine ⟨fun key _ _ hle h => position_le key hle h, fun _ _ _ h => RestoreQueue.position_of_promoted h,
    ?_, fun _ _ now h => RestoreQueue.enqueue_waiting h now,
    fun _ _ _ h hleft => RestoreQueue.leaves_apply h hleft⟩
  intro a b beganA beganB now ha hb hbegan m hpb
  exact ⟨stay_ended hbegan hpb, fun n hpa => promoted_in_order ha hb hbegan hpa hpb⟩

end Order

/-- Two replicas wait for the one slot; the first gets it, and the second when there is one more. -/
theorem first_of_two_promoted_first :
    let a : ReplicaKey := ⟨"apps", "a"⟩
    let b : ReplicaKey := ⟨"apps", "b"⟩
    let ops : List QueueOp := [.enqueue a 0, .enqueue b 5, .enqueue a 7, .tryPromote 1, .tryPromote 2]
    PromotedFrom ops a 0 3 ∧ PromotedFrom ops b 1 4 ∧ ¬ Stay ops a 0 5 ∧ 3 < 4 := by
  intro a b ops
  have hwaits : ∀ n, 0 < n → n ≤ 3 → a ∈ (queueAfter ops n).waiting := by
    intro n hn hle
    interval_cases n <;> decide +kernel
  have hwaits' : ∀ n, 1 < n → n ≤ 4 → b ∈ (queueAfter ops n).waiting := by
    intro n hn hle
    interval_cases n <;> decide +kernel
  have ha : PromotedFrom ops a 0 3 :=
    ⟨⟨by decide, by decide +kernel, hwaits⟩, .tryPromote 1, rfl, by decide +kernel⟩
  have hb : PromotedFrom ops b 1 4 :=
    ⟨⟨by decide, by decide +kernel, hwaits'⟩, .tryPromote 2, rfl, by decide +kernel⟩
  have hstay : Stay ops b 1 3 := ⟨by decide, hb.1.outside, fun n hn hle => hwaits' n hn (hle.trans (by decide))⟩
  obtain ⟨_, _, hfair, _⟩ := queue_first_come_first_served ops
  obtain ⟨hended, hbefore⟩ := hfair a b 0 1 3 ha.1 hstay (by decide) 4 hb
  exact ⟨ha, hb, hended, hbefore 3 ha⟩

end RestoreOperator
