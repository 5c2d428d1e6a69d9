import RestoreOperator.System.Cluster
import RestoreOperator.System.Control
import RestoreOperator.Correctness.Queue

/-!
# `Correctness.Reaper` — the slot of a restore that is running

`reconcile_pending` marks its restore Restoring in one call and takes the slot in memory after it; the
reaper lists the restores of the cluster in one call and drops slots in memory after it.  Here the two
are taken apart, so that each half of one may come anywhere between the halves of the other, with the
slots other replicas give back in between.

A restore that is marked and takes its slot between the reaper's list and its use of it is not on the
list, and loses the slot while it runs.  Nothing gives it back: the slot is taken when the restore starts,
and only then.
-/

namespace RestoreOperator

open Calls

/-- The first half of `startRestoring`: the status patch. -/
def World.markRestoring (name : String) (w : World) : World :=
  w.patchRestore name fun s => { s with phase := some .restoring, pvc := some (name ++ "-data") }

/-- **The two halves**: the slot is taken only by a pass that was told of its patch. -/
theorem startRestoring_halves (restore : Restore) (ρ : Call → Reply Error) (w : World) :
    (startRestoring restore ρ w).state =
      if (ρ .patchRestoring).isOk then
        (w.markRestoring restore.name).patchQueue fun q => q.markActive w.key
      else if (ρ .patchRestoring).tookEffect then w.markRestoring restore.name
      else w := by
  show (Prog.andThen (Prog.call .patchRestoring _) _ ρ w).state = _
  unfold Prog.andThen Prog.call
  cases ρ .patchRestoring <;> rfl

namespace Cluster

/-- Change the replica of that key. -/
def onReplica (c : Cluster) (key : ReplicaKey) (f : World → World) : Cluster :=
  { c with replicas := c.replicas.map fun w => if w.key = key then f w else w }

/-- Some restore of that replica and name is such. -/
def anyRestore (c : Cluster) (key : ReplicaKey) (name : String) (test : Restore → Bool) : Bool :=
  c.replicas.any fun w => w.key == key && w.restores.any fun r => r.name == name && test r

end Cluster

/-- **A cluster in which starts are seen half by half.** -/
structure SlotState where
  cluster : Cluster
  /-- The restores that were marked Restoring by a pass that has not taken the slot yet. -/
  marking : List (ReplicaKey × String) := []
  /-- The restores whose `reconcile_pending` has completed. -/
  started : List (ReplicaKey × String) := []

/-- **What can happen to the slots**, short of a restart of the operator. -/
inductive SlotEvent where
  | replicaCreated (key : ReplicaKey) (spec : ReplicaSpec)
  | restoreCreated (key : ReplicaKey) (r : Restore)
  /-- `reconcile_pending` marks the restore Restoring. -/
  | restoringPatched (key : ReplicaKey) (name : String)
  /-- The same pass takes the slot, and completes. -/
  | slotMarked (key : ReplicaKey) (name : String)
  /-- The restore is done, and moves on to Ready or to Failed. -/
  | restoringEnded (key : ReplicaKey) (name : String) (succeeded : Bool)
  | restoreDeleted (key : ReplicaKey) (name : String)
  /-- A replica finds no free slot, and waits. -/
  | enqueued (key : ReplicaKey) (now : Timestamp)
  /-- The replica of that key gives its slot back. -/
  | slotReleased (key : ReplicaKey)
  | reaperLists
  | reaperRetains

/-- The slot of that replica is given back. -/
def SlotEvent.releases (key : ReplicaKey) : SlotEvent → Bool
  | .slotReleased key' => key' == key
  | _ => false

namespace SlotState

/-- Change the replica of that key. -/
def onReplica (s : SlotState) (key : ReplicaKey) (f : World → World) : SlotState :=
  { s with cluster := s.cluster.onReplica key f }

/-- Change the queue. -/
def onQueue (s : SlotState) (f : RestoreQueue → RestoreQueue) : SlotState :=
  { s with cluster := { s.cluster with queue := f s.cluster.queue } }

/-- **One step.** -/
def step (ctx : Context) (s : SlotState) : SlotEvent → SlotState
  | .replicaCreated key spec => { s with cluster := s.cluster.step ctx (.replicaCreated key spec) }
  | .restoreCreated key r =>
    s.onReplica key fun w =>
      if w.restores.any (fun r' => r'.name == r.name) then w
      else { w with restores := w.restores ++ [{ r with status := {} }] }
  | .restoringPatched key name =>
    if s.cluster.anyRestore key name Restore.isPending then
      -- a restore that starts is another one than any that had its name before
      { cluster := s.cluster.onReplica key (World.markRestoring name)
        marking := (key, name) :: s.marking
        started := s.started.filter (· ≠ (key, name)) }
    else s
  | .slotMarked key name =>
    if (key, name) ∈ s.marking then
      { s.onQueue (·.markActive key) with
        marking := s.marking.erase (key, name)
        started := (key, name) :: s.started }
    else s
  | .restoringEnded key name succeeded =>
    s.onReplica key fun w => w.patchRestore name fun status =>
      if status.phase = some .restoring then
        { status with phase := some (if succeeded then .ready else .failed) }
      else status
  | .restoreDeleted key name => s.onReplica key (World.deleteRestore name)
  | .enqueued key now => s.onQueue (·.enqueue key now)
  | .slotReleased key => s.onQueue (·.releaseRestoreSlot key s.cluster.limit)
  | .reaperLists => { s with cluster := s.cluster.step ctx .reaperLists }
  | .reaperRetains => { s with cluster := s.cluster.step ctx .reaperRetains }

/-- The restore has started, and is in Restoring. -/
def runs (s : SlotState) (key : ReplicaKey) (name : String) : Bool :=
  (key, name) ∈ s.started && s.cluster.anyRestore key name fun r => r.inPhase .restoring

/-- **A restore that runs has its slot.** -/
def Held (key : ReplicaKey) (name : String) (s : SlotState) : Prop :=
  s.runs key name = true → key ∈ s.cluster.queue.active

/-- **The reaper drops the slot of a restore that runs**: the list it made does not have it. -/
def reapsRunning (key : ReplicaKey) (name : String) (s : SlotState) : SlotEvent → Bool
  | .reaperRetains => s.cluster.live.any (key ∉ ·) && s.runs key name
  | _ => false

end SlotState

/-! ## One replica of the cluster -/

namespace Cluster

variable {c : Cluster} {key key' : ReplicaKey} {name : String} {test : Restore → Bool}

/-- What is true of a restore after a change of a replica was true before, if the change says so. -/
theorem anyRestore_onReplica {f : World → World} (hkey : ∀ w, (f w).key = w.key)
    (hf : ∀ w, w.key = key' → key' = key → (f w).restores.any (fun r => r.name == name && test r) = true →
      w.restores.any (fun r => r.name == name && test r) = true)
    (h : (c.onReplica key' f).anyRestore key name test = true) : c.anyRestore key name test = true := by
  simp only [anyRestore, onReplica, List.any_map, List.any_eq_true, Function.comp_apply,
    Bool.and_eq_true, beq_iff_eq] at h ⊢
  obtain ⟨w, hw, hwkey, hrestore⟩ := h
  refine ⟨w, hw, ?_⟩
  by_cases hchanged : w.key = key'
  · rw [if_pos hchanged] at hwkey hrestore
    have hown : key' = key := hchanged ▸ (hkey w).symm.trans hwkey
    have hany := hf w hchanged hown
    simp only [List.any_eq_true, Bool.and_eq_true, beq_iff_eq] at hany
    exact ⟨hchanged.trans hown, hany hrestore⟩
  · rw [if_neg hchanged] at hwkey hrestore
    exact ⟨hwkey, hrestore⟩

end Cluster

/-! ## What keeps a slot -/

theorem RestoreQueue.mem_markActive {q : RestoreQueue} {key key' : ReplicaKey} :
    key ∈ (q.markActive key').active ↔ key ∈ q.active ∨ key = key' := by
  simp only [RestoreQueue.markActive]
  by_cases hkey : key' ∈ q.active
  · rw [if_pos hkey]
    exact ⟨.inl, fun h => h.elim id fun heq => heq ▸ hkey⟩
  · rw [if_neg hkey, List.mem_append, List.mem_singleton]

/-- A release of another replica's slot takes no other away. -/
theorem RestoreQueue.mem_releaseRestoreSlot {q : RestoreQueue} {key key' : ReplicaKey} {max : Nat}
    (hother : key' ≠ key) (h : key ∈ q.active) : key ∈ (q.releaseRestoreSlot key' max).active := by
  have hkept : key ∈ (q.remove key').active :=
    List.mem_filter.mpr ⟨h, decide_eq_true (Ne.symm hother)⟩
  simp only [RestoreQueue.releaseRestoreSlot, RestoreQueue.tryPromote]
  split
  · exact hkept
  · split
    · exact List.mem_append_left _ hkept
    · exact hkept

namespace SlotState

variable {ctx : Context} {s : SlotState} {key : ReplicaKey} {name : String}

theorem runs_iff :
    s.runs key name = true ↔
      (key, name) ∈ s.started ∧
        s.cluster.anyRestore key name (fun r => r.inPhase .restoring) = true := by
  simp only [runs, Bool.and_eq_true, decide_eq_true_eq]

/-- A step after which the restore runs only if it did, and which takes the slot from nobody. -/
theorem Held.of (h : s.Held key name) {s' : SlotState}
    (hruns : s'.runs key name = true → s.runs key name = true)
    (hactive : key ∈ s.cluster.queue.active → key ∈ s'.cluster.queue.active) : s'.Held key name :=
  fun h' => hactive (h (hruns h'))

/-- A change of a replica that starts no restore. -/
theorem Held.onReplica (h : s.Held key name) (key' : ReplicaKey) {f : World → World}
    (hkey : ∀ w, (f w).key = w.key)
    (hf : ∀ w, (f w).restores.any (fun r => r.name == name && r.inPhase .restoring) = true →
      w.restores.any (fun r => r.name == name && r.inPhase .restoring) = true) :
    (s.onReplica key' f).Held key name := by
  refine h.of ?_ id
  intro hruns
  rw [runs_iff] at hruns ⊢
  exact ⟨hruns.1, Cluster.anyRestore_onReplica hkey (fun w _ _ => hf w) hruns.2⟩

theorem Held.restoringPatched (h : s.Held key name) (key' : ReplicaKey) (name' : String) :
    (s.step ctx (.restoringPatched key' name')).Held key name := by
  simp only [step]
  split
  · refine h.of ?_ id
    intro hruns
    rw [runs_iff] at hruns ⊢
    obtain ⟨hstarted, hrestoring⟩ := hruns
    rw [List.mem_filter, decide_eq_true_eq] at hstarted
    refine ⟨hstarted.1, Cluster.anyRestore_onReplica (f := World.markRestoring name') (fun _ => rfl) ?_
      hrestoring⟩
    -- the patch is of another restore, since the one it starts counts as not started
    intro w _ hsame hany
    have hname : name ≠ name' := fun heq => hstarted.2 (by rw [hsame, heq])
    simp only [World.markRestoring, World.patchRestore, List.any_map, List.any_eq_true,
      Function.comp_apply, Bool.and_eq_true, beq_iff_eq] at hany ⊢
    obtain ⟨r, hr, hrname, hphase⟩ := hany
    by_cases hpatched : r.name = name'
    · rw [if_pos hpatched] at hrname
      exact absurd (hrname.symm.trans hpatched) hname
    · rw [if_neg hpatched] at hrname hphase
      exact ⟨r, hr, hrname, hphase⟩
  · exact h

theorem Held.slotMarked (h : s.Held key name) (key' : ReplicaKey) (name' : String) :
    (s.step ctx (.slotMarked key' name')).Held key name := by
  simp only [step]
  split
  · intro hruns
    show key ∈ (s.cluster.queue.markActive key').active
    rw [runs_iff] at hruns
    apply RestoreQueue.mem_markActive.mpr
    rcases List.mem_cons.mp hruns.1 with hsame | hstarted
    · exact .inr (congrArg Prod.fst hsame)
    · exact .inl (h (runs_iff.mpr ⟨hstarted, hruns.2⟩))
  · exact h

theorem Held.restoreCreated (h : s.Held key name) (key' : ReplicaKey) (r : Restore) :
    (s.step ctx (.restoreCreated key' r)).Held key name := by
  refine h.onReplica key' ?_ ?_
  · intro w
    split <;> rfl
  · intro w hany
    split at hany
    · exact hany
    · -- a restore is created without a phase
      have hnew : [{ r with status := {} }].any (fun r : Restore => r.name == name && r.inPhase .restoring) =
          false := by simp [Restore.inPhase]
      simpa only [List.any_append, hnew, Bool.or_false] using hany

theorem Held.restoringEnded (h : s.Held key name) (key' : ReplicaKey) (name' : String)
    (succeeded : Bool) : (s.step ctx (.restoringEnded key' name' succeeded)).Held key name := by
  refine h.onReplica key' (fun _ => rfl) ?_
  intro w hany
  simp only [World.patchRestore, List.any_map, List.any_eq_true, Function.comp_apply,
    Bool.and_eq_true, beq_iff_eq] at hany ⊢
  obtain ⟨r, hr, hrname, hphase⟩ := hany
  refine ⟨r, hr, ?_⟩
  by_cases hpatched : r.name = name'
  · rw [if_pos hpatched] at hrname hphase
    refine ⟨hrname, ?_⟩
    by_cases hwas : r.status.phase = some .restoring
    · simp [Restore.inPhase, hwas]
    · simpa only [if_neg hwas] using hphase
  · rw [if_neg hpatched] at hrname hphase
    exact ⟨hrname, hphase⟩

theorem Held.restoreDeleted (h : s.Held key name) (key' : ReplicaKey) (name' : String) :
    (s.step ctx (.restoreDeleted key' name')).Held key name := by
  refine h.onReplica key' (fun _ => rfl) ?_
  intro w hany
  obtain ⟨r, hr, hrestoring⟩ := List.any_eq_true.mp hany
  exact List.any_eq_true.mpr ⟨r, (List.mem_filter.mp hr).1, hrestoring⟩

theorem Held.replicaCreated (h : s.Held key name) (key' : ReplicaKey) (spec : ReplicaSpec) :
    (s.step ctx (.replicaCreated key' spec)).Held key name := by
  simp only [step, Cluster.step]
  split
  · exact h
  · refine h.of ?_ id
    intro hruns
    rw [runs_iff] at hruns ⊢
    refine ⟨hruns.1, ?_⟩
    have hrestoring := hruns.2
    simp only [Cluster.anyRestore, List.any_append, Bool.or_eq_true] at hrestoring
    rcases hrestoring with hold | hnew
    · exact hold
    · simp [World.initial] at hnew

/-- **The reaper takes the slot of a restore that runs exactly when it is not on its list.** -/
theorem Held.reaperRetains_iff (h : s.Held key name) :
    (s.step ctx .reaperRetains).Held key name ↔ s.reapsRunning key name .reaperRetains = false := by
  simp only [step, Cluster.step, reapsRunning]
  cases hlive : s.cluster.live with
  | none => exact iff_of_true h rfl
  | some live =>
    have hactive : ∀ k, k ∈ (s.cluster.queue.retainActive live).active ↔
        k ∈ s.cluster.queue.active ∧ k ∈ live := by
      intro k
      simp [RestoreQueue.retainActive, List.mem_filter]
    simp only [Option.any_some, Bool.and_eq_false_iff, decide_eq_false_iff_not, not_not]
    constructor
    · intro h'
      by_cases hruns : s.runs key name = true
      · exact .inl ((hactive key).mp (h' hruns)).2
      · exact .inr (Bool.not_eq_true _ ▸ hruns)
    · rintro hkept hruns
      rcases hkept with hlisted | hidle
      · exact (hactive key).mpr ⟨h hruns, hlisted⟩
      · exact absurd (show s.runs key name = true from hruns) (by simp [hidle])

/-- **One step**: the slot of a restore that runs is lost only to the reaper, or to a release of the
    replica's own. -/
theorem Held.step_iff (h : s.Held key name) (e : SlotEvent) (hother : e.releases key = false) :
    (s.step ctx e).Held key name ↔ s.reapsRunning key name e = false := by
  cases e with
  | replicaCreated key' spec => exact iff_of_true (h.replicaCreated key' spec) rfl
  | restoreCreated key' r => exact iff_of_true (h.restoreCreated key' r) rfl
  | restoringPatched key' name' => exact iff_of_true (h.restoringPatched key' name') rfl
  | slotMarked key' name' => exact iff_of_true (h.slotMarked key' name') rfl
  | restoringEnded key' name' succeeded =>
    exact iff_of_true (h.restoringEnded key' name' succeeded) rfl
  | restoreDeleted key' name' => exact iff_of_true (h.restoreDeleted key' name') rfl
  | enqueued key' now =>
    refine iff_of_true (h.of id ?_) rfl
    intro hactive
    show key ∈ (s.cluster.queue.enqueue key' now).active
    rwa [RestoreQueue.enqueue_active]
  | slotReleased key' =>
    have hne : key' ≠ key := by simpa [SlotEvent.releases] using hother
    exact iff_of_true (h.of id (RestoreQueue.mem_releaseRestoreSlot hne)) rfl
  | reaperLists => exact iff_of_true (h.of id id) rfl
  | reaperRetains => exact h.reaperRetains_iff

end SlotState

/-! ## Every interleaving -/

/-- **A restore that has started keeps its replica's slot for as long as it is in Restoring**, in every
    interleaving in which the replica itself gives none back, exactly when the reaper never uses a list
    that lacks the replica of a restore that runs. -/
theorem slot_held_iff_not_reaped {ctx : Context} (limit : Nat) (key : ReplicaKey) (name : String)
    (es : List SlotEvent) (hothers : ∀ e ∈ es, e.releases key = false) :
    Always (SlotState.step ctx) (SlotState.Held key name) { cluster := { limit := limit } } es ↔
      Meets (SlotState.step ctx) (fun s e => s.reapsRunning key name e = false)
        { cluster := { limit := limit } } es := by
  refine always_iff_meets_of (I := fun _ => True) (D := fun e => e.releases key = false)
    (fun _ _ _ _ => trivial) ?_ trivial ?_ hothers
  · intro s e hother _ hheld
    exact hheld.step_iff e hother
  · intro hruns
    cases hruns

/-- A replica with a restore that has not started. -/
def createdRestore : List SlotEvent :=
  [.replicaCreated ⟨"a", "r"⟩ plainSpec, .restoreCreated ⟨"a", "r"⟩ (plainRestore 0 "r-1" "s" {})]

/-- The two halves of the start. -/
def startsRestore : List SlotEvent :=
  [.restoringPatched ⟨"a", "r"⟩ "r-1", .slotMarked ⟨"a", "r"⟩ "r-1"]

/-- The reaper makes its list before the restore starts, and uses it after; then it does its round again. -/
def reapedWhileRestoring : List SlotEvent :=
  createdRestore ++ [.reaperLists] ++ startsRestore ++ [.reaperRetains, .reaperLists, .reaperRetains]

/-- **The slot of a running restore is dropped, and no later round of the reaper gives it back.** -/
theorem running_restore_loses_slot :
    (∀ e ∈ reapedWhileRestoring, e.releases ⟨"a", "r"⟩ = false) ∧
      ¬ Always (SlotState.step .hourly) (SlotState.Held ⟨"a", "r"⟩ "r-1") { cluster := { limit := 2 } }
        reapedWhileRestoring ∧
      (runFrom (SlotState.step .hourly) { cluster := { limit := 2 } } reapedWhileRestoring).runs
        ⟨"a", "r"⟩ "r-1" = true ∧
      (runFrom (SlotState.step .hourly) { cluster := { limit := 2 } }
        reapedWhileRestoring).cluster.queue.active = [] := by
  refine ⟨by decide, ?_, by decide +kernel, by decide +kernel⟩
  intro h
  have hlast := h.last (by decide +kernel)
  revert hlast
  decide +kernel

/-- The reaper does its whole round while the restore runs. -/
def reapedAround : List SlotEvent :=
  createdRestore ++ startsRestore ++ [.slotReleased ⟨"b", "r"⟩, .reaperLists, .reaperRetains]

theorem running_restore_keeps_slot :
    (runFrom (SlotState.step .hourly) { cluster := { limit := 2 } } reapedAround).runs
        ⟨"a", "r"⟩ "r-1" = true ∧
      Always (SlotState.step .hourly) (SlotState.Held ⟨"a", "r"⟩ "r-1") { cluster := { limit := 2 } }
        reapedAround :=
  ⟨by decide +kernel,
    (slot_held_iff_not_reaped 2 ⟨"a", "r"⟩ "r-1" reapedAround (by decide)).mpr (by decide +kernel)⟩

end RestoreOperator
