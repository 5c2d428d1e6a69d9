import Mathlib.Data.List.Dedup
import RestoreOperator.System.Invariants
import RestoreOperator.System.Cluster

/-!
# `Correctness.Concurrency` — the limit on concurrent restores

A due replica asks the queue for a free slot, but does not take one: the slot is taken when the restore
starts, and before that a Job lists the snapshots and another pass creates the restore.  Every replica
that asks in between is let in as well.  The limit holds where a replica is let in only while fewer
than the limit are on their way, counting from the Job on.
-/

namespace RestoreOperator

open Calls Relation

variable {ctx : Context} {w₀ : World}

/-- A restore that is on its way to Restoring, or there. -/
def Restore.isStarting (r : Restore) : Bool :=
  r.isPending || r.inPhase .restoring

/-- **The replica is on its way**: it lists its snapshots, or has a restore that starts. -/
def underWay (w : World) : Bool :=
  (w.job .snapshotList).any (fun job => classifyJob job ≠ .failed) ||
    w.restores.any Restore.isStarting

/-- **The limit is overlooked**: a replica is let in while as many others as the limit allows are on
    their way. -/
def overlooksLimit (c : Cluster) : ClusterEvent → Bool
  | .replica i e =>
    c.replicas[i]?.any (fun w => !underWay w && isAdmitted (c.view w) e) &&
      c.limit ≤ c.replicas.countP underWay
  | _ => false

/-! ## One replica -/

/-- A slot that is on its way to Restoring, or there. -/
def Slot.isStarting (s : Slot) : Prop :=
  s.phase = none ∨ s.phase = some .pending ∨ s.phase = some .restoring

/-- The replica is on its way, in the abstract state. -/
def Control.underWay (a : Control) : Prop :=
  (∃ job, a.snapshotJob = some job ∧ classifyJob job ≠ .failed) ∨ ∃ s ∈ a.slots, s.isStarting

theorem isStarting_iff {r : Restore} : r.isStarting = true ↔ r.slot.isStarting := by
  simp only [Restore.isStarting, Restore.isPending, Restore.inPhase, Bool.or_eq_true, beq_iff_eq,
    Option.isNone_iff_eq_none, or_assoc]
  rfl

theorem underWay_iff_control {w : World} : underWay w = true ↔ (control w).underWay := by
  simp only [underWay, Bool.or_eq_true, Option.any_eq_true, decide_eq_true_eq, List.any_eq_true]
  apply or_congr Iff.rfl
  constructor
  · rintro ⟨r, hr, hstarting⟩
    exact ⟨r.slot, List.mem_map_of_mem hr, isStarting_iff.mp hstarting⟩
  · rintro ⟨s, hs, hstarting⟩
    obtain ⟨r, hr, rfl⟩ := List.mem_map.mp hs
    exact ⟨r, hr, isStarting_iff.mpr hstarting⟩

namespace Control.underWay

variable {a a' : Control}

/-- What is on its way after an act was so before, if the act neither lists snapshots nor adds a
    restore that starts. -/
theorem of_fewer (h : a'.underWay) (hjob : a'.snapshotJob = none ∨ a'.snapshotJob = a.snapshotJob)
    (hslots : ∀ s ∈ a'.slots, s.isStarting → s ∈ a.slots) : a.underWay := by
  rcases h with ⟨job, hsome, hlive⟩ | ⟨s, hs, hstarting⟩
  · rcases hjob with hnone | hsame
    · rw [hnone] at hsome
      cases hsome
    · exact .inl ⟨job, hsame ▸ hsome, hlive⟩
  · exact .inr ⟨s, hslots s hs hstarting, hstarting⟩

/-- An act that leaves the restores and the Job alone. -/
theorem of_same (h : a'.underWay) (hjob : a'.snapshotJob = a.snapshotJob)
    (hslots : a'.slots = a.slots) : a.underWay :=
  h.of_fewer (.inr hjob) fun _ hs _ => hslots ▸ hs

/-- An act that moves a restore past Restoring. -/
theorem of_setPhase (h : a'.underWay) {name : String} {ph : RestorePhase}
    (hph : ph ≠ .pending ∧ ph ≠ .restoring) (hjob : a'.snapshotJob = a.snapshotJob)
    (hslots : a'.slots = (a.setPhase name ph).slots) : a.underWay := by
  apply h.of_fewer (.inr hjob)
  intro s hs hstarting
  rcases mem_setPhase.mp (hslots ▸ hs) with ⟨t, _, _, rfl⟩ | ⟨hs, _⟩
  · rcases hstarting with hs | hs | hs
    · cases hs
    · exact absurd (Option.some.inj hs) hph.1
    · exact absurd (Option.some.inj hs) hph.2
  · exact hs

/-- An act that deletes a restore. -/
theorem of_drop (h : a'.underWay) {name : String} (hjob : a'.snapshotJob = a.snapshotJob)
    (hslots : a'.slots = (a.drop name).slots) : a.underWay :=
  h.of_fewer (.inr hjob) fun _ hs _ => (mem_drop.mp (hslots ▸ hs)).1

/-- An act that deletes a Job. -/
theorem of_dropJob {k : JobKey} (h : (a.dropJob k).underWay) : a.underWay := by
  refine h.of_fewer ?_ fun _ hs _ => hs
  by_cases hk : k = .snapshotList
  · exact .inl (if_pos hk)
  · exact .inr (if_neg hk)

end Control.underWay

/-- A restore that has not started is on its way. -/
theorem underWay_of_isPending {r : Restore} (hmem : r ∈ w₀.restores) (hr : r.isPending = true) :
    underWay w₀ = true := by
  have hany : w₀.restores.any Restore.isStarting = true :=
    List.any_eq_true.mpr ⟨r, hmem, by simp [Restore.isStarting, hr]⟩
  simp [underWay, hany]

/-- A pass that creates a restore found the list of snapshots. -/
theorem underWay_of_comesToCreate (h : comesToCreate ctx w₀ = true) : underWay w₀ = true := by
  simp only [comesToCreate, Bool.and_eq_true, Option.any_eq_true, decide_eq_true_eq] at h
  obtain ⟨⟨_, job, hjob, hsucceeded⟩, _⟩ := h
  refine underWay_iff_control.mpr (.inl ⟨job, hjob, ?_⟩)
  rw [hsucceeded]
  simp

theorem ReplicaAct.underWay {p : ReplicaPass} {a a' : Control} (h : ReplicaAct ctx p w₀ a a')
    (h' : a'.underWay) :
    a.underWay ∨ RestoreOperator.underWay w₀ = true ∨ isAdmitted w₀ (.replicaPass p) = true := by
  cases h with
  | activated => exact .inl (h'.of_setPhase (by simp) rfl rfl)
  | switchedOver => exact .inl (h'.of_setPhase (by simp) rfl rfl)
  | switchedOverReported => exact .inl (h'.of_setPhase (by simp) rfl rfl)
  | verifiedDeleted => exact .inl (h'.of_drop rfl rfl)
  | swept => exact .inl (h'.of_drop rfl rfl)
  | failedDeleted => exact .inl (h'.of_drop rfl rfl)
  | migrationJobDeleted => exact .inl h'.of_dropJob
  | snapshotJobDeleted => exact .inl h'.of_dropJob
  | restoreCreated _ _ hwhy => exact .inr (.inl (underWay_of_comesToCreate hwhy))
  | snapshotJobCreated htrigger hshould hjob _ hstart =>
    refine .inr (.inr ?_)
    simp [isAdmitted, htrigger, hshould, hjob, hstart]
  | _ => exact .inl (h'.of_same rfl rfl)

theorem RestoreAct.underWay {p : RestorePass} {r : Restore} {a a' : Control}
    (h : RestoreAct p w₀ r a a') (hmem : r ∈ w₀.restores) (h' : a'.underWay) :
    a.underWay ∨ RestoreOperator.underWay w₀ = true := by
  cases h with
  | pending hr => exact .inr (underWay_of_isPending hmem hr)
  | restoring hr => exact .inr (underWay_of_isPending hmem hr)
  | restoringMarked hr => exact .inr (underWay_of_isPending hmem hr)
  | jobDropped => exact .inl h'.of_dropJob
  | ready => exact .inl (h'.of_setPhase (by simp) rfl rfl)
  | migrating => exact .inl (h'.of_setPhase (by simp) rfl rfl)
  | switching => exact .inl (h'.of_setPhase (by simp) rfl rfl)
  | failed => exact .inl (h'.of_setPhase (by simp) rfl rfl)
  | _ => exact .inl (h'.of_same rfl rfl)

/-- **An act puts a replica on its way only if it was so, or is let in.** -/
theorem Act.underWay {e : Event} {a a' : Control} (h : Act ctx w₀ e a a') (h' : a'.underWay) :
    a.underWay ∨ RestoreOperator.underWay w₀ = true ∨ isAdmitted w₀ e = true := by
  cases h with
  | replica h => exact h.underWay h'
  | restore hr h => exact (h.underWay (List.mem_of_find?_eq_some hr) h').imp_right .inl
  | jobReported k report =>
    refine .inl ?_
    rcases h' with ⟨job, hjob, hlive⟩ | hslots
    · obtain ⟨j, hj, rfl⟩ := Option.map_eq_some_iff.mp hjob
      refine .inl ⟨j, hj, ?_⟩
      intro hfailed
      -- a Job that has failed gets no other report
      rw [if_neg fun h => by rw [hfailed] at h; cases h.2] at hlive
      exact hlive hfailed
    · exact .inr hslots
  | jobRemoved => exact .inl h'.of_dropJob
  | restoreDeleted => exact .inl (h'.of_drop rfl rfl)
  | _ => exact .inl (h'.of_same rfl rfl)

/-- **A step puts a replica on its way only if it was so, or is let in.** -/
theorem underWay_step {w : World} {e : Event} (h : underWay (step ctx w e) = true) :
    underWay w = true ∨ isAdmitted w e = true := by
  have hreach := step_acts ctx w e
  have h' := underWay_iff_control.mp h
  generalize control (step ctx w e) = a at hreach h'
  induction hreach with
  | refl => exact .inl (underWay_iff_control.mpr h')
  | tail _ hact ih =>
    rcases hact.underWay h' with h' | hwas | hin
    · exact ih h'
    · exact .inl hwas
    · exact .inr hin

/-! ## The cluster -/

namespace Cluster

@[simp] theorem underWay_view (c : Cluster) (w : World) : underWay (c.view w) = underWay w := rfl

@[simp] theorem underWay_restart (w : World) : underWay w.restart = underWay w := rfl

theorem restart_countP (c : Cluster) :
    c.restart.replicas.countP underWay = c.replicas.countP underWay := by
  simp [restart, List.countP_map, Function.comp_def]

/-- **No more replicas are on their way than the limit allows.** -/
def WithinLimit (c : Cluster) : Prop :=
  c.replicas.countP underWay ≤ c.limit

theorem WithinLimit.stepReplica {c : Cluster} {i : Nat} {w : World} {e : Event} (h : c.WithinLimit)
    (hw : c.replicas[i]? = some w) (hC : overlooksLimit c (.replica i e) = false) :
    (c.stepReplica ctx i w e).WithinLimit := by
  obtain ⟨hi, hget⟩ := List.getElem?_eq_some_iff.mp hw
  have hset : (c.replicas.set i (RestoreOperator.step ctx (c.view w) e)).countP underWay ≤ c.limit := by
    rw [List.countP_set hi, hget]
    cases hafter : underWay (RestoreOperator.step ctx (c.view w) e) with
    | false => exact (Nat.sub_le _ _).trans h
    | true =>
      cases hbefore : underWay w with
      | true =>
        -- it is counted already
        have hpos : 0 < c.replicas.countP underWay :=
          List.countP_pos_iff.mpr ⟨w, hget ▸ List.getElem_mem hi, hbefore⟩
        simp only [if_true]
        exact (Nat.sub_add_cancel hpos).le.trans h
      | false =>
        -- the replica was let in, so fewer than the limit are on their way
        have hin := (underWay_step hafter).resolve_left (by simp [hbefore])
        simp only [overlooksLimit, hw, Option.any_some, hbefore, hin, Bool.not_false, Bool.true_and,
          decide_eq_false_iff_not, not_le] at hC
        simpa using Nat.succ_le_of_lt hC
  unfold Cluster.stepReplica
  split
  · exact (restart_countP _).le.trans hset
  · exact hset

/-- **A step keeps the limit** unless it overlooks it. -/
theorem WithinLimit.step {c : Cluster} {e : ClusterEvent} (hC : overlooksLimit c e = false)
    (h : c.WithinLimit) : (Cluster.step ctx c e).WithinLimit := by
  cases e with
  | replicaCreated key spec =>
    simp only [Cluster.step]
    split
    · exact h
    · have hnew : [World.initial key spec].countP underWay = 0 := rfl
      simp only [WithinLimit, List.countP_append, hnew]
      exact h
  | replica i e =>
    cases hw : c.replicas[i]? with
    | none =>
      simp only [Cluster.step, hw]
      exact h
    | some w =>
      simp only [Cluster.step, hw]
      split
      · exact h.stepReplica hw hC
      · exact h
  | reaperLists => exact h
  | reaperRetains =>
    simp only [Cluster.step]
    split <;> exact h

/-- No step changes the limit. -/
theorem limit_step (c : Cluster) (e : ClusterEvent) : (step ctx c e).limit = c.limit := by
  cases e with
  | replicaCreated key spec =>
    simp only [step]
    split <;> rfl
  | replica i e =>
    simp only [step, stepReplica]
    split
    · rfl
    · split
      · split <;> rfl
      · rfl
  | reaperLists => rfl
  | reaperRetains =>
    simp only [step]
    split <;> rfl

/-- The replicas that restore are on their way. -/
theorem WithinLimit.restoring {c : Cluster} (h : c.WithinLimit) :
    c.liveKeys.dedup.length ≤ c.limit := by
  have hrestoring : c.replicas.countP isRestoring ≤ c.replicas.countP underWay := by
    apply List.countP_mono_left
    intro w _ hw
    obtain ⟨r, hr, hphase⟩ := List.any_eq_true.mp hw
    have hany : w.restores.any Restore.isStarting = true :=
      List.any_eq_true.mpr ⟨r, hr, by simp [Restore.isStarting, hphase]⟩
    simp [underWay, hany]
  calc c.liveKeys.dedup.length
      ≤ c.liveKeys.length := (List.dedup_sublist _).length_le
    _ = c.replicas.countP isRestoring := by
        rw [liveKeys, List.length_map, List.countP_eq_length_filter]
    _ ≤ c.limit := hrestoring.trans h

end Cluster

/-- **No more replicas restore at once than the limit allows**, in every run of a cluster in which no
    replica is let in while as many others as the limit allows are on their way. -/
theorem restoring_within_limit (limit : Nat) (es : List ClusterEvent)
    (hes : Meets (Cluster.step ctx) (fun c e => overlooksLimit c e = false) { limit := limit } es) :
    (Cluster.run ctx limit es).liveKeys.dedup.length ≤ limit := by
  have hkept : (Cluster.run ctx limit es).WithinLimit ∧ (Cluster.run ctx limit es).limit = limit := by
    refine run_invariant (I := fun c => c.WithinLimit ∧ c.limit = limit)
      (fun c e hC hI => ⟨hI.1.step hC, (Cluster.limit_step c e).trans hI.2⟩) ⟨Nat.zero_le _, rfl⟩ hes
  exact hkept.1.restoring.trans_eq hkept.2

/-! ## Two replicas and one slot -/

/-- Two replicas that were just created. -/
def twoReplicas : List ClusterEvent :=
  [.replicaCreated ⟨"a", "r"⟩ plainSpec, .replicaCreated ⟨"b", "r"⟩ plainSpec]

/-- A replica starts its restore. -/
def startRestoringAt (i : Nat) : List ClusterEvent :=
  [.replica i (.restorePass "r-10" { now := 20 }), .replica i (.restorePass "r-10" { now := 20 })]

/-- The second replica comes when the first restores. -/
def oneAfterTheOther : List ClusterEvent :=
  twoReplicas ++ (listSnapshots 0 "s").map (.replica 0) ++ startRestoringAt 0 ++
    (listSnapshots 30 "s").map (.replica 1)

theorem second_replica_waits :
    (Cluster.run .hourly 1 oneAfterTheOther).liveKeys = [⟨"a", "r"⟩] ∧
      (Cluster.run .hourly 1 oneAfterTheOther).liveKeys.dedup.length ≤ 1 :=
  ⟨by decide +kernel, restoring_within_limit 1 oneAfterTheOther (by decide +kernel)⟩

/-- Both replicas ask before either has taken the slot. -/
def bothAtOnce : List ClusterEvent :=
  twoReplicas ++ (listSnapshots 0 "s").map (.replica 0) ++ (listSnapshots 0 "s").map (.replica 1) ++
    startRestoringAt 0 ++ startRestoringAt 1

theorem both_replicas_are_let_in :
    ¬ (Cluster.run .hourly 1 bothAtOnce).liveKeys.dedup.length ≤ 1 := by
  decide +kernel

end RestoreOperator
