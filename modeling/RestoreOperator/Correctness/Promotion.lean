import RestoreOperator.Correctness.Concurrency

/-!
# `Correctness.Promotion` — what a promoted replica finds

A replica that waits is promoted when another gives its slot back: its key moves to the slots taken.
Its next pass asks the queue as every due pass does, and the queue counts the slot the replica was given
against it.  It is let in where one more slot is free, and it waits again otherwise; with every slot
taken, which is why it waited, it is refused on account of its own promotion.
-/

namespace RestoreOperator

open Calls Relation

variable {ctx : Context}

/-- **The event promotes the replica of that key**: it is another replica's, and it gives the key a slot. -/
def Cluster.promotes (ctx : Context) (c : Cluster) (key : ReplicaKey) : ClusterEvent → Bool
  | .replica i e =>
    c.replicas[i]?.any (fun w => w.key ≠ key) && key ∉ c.queue.active &&
      key ∈ (c.step ctx (.replica i e)).queue.active
  | _ => false

/-- **The admission step lets the replica start**: it does not make it wait, and the Job that lists the
    snapshots is there if its creation succeeds. -/
def Admits (p : ReplicaPass) (w : World) : Prop :=
  ∀ ρ, (startRestore p ρ w).state.queue = w.queue ∧
    (ρ .createSnapshotJob = .ok → ((startRestore p ρ w).state.job .snapshotList).isSome = true)

/-! ## The admission step -/

/-- A replica that is refused lists nothing. -/
theorem job_enqueueRestore (p : ReplicaPass) (ρ : Call → Reply Error) (w : World) (k : JobKey) :
    (enqueueRestore p ρ w).state.job k = w.job k := by
  have hquiet : Prog.Quiet (fun w : World => w.job k) (enqueueRestore p) := by
    refine Prog.Quiet.bind (Prog.Quiet.modify fun _ => rfl) fun _ => ?_
    refine Prog.Quiet.bind Prog.Quiet.get fun w => ?_
    exact Prog.Quiet.bind (Prog.Quiet.call fun _ => rfl) fun _ => Prog.Quiet.ret _
  exact hquiet ρ w

/-- **The admission step goes by the number of slots taken**, and by nothing else. -/
theorem admits_iff {p : ReplicaPass} {w : World} (hjob : w.job .snapshotList = none) :
    Admits p w ↔ w.queue.active.length < w.maxConcurrentRestores := by
  have hstart : w.queue.canStart w.maxConcurrentRestores = true ↔
      w.queue.active.length < w.maxConcurrentRestores := decide_eq_true_iff
  rw [← hstart]
  constructor
  · intro h
    by_contra hfull
    have hwaits : startRestore p (fun _ => .ok) w = enqueueRestore p (fun _ => .ok) w := by
      show (if (!w.queue.canStart w.maxConcurrentRestores) = true then enqueueRestore p else _) _ w = _
      rw [if_pos (by simpa using hfull)]
    have hlists := (h fun _ => .ok).2 rfl
    rw [hwaits, job_enqueueRestore, hjob] at hlists
    cases hlists
  · intro hfree ρ
    have hcreates : startRestore p ρ w =
        (Op.createJob .createSnapshotJob (buildSnapshotListJob p)
          (fun uid => [.snapshotJobCreated uid]) >>= fun _ => pure (⟨10⟩ : Action)) ρ w := by
      show (if (!w.queue.canStart w.maxConcurrentRestores) = true then enqueueRestore p else _) ρ w = _
      rw [if_neg (by simp [hfree])]
    rw [hcreates]
    constructor
    · have hquiet : Prog.Quiet (fun w : World => w.queue)
          (Op.createJob .createSnapshotJob (buildSnapshotListJob p)
            (fun uid => [.snapshotJobCreated uid]) >>= fun _ => pure (⟨10⟩ : Action)) := by
        refine Prog.Quiet.bind ?_ fun _ => Prog.Quiet.ret _
        refine Prog.Quiet.bind Prog.Quiet.get fun w' => ?_
        split
        · exact Prog.Quiet.fail _
        · exact Prog.Quiet.call fun _ => rfl
      exact hquiet ρ w
    · intro hok
      show ((Prog.andThen _ _ ρ w).state.job .snapshotList).isSome = true
      unfold Prog.andThen
      rw [createJob_of_none (w := w) hjob]
      simp only [Prog.call, hok]
      show ((w.addJob (buildSnapshotListJob p) fun uid => [.snapshotJobCreated uid]).job
        .snapshotList).isSome = true
      rw [job_addJob, hjob]
      rfl

/-! ## Where a promotion comes from -/

/-- No act changes whose queue it is. -/
theorem Act.key_eq {w₀ : World} {e : Event} {a a' : Control} (h : Act ctx w₀ e a a') :
    a'.key = a.key := by
  cases h with
  | replica h => cases h <;> rfl
  | restore _ h => cases h <;> rfl
  | _ => rfl

/-- **Another replica's act gives a key a slot only by giving its own back.** -/
theorem Act.promoted {w₀ : World} {e : Event} {a a' : Control} {key : ReplicaKey}
    (h : Act ctx w₀ e a a') (hown : e.isOwn = true) (hother : a.key ≠ key)
    (hactive : key ∈ a'.queue.active) :
    key ∈ a.queue.active ∨
      ((a.queue.remove a.key).tryPromote a.limit).2 = some key ∧
        a'.queue = a.queue.releaseRestoreSlot a.key a.limit := by
  have hreleased : a'.queue = a.queue.releaseRestoreSlot a.key a.limit →
      key ∈ a.queue.active ∨
        ((a.queue.remove a.key).tryPromote a.limit).2 = some key ∧
          a'.queue = a.queue.releaseRestoreSlot a.key a.limit := by
    intro hqueue
    have hsub : ∀ k ∈ (a.queue.remove a.key).active, k ∈ a.queue.active :=
      fun k hk => (List.mem_filter.mp hk).1
    rw [hqueue, RestoreQueue.releaseRestoreSlot] at hactive
    unfold RestoreQueue.tryPromote at hactive
    cases hpending : (a.queue.remove a.key).pending with
    | nil =>
      rw [hpending] at hactive
      exact .inl (hsub key hactive)
    | cons first rest =>
      obtain ⟨k, since⟩ := first
      rw [hpending] at hactive
      by_cases hfree : (a.queue.remove a.key).active.length < a.limit
      · simp only [if_pos hfree, List.mem_append, List.mem_singleton] at hactive
        rcases hactive with hold | rfl
        · exact .inl (hsub key hold)
        · refine .inr ⟨?_, hqueue⟩
          simp only [RestoreQueue.tryPromote, hpending, if_pos hfree]
      · simp only [if_neg hfree] at hactive
        exact .inl (hsub key hactive)
  cases h with
  | replica h =>
    cases h with
    | released => exact hreleased rfl
    | enqueued =>
      refine .inl ?_
      simpa only [RestoreQueue.enqueue, apply_ite, ite_self] using hactive
    | _ => exact .inl hactive
  | restore _ h =>
    cases h with
    | released => exact hreleased rfl
    | restoringMarked =>
      simp only [RestoreQueue.markActive] at hactive
      split at hactive
      · exact .inl hactive
      · rcases List.mem_append.mp hactive with hold | hkey
        · exact .inl hold
        · exact absurd (List.mem_singleton.mp hkey).symm hother
    | _ => exact .inl hactive
  | forgotten => cases hactive
  | queueChanged => cases hown
  | _ => exact .inl hactive

/-- A step of a replica leaves the queue that its acts lead to, or an empty one. -/
theorem Cluster.queue_stepReplica (c : Cluster) (i : Nat) (w : World) (e : Event) :
    (c.stepReplica ctx i w e).queue = (RestoreOperator.step ctx (c.view w) e).queue ∨
      (c.stepReplica ctx i w e).queue = {} := by
  unfold Cluster.stepReplica
  split
  · exact .inr rfl
  · exact .inl rfl

/-- **A promotion is a release of another replica's slot**: on the way through the step, that replica
    gave its slot back and the key was the next one waiting. -/
theorem Cluster.promotes_release {c : Cluster} {i : Nat} {e : Event} {key : ReplicaKey}
    (h : c.promotes ctx key (.replica i e) = true) :
    ∃ w, c.replicas[i]? = some w ∧ w.key ≠ key ∧
      ∃ a : Control, a.key = w.key ∧
        ((a.queue.remove w.key).tryPromote a.limit).2 = some key := by
  simp only [Cluster.promotes, Bool.and_eq_true, Option.any_eq_true, decide_eq_true_eq] at h
  obtain ⟨⟨⟨w, hw, hother⟩, hbefore⟩, hafter⟩ := h
  refine ⟨w, hw, hother, ?_⟩
  simp only [Cluster.step, hw] at hafter
  by_cases hown : e.isOwn = true
  · rw [if_pos hown] at hafter
    have hqueue : key ∈ (control (RestoreOperator.step ctx (c.view w) e)).queue.active := by
      rcases @Cluster.queue_stepReplica ctx c i w e with hsame | hempty
      · rwa [hsame] at hafter
      · rw [hempty] at hafter
        cases hafter
    -- along the acts, the first one after which the key is active is a release
    have hreach := step_acts ctx (c.view w) e
    generalize control (RestoreOperator.step ctx (c.view w) e) = a at hreach hqueue
    have hkey : ∀ {a}, ReflTransGen (Act ctx (c.view w) e) (control (c.view w)) a → a.key = w.key := by
      intro a hpast
      induction hpast with
      | refl => rfl
      | tail _ hact ih => exact hact.key_eq.trans ih
    induction hreach with
    | refl => exact absurd hqueue hbefore
    | tail hpast hact ih =>
      rcases hact.promoted hown (by rw [hkey hpast]; exact hother) hqueue with hold | ⟨hnext, _⟩
      · exact ih hold
      · exact ⟨_, hkey hpast, by rw [← hkey hpast]; exact hnext⟩
  · rw [if_neg hown] at hafter
    exact absurd hafter hbefore

/-! ## What the promoted replica finds -/

/-- The cluster keeps its limit all along a run. -/
theorem Cluster.limit_run (limit : Nat) (es : List ClusterEvent) :
    (Cluster.run ctx limit es).limit = limit :=
  run_invariant (C := fun _ _ => True) (I := fun c => c.limit = limit)
    (fun c e _ h => (Cluster.limit_step c e).trans h) rfl (meets_of_forall (fun _ _ => trivial) _ es)

/-- A promoted replica has its slot, as long as no event takes it away. -/
theorem Cluster.active_of_promotes {c : Cluster} {key : ReplicaKey} {e : ClusterEvent}
    {since : List ClusterEvent} (hpromoted : c.promotes ctx key e = true)
    (hkept : Meets (Cluster.step ctx) (fun c e => key ∈ (c.step ctx e).queue.active) (c.step ctx e)
      since) :
    key ∈ (runFrom (Cluster.step ctx) (c.step ctx e) since).queue.active := by
  refine run_invariant (I := fun c : Cluster => key ∈ c.queue.active) (fun _ _ hkeeps _ => hkeeps) ?_
    hkept
  cases e with
  | replica i e =>
    simp only [Cluster.promotes, Bool.and_eq_true, decide_eq_true_eq] at hpromoted
    exact hpromoted.2
  | _ => cases hpromoted

/-- **A promoted replica is let in exactly when one slot beside its own is free.**  It was promoted at
    some point of the run and has kept its slot since, and its next due pass comes to ask. -/
theorem promoted_admitted_iff (limit : Nat) (past : List ClusterEvent) (e : ClusterEvent)
    (since : List ClusterEvent) (i : Nat) (w : World) (p : ReplicaPass)
    (hpromoted : (Cluster.run ctx limit past).promotes ctx w.key e = true)
    (hkept : Meets (Cluster.step ctx) (fun c e => w.key ∈ (c.step ctx e).queue.active)
      (Cluster.run ctx limit (past ++ [e])) since)
    (_hw : (Cluster.run ctx limit (past ++ [e] ++ since)).replicas[i]? = some w)
    (hjob : w.job .snapshotList = none) :
    Admits p ((Cluster.run ctx limit (past ++ [e] ++ since)).view w) ↔
      ((Cluster.run ctx limit (past ++ [e] ++ since)).queue.active.erase w.key).length + 1 < limit := by
  have hlimit := @Cluster.limit_run ctx limit (past ++ [e] ++ since)
  have hactive : w.key ∈ (Cluster.run ctx limit (past ++ [e] ++ since)).queue.active := by
    unfold Cluster.run at hkept hpromoted ⊢
    rw [runFrom_append, runFrom_append] at *
    exact Cluster.active_of_promotes hpromoted hkept
  generalize Cluster.run ctx limit (past ++ [e] ++ since) = c at *
  have hpos : 0 < c.queue.active.length := List.length_pos_of_mem hactive
  rw [admits_iff (w := c.view w) hjob, List.length_erase_of_mem hactive]
  show c.queue.active.length < c.limit ↔ _
  rw [hlimit]
  omega

/-! ## The last slot -/

/-- The first replica restores and the second waits; then the first fails, and the second is next. -/
def waitsForTheFirst : List ClusterEvent :=
  twoReplicas ++ (listSnapshots 0 "s").map (.replica 0) ++ startRestoringAt 0 ++
    [.replica 1 (.replicaPass { now := 30 }),
      .replica 0 (.jobReported (.restore "r-10") { failed := some 9 })]

/-- The restore of the first replica fails, and its slot is given back. -/
def firstFails : ClusterEvent := .replica 0 (.restorePass "r-10" { now := 40 })

/-- The second replica of a cluster. -/
def Cluster.second (c : Cluster) : World :=
  c.replicas[1]?.getD (.initial ⟨"b", "r"⟩ plainSpec)

/-- **With one slot in all, the promoted replica is refused**, and waits again while it holds the slot. -/
theorem promoted_replica_waits_again :
    (Cluster.run .hourly 1 waitsForTheFirst).promotes .hourly ⟨"b", "r"⟩ firstFails = true ∧
      ¬ Admits { now := 50 }
        ((Cluster.run .hourly 1 (waitsForTheFirst ++ [firstFails])).view
          (Cluster.run .hourly 1 (waitsForTheFirst ++ [firstFails])).second) ∧
      (Cluster.run .hourly 1
        (waitsForTheFirst ++ [firstFails, .replica 1 (.replicaPass { now := 50 })])).queue =
        { active := [⟨"b", "r"⟩], pending := [(⟨"b", "r"⟩, 50)] } := by
  refine ⟨by decide +kernel, ?_, by decide +kernel⟩
  rw [admits_iff (by decide +kernel)]
  decide +kernel

/-- Of two slots one is freed by the reaper, with nobody promoted, before the first replica fails. -/
def freedByTheReaper : List ClusterEvent :=
  twoReplicas ++ [.replicaCreated ⟨"c", "r"⟩ plainSpec] ++
    (listSnapshots 0 "s").map (.replica 0) ++ startRestoringAt 0 ++
    (listSnapshots 0 "s").map (.replica 2) ++ startRestoringAt 2 ++
    [.replica 1 (.replicaPass { now := 30 }), .replica 2 (.restoreDeleted "r-10"), .reaperLists,
      .reaperRetains, .replica 0 (.jobReported (.restore "r-10") { failed := some 9 })]

theorem promoted_replica_starts :
    (Cluster.run .hourly 2 (freedByTheReaper ++ [firstFails])).queue =
        { active := [⟨"b", "r"⟩], pending := [] } ∧
      Admits { now := 50 }
        ((Cluster.run .hourly 2 (freedByTheReaper ++ [firstFails] ++ [])).view
          (Cluster.run .hourly 2 (freedByTheReaper ++ [firstFails] ++ [])).second) := by
  refine ⟨by decide +kernel, ?_⟩
  have hkey : (Cluster.run .hourly 2 (freedByTheReaper ++ [firstFails] ++ [])).second.key =
      ⟨"b", "r"⟩ := by decide +kernel
  refine (promoted_admitted_iff 2 freedByTheReaper firstFails [] 1 _ { now := 50 }
    (by rw [hkey]; decide +kernel) trivial ?_ (by decide +kernel)).mpr (by rw [hkey]; decide +kernel)
  have hsome : ((Cluster.run .hourly 2 (freedByTheReaper ++ [firstFails] ++ [])).replicas[1]?).isSome =
      true := by decide +kernel
  obtain ⟨w, hw⟩ := Option.isSome_iff_exists.mp hsome
  rw [Cluster.second, hw, Option.getD_some]

end RestoreOperator
