import RestoreOperator.System.RestorePass
import RestoreOperator.System.Restores

/-!
# `System.Failing` — where a restore is failed

A pass fails its restore where the Job that restores the snapshot or the Job that detects the version came
to nothing, where the Deployment was not ready in time, and where a migration finds no application database.
A pass that comes to none of these does not mark the restore Failed.
-/

namespace RestoreOperator

open Calls Calls.Prog

/-! ## The four places -/

/-- The watch a look at the reindex of a restore leaves. -/
def observedWatch (p : RestorePass) (previous : Option Watch) : Option Watch :=
  if (p.replies .observeReindex).isOk then some (Watch.record previous p.reindexProgress p.now)
  else previous.map (·.unobserved p.now)

/-- What the operator remembers of the reindex of a restore when it has to judge it. -/
def reindexWatch (p : RestorePass) (r : Restore) (w : World) : Option Watch :=
  let previous := (w.reindexWatches.find? fun e => e.1 == r.name).map (·.2)
  if previous.any fun prev => !prev.needsObservation p.now then previous else observedWatch p previous

/-- A reindex that still moves holds the restore back. -/
def waitsForReindex (p : RestorePass) (r : Restore) (w : World) : Bool :=
  w.replica.spec.deploymentReadyTimeout.isNone &&
    (reindexWatch p r w).any fun watch => watch.verdict p.now = .wait

/-- The Deployment of a restore is out of time, and its pod not ready. -/
def readinessSpent (ctx : Context) (p : RestorePass) (r : Restore) (w : World) : Bool :=
  ((w.deployment r.name).map (·.readyReplicas)).getD 0 = 0 &&
    (r.status.restoredAt.any fun restoredAt =>
      p.now - restoredAt > deploymentReadyTimeout w.replica.spec.deploymentReadyTimeout
        r.spec.snapshotSize ctx.deploymentReadyTimeoutSecs) &&
    !waitsForReindex p r w

/-- The Job that detects the version came to nothing. -/
def versionUnknown (p : RestorePass) (job : Job) : Bool :=
  if (jobCounts job).1 > 0 then
    !((p.replies .readVersion).isOk && (p.postgresVersion.any fun v => v ≠ ""))
  else (jobCounts job).2 > job.backoffLimit.getD 2

/-- The target of a migration was found to have no application database. -/
def databaseMissing : Reply Error → Bool
  | .refused e | .lost e => e = .noApplicationDatabase
  | _ => false

/-- **A pass comes to failing its restore.** -/
def comesToFailed (ctx : Context) (p : RestorePass) (r : Restore) (w : World) : Bool :=
  match r.status.phase with
  | some .restoring =>
    (w.job (.restore r.name)).any fun job =>
      (jobCounts job).1 = 0 && (jobCounts job).2 > job.backoffLimit.getD 3
  | some .ready =>
    if r.status.postgresVersion.isNone then
      (w.job (.versionDetect r.name)).any (versionUnknown p)
    else readinessSpent ctx p r w
  | some .migrating => r.spec.migrateTo.isSome && databaseMissing (p.replies .migratingDiscover)
  | _ => false

/-! ## The other passes do not mark it -/

section Avoiding

variable {ctx : Context} {p : RestorePass} {r : Restore} {w : World} {ρ : Call → Reply Error}

theorem avoids_reconcilePending : Avoids ρ .patchFailed (reconcilePending p r) w := by
  refine Avoids.bind (Avoids.when fun _ => Avoids.call _ (by simp)) fun _ _ _ => ?_
  refine Avoids.bind (Avoids.bind (Avoids.read _ (by simp)) fun jobs _ _ => ?_) fun _ _ _ => ?_
  · refine Avoids.each fun k _ _ => ?_
    exact Avoids.bind (Avoids.bestEffort (Avoids.call _ (by simp))) fun _ _ _ => Avoids.ret _
  refine Avoids.bind (Avoids.bind (Avoids.read _ (by simp)) fun pvcs _ _ => ?_) fun _ _ _ => ?_
  · split
    · exact Avoids.ret _
    · exact Avoids.bind (avoids_getReplica (by simp)) fun _ _ _ => Avoids.call _ (by simp)
  refine Avoids.bind (Avoids.bind (Avoids.read _ (by simp)) fun current _ _ => ?_) fun _ _ _ => ?_
  · cases current with
    | none => exact Avoids.bind (avoids_getReplica (by simp)) fun _ _ _ => Avoids.call _ (by simp)
    | some current =>
      dsimp only
      split
      · exact Avoids.bind (Avoids.bestEffort (Avoids.call _ (by simp))) fun _ _ _ => Avoids.ret _
      · exact Avoids.ret _
  refine Avoids.bind (Avoids.call _ (by simp)) fun _ _ _ => ?_
  exact Avoids.bind (Avoids.modify _) fun _ _ _ => Avoids.ret _

/-- The Job a look finds is the Job that is there. -/
theorem getJob_eq_done {c : Call} {k : JobKey} {job : Option Job} {w' : World}
    (h : Op.getJob c k ρ w = .done job w') : job = w.job k ∧ w' = w :=
  read_eq_done h

theorem avoids_reconcileRestoring
    (h : ((w.job (.restore r.name)).any fun job =>
      (jobCounts job).1 = 0 && (jobCounts job).2 > job.backoffLimit.getD 3) = false) :
    Avoids ρ .patchFailed (reconcileRestoring p r) w := by
  have hrunning : ∀ w', Avoids ρ .patchFailed (reconcileRestoring.stillRunning r) w' := fun w' =>
    Avoids.bind (Avoids.call _ (by simp)) fun _ _ _ => Avoids.ret _
  refine Avoids.bind (Avoids.read _ (by simp)) fun existing w₁ hread => ?_
  obtain ⟨hjob, rfl⟩ := getJob_eq_done hread
  cases existing with
  | none =>
    refine Avoids.bind (avoids_getReplica (by simp)) fun replica _ _ => ?_
    refine Avoids.bind ?_ fun _ _ _ => ?_
    · unfold ensureRunId
      split
      · split
        · exact Avoids.ret _
        · exact Avoids.bind (Avoids.call _ (by simp)) fun _ _ _ => Avoids.ret _
      · exact Avoids.ret _
    exact Avoids.bind (avoids_createJob (by simp)) fun _ w' _ => hrunning w'
  | some job =>
    dsimp only
    split
    · refine Avoids.bind (Avoids.attempt (Avoids.ask _ (by simp))) fun version _ _ => ?_
      refine Avoids.bind (Avoids.call _ (by simp)) fun _ _ _ => ?_
      exact Avoids.bind (Avoids.bestEffort (Avoids.call _ (by simp))) fun _ _ _ => Avoids.ret _
    split
    · rename_i hnone hmany
      rw [← hjob, Option.any_some, Bool.and_eq_false_iff] at h
      simp only [decide_eq_false_iff_not] at h
      omega
    · exact hrunning _

theorem avoids_detectVersion
    (h : ((w.job (.versionDetect r.name)).any (versionUnknown p)) = false) :
    Avoids p.replies .patchFailed (detectVersion p r) w := by
  have hdelete : ∀ w', Avoids p.replies .patchFailed (detectVersion.deleteVersionJob r) w' := fun w' =>
    Avoids.bind (Avoids.bestEffort (Avoids.call _ (by simp))) fun _ _ _ => Avoids.ret _
  refine Avoids.bind (Avoids.read _ (by simp)) fun existing w₁ hread => ?_
  obtain ⟨hjob, rfl⟩ := getJob_eq_done hread
  cases existing with
  | none => exact Avoids.bind (avoids_createJob (by simp)) fun _ _ _ => Avoids.ret _
  | some job =>
    rw [← hjob, Option.any_some] at h
    dsimp only
    split
    · rename_i hsucceeded
      simp only [versionUnknown, if_pos hsucceeded, Bool.not_eq_false', Bool.and_eq_true] at h
      obtain ⟨hok, hversion⟩ := h
      have hask : Prog.attempt (Prog.ask .readVersion p.postgresVersion) p.replies w₁ =
          .done (.ok p.postgresVersion) w₁ := by
        rw [Prog.attempt, ask_of_ok hok]
      refine Avoids.bind (Avoids.attempt (Avoids.ask _ (by simp))) fun version w₂ hdone => ?_
      obtain ⟨rfl, rfl⟩ := Outcome.done.inj (hask.symm.trans hdone)
      refine Avoids.bind (hdelete _) fun _ _ _ => ?_
      cases hknown : p.postgresVersion with
      | none => simp [hknown] at hversion
      | some v =>
        have hnonempty : v ≠ "" := by simpa [hknown] using hversion
        dsimp only
        rw [if_neg hnonempty]
        exact Avoids.bind (Avoids.call _ (by simp)) fun _ _ _ => Avoids.ret _
    · rename_i hnone
      simp only [versionUnknown, if_neg hnone, decide_eq_false_iff_not] at h
      rw [if_neg h]
      exact Avoids.ret _

/-- The verdict of a look at a reindex is that of the watch it leaves. -/
theorem observe_eq_done {previous : Option Watch} {v : Verdict} {w' : World}
    (h : reindexVerdict.observe p r previous p.replies w = .done v w') :
    v = ((observedWatch p previous).map (·.verdict p.now)).getD .notReindexing := by
  obtain ⟨seen, w₁, hseen, hrest⟩ := bind_eq_done h
  unfold Prog.attempt Prog.ask Prog.read at hseen
  cases hreply : p.replies .observeReindex <;> rw [hreply] at hseen <;> cases hseen
  case ok =>
    obtain ⟨_, w₂, _, hreturn⟩ := bind_eq_done hrest
    cases hreturn
    simp [observedWatch, hreply]
  all_goals
    cases previous with
    | none =>
      cases hrest
      simp [observedWatch, hreply, Reply.isOk]
    | some prev =>
      obtain ⟨_, w₂, _, hreturn⟩ := bind_eq_done hrest
      cases hreturn
      simp [observedWatch, hreply, Reply.isOk]

theorem reindexVerdict_eq_done {v : Verdict} {w' : World}
    (h : reindexVerdict p r p.replies w = .done v w') :
    v = ((reindexWatch p r w).map (·.verdict p.now)).getD .notReindexing := by
  obtain ⟨w₁, w₂, hget, hrest⟩ := bind_eq_done h
  cases hget
  unfold reindexWatch
  cases hprevious : (w.reindexWatches.find? fun e => e.1 == r.name).map (·.2) with
  | none =>
    rw [hprevious] at hrest
    exact observe_eq_done hrest
  | some prev =>
    rw [hprevious] at hrest
    dsimp only at hrest ⊢
    split at hrest
    · rename_i hfresh
      cases hrest
      simp [hfresh]
    · rename_i hstale
      rw [observe_eq_done hrest, Option.any_some, if_neg hstale]

theorem avoids_awaitReadiness
    (h : ((r.status.restoredAt.any fun restoredAt =>
        p.now - restoredAt > deploymentReadyTimeout w.replica.spec.deploymentReadyTimeout
          r.spec.snapshotSize ctx.deploymentReadyTimeoutSecs) && !waitsForReindex p r w) = false) :
    Avoids p.replies .patchFailed (awaitReadiness ctx p r w.replica) w := by
  have hobserve : ∀ previous w', Avoids p.replies .patchFailed
      (reindexVerdict.observe p r previous) w' := by
    intro previous w'
    refine Avoids.bind (Avoids.attempt (Avoids.ask _ (by simp))) fun seen _ _ => ?_
    split
    · exact Avoids.bind (Avoids.modify _) fun _ _ _ => Avoids.ret _
    · exact Avoids.bind (Avoids.modify _) fun _ _ _ => Avoids.ret _
    · exact Avoids.ret _
  have hconsult : Avoids p.replies .patchFailed (consultReindex p r w.replica) w := by
    unfold consultReindex
    split
    · refine Avoids.bind (Avoids.bind Avoids.get fun u _ _ => ?_) fun _ _ _ => Avoids.ret _
      dsimp only
      split
      · split
        · exact Avoids.ret _
        · exact hobserve _ _
      · exact hobserve _ _
    · exact Avoids.ret _
  unfold awaitReadiness
  cases hrestored : r.status.restoredAt with
  | none => exact Avoids.ret _
  | some restoredAt =>
    dsimp only
    split
    · rename_i hspent
      simp only [hrestored, Option.any_some, hspent, decide_true, Bool.true_and, Bool.not_eq_false',
        waitsForReindex, Bool.and_eq_true] at h
      obtain ⟨hnone, hwaits⟩ := h
      refine Avoids.bind hconsult fun verdict w' hdone => ?_
      -- the verdict holds the restore back
      have hverdict : verdict = some .wait := by
        unfold consultReindex at hdone
        rw [if_pos hnone] at hdone
        obtain ⟨v, w₁, hv, hreturn⟩ := bind_eq_done hdone
        obtain ⟨rfl, _⟩ := Outcome.done.inj hreturn
        obtain ⟨watch, hwatch, hwait⟩ := (Option.any_eq_true _ _).mp hwaits
        rw [reindexVerdict_eq_done hv, hwatch]
        exact congrArg some (of_decide_eq_true hwait)
      rw [hverdict]
      exact Avoids.ret _
    · exact Avoids.ret _

theorem applyRestoreDeployment_eq_done {replica : Replica} {ready : Nat} {w' : World}
    (h : applyRestoreDeployment replica r ρ w = .done ready w') :
    ready = ((w.deployment r.name).map (·.readyReplicas)).getD 0 ∧ w'.replica = w.replica ∧
      w'.reindexWatches = w.reindexWatches := by
  unfold applyRestoreDeployment at h
  cases hbuild : buildDeployment replica r with
  | error e =>
    rw [hbuild] at h
    cases h
  | ok d =>
    rw [hbuild] at h
    obtain ⟨_, w₁, happly, hrest⟩ := bind_eq_done h
    obtain rfl := call_eq_done happly
    obtain ⟨w₂, w₃, hget, hreturn⟩ := bind_eq_done hrest
    cases hget
    cases hreturn
    have hd : d.name = r.name ∧ d.readyReplicas = 0 := by
      unfold buildDeployment at hbuild
      split at hbuild <;> cases hbuild
      exact ⟨rfl, rfl⟩
    refine ⟨?_, replica_applyDeployment d w, ?_⟩
    · rw [← hd.1]
      exact readyReplicas_applyDeployment d hd.2 w
    · unfold World.applyDeployment
      split <;> rfl

theorem avoids_applyRestoreDeployment {replica : Replica} :
    Avoids ρ .patchFailed (applyRestoreDeployment replica r) w := by
  unfold applyRestoreDeployment
  split
  · exact Avoids.fail _
  · refine Avoids.bind (Avoids.call _ (by simp)) fun _ _ _ => ?_
    exact Avoids.bind Avoids.get fun _ _ _ => Avoids.ret _

theorem avoids_reconcileReady (hr : r.status.phase = some .ready)
    (h : comesToFailed ctx p r w = false) :
    Avoids p.replies .patchFailed (reconcileReady ctx p r) w := by
  simp only [comesToFailed, hr] at h
  unfold reconcileReady
  split
  · rename_i hversion
    rw [if_pos hversion] at h
    exact avoids_detectVersion h
  rename_i hversion
  rw [if_neg hversion] at h
  refine Avoids.bind (avoids_getReplica (by simp)) fun replica w₁ hreplica => ?_
  obtain ⟨rfl, rfl⟩ := getReplica_eq_done hreplica
  refine Avoids.bind (Avoids.call _ (by simp)) fun _ w₂ hservice => ?_
  obtain rfl := call_eq_done hservice
  refine Avoids.bind avoids_applyRestoreDeployment fun ready w₃ happlied => ?_
  obtain ⟨hready, hreplica, hwatches⟩ := applyRestoreDeployment_eq_done happlied
  split
  · refine Avoids.bind (Avoids.modify _) fun _ _ _ => ?_
    split
    · exact Avoids.bind (Avoids.call _ (by simp)) fun _ _ _ => Avoids.ret _
    · refine Avoids.bind (Avoids.call _ (by simp)) fun _ _ _ => ?_
      exact Avoids.bind (Avoids.modify _) fun _ _ _ => Avoids.ret _
  · rename_i hnot
    have hzero : ((w₁.deployment r.name).map (·.readyReplicas)).getD 0 = 0 :=
      hready.symm.trans (Nat.eq_zero_of_not_pos hnot)
    have hwaits : waitsForReindex p r w₃ = waitsForReindex p r w₁ := by
      simp only [waitsForReindex, reindexWatch, hwatches, hreplica]
    have hreplica' : w₃.replica = w₁.replica := hreplica
    rw [← hreplica']
    apply avoids_awaitReadiness
    rw [hwaits, hreplica']
    simpa [readinessSpent, hzero] using h

theorem avoids_reconcileMigrating (hr : r.status.phase = some .migrating)
    (h : comesToFailed ctx p r w = false) :
    Avoids p.replies .patchFailed (reconcileMigrating p r) w := by
  simp only [comesToFailed, hr] at h
  unfold reconcileMigrating
  split
  · exact Avoids.bind (Avoids.call _ (by simp)) fun _ _ _ => Avoids.ret _
  rename_i target htarget
  simp only [htarget, Option.isSome_some, Bool.true_and] at h
  refine Avoids.bind (avoids_getReplica (by simp)) fun _ _ _ => ?_
  refine Avoids.bind (avoids_touch (by simp)) fun _ _ _ => ?_
  refine Avoids.bind (Avoids.attempt (avoids_touch (by simp))) fun found w₁ hfound => ?_
  split
  · -- the reply would have been that the database is missing
    unfold Prog.attempt Op.touch Prog.call at hfound
    cases hreply : p.replies .migratingDiscover <;> rw [hreply] at hfound h <;> cases hfound
    all_goals simp [databaseMissing] at h
  · exact Avoids.fail _
  refine Avoids.bind (Avoids.read _ (by simp)) fun existing _ _ => ?_
  cases existing with
  | none =>
    refine Avoids.bind (Avoids.ask _ (by simp)) fun baseline _ _ => ?_
    refine Avoids.bind (Avoids.when fun _ => Avoids.call _ (by simp)) fun _ _ _ => ?_
    refine Avoids.bind (avoids_touch (by simp)) fun _ _ _ => ?_
    refine Avoids.bind (avoids_touch (by simp)) fun _ _ _ => ?_
    exact Avoids.bind (avoids_createJob (by simp)) fun _ _ _ => Avoids.ret _
  | some job =>
    dsimp only
    split
    · exact Avoids.ret _
    refine Avoids.bind (Avoids.ask _ (by simp)) fun result _ _ => ?_
    exact Avoids.bind (Avoids.call _ (by simp)) fun _ _ _ => Avoids.ret _

theorem avoids_convergeDeployment {replica : Replica} :
    Avoids ρ .patchFailed (convergeDeployment r replica) w := by
  unfold convergeDeployment
  split
  · exact Avoids.bind avoids_applyRestoreDeployment fun _ _ _ => Avoids.ret _
  · exact Avoids.ret _

/-- **A pass that does not come to failing its restore does not mark it Failed.** -/
theorem avoids_reconcileRestore (h : comesToFailed ctx p r w = false) :
    Avoids p.replies .patchFailed (reconcileRestore ctx p r) w := by
  unfold reconcileRestore
  split
  all_goals rename_i hphase
  · exact avoids_reconcilePending
  · exact avoids_reconcilePending
  · simp only [comesToFailed, hphase] at h
    exact avoids_reconcileRestoring h
  · exact avoids_reconcileMigrating hphase h
  · exact avoids_reconcileReady hphase h
  · refine Avoids.bind (Avoids.read _ (by simp)) fun replica _ _ => ?_
    cases replica with
    | none => exact Avoids.ret _
    | some replica => exact Avoids.bind avoids_convergeDeployment fun _ _ _ => Avoids.ret _
  · refine Avoids.bind (Avoids.read _ (by simp)) fun replica _ _ => ?_
    cases replica with
    | none => exact Avoids.ret _
    | some replica =>
      refine Avoids.bind avoids_convergeDeployment fun _ _ _ => ?_
      exact Avoids.bind (Avoids.call _ (by simp)) fun _ _ _ => Avoids.ret _
  · exact Avoids.ret _

/-- The replies of a pass, but the mark of a failed restore is refused. -/
def refusingFailed (ρ : Call → Reply Error) : Call → Reply Error
  | .patchFailed => .refused (.kube "NotFound")
  | c => ρ c

/-- **A pass that does not come to failing its restore** does what it does if the mark is refused. -/
theorem reconcileRestore_refusingFailed (h : comesToFailed ctx p r w = false) :
    reconcileRestore ctx p r (refusingFailed p.replies) w = reconcileRestore ctx p r p.replies w := by
  apply avoids_reconcileRestore h (refusingFailed p.replies)
  intro c hc
  cases c with
  | patchFailed => exact absurd rfl hc
  | _ => rfl

end Avoiding

end RestoreOperator
