import RestoreOperator.System.Observed

/-!
# `System.RestorePass` — a pass of the restore controller is acts

One lemma for each phase.  A pass on a restore changes that restore's phase only, and what it does
depends on the phase it found.
-/

namespace RestoreOperator

open Calls Calls.Prog Relation

variable {p : RestorePass} {w₀ : World} {r : Restore}

/-- **A program of a restore pass** that started in `w₀` moves along the acts of the controller. -/
abbrev Drives {α : Type} (p : RestorePass) (w₀ : World) (r : Restore) (m : Op α)
    (Q : α → World → Prop) (E : Error → World → Prop) (w : World) : Prop :=
  Along control (RestoreAct p w₀ r) p.replies m Q E w

/-- One act. -/
theorem restoreAct {a a' : Control} (h : RestoreAct p w₀ r a a') :
    ReflTransGen (RestoreAct p w₀ r) a a' :=
  .single h

/-- A quiet program is a pass of its own. -/
theorem Drives.of_quiet {α : Type} {m : Op α} {w : World} (hm : Quiet control m) :
    Drives p w₀ r m (fun _ _ => True) (fun _ _ => True) w :=
  (Along.of_quiet hm).mono (fun _ _ _ => trivial) fun _ _ _ => trivial

/-- A patch of the phase is an act. -/
theorem patchPhase_drives {w : World} {c : Call} {f : RestoreStatus → RestoreStatus}
    (ph : RestorePhase) (hf : ∀ s, (f s).phase = some ph)
    (hact : RestoreAct p w₀ r (control w) ((control w).setPhase r.name ph)) :
    Drives p w₀ r (Op.patchRestore c r.name f)
      (fun _ w' => control w' = (control w).setPhase r.name ph ∧ (p.replies c).isOk = true)
      (fun _ _ => True) w := by
  have hpatch : control (w.patchRestore r.name f) = (control w).setPhase r.name ph :=
    control_patchRestore_phase ph hf w
  refine Along.call ?_ (fun hok => ⟨hpatch, hok ▸ rfl⟩) (fun _ _ => trivial) fun _ _ => trivial
  rw [hpatch]
  exact restoreAct hact

/-- The phase of a restore that was just moved. -/
theorem phase_setPhase {name : String} {ph : RestorePhase} {a : Control} {s : Slot}
    (hs : s ∈ (a.setPhase name ph).slots) (hname : s.name = name) : s.phase = some ph := by
  simp only [Control.setPhase, List.mem_map] at hs
  obtain ⟨t, _, rfl⟩ := hs
  by_cases h : t.name = name
  · simp [h]
  · simp [h] at hname

/-! ## Failing -/

/-- What is known between the writes of a failing restore. -/
structure Failing (w₀ : World) (r : Restore) (a : Control) : Prop where
  phase : ∀ s ∈ a.slots, s.name = r.name → s.phase = some .failed
  fresh : ∀ o, .reported r.uid o ∈ a.history → .reported r.uid o ∈ w₀.history

theorem countFailure_drives {w : World} (hr : r.canFail) (hw : Failing w₀ r (control w))
    (hlog : (control w).history = w₀.history) (hmarked : (p.replies .patchFailed).isOk = true) :
    Drives p w₀ r (countFailure p r) (fun _ w' => Failing w₀ r (control w')) (fun _ _ => True) w := by
  refine Along.bind
    (Q := fun found w' => w' = w ∧ ∀ replica, found = .ok replica → replica = w.replica)
    (Along.attempt (Q := fun replica w' => replica = w.replica ∧ w' = w) (E := fun _ w' => w' = w) ?_
      (fun _ _ h => ⟨h.2, fun _ hok => (Except.ok.inj hok) ▸ h.1⟩)
      fun _ _ h => ⟨h, fun _ hok => by cases hok⟩) fun found w₁ h₁ => ?_
  · apply Along.get_bind
    split
    · exact Along.fail rfl
    · exact Along.read ⟨rfl, rfl⟩ fun _ => rfl
  obtain ⟨rfl, hreplica⟩ := h₁
  cases found with
  | error _ => exact Along.ret hw
  | ok replica =>
    -- the count is read off the replica of this very state, so the write is the one of the act
    rw [hreplica replica rfl]
    have hkept : Failing w₀ r (control (w₁.recordFailure r.uid
        (w₁.replica.status.consecutiveRestoreFailures.getD 0 + 1) p.failedAt)) := by
      refine ⟨hw.phase, fun o ho => hw.fresh o ?_⟩
      -- the new entry is not a report
      rcases List.mem_cons.mp ho with h | h
      · cases h
      · exact h
    exact Along.bind (Q := fun _ w' => Failing w₀ r (control w'))
      (Along.bestEffort_call (restoreAct (.failureRecorded hr hlog hmarked)) hw hkept) fun _ _ h => Along.ret h

theorem reportFailure_drives {w : World} (hr : r.canFail) (hw : Failing w₀ r (control w)) :
    Drives p w₀ r (reportFailure r) (fun _ _ => True) (fun _ _ => True) w := by
  refine Along.quietBind (Quiet.attempt (quiet_getRestore _ _)) (fun _ _ _ => trivial) ?_
  intro found w₁ h₁
  refine Along.quietBind (Quiet.attempt (quiet_getReplica _)) (fun _ _ _ => trivial) ?_
  intro parent w₂ h₂
  split
  · have hw₂ : Failing w₀ r (control w₂) := by rw [h₂, h₁]; exact hw
    refine Along.bind (Q := fun _ _ => True)
      (Along.modify (restoreAct (.reported hr hw₂.phase hw₂.fresh)) trivial) ?_
    intro _ w₃ _
    exact Drives.of_quiet (Quiet.bind (Quiet.bestEffort (quiet_touch _)) fun _ => Quiet.ret _)
  · exact Along.ret trivial

/-- **Failing a restore is acts**: the phase, the slot, the backoff and the report, in this order. -/
theorem failRestore_drives {w : World} {f : RestoreStatus → RestoreStatus} (hr : r.canFail)
    (hw : (control w).history = w₀.history) :
    Drives p w₀ r (failRestore p r f) (fun _ _ => True) (fun _ _ => True) w := by
  refine Along.bind (patchPhase_drives .failed (fun _ => rfl) (.failed hr hw)) ?_
  rintro _ w₁ ⟨h₁, hmarked⟩
  have hlog : (control w₁).history = w₀.history := by
    rw [h₁]
    exact hw
  have hfailing : Failing w₀ r (control w₁) := by
    refine ⟨?_, fun o ho => hlog ▸ ho⟩
    intro s hs hname
    rw [h₁] at hs
    exact phase_setPhase hs hname
  refine Along.bind
    (Q := fun _ w' => Failing w₀ r (control w') ∧ (control w').history = w₀.history)
    (Along.modify (restoreAct (.released hr fun s hs hname => ?_))
      ⟨⟨hfailing.phase, hfailing.fresh⟩, hlog⟩) fun _ w₂ h₂ => ?_
  · rw [hfailing.phase s hs hname]
    simp
  apply Along.bind (countFailure_drives hr h₂.1 h₂.2 hmarked)
  intro _ w₃ h₃
  refine Along.quietBind (quiet_publishEvent _) (fun _ _ _ => trivial) ?_
  intro _ w₄ h₄
  exact Along.bind (reportFailure_drives hr (h₄ ▸ h₃)) fun _ _ _ => Along.ret trivial

/-! ## Pending -/

/-- Deleting the Jobs of earlier restores is acts. -/
theorem cleanupPreviousJobs_drives {w : World} (hr : r.isPending = true)
    (hw : (control w).history = w₀.history) :
    Drives p w₀ r (cleanupPreviousJobs r) (fun _ w' => (control w').history = w₀.history)
      (fun _ _ => True) w := by
  refine Along.quietBind (Quiet.read _ _) (fun _ _ _ => trivial) ?_
  intro jobs w₁ h₁
  rw [← h₁] at hw
  refine (Along.each (I := fun w' => (control w').history = w₀.history) ?_
    hw).mono (fun _ _ h => h) fun _ _ _ => trivial
  intro k _ w' h
  refine Along.bind (Q := fun _ w' => (control w').history = w₀.history)
    (Along.bestEffort_call ?_ h h) fun _ _ h => Along.ret h
  rw [control_deleteJob]
  exact restoreAct (.jobDropped k hr)

theorem quiet_ensureDataPvc (r : Restore) : Quiet control (ensureDataPvc r) := by
  apply Quiet.bind (Quiet.read _ _)
  intro _
  split
  · exact Quiet.ret _
  · exact Quiet.bind (quiet_getReplica _) fun _ => Quiet.call fun _ => rfl

theorem quiet_ensureKopiaCachePvc (r : Restore) : Quiet control (ensureKopiaCachePvc r) := by
  apply Quiet.bind (Quiet.read _ _)
  intro current
  cases current with
  | none => exact Quiet.bind (quiet_getReplica _) fun _ => Quiet.call fun _ => rfl
  | some _ =>
    dsimp only
    split
    · exact Quiet.bind (Quiet.bestEffort (Quiet.call fun _ => rfl)) fun _ => Quiet.ret _
    · exact Quiet.ret _

/-- Marking the restore Restoring and taking the slot are one act, when the write is answered. -/
theorem startRestoring_drives {w : World} (hr : r.isPending = true)
    (hw : (control w).history = w₀.history) :
    Drives p w₀ r (startRestoring r) (fun _ _ => True) (fun _ _ => True) w := by
  -- no lemma about a bind applies: the queue moves in the same act as the phase, or not at all
  apply Along.of_reaches
  have hpatch : control (w.patchRestore r.name fun s =>
      { s with phase := some .restoring, pvc := some (r.name ++ "-data") }) =
      (control w).setPhase r.name .restoring := control_patchRestore_phase .restoring (fun _ => rfl) w
  generalize hw₁ : (w.patchRestore r.name fun s =>
      { s with phase := some .restoring, pvc := some (r.name ++ "-data") }) = w₁ at hpatch
  simp only [startRestoring, bind_eq_andThen, Prog.andThen, Op.patchRestore, Prog.call, hw₁]
  cases hreply : p.replies .patchRestoring with
  | ok =>
    have hmarked : control (w₁.patchQueue fun q => q.markActive w₁.key) =
        { (control w).setPhase r.name .restoring with
          queue := (control w).queue.markActive (control w).key } := by
      rw [← hpatch, ← hw₁]
      rfl
    show ReflTransGen _ _ (control (w₁.patchQueue fun q => q.markActive w₁.key))
    rw [hmarked]
    exact restoreAct (.restoringMarked hr hw)
  | refused e => exact .refl
  | cut => exact .refl
  -- the phase is written and the slot is not taken
  | lost e =>
    show ReflTransGen _ _ (control w₁)
    rw [hpatch]
    exact restoreAct (.restoring hr hw (by rw [hreply]; rfl) (by rw [hreply]; rfl))
  | cutAfter =>
    show ReflTransGen _ _ (control w₁)
    rw [hpatch]
    exact restoreAct (.restoring hr hw (by rw [hreply]; rfl) (by rw [hreply]; rfl))

/-- **Phase Pending is acts.** -/
theorem reconcilePending_drives {w : World} (hr : r.isPending = true)
    (hw : (control w).history = w₀.history) :
    Drives p w₀ r (reconcilePending p r) (fun _ _ => True) (fun _ _ => True) w := by
  refine Along.bind (Q := fun _ w' => (control w').history = w₀.history)
    (Along.when (fun _ => ?_) fun _ => hw) fun _ w₁ h₁ => ?_
  · refine (patchPhase_drives .pending (fun _ => rfl) (.pending hr hw)).mono
      ?_ fun _ _ h => h
    rintro _ w' ⟨h, _⟩
    rw [h]
    exact hw
  apply Along.bind (cleanupPreviousJobs_drives hr h₁)
  intro _ w₂ h₂
  refine Along.quietBind (quiet_ensureDataPvc r) (fun _ _ _ => trivial) ?_
  intro _ w₃ h₃
  refine Along.quietBind (quiet_ensureKopiaCachePvc r) (fun _ _ _ => trivial) ?_
  intro _ w₄ h₄
  exact startRestoring_drives hr (by rw [h₄, h₃]; exact h₂)

/-! ## Restoring -/

theorem quiet_ensureRunId (p : RestorePass) (r : Restore) (replica : Replica) :
    Quiet control (ensureRunId p r replica) := by
  unfold ensureRunId
  split
  · split
    · exact Quiet.ret _
    · exact Quiet.bind (quiet_patchRestore fun _ => rfl) fun _ => Quiet.ret _
  · exact Quiet.ret _

theorem quiet_stillRunning (r : Restore) : Quiet control (reconcileRestoring.stillRunning r) :=
  Quiet.bind (quiet_patchRestore fun _ => rfl) fun _ => Quiet.ret _

theorem quiet_deleteOwnJob {c : Call} {k : JobKey} (hm : k ≠ .schemaMigration)
    (hs : k ≠ .snapshotList) : Quiet control (bestEffort (call c (World.deleteJob k)) : Op Bool) :=
  Quiet.bestEffort (Quiet.call fun w => by rw [control_deleteJob, dropJob_other hm hs])

/-- **Phase Restoring is acts.** -/
theorem reconcileRestoring_drives {w : World} (hr : r.inPhase .restoring = true)
    (hw : (control w).history = w₀.history) :
    Drives p w₀ r (reconcileRestoring p r) (fun _ _ => True) (fun _ _ => True) w := by
  refine Along.quietBind (Quiet.read _ _) (fun _ _ _ => trivial) ?_
  intro existing w₁ h₁
  rw [← h₁] at hw
  cases existing with
  | none =>
    refine Along.quietBind (quiet_getReplica _) (fun _ _ _ => trivial) ?_
    intro replica w₂ _
    refine Along.quietBind (quiet_ensureRunId _ _ _) (fun _ _ _ => trivial) ?_
    intro _ w₃ _
    refine Along.bind ((createOtherJob_along (fun _ => .jobCreated) (by simp [buildRestoreJob])
      (by simp [buildRestoreJob])).mono (fun _ _ h => h) fun _ _ _ => trivial) fun _ w₄ _ => ?_
    exact Drives.of_quiet (quiet_stillRunning r)
  | some job =>
    dsimp only
    split
    -- a version that could not be asked for is detected in phase Ready
    · refine Along.quietBind (Quiet.attempt (Quiet.ask _ _)) (fun _ _ _ => trivial) ?_
      intro version w₂ h₂
      rw [← h₂] at hw
      refine Along.bind (patchPhase_drives .ready (fun _ => rfl) (.ready (.inl hr) hw)) ?_
      intro _ w₃ _
      exact Along.quietBind (quiet_deleteOwnJob (by simp) (by simp)) (fun _ _ _ => trivial)
        fun _ _ _ => Along.ret trivial
    split
    · refine Along.quietBind (Quiet.bestEffort (quiet_touch _)) (fun _ _ _ => trivial) ?_
      intro _ w₂ h₂
      exact failRestore_drives (.inl hr) (by rw [h₂]; exact hw)
    · exact Drives.of_quiet (quiet_stillRunning r)

/-! ## Ready -/

/-- Detecting the version is acts. -/
theorem detectVersion_drives {w : World} (hr : r.inPhase .ready = true)
    (hw : (control w).history = w₀.history) :
    Drives p w₀ r (detectVersion p r) (fun _ _ => True) (fun _ _ => True) w := by
  have hdelete : Quiet control (detectVersion.deleteVersionJob r) :=
    Quiet.bind (quiet_deleteOwnJob (by simp) (by simp)) fun _ => Quiet.ret _
  refine Along.quietBind (Quiet.read _ _) (fun _ _ _ => trivial) ?_
  intro existing w₁ h₁
  rw [← h₁] at hw
  cases existing with
  | none =>
    exact Along.bind ((createOtherJob_along (fun _ => .jobCreated) (by simp) (by simp)).mono
      (fun _ _ h => h) fun _ _ _ => trivial) fun _ _ _ => Along.ret trivial
  | some job =>
    dsimp only
    split
    · refine Along.quietBind (Quiet.attempt (Quiet.ask _ _)) (fun _ _ _ => trivial) ?_
      intro version w₂ h₂
      refine Along.quietBind hdelete (fun _ _ _ => trivial) ?_
      intro _ w₃ h₃
      have hw₃ : (control w₃).history = w₀.history := by rw [h₃, h₂]; exact hw
      -- a version that is unreadable or empty fails the restore
      split
      · split
        · exact failRestore_drives (.inr (.inl hr)) hw₃
        · exact Along.quietBind (quiet_patchRestore fun _ => rfl) (fun _ _ _ => trivial)
            fun _ _ _ => Along.ret trivial
      · exact failRestore_drives (.inr (.inl hr)) hw₃
    split
    · refine Along.quietBind hdelete (fun _ _ _ => trivial) ?_
      intro _ w₂ h₂
      exact failRestore_drives (.inr (.inl hr)) (by rw [h₂]; exact hw)
    · exact Along.ret trivial

theorem quiet_observeReindex (p : RestorePass) (r : Restore) (previous : Option Watch) :
    Quiet control (reindexVerdict.observe p r previous) := by
  apply Quiet.bind (Quiet.attempt (Quiet.ask _ _))
  intro seen
  split
  · exact Quiet.bind (Quiet.modify fun _ => rfl) fun _ => Quiet.ret _
  · exact Quiet.bind (Quiet.modify fun _ => rfl) fun _ => Quiet.ret _
  · exact Quiet.ret _

theorem quiet_reindexVerdict (p : RestorePass) (r : Restore) :
    Quiet control (reindexVerdict p r) := by
  apply Quiet.bind Quiet.get
  intro w
  dsimp only
  split
  · split
    · exact Quiet.ret _
    · exact quiet_observeReindex _ _ _
  · exact quiet_observeReindex _ _ _

/-- Waiting for the Deployment is acts. -/
theorem awaitReadiness_drives {ctx : Context} {w : World} {replica : Replica}
    (hr : r.inPhase .ready = true) (hw : (control w).history = w₀.history) :
    Drives p w₀ r (awaitReadiness ctx p r replica) (fun _ _ => True) (fun _ _ => True) w := by
  unfold awaitReadiness
  split
  · exact Along.ret trivial
  dsimp only
  split
  · refine Along.quietBind ?_ (fun _ _ _ => trivial) fun verdict w₁ h₁ => ?_
    · unfold consultReindex
      split
      · exact Quiet.bind (quiet_reindexVerdict _ _) fun _ => Quiet.ret _
      · exact Quiet.ret _
    split
    · exact Along.ret trivial
    · refine Along.quietBind (Quiet.modify fun _ => rfl) (fun _ _ _ => trivial) ?_
      intro _ w₂ h₂
      exact failRestore_drives (.inr (.inl hr)) (by rw [h₂, h₁]; exact hw)
  · exact Along.ret trivial

/-- Applying a Deployment leaves the number of its ready pods alone. -/
theorem readyReplicas_applyDeployment (d : Deployment) (hd : d.readyReplicas = 0) (w : World) :
    (((w.applyDeployment d).deployment d.name).map (·.readyReplicas)).getD 0 =
      ((w.deployment d.name).map (·.readyReplicas)).getD 0 := by
  unfold World.applyDeployment
  split
  · unfold World.deployment
    rw [find?_map_at (f := fun e : Deployment => { d with readyReplicas := e.readyReplicas })
      (fun _ _ => rfl), Option.map_map]
    rfl
  · rename_i hnone
    have hfind : w.deployments.find? (fun e => e.name == d.name) = none := by
      simpa [World.deployment] using hnone
    simp [World.deployment, List.find?_append, hfind, hd]

/-- What the apply answers is what the world already knew. -/
theorem applyRestoreDeployment_drives {w : World} {replica : Replica} :
    Drives p w₀ r (applyRestoreDeployment replica r)
      (fun ready w' => control w' = control w ∧
        ready = ((w.deployment r.name).map (·.readyReplicas)).getD 0)
      (fun _ _ => True) w := by
  unfold applyRestoreDeployment buildDeployment
  cases r.status.postgresVersion with
  | none => exact Along.fail trivial
  | some _ =>
    dsimp only
    refine Along.bind
      (Q := fun _ w' => control w' = control w ∧
        ((w'.deployment r.name).map (·.readyReplicas)).getD 0 =
          ((w.deployment r.name).map (·.readyReplicas)).getD 0)
      (Along.call ?_ (fun _ => ⟨control_applyDeployment _ _, ?_⟩) (fun _ _ => trivial)
        fun _ _ => trivial) fun _ w₁ h₁ => ?_
    · rw [control_applyDeployment]
    · exact readyReplicas_applyDeployment
        { name := r.name, replicas := 1, readOnly := effectiveReadOnly replica.spec r } rfl w
    exact Along.get_bind (Along.ret h₁)

/-- What the pass found on its way to the switch is why it may. -/
theorem readyToSwitch_of_seen (hr : r.inPhase .ready = true)
    (hversion : ¬ r.status.postgresVersion.isNone = true)
    (hpods : ((w₀.deployment r.name).map (·.readyReplicas)).getD 0 > 0)
    (hmigrated : ¬ (r.spec.migrateTo.isSome && r.status.migrationResult.isNone) = true) :
    readyToSwitch w₀ r = true := by
  have hknown : r.status.postgresVersion.isSome = true := by
    cases hv : r.status.postgresVersion with
    | none => simp [hv] at hversion
    | some v => rfl
  have hunowed : (r.spec.migrateTo.isSome && r.status.migrationResult.isNone) = false :=
    Bool.eq_false_iff.mpr hmigrated
  simp only [readyToSwitch, hr, hknown, hpods, hunowed, decide_true, Bool.not_false, Bool.and_true]

/-- **Phase Ready is acts.** -/
theorem reconcileReady_drives {ctx : Context} {w : World} (hr : r.inPhase .ready = true)
    (hw : control w = control w₀) (hdeployments : w.deployments = w₀.deployments) :
    Drives p w₀ r (reconcileReady ctx p r) (fun _ _ => True) (fun _ _ => True) w := by
  have hhistory : (control w).history = w₀.history := by rw [hw]; rfl
  unfold reconcileReady
  split
  · exact detectVersion_drives hr hhistory
  rename_i hversion
  have hgetReplica : Quiet (fun w => (control w, w.deployments)) (Op.getReplica .getReplica) :=
    quiet_getReplica _
  refine Along.bind ((Along.of_quietWith hgetReplica).mono (fun _ _ h => h) fun _ _ _ => trivial) ?_
  intro replica w₁ h₁
  refine Along.bind
    (Q := fun _ w' => control w' = control w₁ ∧ w'.deployments = w₁.deployments)
    (Along.call .refl (fun _ => ⟨rfl, rfl⟩) (fun _ _ => trivial) fun _ _ => trivial) ?_
  intro _ w₂ h₂
  have hw₂ : control w₂ = control w := h₂.1.trans h₁.1
  have hdeployments₂ : w₂.deployments = w₀.deployments :=
    (h₂.2.trans h₁.2).trans hdeployments
  apply Along.bind applyRestoreDeployment_drives
  intro ready w₃ h₃
  obtain ⟨hw₃, hready⟩ := h₃
  split
  · rename_i hpos
    refine Along.quietBind (Quiet.modify fun _ => rfl) (fun _ _ _ => trivial) ?_
    intro _ w₄ h₄
    have hhistory₄ : (control w₄).history = w₀.history := by rw [h₄, hw₃, hw₂]; exact hhistory
    split
    · exact Along.bind
        (patchPhase_drives .migrating (fun _ => rfl) (.migrating hr hhistory₄))
        fun _ _ _ => Along.ret trivial
    rename_i hmigrated
    have hpods : ((w₀.deployment r.name).map (·.readyReplicas)).getD 0 > 0 := by
      unfold World.deployment
      rw [← hdeployments₂]
      rw [hready] at hpos
      exact hpos
    have hswitch : readyToSwitch w₀ r = true :=
      readyToSwitch_of_seen hr hversion hpods hmigrated
    have hpatch : control ((w₄.patchRestore r.name fun s =>
        { s with phase := some .switching, deployment := some r.name }).log
          (.enteredSwitching r.uid)) =
        ((control w₄).setPhase r.name .switching).log (.enteredSwitching r.uid) := by
      rw [control_log, control_patchRestore_phase .switching fun _ => rfl]
    refine Along.bind
      (Q := fun _ w' => control w' =
        ((control w₄).setPhase r.name .switching).log (.enteredSwitching r.uid))
      (Along.call ?_ (fun _ => hpatch) (fun _ _ => trivial) fun _ _ => trivial) fun _ w₅ h₅ => ?_
    · rw [hpatch]
      exact restoreAct (.switching hswitch hhistory₄)
    -- the slot goes only now that the restore is no longer Restoring
    refine Along.bind (Q := fun _ _ => True)
      (Along.modify (restoreAct (.released (.inr (.inl hr)) fun s hs hname => ?_)) trivial)
      fun _ _ _ => Along.ret trivial
    rw [h₅] at hs
    rw [phase_setPhase (a := control w₄) hs hname]
    simp
  · exact awaitReadiness_drives hr (by rw [hw₃, hw₂]; exact hhistory)

/-! ## Migrating, Switching and Active -/

/-- **Phase Migrating is acts.** -/
theorem reconcileMigrating_drives {w : World} (hr : r.inPhase .migrating = true)
    (hw : (control w).history = w₀.history) :
    Drives p w₀ r (reconcileMigrating p r) (fun _ _ => True) (fun _ _ => True) w := by
  unfold reconcileMigrating
  split
  · exact Along.bind (patchPhase_drives .ready (fun _ => rfl) (.ready (.inr hr) hw))
      fun _ _ _ => Along.ret trivial
  refine Along.quietBind (quiet_getReplica _) (fun _ _ _ => trivial) ?_
  intro _ w₁ h₁
  refine Along.quietBind (quiet_touch _) (fun _ _ _ => trivial) ?_
  intro _ w₂ h₂
  refine Along.quietBind (Quiet.attempt (quiet_touch _)) (fun _ _ _ => trivial) ?_
  intro found w₃ h₃
  have hw₃ : (control w₃).history = w₀.history := by rw [h₃, h₂, h₁]; exact hw
  -- no application database fails the restore, any other error the pass
  split
  · exact failRestore_drives (.inr (.inr hr)) hw₃
  · exact Along.fail trivial
  refine Along.quietBind (Quiet.read _ _) (fun _ _ _ => trivial) ?_
  intro existing w₄ h₄
  cases existing with
  | none =>
    refine Along.quietBind (Quiet.ask _ _) (fun _ _ _ => trivial) ?_
    intro baseline w₅ _
    refine Along.quietBind (Quiet.when (quiet_patchRestore fun _ => rfl)) (fun _ _ _ => trivial) ?_
    intro _ w₆ _
    refine Along.quietBind (quiet_touch _) (fun _ _ _ => trivial) ?_
    intro _ w₇ _
    refine Along.quietBind (quiet_touch _) (fun _ _ _ => trivial) ?_
    intro _ w₈ _
    exact Along.bind ((createOtherJob_along (fun _ => .jobCreated) (by simp) (by simp)).mono
      (fun _ _ h => h) fun _ _ _ => trivial) fun _ _ _ => Along.ret trivial
  | some job =>
    dsimp only
    split
    · exact Along.ret trivial
    -- a migration that failed is recorded too, and the restore is Ready again either way
    · refine Along.quietBind (Quiet.ask _ _) (fun _ _ _ => trivial) ?_
      intro result w₅ h₅
      have hw₅ : (control w₅).history = w₀.history := by rw [h₅, h₄]; exact hw₃
      exact Along.bind (patchPhase_drives .ready (fun _ => rfl) (.ready (.inr hr) hw₅))
        fun _ _ _ => Along.ret trivial

theorem quiet_convergeDeployment (r : Restore) (replica : Replica) :
    Quiet control (convergeDeployment r replica) := by
  unfold convergeDeployment
  split
  · refine Quiet.bind ?_ fun _ => Quiet.ret _
    unfold applyRestoreDeployment
    split
    · exact Quiet.fail _
    · exact Quiet.bind (Quiet.call fun w => control_applyDeployment _ w) fun _ =>
        Quiet.bind Quiet.get fun _ => Quiet.ret _
  · exact Quiet.ret _

theorem quiet_reconcileSwitching (r : Restore) : Quiet control (reconcileSwitching r) := by
  apply Quiet.bind (Quiet.read _ _)
  intro replica
  cases replica with
  | none => exact Quiet.ret _
  | some replica => exact Quiet.bind (quiet_convergeDeployment _ _) fun _ => Quiet.ret _

theorem quiet_reconcileActive (r : Restore) : Quiet control (reconcileActive r) := by
  apply Quiet.bind (Quiet.read _ _)
  intro replica
  cases replica with
  | none => exact Quiet.ret _
  | some replica =>
    exact Quiet.bind (quiet_convergeDeployment _ _) fun _ =>
      Quiet.bind (quiet_markPodReadyForTraffic _) fun _ => Quiet.ret _

/-- **A pass of the restore controller is acts.** -/
theorem reconcileRestore_drives (ctx : Context) (p : RestorePass) (r : Restore) (w : World) :
    Drives p w r (reconcileRestore ctx p r) (fun _ _ => True) (fun _ _ => True) w := by
  unfold reconcileRestore
  split
  all_goals rename_i hphase
  -- a restore without a phase is as good as Pending
  · exact reconcilePending_drives (by simp [Restore.isPending, hphase]) rfl
  · exact reconcilePending_drives (by simp [Restore.isPending, Restore.inPhase, hphase]) rfl
  · exact reconcileRestoring_drives (by simp [Restore.inPhase, hphase]) rfl
  · exact reconcileMigrating_drives (by simp [Restore.inPhase, hphase]) rfl
  · exact reconcileReady_drives (by simp [Restore.inPhase, hphase]) rfl rfl
  · exact Drives.of_quiet (quiet_reconcileSwitching r)
  · exact Drives.of_quiet (quiet_reconcileActive r)
  · exact Along.ret trivial

end RestoreOperator
