import RestoreOperator.System.Switching

/-!
# `System.ReplicaPass` — a pass of the replica controller is acts

The blocks after the switchover: the teardown of a verified restore, the sweep, the cleanup of failed
restores, the snapshot list and the trigger.  A pass takes its decisions from the world it started
in, so what is carried along is what of that world is still true: the selector, and the snapshot-list
Job up to the point where the pass acts on it.
-/

namespace RestoreOperator

open Calls Calls.Prog Relation

variable {ctx : Context} {p : ReplicaPass} {w₀ : World} {r : Restore}

/-! ## Before the restores are listed -/

theorem quiet_credentialCondition (status reason message : String) :
    Quiet (fun w => (control w, w.restores)) (credentialCondition status reason message) :=
  Quiet.bind (Quiet.read _ _) fun _ => Quiet.call fun _ => rfl

theorem quiet_validateCredentials (p : ReplicaPass) (replica : Replica) :
    Quiet (fun w => (control w, w.restores)) (validateCredentials p replica) := by
  unfold validateCredentials
  split
  · exact Quiet.bind (quiet_credentialCondition _ _ _) fun _ => Quiet.ret _
  · exact Quiet.bind (quiet_credentialCondition _ _ _) fun _ => Quiet.ret _
  · refine Quiet.bind (Quiet.attempt (Quiet.call fun _ => rfl)) ?_
    intro secret
    cases secret with
    | error e => exact Quiet.bind (quiet_credentialCondition _ _ _) fun _ => Quiet.ret _
    | ok _ =>
      dsimp only
      split
      · exact Quiet.bind (quiet_credentialCondition _ _ _) fun _ => Quiet.ret _
      · exact Quiet.bind (quiet_credentialCondition _ _ _) fun _ => Quiet.ret _
  · exact Quiet.bind (quiet_credentialCondition _ _ _) fun _ => Quiet.ret _

theorem quiet_ensureObjects (replica : Replica) :
    Quiet (fun w => (control w, w.restores)) (ensureObjects replica) := by
  refine Quiet.bind (Quiet.call fun _ => rfl) fun _ => Quiet.bind (Quiet.call fun _ => rfl) ?_
  intro _
  refine Quiet.bind (Quiet.call fun _ => rfl) ?_
  intro _
  exact Quiet.bind (Quiet.call fun _ => rfl) fun _ => Quiet.call fun _ => rfl

theorem quiet_clearSuspension (replica : Replica) : Quiet control (clearSuspension replica) :=
  Quiet.when (quiet_updateCondition _ _ _ _)

/-! ## Teardown, sweep and cleanup -/

/-- **The teardown of a verified restore is acts**; without one it does nothing. -/
theorem ephemeralTeardown_moves {w : World} (hw : control w = control w₀) :
    Moves ctx p w₀ (ephemeralTeardown w₀.replica w₀.restores)
      (fun b w' => b = none →
        control w' = control w₀ ∧ verifiedRestore w₀.replica w₀.restores = none)
      (fun _ _ => True) w := by
  unfold ephemeralTeardown
  split
  · rename_i hnone
    exact Along.ret fun _ => ⟨hw, hnone⟩
  rename_i r hr
  refine Along.bind (Q := fun _ _ => True)
    (Along.call (act (.verified hr (by rw [hw]))) (fun _ => trivial) (fun _ _ => trivial)
      fun _ _ => trivial) fun _ w₁ _ => ?_
  refine Along.bind (Q := fun _ _ => True)
    (Along.bestEffort_call ?_ trivial trivial) fun _ w₂ _ => ?_
  · rw [control_deleteRestore]
    exact act (.verifiedDeleted hr)
  exact Along.bind (Q := fun _ _ => True) (Along.modify (act (.released hr)) trivial)
    fun _ _ _ => Along.ret fun h => by cases h

/-- **What the sweep and the cleanup leave alone.** -/
structure KeptBySweep (w₀ : World) (a : Control) : Prop where
  selector : a.selector = w₀.serviceSelector
  snapshotJob : a.snapshotJob = w₀.job .snapshotList
  results : a.results = w₀.snapshotResults
  queue : a.queue = w₀.queue
  limit : a.limit = w₀.maxConcurrentRestores
  /-- Nothing is created. -/
  slots : ∀ s ∈ a.slots, s ∈ (control w₀).slots

theorem KeptBySweep.of_eq {a : Control} (h : a = control w₀) : KeptBySweep w₀ a := by
  rw [h]
  exact ⟨rfl, rfl, rfl, rfl, rfl, fun _ hs => hs⟩

/-- Deleting a restore keeps it. -/
theorem KeptBySweep.drop {a : Control} (h : KeptBySweep w₀ a) (name : String) :
    KeptBySweep w₀ (a.drop name) :=
  ⟨h.selector, h.snapshotJob, h.results, h.queue, h.limit,
    fun s hs => h.slots s (List.mem_of_mem_filter hs)⟩

theorem deleteStale_moves {w : World} {name : String}
    (hname : name ∈ (sweepTargets p w₀.replica w₀.restores).map (·.name))
    (hw : KeptBySweep w₀ (control w)) :
    Moves ctx p w₀ (bestEffort (deleteStale name)) (fun _ w' => KeptBySweep w₀ (control w'))
      (fun _ w' => KeptBySweep w₀ (control w')) w := by
  have hdelete : control ((w.deleteRestore name).log (.swept name w.serviceSelector)) =
      ((control w).drop name).log (.swept name (control w).selector) := by
    rw [control_log, control_deleteRestore]
    rfl
  have hkept : KeptBySweep w₀
      (control ((w.deleteRestore name).log (.swept name w.serviceSelector))) := by
    rw [hdelete]
    have hdrop := hw.drop name
    exact ⟨hdrop.selector, hdrop.snapshotJob, hdrop.results, hdrop.queue, hdrop.limit, hdrop.slots⟩
  -- the delete happened or it did not; the loop goes on from either
  refine Along.bestEffort_call ?_ hw hkept
  rw [hdelete]
  exact act (.swept name hname hw.selector)

/-- **The sweep is acts.** -/
theorem sweepStale_moves {w : World} (hw : KeptBySweep w₀ (control w)) :
    Moves ctx p w₀ (sweepStale p w₀.replica w₀.restores)
      (fun _ w' => KeptBySweep w₀ (control w')) (fun _ _ => True) w := by
  unfold sweepStale
  dsimp only
  split
  · exact Along.ret hw
  rename_i hsome
  refine Along.bind ((Along.eachAll (I := fun w' => KeptBySweep w₀ (control w'))
    (fun _ hname _ h => deleteStale_moves hname h) hw).mono (fun _ _ h => h) fun _ _ _ => trivial)
    fun _ w₁ h₁ => Along.when (fun _ => ?_) fun _ => h₁
  have hne : sweepTargets p w₀.replica w₀.restores ≠ [] := fun h => hsome (by rw [h]; rfl)
  exact Along.call (act (.sweepCleared hne))
    (fun _ => ⟨h₁.selector, h₁.snapshotJob, h₁.results, h₁.queue, h₁.limit, h₁.slots⟩)
    (fun _ _ => trivial) fun _ _ => trivial

theorem deleteFailed_moves {w : World} {name : String}
    (hname : name ∈ (expiredFailures p.now w₀.restores).map (·.name))
    (hw : KeptBySweep w₀ (control w)) :
    Moves ctx p w₀ (deleteFailed name) (fun _ w' => KeptBySweep w₀ (control w'))
      (fun _ w' => KeptBySweep w₀ (control w')) w := by
  refine Along.quietBind (Quiet.bestEffort (Quiet.call fun _ => rfl)) (fun _ _ h => h ▸ hw) ?_
  intro _ w₁ h₁
  rw [← h₁] at hw
  have hkept : KeptBySweep w₀ (control (w₁.deleteRestore name)) := by
    rw [control_deleteRestore]
    exact hw.drop name
  refine Along.bind (Q := fun _ w' => KeptBySweep w₀ (control w'))
    (Along.bestEffort_call ?_ hw hkept) fun _ _ h => Along.ret h
  rw [control_deleteRestore]
  exact act (.failedDeleted name hname)

/-- **The cleanup of failed restores is acts.** -/
theorem cleanupFailed_moves {w : World} (hw : KeptBySweep w₀ (control w)) :
    Moves ctx p w₀ (cleanupFailed p w₀.restores) (fun _ w' => KeptBySweep w₀ (control w'))
      (fun _ _ => True) w :=
  (Along.each (I := fun w' => KeptBySweep w₀ (control w'))
    (fun _ hname _ h => deleteFailed_moves hname h) hw).mono (fun _ _ h => h) fun _ _ _ => trivial

/-! ## The snapshot list -/

/-- The restores and the list that is waiting are as they were. -/
def SameLists (a a' : Control) : Prop :=
  a'.slots = a.slots ∧ a'.results = a.results

theorem deleteSnapshotJob_moves (w : World) :
    Moves ctx p w₀ deleteSnapshotJob (fun _ w' => SameLists (control w) (control w'))
      (fun _ _ => True) w := by
  refine Along.bind (Q := fun _ w' => SameLists (control w) (control w'))
    (Along.bestEffort_call ?_ ⟨rfl, rfl⟩ ⟨rfl, rfl⟩) fun _ _ h => Along.ret h
  rw [control_deleteJob]
  exact act .snapshotJobDeleted

/-- The effect of creating a restore. -/
theorem control_insertRestore (position : Nat) (mk : Nat → Restore) (w : World)
    (huid : (mk w.nextUid).uid = w.nextUid) (hphase : (mk w.nextUid).status.phase = none) :
    control (insertRestore position mk w) =
      { control w with
        slots := (control w).slots.take position ++
          { uid := (control w).nextUid, name := (mk w.nextUid).name, phase := none } ::
            (control w).slots.drop position
        nextUid := (control w).nextUid + 1
        history := .restoreCreated (control w).nextUid :: (control w).history } := by
  have hslot : (mk w.nextUid).slot =
      { uid := w.nextUid, name := (mk w.nextUid).name, phase := none } := by
    simp [Restore.slot, huid, hphase]
  simp only [control, insertRestore, World.job, List.map_append, List.map_cons, List.map_take,
    List.map_drop, hslot]

/-- A restore is created only for a list that leads to one. -/
theorem createRestoreForSnapshot_moves {w : World} {replica : Replica} {snap : Snapshot}
    (hwhy : comesToCreate ctx w₀ = true) (hw : ∀ s ∈ (control w).slots, s ∈ (control w₀).slots) :
    Moves ctx p w₀ (createRestoreForSnapshot ctx p replica snap)
      (fun _ w' => (control w').results = (control w).results) (fun _ _ => True) w := by
  refine Along.quietBind (Quiet.read _ _) (fun _ _ _ => trivial) ?_
  intro existing w₁ h₁
  rw [← h₁] at hw
  rw [← h₁]
  split
  · exact Along.quietBind (quiet_updateCondition _ _ _ _) (fun _ _ _ => trivial)
      fun _ _ h => Along.ret (congrArg Control.results h)
  split
  · exact Along.fail trivial
  rename_i size _
  apply Along.get_bind
  split
  · exact Along.fail trivial
  rename_i hfresh
  -- the API server refuses a name that is taken, so the new restore has its own
  refine Along.bind (Q := fun _ w' => (control w').results = (control w₁).results)
    (Along.call ?_ (fun _ => rfl) (fun _ _ => trivial) fun _ _ => trivial) ?_
  · rw [control_insertRestore _ _ _ rfl rfl]
    refine act (.restoreCreated _ _ hwhy hw fun s hs hname => ?_)
    simp only [control, List.mem_map] at hs
    obtain ⟨r, hr, rfl⟩ := hs
    exact hfresh (List.any_eq_true.mpr ⟨r, hr, beq_iff_eq.mpr hname⟩)
  · intro _ w₂ h₂
    exact Along.quietBind (quiet_updateCondition _ _ _ _) (fun _ _ _ => trivial)
      fun _ _ h => Along.ret ((congrArg Control.results h).trans h₂)

/-- **Acting on a list of snapshots is acts.** -/
theorem handleSnapshots_moves {w : World} {job : Job} {raw : String}
    (hswitching : switchingRestore w₀.restores = none)
    (hverified : verifiedRestore w₀.replica w₀.restores = none)
    (hjob : w₀.job .snapshotList = some job) (hdone : classifyJob job = .succeeded)
    (hraw : w₀.snapshotResults = some raw)
    (hw : ∀ s ∈ (control w).slots, s ∈ (control w₀).slots) :
    Moves ctx p w₀ (handleSnapshots ctx p w₀.replica w₀.restores raw)
      (fun _ w' => (control w').results = (control w).results) (fun _ _ => True) w := by
  have hquiet : ∀ {m : Op Unit} {w' : World}, (control w').results = (control w).results →
      Quiet control m →
      Moves ctx p w₀ m (fun _ w'' => (control w'').results = (control w).results) (fun _ _ => True) w' :=
    fun hsame hm => (Along.of_quiet hm).mono (fun _ _ h => (congrArg Control.results h).trans hsame)
      fun _ _ _ => trivial
  unfold handleSnapshots
  split
  · rename_i all hall
    split
    · rename_i snap hsnap
      refine Along.quietBind (Quiet.call fun _ => rfl) (fun _ _ _ => trivial) ?_
      intro _ w₁ h₁
      refine Along.quietBind (quiet_updateCondition _ _ _ _) (fun _ _ _ => trivial) ?_
      intro _ w₂ h₂
      have hsame₂ : (control w₂).results = (control w).results := congrArg Control.results (h₂.trans h₁)
      split
      · exact Along.ret hsame₂
      rename_i huncovered
      -- the reason is about the world the pass started in, which is the one it decides on
      have hleads : listLeadsToRestore ctx w₀ raw = true := by
        simp only [listLeadsToRestore, hall, hsnap]
        simpa using huncovered
      have hwhy : comesToCreate ctx w₀ = true := by
        simp [comesToCreate, hswitching, hverified, hjob, hdone, hraw, hleads]
      refine Along.bind (createRestoreForSnapshot_moves hwhy (by rw [h₂, h₁]; exact hw))
        fun created w₃ h₃ => ?_
      split
      · exact hquiet (h₃.trans hsame₂) (quiet_publishEvent _)
      · exact hquiet (h₃.trans hsame₂) (quiet_publishEvent _)
    · unfold noSnapshotCondition
      split
      · exact hquiet rfl (quiet_updateCondition _ _ _ _)
      · exact hquiet rfl (quiet_updateCondition _ _ _ _)
  · exact hquiet rfl (quiet_updateCondition _ _ _ _)

/-- Taking the list the Job posted is an act. -/
theorem takeSnapshotResult_moves {w : World} {job : Job} (hjob : w₀.job .snapshotList = some job)
    (hsucceeded : classifyJob job = .succeeded) (hwaiting : (control w).results = w₀.snapshotResults) :
    Moves ctx p w₀ takeSnapshotResult
      (fun raw w' => raw = (control w).results ∧ (control w').slots = (control w).slots ∧
        (control w').results = none)
      (fun _ _ => True) w := by
  apply Along.get_bind
  exact Along.bind
    (Q := fun _ w' => (control w').slots = (control w).slots ∧ (control w').results = none)
    (Along.modify (act (.snapshotsTaken hjob hsucceeded hwaiting)) ⟨rfl, rfl⟩)
    fun _ _ h => Along.ret ⟨rfl, h⟩

/-- Following the snapshot-list Job is acts. -/
theorem followSnapshotJob_moves {w : World} {job : Job}
    (hswitching : switchingRestore w₀.restores = none)
    (hverified : verifiedRestore w₀.replica w₀.restores = none)
    (hjob : w₀.job .snapshotList = some job) (hw : KeptBySweep w₀ (control w)) :
    Moves ctx p w₀ (followSnapshotJob ctx p w₀.replica w₀.restores job)
      (fun b w' => b = none → ListSettled w₀ (control w')) (fun _ _ => True) w := by
  unfold followSnapshotJob
  cases hstate : classifyJob job with
  | succeeded =>
    apply Along.bind (takeSnapshotResult_moves hjob hstate hw.results)
    intro raw w₁ h₁
    obtain ⟨hraw, hslots₁, hresults₁⟩ := h₁
    cases raw with
    | none =>
      dsimp only
      split
      · exact Along.bind (deleteSnapshotJob_moves w₁) fun _ _ _ => Along.ret fun h => by cases h
      · exact Along.ret fun h => by cases h
    | some raw =>
      have hwaiting : w₀.snapshotResults = some raw := hw.results.symm.trans hraw.symm
      apply Along.bind (deleteSnapshotJob_moves w₁)
      intro _ w₂ h₂
      have hslots₂ : ∀ s ∈ (control w₂).slots, s ∈ (control w₀).slots := by
        rw [h₂.1, hslots₁]
        exact hw.slots
      apply Along.bind (handleSnapshots_moves hswitching hverified hjob hstate hwaiting hslots₂)
      intro _ w₃ h₃
      refine Along.ret fun _ => .taken hjob hstate (by rw [hwaiting]; rfl) ?_
      exact h₃.trans (h₂.2.trans hresults₁)
  | failed =>
    refine Along.quietBind (Quiet.bestEffort (quiet_touch _)) (fun _ _ _ => trivial) ?_
    intro _ w₁ _
    exact Along.quietBind (quiet_updateCondition _ _ _ _) (fun _ _ _ => trivial)
      fun _ _ _ => Along.ret fun _ => .failed hjob hstate
  | active => exact Along.ret fun h => by cases h

/-- **The snapshot-list block is acts**; without a Job it does nothing. -/
theorem reconcileSnapshotList_moves {w : World} (hswitching : switchingRestore w₀.restores = none)
    (hverified : verifiedRestore w₀.replica w₀.restores = none) (hw : KeptBySweep w₀ (control w)) :
    Moves ctx p w₀ (reconcileSnapshotList ctx p w₀.replica w₀.restores (w₀.job .snapshotList))
      (fun b w' => (w₀.job .snapshotList = none → KeptBySweep w₀ (control w')) ∧
        (b = none → ListSettled w₀ (control w')))
      (fun _ _ => True) w := by
  unfold reconcileSnapshotList
  split
  · rename_i hjob
    exact Along.ret ⟨fun _ => hw, fun _ => .idle hjob⟩
  · rename_i job hjob
    exact (followSnapshotJob_moves hswitching hverified hjob hw).mono
      (fun _ _ h => ⟨fun hnone => by simp [hjob] at hnone, h⟩) fun _ _ h => h

/-! ## The trigger -/

theorem updateScheduleStatus_moves {w : World} {c : Call} {replica : Replica}
    {next : Option Timestamp}
    (hnext : ∀ t, next = some t →
      ReflTransGen (ReplicaAct ctx p w₀) (control w) { control w with next := some t }) :
    Moves ctx p w₀ (updateScheduleStatus c ctx replica next)
      (fun _ w' => (control w').queue = (control w).queue ∧ (control w').limit = (control w).limit ∧
        (control w').results = (control w).results)
      (fun _ _ => True) w := by
  unfold updateScheduleStatus
  split
  · exact Along.ret ⟨rfl, rfl, rfl⟩
  · rename_i t
    exact Along.call (hnext t rfl) (fun _ => ⟨rfl, rfl, rfl⟩) (fun _ _ => trivial) fun _ _ => trivial

/-- Waiting in the queue is an act. -/
theorem enqueueRestore_moves (w : World) :
    Moves ctx p w₀ (enqueueRestore p) (fun _ _ => True) (fun _ _ => True) w := by
  refine Along.bind (Q := fun _ _ => True) (Along.modify (act .enqueued) trivial) ?_
  intro _ w₁ _
  refine Along.quietBind Quiet.get (fun _ _ _ => trivial) ?_
  intro _ w₂ _
  exact Along.quietBind (Quiet.call fun _ => rfl) (fun _ _ _ => trivial)
    fun _ _ _ => Along.ret trivial

/-- Starting a restore is acts. -/
theorem startRestore_moves {w : World} (htrigger : comesToTrigger w₀ = true)
    (hshould : shouldRestore p w₀.replica w₀.restores = true)
    (hjob : w₀.job .snapshotList = none) (hqueue : w.queue = w₀.queue)
    (hlimit : w.maxConcurrentRestores = w₀.maxConcurrentRestores)
    (hwaiting : w.snapshotResults = w₀.snapshotResults) :
    Moves ctx p w₀ (startRestore p) (fun _ _ => True) (fun _ _ => True) w := by
  apply Along.get_bind
  split
  · exact enqueueRestore_moves w
  rename_i hstart
  refine Along.bind (Q := fun _ _ => True) ?_ fun _ _ _ => Along.ret trivial
  refine createJob_along (fun _ => trivial) fun hnone => ?_
  have hfresh : w.job .snapshotList = none := hnone
  have hadd : control (w.addJob (buildSnapshotListJob p) fun uid => [.snapshotJobCreated uid]) =
      { control w with
        snapshotJob := some (buildSnapshotListJob p (control w).nextUid)
        nextUid := (control w).nextUid + 1
        history := .snapshotJobCreated (control w).nextUid :: (control w).history } := by
    simp only [control, job_addJob, hfresh]
    cases w.job .schemaMigration <;> rfl
  refine Along.call ?_ (fun _ => trivial) (fun _ _ => trivial) fun _ _ => trivial
  rw [hadd]
  -- nothing before the trigger touches the queue, so the slot was free when the pass started
  have hfree : w₀.queue.canStart w₀.maxConcurrentRestores = true := by
    rw [Bool.not_eq_true, Bool.not_eq_false', hqueue, hlimit] at hstart
    exact hstart
  exact act (.snapshotJobCreated htrigger hshould hjob hfresh hfree hwaiting)

/-- What became of the list does not change with the schedule. -/
theorem ListSettled.of_results {a a' : Control} (h : ListSettled w₀ a)
    (hresults : a'.results = a.results) : ListSettled w₀ a' := by
  cases h with
  | idle hjob => exact .idle hjob
  | failed hjob hfailed => exact .failed hjob hfailed
  | taken hjob hsucceeded hwaiting htaken =>
    exact .taken hjob hsucceeded hwaiting (hresults.trans htaken)

theorem settlePass_moves (w : World) (htrigger : comesToTrigger w₀ = true)
    (hsettle : (shouldRestore p w₀.replica w₀.restores && (w₀.job .snapshotList).isNone) = false)
    (hlist : ListSettled w₀ (control w)) :
    Moves ctx p w₀ (settlePass ctx p w₀.replica w₀.restores) (fun _ _ => True)
      (fun _ _ => True) w := by
  refine Along.bind
    (updateScheduleStatus_moves fun t ht => act (.scheduleAdvanced t htrigger hsettle ht hlist)) ?_
  intro _ w₁ _
  refine Along.quietBind (Quiet.call fun _ => rfl) (fun _ _ _ => trivial) ?_
  intro _ w₂ _
  exact Along.quietBind (Quiet.call fun _ => rfl) (fun _ _ _ => trivial)
    fun _ _ _ => Along.ret trivial

/-- **The trigger block is acts.** -/
theorem reconcileTrigger_moves {w : World} (hswitching : switchingRestore w₀.restores = none)
    (hverified : verifiedRestore w₀.replica w₀.restores = none)
    (hw : w₀.job .snapshotList = none → KeptBySweep w₀ (control w))
    (hlist : ListSettled w₀ (control w)) :
    Moves ctx p w₀
      (reconcileTrigger ctx p w₀.replica w₀.restores (w₀.job .snapshotList)) (fun _ _ => True)
      (fun _ _ => True) w := by
  refine Along.unlessReturned
    (P := fun b w' => control w' = control w ∧
      (b = none → inProgressRestore w₀.restores = none)) ?_ (fun _ _ _ => trivial) fun w₁ h₁ => ?_
  · unfold waitForProgress
    split
    · rename_i hidle
      exact Along.ret ⟨rfl, fun _ => hidle⟩
    · exact Along.quietBind (Quiet.call fun _ => rfl) (fun _ _ _ => trivial)
        fun _ _ h => Along.ret ⟨h, fun h => by cases h⟩
  obtain ⟨hw₁, hidle⟩ := h₁
  have htrigger : comesToTrigger w₀ = true := by
    simp [comesToTrigger, hswitching, hverified, hidle rfl]
  refine Along.bind (updateScheduleStatus_moves fun t ht => act (.scheduleRecomputed t htrigger ht)) ?_
  intro _ w₂ h₂
  split
  · rename_i hstart
    -- no Job was there, so the snapshot-list block did nothing
    rw [Bool.and_eq_true, Option.isNone_iff_eq_none] at hstart
    have hkept := hw hstart.2
    rw [← hw₁] at hkept
    exact startRestore_moves htrigger hstart.1 hstart.2 (h₂.1.trans hkept.queue)
      (h₂.2.1.trans hkept.limit) (h₂.2.2.trans hkept.results)
  · rename_i hsettle
    rw [← hw₁] at hlist
    exact settlePass_moves w₂ htrigger (Bool.eq_false_iff.mpr hsettle) (hlist.of_results h₂.2.2)

/-! ## The whole pass -/

/-- What a pass does with the restores it listed is acts. -/
theorem reconcileRestores_moves {w : World} (hw : control w = control w₀) :
    Moves ctx p w₀ (reconcileRestores ctx p w₀.replica w₀.restores) (fun _ _ => True)
      (fun _ _ => True) w := by
  refine Along.unlessReturned (reconcileSwitchover_moves hw) (fun _ _ _ => trivial) ?_
  intro w₁ h₁
  obtain ⟨hw₁, hswitching⟩ := h₁ rfl
  refine Along.unlessReturned (ephemeralTeardown_moves hw₁) (fun _ _ _ => trivial) ?_
  intro w₂ h₂
  obtain ⟨hw₂, hverified⟩ := h₂ rfl
  apply Along.bind (sweepStale_moves (.of_eq hw₂))
  intro _ w₃ h₃
  apply Along.bind (cleanupFailed_moves h₃)
  intro _ w₄ h₄
  -- the Job is read only now, and is still the one of the world the pass started in
  refine Along.read_bind (fun _ => trivial) ?_
  have hjob : w₄.job .snapshotList = w₀.job .snapshotList := h₄.snapshotJob
  rw [hjob]
  refine Along.unlessReturned (reconcileSnapshotList_moves hswitching hverified h₄)
    (fun _ _ _ => trivial) ?_
  intro w₅ h₅
  refine Along.quietBind (quiet_clearSuspension _) (fun _ _ _ => trivial) ?_
  intro _ w₆ h₆
  exact reconcileTrigger_moves hswitching hverified (fun hjob => h₆ ▸ h₅.1 hjob) (h₆ ▸ h₅.2 rfl)

/-- **A pass of the replica controller is acts.** -/
theorem reconcile_moves (ctx : Context) (p : ReplicaPass) (w : World) :
    Moves ctx p w (reconcile ctx p) (fun _ _ => True) (fun _ _ => True) w := by
  apply Along.get_bind
  refine Along.unlessReturned
    ((Along.of_quietWith (quiet_validateCredentials _ _)).mono (fun _ _ h => h) fun _ _ _ => trivial)
    (fun _ _ _ => trivial) ?_
  intro w₁ h₁
  refine Along.bind
    ((Along.of_quietWith (quiet_ensureObjects _)).mono (fun _ _ h => h) fun _ _ _ => trivial) ?_
  intro _ w₂ h₂
  refine Along.read_bind (fun _ => trivial) ?_
  rw [h₂.2.trans h₁.2]
  exact reconcileRestores_moves (h₂.1.trans h₁.1)

end RestoreOperator
