import RestoreOperator.System.Gates

/-!
# `System.Switching` — the reporting-schema gate and the switchover are acts

The switchover block is four writes and a report with nothing to tie them together.  Its replies are
told apart by how far it got: the restore marked Active only, also recorded as the current one, or
also reported.
-/

namespace RestoreOperator

open Calls Calls.Prog Relation

variable {ctx : Context} {p : ReplicaPass} {w₀ : World} {r : Restore}

/-! ## The reporting-schema gate -/

theorem quiet_deleteBuildJob : Quiet control deleteBuildJob :=
  Quiet.bind
    (Quiet.bestEffort (Quiet.call fun w => by
      rw [control_deleteJob, dropJob_other (by simp) (by simp)])) fun _ => Quiet.ret _

theorem quiet_takeSchema : Quiet control takeSchema :=
  Quiet.bind Quiet.get fun _ => Quiet.bind (Quiet.modify fun _ => rfl) fun _ => Quiet.ret _

theorem quiet_keepSchema (sql : String) : Quiet control (keepSchema sql) :=
  Quiet.modify fun _ => rfl

theorem quiet_settleBuild (replica : Replica) (restore : Restore) (sql : String) (elapsed : Int)
    (registration : Option String) (registered : List String) :
    Quiet control (finishBuild.settle replica restore sql elapsed registration registered) := by
  apply Quiet.bind (Quiet.attempt (besideBuilds_control.recordSchemaBuild _ _ _))
  intro recorded
  cases recorded with
  | error err => exact Quiet.bind (quiet_keepSchema _) fun _ => Quiet.fail _
  | ok _ => exact Quiet.bind quiet_deleteBuildJob fun _ => Quiet.ret _

theorem quiet_finishBuild (ctx : Context) (p : ReplicaPass) (replica : Replica) (restore : Restore)
    (job : Job) : Quiet control (finishBuild ctx p replica restore job) := by
  apply Quiet.bind quiet_takeSchema
  intro schema
  cases schema with
  | none =>
    dsimp only
    split
    · refine Quiet.bind (besideBuilds_control.failRound _) fun _ => ?_
      exact Quiet.bind (besideBuilds_control.recordBuildAttempt _ _) fun _ =>
        Quiet.bind quiet_deleteBuildJob fun _ => Quiet.ret _
    · exact Quiet.bind (besideBuilds_control.recordSchemaBuild _ _ _) fun _ =>
        Quiet.bind quiet_deleteBuildJob fun _ => Quiet.ret _
  | some sql =>
    apply Quiet.bind (besideBuilds_control.registerReportingSchema _ _ _)
    intro registration
    dsimp only
    split
    · apply Quiet.bind (besideBuilds_control.failRound _)
      intro _
      split
      · exact Quiet.bind (quiet_keepSchema _) fun _ =>
          Quiet.bind (besideBuilds_control.recordBuildAttempt _ _) fun _ => Quiet.ret _
      · exact quiet_settleBuild _ _ _ _ _ _
    · exact quiet_settleBuild _ _ _ _ _ _
    · exact quiet_settleBuild _ _ _ _ _ _

theorem quiet_failBuild (p : ReplicaPass) (replica : Replica) (restore : Restore) (job : Job) :
    Quiet control (failBuild p replica restore job) := by
  refine Quiet.bind (Quiet.bestEffort (quiet_touch _)) fun _ =>
    Quiet.bind (Quiet.bestEffort (quiet_touch _)) ?_
  intro _
  exact Quiet.bind (besideBuilds_control.recordSchemaBuild _ _ _) fun _ =>
    Quiet.bind quiet_takeSchema fun _ => Quiet.bind quiet_deleteBuildJob fun _ => Quiet.ret _

/-- Starting a build creates at most its Job. -/
theorem startBuild_moves {w : World} (restore : Restore) :
    Moves ctx p w₀ (startBuild ctx p restore) (fun _ w' => OnlyUids (control w) (control w'))
      (fun _ _ => True) w := by
  refine Along.quietBind quiet_takeSchema (fun _ _ _ => trivial) ?_
  intro _ w₁ h₁
  refine Along.quietBind (Quiet.attempt (quiet_touch _)) (fun _ _ _ => trivial) ?_
  intro discovered w₂ h₂
  rw [← h₁, ← h₂]
  cases discovered with
  | error err =>
    exact (Along.of_quiet (besideBuilds_control.retryOrSettle _ _)).mono (fun _ _ h => .of_eq h)
      fun _ _ _ => trivial
  | ok _ =>
    refine Along.quietBind (Quiet.attempt (Quiet.when (quiet_touch _))) (fun _ _ _ => trivial) ?_
    intro secret w₃ h₃
    rw [← h₃]
    cases secret with
    | error err =>
      exact (Along.of_quiet (besideBuilds_control.retryOrSettle _ _)).mono (fun _ _ h => .of_eq h)
        fun _ _ _ => trivial
    | ok _ =>
      refine Along.quietBind Quiet.get (fun _ _ _ => trivial) ?_
      intro _ w₄ h₄
      rw [← h₄]
      split
      · exact Along.ret (.of_eq rfl)
      · refine Along.bind ((createJob_moves (by simp) (by simp)).mono (fun _ _ h => h)
          fun _ _ _ => trivial) fun _ _ h => Along.ret h

/-- **The reporting-schema gate is acts**: it creates at most its Job. -/
theorem reconcileSchemaBuild_moves {w : World} {replica : Replica} (restore : Restore) :
    Moves ctx p w₀ (reconcileSchemaBuild ctx p replica restore)
      (fun _ w' => OnlyUids (control w) (control w')) (fun _ _ => True) w := by
  have hquiet : ∀ {m : Op Bool}, Quiet control m →
      Moves ctx p w₀ m (fun _ w' => OnlyUids (control w) (control w')) (fun _ _ => True) w :=
    fun hm => (Along.of_quiet hm).mono (fun _ _ h => .of_eq h) fun _ _ _ => trivial
  unfold reconcileSchemaBuild
  -- only a build that is to be done can create anything
  split
  · exact hquiet (Quiet.ret _)
  · exact hquiet (besideBuilds_control.settleFailed _ _)
  · exact hquiet (besideBuilds_control.settleFailed _ _)
  · exact hquiet (besideBuilds_control.settleFailed _ _)
  · exact hquiet (Quiet.bind quiet_takeSchema fun _ => Quiet.ret _)
  · exact hquiet (Quiet.ret _)
  · refine Along.quietBind (Quiet.read _ _) (fun _ _ _ => trivial) ?_
    intro job w₁ h₁
    rw [← h₁] at hquiet ⊢
    cases job with
    | none => exact startBuild_moves restore
    | some job =>
      dsimp only
      split
      · exact Along.ret (.of_eq rfl)
      · refine (Along.of_quiet ?_).mono (fun _ _ h => .of_eq h) fun _ _ _ => trivial
        split
        · exact Quiet.ret _
        · exact quiet_finishBuild _ _ _ _ _
        · exact quiet_failBuild _ _ _ _

theorem quiet_reconcileExtraUserGrants (p : ReplicaPass) (replica : Replica) :
    Quiet control (reconcileExtraUserGrants p replica) := by
  unfold reconcileExtraUserGrants
  split
  · exact Quiet.ret _
  · exact Quiet.bind (quiet_touch _) fun _ => Quiet.bind (quiet_touch _) fun _ =>
      Quiet.bind (Quiet.ask _ _) fun _ => Quiet.when (quiet_touch _)

/-! ## All gates -/

/-- The redaction gate of a pass. -/
theorem redactionGate_moves {w : World} (hr : switchingRestore w₀.restores = some r)
    (hw : control w = control w₀) :
    Moves ctx p w₀ (redactionGate p w₀.replica r)
      (fun b w' => Kept (control w₀) (control w') ∧
        (control w').migrationJob = (control w₀).migrationJob ∧
        (b = true → w₀.replica.spec.redaction.isSome → (control w').redactionDone = true))
      (fun _ _ => True) w := by
  unfold redactionGate
  split
  · exact (reconcileRedactionStep_moves hr hw).mono
      (fun _ _ h => ⟨h.1, h.2.1, fun hb _ => h.2.2 hb⟩) fun _ _ h => h
  · rename_i hnone
    exact Along.ret ⟨.of_eq hw, by rw [hw], fun _ hsome => absurd hsome hnone⟩

/-- The migration gate of a pass. -/
theorem schemaMigrationGate_moves {w : World} (hr : switchingRestore w₀.restores = some r)
    (hkept : Kept (control w₀) (control w))
    (hjob : (control w).migrationJob = (control w₀).migrationJob) :
    Moves ctx p w₀ (schemaMigrationGate ctx p w₀.replica r (activeRestore w₀.restores))
      (MigrationAnswer w₀ r (control w)) (fun _ _ => True) w := by
  unfold schemaMigrationGate
  split
  · exact reconcileSchemaMigration_moves hr hkept hjob
  · rename_i hnone
    refine Along.ret ⟨.of_eq rfl, fun _ => .notConfigured ?_⟩
    simpa using hnone

/-- Why a restore passed the migration gate does not depend on anything the later gates change. -/
theorem MigrationPassed.kept {a a' : Control} (h : MigrationPassed w₀ r a) (hk : Kept a a') :
    MigrationPassed w₀ r a' := by
  cases h with
  | notConfigured h => exact .notConfigured h
  | noneConfigured h => exact .noneConfigured h
  | firstRestore h => exact .firstRestore h
  | markedComplete h => exact .markedComplete h
  | settled h => exact .settled (h.kept hk)

/-- **The gates are acts**, and all three let a restore through only if `GatesPassed`. -/
theorem switchoverGates_moves {w : World} (hr : switchingRestore w₀.restores = some r)
    (hw : control w = control w₀) :
    Moves ctx p w₀ (switchoverGates ctx p w₀.replica r (activeRestore w₀.restores))
      (fun b w' => b = true → GatesPassed w₀ r (control w')) (fun _ _ => True) w := by
  apply Along.bind (redactionGate_moves hr hw)
  intro redacted w₁ h₁
  obtain ⟨hk₁, hjob₁, hred₁⟩ := h₁
  cases redacted with
  | false => exact Along.ret fun h => by cases h
  | true =>
    apply Along.bind (schemaMigrationGate_moves hr hk₁ hjob₁)
    intro migrated w₂ h₂
    cases migrated with
    | false => exact Along.ret fun h => by cases h
    | true =>
      apply Along.bind (reconcileSchemaBuild_moves r)
      intro built w₃ h₃
      cases built with
      | false => exact Along.ret fun h => by cases h
      | true =>
        refine Along.quietBind (quiet_reconcileExtraUserGrants _ _) (fun _ _ _ => trivial)
          fun _ w₄ h₄ => Along.ret ?_
        intro _
        have hk : Kept (control w₂) (control w₄) := by
          rw [h₄]
          exact h₃.kept
        have hk' : Kept (control w₀) (control w₄) := (hk₁.trans h₂.1.toKept).trans hk
        refine ⟨hr, hk'.slots, hk'.current, ?_, (h₂.2 rfl).kept hk⟩
        intro hsome
        obtain ⟨n, hn⟩ := h₃
        -- neither of the later gates touches the marker
        have hdone := hred₁ rfl hsome
        unfold Control.redactionDone at hdone ⊢
        rw [h₄, hn]
        show ((control w₂).redaction.any RedactionPhase.isDone) = true
        rw [h₂.1.redaction]
        exact hdone

/-! ## The switchover -/

/-- Whether a restore is Active can be read off the abstract state. -/
theorem activeRestore_isSome (w : World) :
    (activeRestore w.restores).isSome = (control w).slots.any fun s => s.phase == some .active := by
  rw [Bool.eq_iff_iff, activeRestore, List.find?_isSome]
  simp only [control, List.any_eq_true, List.mem_map, exists_exists_and_eq_and]
  rfl

/-- A best-effort call ends a pass only by ending the operator. -/
theorem survived_of_bestEffort {c : Call} {f : World → World} {ρ : Call → Reply Error} {w : World}
    (h : ∀ a w', bestEffort (call c f : Op Unit) ρ w ≠ .done a w') : (ρ c).survived = false := by
  unfold bestEffort call at h
  cases hr : ρ c <;> simp [hr] at h <;> rfl

theorem markRestoreOutgoing_stops {outgoing : Option Restore} {ρ : Call → Reply Error} {w : World}
    (h : ∀ a w', markRestoreOutgoing outgoing ρ w ≠ .done a w') :
    (outgoing.isNone || (ρ .markOutgoing).survived) = false := by
  cases outgoing with
  | none => exact absurd rfl (h () w)
  | some r =>
    rw [Option.isNone_some, Bool.false_or]
    refine survived_of_bestEffort
      (f := World.patchDatabase r.name fun d => { d with outgoing := true }) (w := w) ?_
    intro a w' ha
    apply h () w'
    simp only [markRestoreOutgoing, bind_eq_andThen, Prog.andThen, ha]
    rfl

theorem quiet_markRestoreOutgoing (outgoing : Option Restore) :
    Quiet control (markRestoreOutgoing outgoing) := by
  cases outgoing with
  | none => exact Quiet.ret _
  | some r => exact Quiet.bind (Quiet.bestEffort (Quiet.call fun _ => rfl)) fun _ => Quiet.ret _

theorem publishEvent_stops {reason : String} {ρ : Call → Reply Error} {w : World}
    (h : ∀ a w', Op.publishEvent reason ρ w ≠ .done a w') :
    (ρ (.publishEvent reason)).survived = false := by
  refine survived_of_bestEffort (f := id) (w := w) fun a w' ha => h () w' ?_
  simp only [Op.publishEvent, Op.touch, bind_eq_andThen, Prog.andThen, ha]
  rfl

theorem updateCondition_stops {type status reason message : String} {ρ : Call → Reply Error}
    {w : World} (h : ∀ a w', Op.updateCondition type status reason message ρ w ≠ .done a w') :
    ((ρ (.conditionGet type)).isOk && (ρ (.conditionPatch type)).isOk) = false := by
  cases hget : ρ (.conditionGet type) with
  | ok =>
    cases hpatch : ρ (.conditionPatch type) with
    | ok =>
      simp [Op.updateCondition, Op.patchStatus, Prog.andThen, Prog.read, Prog.call, hget,
        hpatch] at h
    | refused e => rfl
    | lost e => rfl
    | cut => rfl
    | cutAfter => rfl
  | refused e => rfl
  | lost e => rfl
  | cut => rfl
  | cutAfter => rfl

/-- **The announcement reports the verification**, unless a call before the report ends it. -/
theorem announceSwitchover_state (replica : Replica) (r : Restore) (active : Option Restore)
    (ρ : Call → Reply Error) (w : World) :
    control (announceSwitchover replica r active ρ w).state =
        (control w).log (.reported r.uid .success) ∨
      control (announceSwitchover replica r active ρ w).state = control w ∧
        announced replica.status active ρ = false := by
  unfold announceSwitchover
  rcases Quiet.bind_cases (quiet_markRestoreOutgoing active) _ ρ w with
    ⟨_, w₁, h₁, hrun⟩ | ⟨hstop, hw⟩
  swap
  · exact .inr ⟨hw, by simp [announced, markRestoreOutgoing_stops hstop]⟩
  rw [hrun, ← h₁]
  rcases Quiet.bind_cases (Quiet.when (quiet_updateCondition _ _ _ _)) _ ρ w₁ with
    ⟨_, w₂, h₂, hrun⟩ | ⟨hstop, hw⟩
  swap
  · refine .inr ⟨hw, ?_⟩
    cases hsus : schedulingSuspended replica.status with
    | false => simp [Prog.when, hsus, Prog.ret] at hstop
    | true =>
      simp only [Prog.when, hsus, if_true] at hstop
      simp only [announced, hsus, updateCondition_stops hstop]
      simp
  rw [hrun, ← h₂]
  rcases Quiet.bind_cases (quiet_publishEvent _) _ ρ w₂ with ⟨_, w₃, h₃, hrun⟩ | ⟨hstop, hw⟩
  swap
  · exact .inr ⟨hw, by simp [announced, publishEvent_stops hstop]⟩
  rw [hrun, ← h₃]
  rcases Quiet.bind_cases (Quiet.bestEffort (quiet_touch _)) _ ρ w₃ with
    ⟨_, w₄, h₄, hrun⟩ | ⟨hstop, hw⟩
  swap
  · exact .inr ⟨hw, by simp [announced, survived_of_bestEffort hstop]⟩
  rw [hrun, ← h₄]
  -- the report itself is best effort, and already logged
  refine .inl ?_
  exact (Quiet.bind (Quiet.bestEffort (quiet_touch _)) fun _ => Quiet.ret _) ρ
    ((w₄.log (.reported r.uid .success)).record (.verificationReported r (runIdFromStatus r)))

/-- The effect of marking the restore Active. -/
theorem control_updatePhaseActive {w : World} (hslots : (control w).slots = (control w₀).slots) :
    control ((w.patchRestore r.name fun s => { s with phase := some .active }).log
        (.activated r.uid (activeRestore w.restores).isSome)) =
      ((control w).setPhase r.name .active).log
        (.activated r.uid (activeRestore w₀.restores).isSome) := by
  rw [control_log, control_patchRestore_phase .active fun _ => rfl, activeRestore_isSome,
    activeRestore_isSome w₀, hslots]

/-- A call that does not end with a value was not answered with `ok`. -/
theorem isOk_of_call {c : Call} {f : World → World} {ρ : Call → Reply Error} {w : World}
    (h : ∀ a w', (call c f : Op Unit) ρ w ≠ .done a w') : (ρ c).isOk = false := by
  unfold call at h
  cases hr : ρ c <;> simp [hr] at h <;> rfl

/-- Returning a value leaves the state alone. -/
theorem state_andThen_ret {α β : Type} (m : Op α) (b : β) (ρ : Call → Reply Error) (w : World) :
    ((m.andThen fun _ => Prog.ret b : Op β) ρ w).state = (m ρ w).state := by
  unfold Prog.andThen
  cases m ρ w <;> rfl

/-- **Recording the switchover** leaves the replica as it was, or records the restore as current, with
    or without the report. -/
theorem recordSwitchover_state (p : ReplicaPass) (replica : Replica) (r : Restore)
    (active : Option Restore) (ρ : Call → Reply Error) (w : World) :
    control (recordSwitchover p replica r active ρ w).state = control w ∧
        ((ρ .updateActivatedAt).isOk && (ρ .patchSwitchover).tookEffect) = false ∨
      control (recordSwitchover p replica r active ρ w).state =
          { control w with current := some r.name, failures := 0 } ∧
        ((ρ .updateActivatedAt).isOk && (ρ .patchSwitchover).isOk && announced replica.status active ρ) =
          false ∨
      control (recordSwitchover p replica r active ρ w).state =
        Control.log (.reported r.uid .success)
          { control w with current := some r.name, failures := 0 } := by
  unfold recordSwitchover
  have hquiet : Quiet control (updateActivatedAt p r) := quiet_patchRestore fun _ => rfl
  rcases Quiet.bind_cases hquiet _ ρ w with ⟨_, w₁, h₁, hrun⟩ | ⟨hstop, hw⟩
  swap
  · exact .inl ⟨hw, by rw [isOk_of_call hstop]; rfl⟩
  rw [hrun, ← h₁]
  cases hpatch : ρ .patchSwitchover with
  | ok =>
    -- the replica is patched, and the announcement runs
    right
    have hpatched : ∃ w₂, patchSwitchover p replica r ρ w₁ = .done () w₂ ∧
        control w₂ = { control w₁ with current := some r.name, failures := 0 } := by
      simp only [patchSwitchover, Op.patchStatus, Prog.call, hpatch]
      exact ⟨_, rfl, rfl⟩
    obtain ⟨w₂, hrun₂, h₂⟩ := hpatched
    rw [← h₂]
    simp only [bind_eq_andThen, pure_eq_ret]
    rw [show ∀ f : Unit → Op Action, (patchSwitchover p replica r).andThen f ρ w₁ = f () ρ w₂ from
      fun f => by simp only [Prog.andThen, hrun₂], state_andThen_ret]
    rcases announceSwitchover_state replica r active ρ w₂ with hstate | ⟨hstate, hannounced⟩
    · exact .inr hstate
    · exact .inl ⟨hstate, by simp [hannounced]⟩
  -- nothing was written
  | refused e =>
    refine .inl ⟨?_, by simp [Reply.tookEffect]⟩
    simp only [bind_eq_andThen, Prog.andThen, patchSwitchover, Op.patchStatus, Prog.call, hpatch]
    rfl
  | cut =>
    refine .inl ⟨?_, by simp [Reply.tookEffect]⟩
    simp only [bind_eq_andThen, Prog.andThen, patchSwitchover, Op.patchStatus, Prog.call, hpatch]
    rfl
  -- written, and the pass ends before the announcement
  | lost e =>
    refine .inr (.inl ⟨?_, by simp [Reply.isOk]⟩)
    simp only [bind_eq_andThen, Prog.andThen, patchSwitchover, Op.patchStatus, Prog.call, hpatch]
    rfl
  | cutAfter =>
    refine .inr (.inl ⟨?_, by simp [Reply.isOk]⟩)
    simp only [bind_eq_andThen, Prog.andThen, patchSwitchover, Op.patchStatus, Prog.call, hpatch]
    rfl

/-- **The writes of the switchover after the selector's** are at most one act: nothing, the restore
    marked Active, recorded as current too, or reported too. -/
theorem switchoverWrites_reaches {w : World} (hgates : GatesPassed w₀ r (control w))
    (hselector : (control w).selector = some r.name) :
    ReflTransGen (ReplicaAct ctx p w₀) (control w)
      (control ((do
        updatePhaseActive r
        recordSwitchover p w₀.replica r (activeRestore w₀.restores) : Op Action)
          p.replies w).state) := by
  have hactive := control_updatePhaseActive (r := r) hgates.slots
  have htorn : tornSwitchover p.replies = true → ReplicaAct ctx p w₀ (control w) _ :=
    .activated hgates hselector
  have hunreported : unreportedSwitchover w₀ p.replies = true → ReplicaAct ctx p w₀ (control w) _ :=
    .switchedOver hgates hselector
  have hreported : ReplicaAct ctx p w₀ (control w) _ := .switchedOverReported hgates hselector
  unfold tornSwitchover at htorn
  unfold unreportedSwitchover at hunreported
  rw [← hactive] at htorn hunreported hreported
  rw [bind_eq_andThen]
  unfold updatePhaseActive
  simp only [Prog.andThen, Prog.call]
  -- the restore is marked Active exactly when the call took effect, and recorded after an answer
  cases hr : p.replies .updatePhaseActive with
  | refused e => exact .refl
  | cut => exact .refl
  | lost e => exact act (htorn (by simp [hr, Reply.tookEffect, Reply.isOk]))
  | cutAfter => exact act (htorn (by simp [hr, Reply.tookEffect, Reply.isOk]))
  | ok =>
    simp only [hr, Reply.tookEffect_ok, Reply.isOk_ok, Bool.true_and] at htorn hunreported
    rcases recordSwitchover_state p w₀.replica r (activeRestore w₀.restores) p.replies
        ((w.patchRestore r.name fun s => { s with phase := some .active }).log
          (.activated r.uid (activeRestore w.restores).isSome)) with
      ⟨hstate, hwhy⟩ | ⟨hstate, hwhy⟩ | hstate
    · simp only [hstate]
      exact act (htorn (by rw [hwhy]; rfl))
    · simp only [hstate]
      exact act (hunreported (by rw [hwhy]; rfl))
    · simp only [hstate]
      exact act hreported

/-- **The switchover is acts.** -/
theorem switchover_moves {w : World} (hgates : GatesPassed w₀ r (control w)) :
    Moves ctx p w₀ (switchover p w₀.replica r (activeRestore w₀.restores)) (fun _ _ => True)
      (fun _ _ => True) w := by
  refine Along.quietBind (quiet_markPodReadyForTraffic _) (fun _ _ _ => trivial) ?_
  intro _ w₁ h₁
  rw [← h₁] at hgates
  refine Along.bind
    (Q := fun _ w' =>
      control w' = { control w₁ with selector := some r.name }.log (.selectorMoved r.uid))
    (Along.call (act (.selectorMoved hgates)) (fun _ => rfl) (fun _ _ => trivial)
      fun _ _ => trivial) fun _ w₂ h₂ => Along.of_reaches (switchoverWrites_reaches ?_ ?_)
  · have hk : Kept (control w₁) (control w₂) := by
      rw [h₂]
      exact ⟨rfl, rfl, [_], rfl⟩
    refine ⟨hgates.switching, hk.slots.trans hgates.slots, hk.current.trans hgates.current,
      ?_, hgates.migrated.kept hk⟩
    intro hsome
    rw [h₂]
    exact hgates.redacted hsome
  · rw [h₂]
    rfl

/-- **The block of a switching restore is acts**; without one it does nothing. -/
theorem reconcileSwitchover_moves {w : World} (hw : control w = control w₀) :
    Moves ctx p w₀ (reconcileSwitchover ctx p w₀.replica w₀.restores)
      (fun b w' => b = none → control w' = control w₀ ∧ switchingRestore w₀.restores = none)
      (fun _ _ => True) w := by
  unfold reconcileSwitchover
  split
  · rename_i hnone
    exact Along.ret fun _ => ⟨hw, hnone⟩
  rename_i r hr
  apply Along.bind (switchoverGates_moves hr hw)
  intro b w₁ h₁
  cases b with
  | false => exact Along.ret fun h => by cases h
  | true =>
    exact Along.bind (switchover_moves (h₁ rfl)) fun _ _ _ => Along.ret fun h => by cases h

end RestoreOperator
