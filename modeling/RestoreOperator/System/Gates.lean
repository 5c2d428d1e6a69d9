import RestoreOperator.System.Observed

/-!
# `System.Gates` — the gates of the switchover are acts

Each of the three gates moves along the acts of the replica controller.  What is carried from one to
the next, and to the switchover, is that the restores are those the pass listed and why each gate let
the restore through.
-/

namespace RestoreOperator

open Calls Calls.Prog Relation

variable {ctx : Context} {p : ReplicaPass} {w₀ : World} {r : Restore}

/-- **A program of a replica pass** that started in `w₀` moves along the acts of the controller. -/
abbrev Moves {α : Type} (ctx : Context) (p : ReplicaPass) (w₀ : World) (m : Op α)
    (Q : α → World → Prop) (E : Error → World → Prop) (w : World) : Prop :=
  Along control (ReplicaAct ctx p w₀) p.replies m Q E w

/-- One act. -/
theorem act {a a' : Control} (h : ReplicaAct ctx p w₀ a a') :
    ReflTransGen (ReplicaAct ctx p w₀) a a' :=
  .single h

/-- **What the gates leave alone**: the restores and the current one.  The log only grows. -/
structure Kept (a a' : Control) : Prop where
  slots : a'.slots = a.slots
  current : a'.current = a.current
  history : ∃ l, a'.history = l ++ a.history

theorem Kept.refl (a : Control) : Kept a a := ⟨rfl, rfl, [], rfl⟩

theorem Kept.of_eq {a a' : Control} (h : a' = a) : Kept a a' := h ▸ Kept.refl a

theorem Kept.trans {a b c : Control} (h : Kept a b) (h' : Kept b c) : Kept a c := by
  obtain ⟨l, hl⟩ := h.history
  obtain ⟨l', hl'⟩ := h'.history
  exact ⟨h'.slots.trans h.slots, h'.current.trans h.current, l' ++ l, by rw [hl', hl, List.append_assoc]⟩

/-! ## Redaction -/

theorem quiet_resolveVersion {τ : Type} {abs : World → τ} (p : ReplicaPass) (spec : RedactionSpec) :
    Quiet abs (resolveVersion p spec) := by
  unfold resolveVersion
  split
  · exact Quiet.ret _
  · split
    · exact Quiet.ret _
    · exact Quiet.ask _ _

/-- A redaction is seen through its database only. -/
theorem quiet_enforceReadOnly {τ : Type} {abs : World → τ} {name : String}
    (h : ∀ w f, abs (w.patchDatabase name f) = abs w) : Quiet abs (enforceReadOnly name) :=
  Quiet.bind (Quiet.call fun w => h w _) fun _ =>
    Quiet.bind (Quiet.call fun w => h w _) fun _ => Quiet.call fun w => h w _

theorem quiet_runRedaction {τ : Type} {abs : World → τ} {name : String}
    (h : ∀ w f, abs (w.patchDatabase name f) = abs w) (p : ReplicaPass) (replica : Replica)
    (spec : RedactionSpec) : Quiet abs (runRedaction p replica spec name) := by
  refine Quiet.bind (quiet_touch _) fun _ => Quiet.bind (quiet_touch _) ?_
  intro _
  refine Quiet.bind (quiet_touch _) fun _ => Quiet.bind (quiet_resolveVersion p spec) ?_
  intro _
  refine Quiet.bind (quiet_touch _) fun _ => Quiet.bind (Quiet.ask _ _) ?_
  intro _
  exact Quiet.bind (Quiet.when (quiet_enforceReadOnly h)) fun _ => Quiet.ret _

/-- A redaction that returns `Ok` is logged; one that fails leaves no trace. -/
theorem reconcileRedaction_moves {w : World} {replica : Replica}
    (hr : switchingRestore w₀.restores = some r) :
    Moves ctx p w₀ (reconcileRedaction p replica r)
      (fun _ w' => control w' = (control w).log (.redacted r.uid))
      (fun _ w' => control w' = control w) w := by
  unfold reconcileRedaction
  split
  · exact Along.fail rfl
  split
  · exact Along.fail rfl
  -- all of the redaction happens in the database, which the abstract state does not show
  refine Along.quietBind (quiet_runRedaction (fun _ _ => rfl) _ _ _) (fun _ _ h => h) ?_
  intro _ w₁ h₁
  refine Along.bind (Q := fun _ w' => control w' = (control w).log (.redacted r.uid))
    (Along.modify (act (.redacted hr)) ?_) fun _ _ h => Along.ret h
  rw [control_log, h₁]

/-- **The redaction gate is acts**: it opens only with the marker set. -/
theorem reconcileRedactionStep_moves {w : World} (hr : switchingRestore w₀.restores = some r)
    (hw : control w = control w₀) :
    Moves ctx p w₀ (reconcileRedactionStep p w₀.replica r)
      (fun b w' => Kept (control w₀) (control w') ∧
        (control w').migrationJob = (control w₀).migrationJob ∧
        (b = true → (control w').redactionDone = true))
      (fun _ _ => True) w := by
  unfold reconcileRedactionStep
  split
  · rename_i hdone
    refine Along.ret ⟨.of_eq hw, by rw [hw], ?_⟩
    intro _
    rw [hw]
    exact hdone
  -- the marker is set to active, unless it is already
  refine Along.bind
    (Q := fun _ w' => (control w').slots = (control w₀).slots ∧
      (control w').current = (control w₀).current ∧ (control w').history = (control w₀).history ∧
      (control w').migrationJob = (control w₀).migrationJob)
    (Along.when (fun _ => ?_) fun _ => by simp [hw]) fun _ w₁ h₁ => ?_
  · refine Along.call (act (.redactionMarked .active rfl)) ?_ (fun _ _ => trivial)
      fun _ _ => trivial
    intro _
    have : control (World.patchStatus (fun s => { s with redactionPhase := some .active }) w) =
        { control w with redaction := some .active } := rfl
    simp [this, hw]
  refine Along.bind
    (Q := fun b w' => match b with
      | .ok _ => control w' = (control w₁).log (.redacted r.uid)
      | .error _ => control w' = control w₁)
    (Along.attempt (reconcileRedaction_moves hr) (fun _ _ h => h) fun _ _ h => h) ?_
  intro b w₂ h₂
  obtain ⟨hslots, hcurrent, hhistory, hjob⟩ := h₁
  cases b with
  | ok result =>
    -- whatever the outcome says, the marker it is turned into counts as done
    simp only at h₂
    have hslots₂ : (control w₂).slots = (control w₀).slots := by rw [h₂]; exact hslots
    refine Along.bind
      (Q := fun _ w' => control w' = { control w₂ with redaction := some result.2.phase })
      (Along.call (act (.redactionSettled _ hr hslots₂ ?_)) (fun _ => rfl) (fun _ _ => trivial)
        fun _ _ => trivial) fun _ w₃ h₃ => Along.ret ⟨⟨?_, ?_, ?_⟩, ?_, ?_⟩
    · rw [h₂]; rfl
    · rw [h₃]; exact hslots₂
    · rw [h₃, h₂]; exact hcurrent
    · refine ⟨[.redacted r.uid], ?_⟩
      rw [h₃, h₂]
      simp [Control.log, hhistory]
    · rw [h₃, h₂]; exact hjob
    · intro _
      rw [h₃]
      unfold Control.redactionDone RedactionOutcome.phase
      split <;> rfl
  | error e =>
    -- the marker says so and the gate stays shut
    simp only at h₂
    refine Along.bind
      (Q := fun _ w' => control w' = { control w₂ with redaction := some (.failed e.display) })
      (Along.call (act (.redactionMarked _ rfl)) (fun _ => rfl) (fun _ _ => trivial)
        fun _ _ => trivial) ?_
    intro _ w₃ h₃
    refine Along.quietBind (quiet_publishEvent _) (fun _ _ _ => trivial) fun _ w₄ h₄ => Along.ret ?_
    refine ⟨⟨?_, ?_, [], ?_⟩, ?_, fun h => by cases h⟩
    · rw [h₄, h₃, h₂]; exact hslots
    · rw [h₄, h₃, h₂]; exact hcurrent
    · rw [h₄, h₃, h₂]; exact hhistory
    · rw [h₄, h₃, h₂]; exact hjob

/-! ## Schema migration -/

theorem OnlyUids.kept {a a' : Control} (h : OnlyUids a a') : Kept a a' := by
  obtain ⟨n, rfl⟩ := h
  exact ⟨rfl, rfl, [], rfl⟩

/-- Creating a Job of another kind is an act. -/
theorem createJob_moves {w : World} {c : Call} {mk : Nat → Job}
    (hm : ∀ uid, (mk uid).key ≠ .schemaMigration) (hs : ∀ uid, (mk uid).key ≠ .snapshotList) :
    Moves ctx p w₀ (Op.createJob c mk) (fun _ w' => OnlyUids (control w) (control w'))
      (fun _ w' => OnlyUids (control w) (control w')) w :=
  createOtherJob_along (fun _ => .jobCreated) hm hs

theorem quiet_scaleDeployment (c : Call) (name : String) (n : Nat) :
    Quiet control (Op.scaleDeployment c name n) := by
  apply Quiet.bind Quiet.get
  intro w
  split
  · exact Quiet.fail _
  · exact Quiet.call fun _ => rfl

theorem quiet_deleteResetJob (name : String) :
    Quiet control (bestEffort
      (call (.resetDeleteJob name) (World.deleteJob (.credentialReset name))) : Op Bool) :=
  Quiet.bestEffort (Quiet.call fun w => by
    rw [control_deleteJob, dropJob_other (by simp) (by simp)])

/-- A credential reset creates at most its own Job. -/
theorem ensureCredentialReset_moves {w : World} (restore : Restore) :
    Moves ctx p w₀ (ensureCredentialReset restore) (fun _ w' => OnlyUids (control w) (control w'))
      (fun _ w' => OnlyUids (control w) (control w')) w := by
  refine Along.quietBind (Quiet.read _ _) (fun _ _ h => .of_eq h) ?_
  intro job w₁ h₁
  rw [← h₁]
  cases job with
  | some job =>
    dsimp only
    cases classifyJob job with
    | active => exact Along.ret (.of_eq rfl)
    | succeeded =>
      refine (Along.of_quiet ?_).mono (fun _ _ h => .of_eq h) fun _ _ h => .of_eq h
      exact Quiet.bind (Quiet.bestEffort (quiet_scaleDeployment _ _ _)) fun _ =>
        Quiet.bind (quiet_deleteResetJob _) fun _ => Quiet.ret _
    | failed =>
      refine (Along.of_quiet ?_).mono (fun _ _ h => .of_eq h) fun _ _ h => .of_eq h
      exact Quiet.bind (quiet_deleteResetJob _) fun _ =>
        Quiet.bind (Quiet.bestEffort (quiet_scaleDeployment _ _ _)) fun _ => Quiet.ret _
  | none =>
    -- the Job waits for the pods of the scaled-down Deployment to go
    refine Along.quietBind (quiet_scaleDeployment _ _ _) (fun _ _ h => .of_eq h) ?_
    intro _ w₂ h₂
    refine Along.quietBind (Quiet.read _ _) (fun _ _ h => .of_eq (h.trans h₂)) ?_
    intro pods w₃ h₃
    rw [← h₂, ← h₃]
    split
    · exact Along.ret (.of_eq rfl)
    · unfold buildCredentialResetJob
      cases restore.status.postgresVersion with
      | none => exact Along.fail (.of_eq rfl)
      | some _ =>
        exact Along.bind (createJob_moves (by simp) (by simp)) fun _ _ h => Along.ret h

/-- Finding a database may start a credential reset. -/
theorem discoverOrReset_moves {w : World} (restore : Restore) :
    Moves ctx p w₀ (discoverOrReset restore) (fun _ w' => OnlyUids (control w) (control w'))
      (fun _ w' => OnlyUids (control w) (control w')) w := by
  refine Along.quietBind (Quiet.attempt (quiet_touch _)) (fun _ _ h => .of_eq h) ?_
  intro found w₁ h₁
  rw [← h₁]
  cases found with
  | ok _ => exact Along.ret (.of_eq rfl)
  | error e =>
    dsimp only
    split
    · exact Along.bind (ensureCredentialReset_moves restore) fun _ _ h => Along.ret h
    · exact Along.fail (.of_eq rfl)

/-- **What the migration gate leaves alone**: what every gate does, and the redaction marker. -/
structure KeptByMigration (a a' : Control) : Prop extends Kept a a' where
  redaction : a'.redaction = a.redaction

theorem KeptByMigration.of_onlyUids {a a' : Control} (h : OnlyUids a a') : KeptByMigration a a' := by
  obtain ⟨n, rfl⟩ := h
  exact ⟨⟨rfl, rfl, [], rfl⟩, rfl⟩

theorem KeptByMigration.of_eq {a a' : Control} (h : a' = a) : KeptByMigration a a' :=
  .of_onlyUids (.of_eq h)

theorem KeptByMigration.trans {a b c : Control} (h : KeptByMigration a b)
    (h' : KeptByMigration b c) : KeptByMigration a c :=
  ⟨h.toKept.trans h'.toKept, h'.redaction.trans h.redaction⟩

/-- What the migration gate answers, and why. -/
def MigrationAnswer (w₀ : World) (r : Restore) (a : Control) (b : Bool) (w' : World) : Prop :=
  KeptByMigration a (control w') ∧ (b = true → MigrationPassed w₀ r (control w'))

/-- The migration is recorded as settled: the marker follows the entry that settles it. -/
theorem patchMigrationPhase_moves {w : World} {ph : SchemaMigrationPhase}
    (hr : switchingRestore w₀.restores = some r) (hslots : (control w).slots = (control w₀).slots)
    (hwhy : w₀.replica.spec.persistentSchemas = some [] ∨ SettledInPass w₀ r (control w)) :
    Moves ctx p w₀ (patchMigrationPhase ph)
      (fun _ w' => control w' = { control w with migration := some ph }) (fun _ _ => True) w := by
  refine Along.call ?_ (fun _ => rfl) (fun _ _ => trivial) fun _ _ => trivial
  by_cases hph : ph = .complete
  · subst hph
    exact act (.migrationCompleted hr hslots hwhy)
  · exact act (.migrationMarked ph hph)

theorem quiet_dropPersistentSchemas (restore : Restore) :
    Quiet control (dropPersistentSchemasOnTarget restore) :=
  Quiet.bind (quiet_touch _) fun _ => Quiet.bind (quiet_touch _) fun _ =>
    Quiet.bind (quiet_touch _) fun _ => quiet_touch _

theorem deleteMigrationJob_moves (w : World) :
    Moves ctx p w₀ (bestEffort (call .migrationDeleteJob (World.deleteJob .schemaMigration)))
      (fun _ w' => control w' = control w ∨ control w' = (control w).dropJob .schemaMigration)
      (fun _ _ => True) w := by
  refine Along.bestEffort_call ?_ (.inl rfl) (.inr (control_deleteJob _ _))
  rw [control_deleteJob]
  exact act .migrationJobDeleted

/-- Deleting the migration Job changes nothing else. -/
theorem KeptByMigration.of_dropJob {a a' : Control}
    (h : a' = a ∨ a' = a.dropJob .schemaMigration) : KeptByMigration a a' := by
  rcases h with rfl | rfl
  · exact .of_eq rfl
  · exact ⟨⟨rfl, rfl, [], rfl⟩, rfl⟩

/-- A migration that is settled now is settled in this pass. -/
theorem SettledInPass.of_log {a : Control} {e : Entry} (hkept : Kept (control w₀) a)
    (he : Settles w₀ r e) : SettledInPass w₀ r (a.log e) := by
  obtain ⟨l, hl⟩ := hkept.history
  exact ⟨e, e :: l, he, congrArg (e :: ·) hl, List.mem_cons_self⟩

/-- What happened in a pass stays so. -/
theorem SettledInPass.kept {a a' : Control} (h : SettledInPass w₀ r a) (hk : Kept a a') :
    SettledInPass w₀ r a' := by
  obtain ⟨e, l, he, hl, hmem⟩ := h
  obtain ⟨l', hl'⟩ := hk.history
  exact ⟨e, l' ++ l, he, by rw [hl', hl, List.append_assoc], List.mem_append_right _ hmem⟩

/-- **A settled migration is let through**: the entry that settles it is one of this pass. -/
theorem MigrationAnswer.of_settled {a b : Control} {w' : World} {e : Entry}
    (hkept : Kept (control w₀) a) (hb : KeptByMigration a b) (he : Settles w₀ r e)
    (hw' : KeptByMigration (b.log e) (control w')) : MigrationAnswer w₀ r a true w' := by
  have hlog : KeptByMigration b (b.log e) := ⟨⟨rfl, rfl, [e], rfl⟩, rfl⟩
  refine ⟨hb.trans (hlog.trans hw'), fun _ => .settled ?_⟩
  exact (SettledInPass.of_log (hkept.trans hb.toKept) he).kept hw'.toKept

/-- A migration that timed out is let through. -/
theorem timeoutSchemaMigration_moves {w : World} {job : Job}
    (hr : switchingRestore w₀.restores = some r) (hkept : Kept (control w₀) (control w))
    (hjob : (control w₀).migrationJob = some (job.uid, job.target)) :
    Moves ctx p w₀ (timeoutSchemaMigration w₀.replica r job)
      (fun _ w' => MigrationAnswer w₀ r (control w) true w') (fun _ _ => True) w := by
  apply Along.bind (deleteMigrationJob_moves w)
  intro _ w₁ h₁
  refine Along.quietBind
    (Quiet.when (Quiet.bind (Quiet.bestEffort (quiet_dropPersistentSchemas r)) fun _ => Quiet.ret _))
    (fun _ _ _ => trivial) ?_
  intro _ w₂ h₂
  refine Along.quietBind (quiet_publishEvent _) (fun _ _ _ => trivial) ?_
  intro _ w₃ h₃
  have hk₃ : KeptByMigration (control w) (control w₃) := by
    rw [h₃, h₂]
    exact .of_dropJob h₁
  -- the entry comes before the marker, which may only be set for a settled migration
  refine Along.bind
    (Q := fun _ w' => control w' = (control w₃).log (.migrationJobTimedOut job.uid))
    (Along.modify (act (.migrationSettled hr (.timedOut hjob))) rfl) ?_
  intro _ w₄ h₄
  have hslots : (control w₄).slots = (control w₀).slots := by
    rw [h₄]
    exact hk₃.slots.trans hkept.slots
  refine (patchMigrationPhase_moves hr hslots
    (.inr (h₄ ▸ .of_log (hkept.trans hk₃.toKept) (.timedOut hjob)))).mono ?_
    fun _ _ h => h
  intro _ w₅ h₅
  refine .of_settled hkept hk₃ (.timedOut hjob) ?_
  rw [h₅, h₄]
  exact ⟨⟨rfl, rfl, [], rfl⟩, rfl⟩

theorem takeMigrationResult_quiet : Quiet control takeMigrationResult :=
  Quiet.bind Quiet.get fun _ => Quiet.bind (Quiet.modify fun _ => rfl) fun _ => Quiet.ret _

/-- Following the migration Job is acts. -/
theorem followMigrationJob_moves {w : World} {job : Job}
    (hr : switchingRestore w₀.restores = some r) (hkept : Kept (control w₀) (control w))
    (hjob : (control w₀).migrationJob = some (job.uid, job.target)) :
    Moves ctx p w₀ (followMigrationJob ctx p w₀.replica r job) (MigrationAnswer w₀ r (control w))
      (fun _ _ => True) w := by
  unfold followMigrationJob
  cases classifyJob job with
  | active =>
    dsimp only
    split
    · exact Along.bind (timeoutSchemaMigration_moves hr hkept hjob) fun _ _ h => Along.ret h
    · exact Along.ret ⟨.of_eq rfl, fun h => by cases h⟩
  | succeeded =>
    refine Along.bind
      (Q := fun _ w' => control w' = (control w).log (.migrationJobSucceeded job.uid))
      (Along.modify (act (.migrationSettled hr (.succeeded hjob))) rfl) ?_
    intro _ w₁ h₁
    refine Along.quietBind takeMigrationResult_quiet (fun _ _ _ => trivial) ?_
    intro callback w₂ h₂
    refine Along.quietBind (Quiet.when (quiet_publishEvent _)) (fun _ _ _ => trivial) ?_
    intro _ w₃ h₃
    have h₃' : control w₃ = (control w).log (.migrationJobSucceeded job.uid) :=
      h₃.trans (h₂.trans h₁)
    refine Along.bind (patchMigrationPhase_moves hr (by rw [h₃']; exact hkept.slots)
      (.inr (h₃' ▸ .of_log hkept (.succeeded hjob)))) fun _ w₄ h₄ => ?_
    refine Along.bind (deleteMigrationJob_moves w₄) fun _ w₅ h₅ => Along.ret ?_
    refine .of_settled hkept (.of_eq rfl) (.succeeded hjob) ?_
    refine KeptByMigration.trans ?_ (.of_dropJob h₅)
    rw [h₄, h₃']
    exact ⟨⟨rfl, rfl, [], rfl⟩, rfl⟩
  | failed =>
    -- the Job is dropped, so that a later pass starts another; this one fails
    refine Along.quietBind takeMigrationResult_quiet (fun _ _ _ => trivial) ?_
    intro callback w₁ h₁
    apply Along.bind (deleteMigrationJob_moves w₁)
    intro _ w₂ h₂
    refine Along.bind (Q := fun _ _ => True) ?_ fun _ _ _ => Along.fail trivial
    exact Along.call (act (.migrationMarked _ (by simp))) (fun _ => trivial) (fun _ _ => trivial)
      fun _ _ => trivial

/-- Creating the migration Job is an act. -/
theorem createMigrationJob_moves {w : World} (hr : switchingRestore w₀.restores = some r)
    (hslots : (control w).slots = (control w₀).slots) :
    Moves ctx p w₀
      (Op.createJob .migrationCreateJob (buildSchemaMigrationJob p r)
        fun uid => [.migrationJobCreated uid r.uid])
      (fun _ w' => KeptByMigration (control w) (control w')) (fun _ _ => True) w := by
  refine createJob_along (fun _ => trivial) fun hnone => ?_
  have hjob : w.job .schemaMigration = none := hnone
  have hadd : control (w.addJob (buildSchemaMigrationJob p r)
        fun uid => [.migrationJobCreated uid r.uid]) =
      { control w with
        migrationJob := some ((control w).nextUid, r.uid)
        nextUid := (control w).nextUid + 1
        history := .migrationJobCreated (control w).nextUid r.uid :: (control w).history } := by
    simp only [control, job_addJob, hjob]
    cases w.job .snapshotList <;> rfl
  refine Along.call ?_ ?_ (fun _ _ => trivial) fun _ _ => trivial
  · rw [hadd]
    refine act (.migrationJobCreated hr hslots ?_)
    simp [control, hjob]
  · intro _
    rw [hadd]
    exact ⟨⟨rfl, rfl, [_], rfl⟩, rfl⟩

/-- Starting the migration is acts. -/
theorem startMigration_moves {w : World} {schemas : List String} {old : Restore}
    (hr : switchingRestore w₀.restores = some r) (hkept : Kept (control w₀) (control w)) :
    Moves ctx p w₀ (startMigration p w₀.replica schemas r old) (MigrationAnswer w₀ r (control w))
      (fun _ _ => True) w := by
  refine Along.quietBind (quiet_touch _) (fun _ _ _ => trivial) ?_
  intro _ w₁ h₁
  refine Along.bind ((discoverOrReset_moves old).mono (fun _ _ h => h) fun _ _ _ => trivial) ?_
  intro source w₂ h₂
  have hk₂ : KeptByMigration (control w) (control w₂) := .of_onlyUids (h₁ ▸ h₂)
  cases source with
  -- the credentials of the source are being reset
  | none => exact Along.ret ⟨hk₂, fun h => by cases h⟩
  | some _ =>
    refine Along.quietBind (quiet_touch _) (fun _ _ _ => trivial) ?_
    intro _ w₃ h₃
    refine Along.quietBind (Quiet.ask _ _) (fun _ _ _ => trivial) ?_
    intro existing w₄ h₄
    refine Along.quietBind (quiet_touch _) (fun _ _ _ => trivial) ?_
    intro _ w₅ h₅
    have hk₅ : KeptByMigration (control w) (control w₅) :=
      hk₂.trans (.of_eq (h₅.trans (h₄.trans h₃)))
    split
    · -- none of the schemas is on the source
      refine Along.bind (Q := fun _ w' => control w' = (control w₅).log (.schemasMissing r.uid))
        (Along.modify (act (.migrationSettled hr .missing)) rfl) ?_
      intro _ w₆ h₆
      have hslots : (control w₆).slots = (control w₀).slots := by
        rw [h₆]
        exact hk₅.slots.trans hkept.slots
      refine Along.bind (patchMigrationPhase_moves hr hslots
        (.inr (h₆ ▸ .of_log (hkept.trans hk₅.toKept) .missing))) fun _ w₇ h₇ => Along.ret ?_
      refine .of_settled hkept hk₅ .missing ?_
      rw [h₇, h₆]
      exact ⟨⟨rfl, rfl, [], rfl⟩, rfl⟩
    · refine Along.quietBind (Quiet.call fun _ => rfl) (fun _ _ _ => trivial) ?_
      intro _ w₆ h₆
      refine Along.bind ((discoverOrReset_moves r).mono (fun _ _ h => h) fun _ _ _ => trivial) ?_
      intro target w₇ h₇
      have hk₇ : KeptByMigration (control w) (control w₇) :=
        hk₅.trans ((KeptByMigration.of_eq h₆).trans (.of_onlyUids h₇))
      cases target with
      -- those of the target are
      | none => exact Along.ret ⟨hk₇, fun h => by cases h⟩
      | some _ =>
        refine Along.quietBind (quiet_touch _) (fun _ _ _ => trivial) ?_
        intro _ w₈ h₈
        refine Along.quietBind (Quiet.ask _ _) (fun _ _ _ => trivial) ?_
        intro preexisting w₉ h₉
        refine Along.quietBind (Quiet.when (quiet_touch _)) (fun _ _ _ => trivial) ?_
        intro _ w₁₀ h₁₀
        have hk₁₀ : KeptByMigration (control w) (control w₁₀) :=
          hk₇.trans (.of_eq (h₁₀.trans (h₉.trans h₈)))
        apply Along.bind (createMigrationJob_moves hr (hk₁₀.slots.trans hkept.slots))
        intro _ w₁₁ h₁₁
        refine Along.bind
          (Q := fun _ w' => control w' = { control w₁₁ with migration := some .active })
          (Along.call (act (.migrationMarked _ (by simp))) (fun _ => rfl) (fun _ _ => trivial)
            fun _ _ => trivial) fun _ w₁₂ h₁₂ => Along.ret ⟨?_, fun h => by cases h⟩
        refine hk₁₀.trans (h₁₁.trans ?_)
        rw [h₁₂]
        exact ⟨⟨rfl, rfl, [], rfl⟩, rfl⟩

/-- **The migration gate is acts**: it opens only for one of the reasons of `MigrationPassed`. -/
theorem reconcileSchemaMigration_moves {w : World} (hr : switchingRestore w₀.restores = some r)
    (hkept : Kept (control w₀) (control w))
    (hjob : (control w).migrationJob = (control w₀).migrationJob) :
    Moves ctx p w₀
      (reconcileSchemaMigration ctx p w₀.replica r (activeRestore w₀.restores))
      (MigrationAnswer w₀ r (control w)) (fun _ _ => True) w := by
  unfold reconcileSchemaMigration
  split
  · exact Along.fail trivial
  rename_i schemas hschemas
  -- one split for each way the gate answers without a Job
  split
  · rename_i hactive
    exact Along.ret ⟨.of_eq rfl, fun _ => .firstRestore hactive⟩
  rename_i old hactive
  split
  · rename_i hempty
    subst hempty
    refine Along.bind (patchMigrationPhase_moves hr hkept.slots (.inl hschemas))
      fun _ w₁ h₁ => Along.ret ⟨?_, fun _ => .noneConfigured hschemas⟩
    rw [h₁]
    exact ⟨⟨rfl, rfl, [], rfl⟩, rfl⟩
  split
  · rename_i hcomplete
    exact Along.ret ⟨.of_eq rfl, fun _ => .markedComplete hcomplete⟩
  refine Along.read_bind (fun _ => trivial) ?_
  cases hfound : w.job .schemaMigration with
  | some job =>
    -- the redaction gate left the Job alone, so it is the one the pass started with
    apply followMigrationJob_moves hr hkept
    rw [← hjob]
    simp [control, hfound]
  | none => exact startMigration_moves hr hkept

end RestoreOperator
