import RestoreOperator.System.Events
import RestoreOperator.System.Observed

/-!
# `System.MigrationMail` — what a pass of the migration gate does to its Job and to its result

A pass takes the result of a Job it saw done, deletes the migration Job or creates it, and does nothing else
to either.  Nothing is taken before a Job is created.
-/

namespace RestoreOperator

open Calls Calls.Prog Relation

/-! ## The Job and its result -/

/-- The pass comes to create a Job: there are schemas to copy, none of its steps is to be waited for, and
    no Job is there. -/
def comesToCopy (replica : Replica) (oldRestore : Option Restore) (p : ReplicaPass) (w : World) : Bool :=
  oldRestore.isSome && replica.status.schemaMigrationPhase ≠ some .complete &&
    (replica.spec.persistentSchemas.getD []).any (· ∈ p.sourceSchemas) &&
    (w.job .schemaMigration).isNone && (p.replies .migrationCreateJob).tookEffect

/-- The migration Job and the result that is waiting. -/
def migrationMail (w : World) : Option Job × Option String :=
  (w.job .schemaMigration, w.schemaMigrationResults)

/-- **What a pass may do** to the migration Job and to its result, starting in `w₀`. -/
inductive MigrationMailAct (replica : Replica) (newRestore : Restore) (oldRestore : Option Restore)
    (p : ReplicaPass) (w₀ : World) :
    Option Job × Option String → Option Job × Option String → Prop where
  | taken {a : Option Job × Option String} {job : Job} (hjob : w₀.job .schemaMigration = some job)
      (hdone : classifyJob job ≠ .active) :
      MigrationMailAct replica newRestore oldRestore p w₀ a (a.1, none)
  | deleted {a : Option Job × Option String} :
      MigrationMailAct replica newRestore oldRestore p w₀ a (none, a.2)
  | created {a : Option Job × Option String} (uid : Nat)
      (hwhy : comesToCopy replica oldRestore p w₀ = true) (hstore : a.2 = w₀.schemaMigrationResults) :
      MigrationMailAct replica newRestore oldRestore p w₀ a
        (some (buildSchemaMigrationJob p newRestore uid), a.2)

section Migrations

variable {ctx : Context} {replica : Replica} {newRestore : Restore} {oldRestore : Option Restore}
  {p : ReplicaPass} {w₀ : World}

/-- A piece of a pass that is such acts. -/
def Copies {α : Type} (replica : Replica) (newRestore : Restore) (oldRestore : Option Restore)
    (p : ReplicaPass) (w₀ : World) (m : Op α) (Q : α → World → Prop) (w : World) : Prop :=
  Along migrationMail (MigrationMailAct replica newRestore oldRestore p w₀) p.replies m Q
    (fun _ _ => True) w

namespace Copies

theorem of_quiet {α : Type} {m : Op α} (hm : Quiet migrationMail m) (w : World) :
    Copies replica newRestore oldRestore p w₀ m (fun _ w' => migrationMail w' = migrationMail w) w :=
  (Along.of_quiet hm).mono (fun _ _ h => h) fun _ _ _ => trivial

/-- A Job of another kind is not seen. -/
theorem quiet_createJob {c : Call} {mk : Nat → Job} (hkey : ∀ uid, (mk uid).key ≠ .schemaMigration) :
    Quiet migrationMail (Op.createJob c mk) := by
  apply Quiet.bind Quiet.get
  intro w
  split
  · exact Quiet.fail _
  · apply Quiet.call
    intro w'
    simp only [migrationMail, job_addJob, if_neg (hkey w'.nextUid)]
    cases w'.job .schemaMigration <;> rfl

theorem quiet_deleteJob {c : Call} {k : JobKey} (hkey : k ≠ .schemaMigration) :
    Quiet migrationMail (bestEffort (call c (World.deleteJob k)) : Op Bool) := by
  refine Quiet.bestEffort (Quiet.call ?_)
  intro w
  simp only [migrationMail, job_deleteJob, if_neg hkey]
  rfl

theorem quiet_scale (c : Call) (name : String) (n : Nat) :
    Quiet migrationMail (Op.scaleDeployment c name n) := by
  apply Quiet.bind Quiet.get
  intro w
  split
  · exact Quiet.fail _
  · exact Quiet.call fun _ => rfl

theorem quiet_ensureCredentialReset (restore : Restore) :
    Quiet migrationMail (ensureCredentialReset restore) := by
  apply Quiet.bind (Quiet.read _ _)
  intro job
  cases job with
  | some job =>
    dsimp only
    cases classifyJob job with
    | active => exact Quiet.ret _
    | succeeded =>
      exact Quiet.bind (Quiet.bestEffort (quiet_scale _ _ _)) fun _ =>
        Quiet.bind (quiet_deleteJob (by simp)) fun _ => Quiet.ret _
    | failed =>
      exact Quiet.bind (quiet_deleteJob (by simp)) fun _ =>
        Quiet.bind (Quiet.bestEffort (quiet_scale _ _ _)) fun _ => Quiet.ret _
  | none =>
    refine Quiet.bind (quiet_scale _ _ _) fun _ => Quiet.bind (Quiet.read _ _) ?_
    intro pods
    split
    · exact Quiet.ret _
    · unfold buildCredentialResetJob
      cases restore.status.postgresVersion with
      | none => exact Quiet.fail _
      | some _ => exact Quiet.bind (quiet_createJob (by simp)) fun _ => Quiet.ret _

theorem quiet_discoverOrReset (restore : Restore) :
    Quiet migrationMail (discoverOrReset restore) := by
  apply Quiet.bind (Quiet.attempt (quiet_touch _))
  intro found
  cases found with
  | ok _ => exact Quiet.ret _
  | error e =>
    dsimp only
    split
    · exact Quiet.bind (quiet_ensureCredentialReset _) fun _ => Quiet.ret _
    · exact Quiet.fail _

theorem quiet_publish (reason : String) : Quiet migrationMail (Op.publishEvent reason) :=
  Quiet.bind (Quiet.bestEffort (quiet_touch _)) fun _ => Quiet.ret _

theorem quiet_patchStatus (c : Call) (f : ReplicaStatus → ReplicaStatus) :
    Quiet migrationMail (Op.patchStatus c f) :=
  Quiet.call fun _ => rfl

theorem quiet_patchMigrationPhase (ph : SchemaMigrationPhase) :
    Quiet migrationMail (patchMigrationPhase ph) :=
  quiet_patchStatus _ _

theorem quiet_log (e : Entry) : Quiet migrationMail (Prog.modify (World.log e) : Op Unit) :=
  Quiet.modify fun _ => rfl

theorem deleteJob (w : World) :
    Copies replica newRestore oldRestore p w₀
      (bestEffort (call .migrationDeleteJob (World.deleteJob .schemaMigration))) (fun _ _ => True) w := by
  refine Along.bestEffort_call ?_ trivial trivial
  have hmail : migrationMail (w.deleteJob .schemaMigration) = (none, (migrationMail w).2) := by
    unfold migrationMail
    rw [job_deleteJob, if_pos rfl]
    rfl
  rw [hmail]
  exact .single .deleted

theorem take {w : World} {job : Job} (hjob : w₀.job .schemaMigration = some job)
    (hdone : classifyJob job ≠ .active) :
    Copies replica newRestore oldRestore p w₀ takeMigrationResult (fun _ _ => True) w := by
  apply Along.get_bind
  exact Along.bind (Q := fun _ _ => True) (Along.modify (.single (.taken hjob hdone)) trivial)
    fun _ _ _ => Along.ret trivial

theorem timeout (w : World) (job : Job) :
    Copies replica newRestore oldRestore p w₀ (timeoutSchemaMigration replica newRestore job)
      (fun _ _ => True) w := by
  apply Along.bind (deleteJob w)
  intro _ w₁ _
  have hdrop : Quiet migrationMail (dropPersistentSchemasOnTarget newRestore) :=
    Quiet.bind (quiet_touch _) fun _ => Quiet.bind (quiet_touch _) fun _ =>
      Quiet.bind (quiet_touch _) fun _ => quiet_touch _
  have hrest : Quiet migrationMail (Prog.when (replica.spec.persistentSchemas.getD [] ≠ []) (do
      let _ ← Prog.bestEffort (dropPersistentSchemasOnTarget newRestore)) >>= fun _ =>
      Op.publishEvent "SchemaMigrationTimedOut" >>= fun _ =>
        Prog.modify (World.log (.migrationJobTimedOut job.uid)) >>= fun _ =>
          patchMigrationPhase .timeoutSkipped) := by
    refine Quiet.bind (Quiet.when (Quiet.bind (Quiet.bestEffort hdrop) fun _ => Quiet.ret _)) fun _ => ?_
    refine Quiet.bind (quiet_publish _) fun _ => ?_
    exact Quiet.bind (quiet_log _) fun _ => quiet_patchMigrationPhase _
  exact (of_quiet hrest w₁).mono (fun _ _ _ => trivial) fun _ _ h => h

theorem follow {w : World} {job : Job} (hjob : w₀.job .schemaMigration = some job) :
    Copies replica newRestore oldRestore p w₀ (followMigrationJob ctx p replica newRestore job)
      (fun _ _ => True) w := by
  unfold followMigrationJob
  cases hstate : classifyJob job with
  | active =>
    dsimp only
    split
    · exact Along.bind (timeout w job) fun _ _ _ => Along.ret trivial
    · exact Along.ret trivial
  | succeeded =>
    apply Along.bind (of_quiet (quiet_log _) w)
    intro _ w₁ _
    apply Along.bind (take hjob (by simp [hstate]))
    intro callback w₂ _
    apply Along.bind (of_quiet (Quiet.when (quiet_publish _)) w₂)
    intro _ w₃ _
    apply Along.bind (of_quiet (quiet_patchMigrationPhase _) w₃)
    intro _ w₄ _
    exact Along.bind (deleteJob w₄) fun _ _ _ => Along.ret trivial
  | failed =>
    apply Along.bind (take hjob (by simp [hstate]))
    intro callback w₁ _
    apply Along.bind (deleteJob w₁)
    intro _ w₂ _
    exact Along.bind (of_quiet (quiet_patchMigrationPhase _) w₂) fun _ _ _ => Along.fail trivial

/-- The Job is created where no other is, with the result that was waiting still there. -/
theorem create {w : World} (hmail : migrationMail w = migrationMail w₀)
    (hwhy : (p.replies .migrationCreateJob).tookEffect = true →
      comesToCopy replica oldRestore p w₀ = true) :
    Copies replica newRestore oldRestore p w₀
      (Op.createJob .migrationCreateJob (buildSchemaMigrationJob p newRestore)
        fun uid => [.migrationJobCreated uid newRestore.uid]) (fun _ _ => True) w := by
  refine createJob_along (fun _ => trivial) fun hfree => ?_
  have hnone : w.job .schemaMigration = none := hfree
  refine Along.call_of_effect ?_ (fun _ => trivial) (fun _ _ => trivial) fun _ _ => trivial
  intro heffect
  have hadd : migrationMail (w.addJob (buildSchemaMigrationJob p newRestore)
      fun uid => [.migrationJobCreated uid newRestore.uid]) =
      (some (buildSchemaMigrationJob p newRestore w.nextUid), (migrationMail w).2) := by
    unfold migrationMail
    rw [job_addJob, hnone]
    rfl
  rw [hadd]
  exact .single (.created _ (hwhy heffect) (congrArg Prod.snd hmail))

theorem start {old : Restore} {schemas : List String} (w : World)
    (hmail : migrationMail w = migrationMail w₀) (hjob : w₀.job .schemaMigration = none)
    (hschemas : replica.spec.persistentSchemas = some schemas)
    (hpending : replica.status.schemaMigrationPhase ≠ some .complete) :
    Copies replica newRestore (some old) p w₀ (startMigration p replica schemas newRestore old)
      (fun _ _ => True) w := by
  apply Along.bind (of_quiet (quiet_touch _) w)
  intro _ w₁ h₁
  apply Along.bind (of_quiet (quiet_discoverOrReset _) w₁)
  intro source w₂ h₂
  cases source with
  | none => exact Along.ret trivial
  | some _ =>
  apply Along.bind (of_quiet (quiet_touch _) w₂)
  intro _ w₃ h₃
  refine Along.read_bind (fun _ => trivial) ?_
  apply Along.bind (of_quiet (quiet_touch _) w₃)
  intro _ w₄ h₄
  split
  · apply Along.bind (of_quiet (quiet_log _) w₄)
    intro _ w₅ _
    exact Along.bind (of_quiet (quiet_patchMigrationPhase _) w₅) fun _ _ _ => Along.ret trivial
  rename_i hfound
  apply Along.bind (of_quiet (quiet_patchStatus _ _) w₄)
  intro _ w₅ h₅
  apply Along.bind (of_quiet (quiet_discoverOrReset _) w₅)
  intro target w₆ h₆
  cases target with
  | none => exact Along.ret trivial
  | some _ =>
  apply Along.bind (of_quiet (quiet_touch _) w₆)
  intro _ w₇ h₇
  apply Along.bind (of_quiet (Quiet.ask _ _) w₇)
  intro preexisting w₈ h₈
  apply Along.bind (of_quiet (Quiet.when (quiet_touch _)) w₈)
  intro _ w₉ h₉
  refine Along.bind (create ?_ ?_) ?_
  · exact h₉.trans (h₈.trans (h₇.trans (h₆.trans (h₅.trans (h₄.trans (h₃.trans (h₂.trans
      (h₁.trans hmail))))))))
  · intro heffect
    have hany : schemas.any (· ∈ p.sourceSchemas) = true := by
      obtain ⟨name, hname⟩ := List.exists_mem_of_ne_nil _ hfound
      rw [List.mem_filter] at hname
      exact List.any_eq_true.mpr ⟨name, hname.1, hname.2⟩
    simp only [comesToCopy, Option.isSome_some, hpending, ne_eq, not_false_eq_true,
      decide_true, hschemas, Option.getD_some, hany, hjob, Option.isNone_none, heffect, Bool.and_self]
  · intro _ w₁₀ _
    exact Along.bind (of_quiet (quiet_patchStatus _ _) w₁₀) fun _ _ _ => Along.ret trivial

end Copies

/-- **A pass of the gate is such acts.** -/
theorem reconcileSchemaMigration_copies (ctx : Context) (w : World) :
    Copies replica newRestore oldRestore p w
      (reconcileSchemaMigration ctx p replica newRestore oldRestore) (fun _ _ => True) w := by
  unfold reconcileSchemaMigration
  split
  · exact Along.fail trivial
  rename_i schemas hschemas
  cases oldRestore with
  | none => exact Along.ret trivial
  | some old =>
  dsimp only
  split
  · exact Along.bind (Copies.of_quiet (Copies.quiet_patchMigrationPhase _) w)
      fun _ _ _ => Along.ret trivial
  split
  · exact Along.ret trivial
  rename_i hpending
  refine Along.read_bind (fun _ => trivial) ?_
  cases hjob : w.job .schemaMigration with
  | none => exact Copies.start w rfl hjob hschemas hpending
  | some job => exact Copies.follow hjob

/-- What a pass leaves of the migration Job and of its result. -/
structure ResultPassed (w : World) (a : Option Job × Option String) : Prop where
  result : a.2 = none ∨ a.2 = w.schemaMigrationResults
  job : a.1.map Job.uid = (w.job .schemaMigration).map Job.uid ∨ a.1 = none ∨ a.2 = none

theorem ResultPassed.of_reaches {a : Option Job × Option String}
    (hC : comesToCopy replica oldRestore p w₀ = true → w₀.schemaMigrationResults = none)
    (h : ReflTransGen (MigrationMailAct replica newRestore oldRestore p w₀) (migrationMail w₀) a) :
    ResultPassed w₀ a := by
  induction h with
  | refl => exact ⟨.inr rfl, .inl rfl⟩
  | tail _ hact ih =>
    cases hact with
    | taken => exact ⟨.inl rfl, .inr (.inr rfl)⟩
    | deleted => exact ⟨ih.result, .inr (.inl rfl)⟩
    | created uid hwhy hstore =>
      have hnone := hstore.trans (hC hwhy)
      exact ⟨.inl hnone, .inr (.inr hnone)⟩

end Migrations

end RestoreOperator
