import RestoreOperator.Restore.Phases

/-!
# `Correctness.JobClassification` — how the restore controller reads a Job's status

The restore controller tells how its Jobs stand from their counts alone, in three places; elsewhere
a Job is classified from its conditions too.  Here each of the three is put as a function of the
status, with what the controller does on its answer, and compared with the classification.
-/

namespace RestoreOperator

open Calls

/-! ## What the controller acts on -/

/-- How a Job with retries stands, from its counts. -/
def countedOutcome (defaultLimit : Nat) (job : Job) : JobState :=
  if (jobCounts job).1 > 0 then .succeeded
  else if (jobCounts job).2 > job.backoffLimit.getD defaultLimit then .failed
  else .active

/-- How a migration Job stands, from its counts. -/
def migratingOutcome (job : Job) : JobState :=
  if (jobCounts job).1 = 0 ∧ (jobCounts job).2 = 0 then .active
  else if (jobCounts job).2 > 0 then .failed
  else .succeeded

/-- What phase Restoring does about its Job. -/
def actRestoring (p : RestorePass) (restore : Restore) (job : Job) : JobState → Op Action
  | .succeeded => finishRestoring p restore job
  | .failed => do
    let _ ← Prog.bestEffort (Op.touch .patchRestoreJobTtl)
    failRestore p restore fun s =>
      { s with restoreJob := some { name := restoreJobName restore.name, phase := "Failed" } }
  | .active => reconcileRestoring.stillRunning restore

/-- What phase Ready does about its version Job. -/
def actDetecting (p : RestorePass) (restore : Restore) : JobState → Op Action
  | .succeeded => do
    let version ← Prog.attempt (Prog.ask .readVersion p.postgresVersion)
    detectVersion.deleteVersionJob restore
    match version with
    | .ok (some v) =>
      if v = "" then failRestore p restore id
      else do
        Op.patchRestore .patchVersion restore.name fun s => { s with postgresVersion := some v }
        return ⟨1⟩
    | _ => failRestore p restore id
  | .failed => do
    detectVersion.deleteVersionJob restore
    failRestore p restore id
  | .active => return ⟨5⟩

/-- What phase Migrating does about its Job: a finished one has its result read, and its end
    recorded. -/
def actMigrating (p : RestorePass) (restore : Restore) : JobState → Op Action
  | .active => return ⟨15⟩
  | .succeeded => record "Succeeded"
  | .failed => record "Failed"
where
  /-- Record how the Job ended. -/
  record (phase : String) : Op Action := do
    let result ← Prog.ask .readMigrationResult p.migrationResult
    Op.patchRestore .patchMigrated restore.name fun s =>
      { s with
        phase := some .ready
        migrationJob := some { name := restore.name ++ "-migrate", phase := phase }
        migrationResult := some result }
    return ⟨1⟩

section Acts

variable {p : RestorePass} {restore : Restore} {job : Job} {ρ : Call → Reply Error} {w : World}

/-- Phase Restoring acts on its Job's counts. -/
theorem reconcileRestoring_acts (hcall : (ρ .getRestoreJob).isOk = true)
    (hjob : w.job (.restore restore.name) = some job) :
    reconcileRestoring p restore ρ w = actRestoring p restore job (countedOutcome 3 job) ρ w := by
  unfold reconcileRestoring Op.getJob
  rw [Prog.bind_of_done (Prog.read_of_ok hcall), hjob]
  unfold countedOutcome
  by_cases hsucceeded : (jobCounts job).1 > 0
  · simp only [if_pos hsucceeded, actRestoring]
  · by_cases hfailed : (jobCounts job).2 > job.backoffLimit.getD 3
    · simp only [if_neg hsucceeded, if_pos hfailed, actRestoring]
    · simp only [if_neg hsucceeded, if_neg hfailed, actRestoring]

/-- Phase Ready acts on its version Job's counts. -/
theorem reconcileReady_acts {ctx : Context} (hversion : restore.status.postgresVersion.isNone = true)
    (hcall : (ρ .getVersionJob).isOk = true)
    (hjob : w.job (.versionDetect restore.name) = some job) :
    reconcileReady ctx p restore ρ w = actDetecting p restore (countedOutcome 2 job) ρ w := by
  unfold reconcileReady
  rw [if_pos hversion]
  unfold detectVersion Op.getJob
  rw [Prog.bind_of_done (Prog.read_of_ok hcall), hjob]
  unfold countedOutcome
  by_cases hsucceeded : (jobCounts job).1 > 0
  · simp only [if_pos hsucceeded]
    rfl
  · by_cases hfailed : (jobCounts job).2 > job.backoffLimit.getD 2
    · simp only [if_neg hsucceeded, if_pos hfailed]
      rfl
    · simp only [if_neg hsucceeded, if_neg hfailed]
      rfl

/-- Phase Migrating acts on its Job's counts, once it has found the database. -/
theorem reconcileMigrating_acts (htarget : restore.spec.migrateTo.isSome = true)
    (hreplica : w.replicaDeleted = false)
    (hcalls : ∀ c ∈ [Call.getReplica, .migratingCredentials, .migratingDiscover, .getMigrationJob],
      (ρ c).isOk = true)
    (hjob : w.job (.migration restore.name) = some job) :
    reconcileMigrating p restore ρ w = actMigrating p restore (migratingOutcome job) ρ w := by
  obtain ⟨target, htarget⟩ := Option.isSome_iff_exists.mp htarget
  have hfound : Op.getReplica .getReplica ρ w = .done w.replica w := by
    have hget : (Prog.get : Op World) ρ w = .done w w := rfl
    unfold Op.getReplica
    rw [Prog.bind_of_done hget, hreplica]
    exact Prog.read_of_ok (hcalls _ (by simp))
  have htouch : ∀ c ∈ [Call.migratingCredentials, .migratingDiscover],
      Op.touch c ρ w = .done () w := by
    intro c hc
    exact Prog.call_of_ok (hcalls c (by simp at hc ⊢; tauto))
  have hdiscover : Prog.attempt (Op.touch .migratingDiscover) ρ w = .done (.ok ()) w := by
    unfold Prog.attempt
    rw [htouch _ (by simp)]
  have hlook : Op.getJob .getMigrationJob (.migration restore.name) ρ w = .done (some job) w := by
    unfold Op.getJob
    rw [Prog.read_of_ok (hcalls _ (by simp)), hjob]
  unfold reconcileMigrating
  rw [htarget]
  simp only []
  rw [Prog.bind_of_done hfound, Prog.bind_of_done (htouch _ (by simp)), Prog.bind_of_done hdiscover]
  simp only []
  rw [Prog.bind_of_done hlook]
  unfold migratingOutcome
  by_cases hactive : (jobCounts job).1 = 0 ∧ (jobCounts job).2 = 0
  · simp only [if_pos hactive]
    rfl
  · by_cases hfailed : (jobCounts job).2 > 0
    · simp only [if_neg hactive, if_pos hfailed]
      rfl
    · simp only [if_neg hactive, if_neg hfailed]
      rfl

end Acts

/-! ## Against the classification -/

/-- The Job's status has a condition that says it failed. -/
def failedCondition (job : Job) : Bool :=
  (job.report.map JobReport.conditions).any fun cs =>
    cs.any fun c => c.1 == "Failed" && c.2 == "True"

/-- A Job is classified by its counts, and then by its conditions. -/
theorem classifyJob_eq (job : Job) :
    classifyJob job =
      if (jobCounts job).1 > 0 then .succeeded
      else if (jobCounts job).2 > job.backoffLimit.getD 0 then .failed
      else if failedCondition job then .failed
      else .active := by
  unfold classifyJob jobCounts failedCondition
  cases job.report with
  | none => simp
  | some r => rfl

/-- **With retries**: the counts agree with the classification exactly where a condition of failure
    adds nothing to them. -/
theorem countedOutcome_iff {job : Job} {defaultLimit limit : Nat}
    (hlimit : job.backoffLimit = some limit) :
    countedOutcome defaultLimit job = classifyJob job ↔
      ((jobCounts job).1 > 0 ∨ (jobCounts job).2 > limit ∨ failedCondition job = false) := by
  rw [classifyJob_eq]
  unfold countedOutcome
  rw [hlimit]
  simp only [Option.getD_some]
  by_cases hsucceeded : (jobCounts job).1 > 0
  · simp [hsucceeded]
  · by_cases hfailed : (jobCounts job).2 > limit
    · simp [hsucceeded, hfailed]
    · cases hcondition : failedCondition job <;> simp [hsucceeded, hfailed]

/-- **Without retries**: they agree where not both counts are positive, and not both are zero under
    a condition of failure. -/
theorem migratingOutcome_iff {job : Job} (hlimit : job.backoffLimit = some 0) :
    migratingOutcome job = classifyJob job ↔
      ((jobCounts job).1 > 0 ∧ (jobCounts job).2 = 0 ∨
        (jobCounts job).1 = 0 ∧ ((jobCounts job).2 > 0 ∨ failedCondition job = false)) := by
  rw [classifyJob_eq]
  unfold migratingOutcome
  rw [hlimit]
  simp only [Option.getD_some]
  by_cases hsucceeded : (jobCounts job).1 > 0
  · by_cases hfailed : (jobCounts job).2 > 0
    · simp [hsucceeded, hfailed, hsucceeded.ne', hfailed.ne']
    · simp [hsucceeded, hsucceeded.ne', Nat.le_zero.mp (not_lt.mp hfailed)]
  · have hnone : (jobCounts job).1 = 0 := Nat.le_zero.mp (not_lt.mp hsucceeded)
    by_cases hfailed : (jobCounts job).2 > 0
    · simp [hnone, hfailed, hfailed.ne']
    · have hno : (jobCounts job).2 = 0 := Nat.le_zero.mp (not_lt.mp hfailed)
      cases hcondition : failedCondition job <;> simp [hnone, hno]

/-- **What the restore controller acts on, and the classification.**  For a Job of each of its three
    builders, under any status: what the controller does is what it does on the outcome its counts
    give, and that outcome is the classification exactly under the condition named. -/
theorem job_outcomes_agree (ctx : Context) (p : RestorePass) (restore : Restore)
    (runId : Option String) (uid : Nat)
    (job : Job) :
    (job.backoffLimit = (buildRestoreJob restore runId uid).backoffLimit →
      (∀ ρ w, (ρ .getRestoreJob).isOk = true → w.job (.restore restore.name) = some job →
        reconcileRestoring p restore ρ w = actRestoring p restore job (countedOutcome 3 job) ρ w) ∧
      (countedOutcome 3 job = classifyJob job ↔
        ((jobCounts job).1 > 0 ∨ (jobCounts job).2 > 3 ∨ failedCondition job = false))) ∧
    (job.backoffLimit = (buildVersionDetectJob restore uid).backoffLimit →
      (∀ ρ w, restore.status.postgresVersion.isNone = true → (ρ .getVersionJob).isOk = true →
        w.job (.versionDetect restore.name) = some job →
        reconcileReady ctx p restore ρ w = actDetecting p restore (countedOutcome 2 job) ρ w) ∧
      (countedOutcome 2 job = classifyJob job ↔
        ((jobCounts job).1 > 0 ∨ (jobCounts job).2 > 2 ∨ failedCondition job = false))) ∧
    (job.backoffLimit = (buildMigrationJob restore uid).backoffLimit →
      (∀ ρ w, restore.spec.migrateTo.isSome = true → w.replicaDeleted = false →
        (∀ c ∈ [Call.getReplica, .migratingCredentials, .migratingDiscover, .getMigrationJob],
          (ρ c).isOk = true) →
        w.job (.migration restore.name) = some job →
        reconcileMigrating p restore ρ w = actMigrating p restore (migratingOutcome job) ρ w) ∧
      (migratingOutcome job = classifyJob job ↔
        ((jobCounts job).1 > 0 ∧ (jobCounts job).2 = 0 ∨
          (jobCounts job).1 = 0 ∧ ((jobCounts job).2 > 0 ∨ failedCondition job = false)))) :=
  ⟨fun hlimit => ⟨fun _ _ hcall hjob => reconcileRestoring_acts hcall hjob, countedOutcome_iff hlimit⟩,
    fun hlimit => ⟨fun _ _ hversion hcall hjob => reconcileReady_acts hversion hcall hjob,
      countedOutcome_iff hlimit⟩,
    fun hlimit => ⟨fun _ _ htarget hreplica hcalls hjob =>
      reconcileMigrating_acts htarget hreplica hcalls hjob, migratingOutcome_iff hlimit⟩⟩

/-- A restore Job that ran past its deadline in its first try. -/
def deadlineJob : Job :=
  { key := .restore "prod-restore", uid := 0, backoffLimit := some 3
    report := some { failed := some 1, conditions := [("Failed", "True")] } }

/-- **A Job past its deadline is taken for one that still runs.** -/
theorem deadline_taken_as_running :
    classifyJob deadlineJob = .failed ∧ countedOutcome 3 deadlineJob = .active ∧
      ∀ (p : RestorePass) (restore : Restore) (w : World), restore.name = "prod-restore" →
        w.job (.restore "prod-restore") = some deadlineJob →
        reconcileRestoring p restore (fun _ => .ok) w
          = reconcileRestoring.stillRunning restore (fun _ => .ok) w := by
  refine ⟨by decide, by decide, ?_⟩
  intro p restore w hname hjob
  rw [← hname] at hjob
  exact reconcileRestoring_acts rfl hjob

end RestoreOperator
