import RestoreOperator.System.Acts

/-!
# `Correctness.CredentialReset` — the reset Job and the Deployment

The Job that resets the credentials of a restore mounts its data directory, so the replica controller
scales the Deployment to zero before it creates the Job and back up when the Job is done.  The restore
controller knows nothing of it: whenever it converges a restore in Switching or Active it applies the
Deployment with one pod.  The exclusion holds exactly where it does not do so during a reset.
-/

namespace RestoreOperator

open Calls Calls.Prog Relation

variable {r : Restore}

/-! ## The two controllers on one restore -/

/-- **What can happen around a credential reset.**  A pass sees the status of the restore as it was when
    the pass read it. -/
inductive ResetEvent where
  | resetPass (seen : RestoreStatus) (replies : Call → Reply Error)
  | switchingPass (seen : RestoreStatus) (replies : Call → Reply Error)
  | activePass (seen : RestoreStatus) (replies : Call → Reply Error)
  /-- Kubernetes reports on the reset Job. -/
  | jobReported (report : JobReport)
  | jobRemoved
  | podsChanged (pods : List Pod)
  | replicaDeleted

/-- **One step of the two controllers.** -/
def resetStep (r : Restore) (w : World) : ResetEvent → World
  | .resetPass seen replies =>
    World.after (ensureCredentialReset { r with status := seen } replies w)
  | .switchingPass seen replies =>
    World.after (reconcileSwitching { r with status := seen } replies w)
  | .activePass seen replies => World.after (reconcileActive { r with status := seen } replies w)
  | .jobReported report => w.reportJob (.credentialReset r.name) report
  | .jobRemoved => w.deleteJob (.credentialReset r.name)
  | .podsChanged pods => { w with pods := pods }
  | .replicaDeleted => { w with replicaDeleted := true }

/-- **A reset is running**: its Job exists and has neither succeeded nor failed. -/
def resetRunning (r : Restore) (w : World) : Bool :=
  (w.job (.credentialReset r.name)).any fun j => classifyJob j = .active

/-- **No pod is asked for during a reset.** -/
def ScaledDown (r : Restore) (w : World) : Prop :=
  resetRunning r w = true → ∀ d, w.deployment r.name = some d → d.replicas = 0

/-- A pass of the restore controller applies the Deployment: the replica is there, the version of the
    database is known, and the calls go through. -/
def converges (w : World) (seen : RestoreStatus) (replies : Call → Reply Error) : Bool :=
  !w.replicaDeleted && (replies .getReplica).isOk && seen.postgresVersion.isSome &&
    (replies .applyDeployment).tookEffect

/-- **The Deployment is applied during a reset.** -/
def appliesDuringReset (r : Restore) (w : World) : ResetEvent → Bool
  | .switchingPass seen replies => resetRunning r w && converges w seen replies
  | .activePass seen replies => resetRunning r w && converges w seen replies
  | _ => false

/-! ## The Deployment of a restore -/

theorem deployment_scaleDeployment (name : String) (n : Nat) (w : World) :
    (w.scaleDeployment name n).deployment name =
      (w.deployment name).map fun d => { d with replicas := n } := by
  unfold World.deployment World.scaleDeployment
  apply find?_map_at
  intro _ hname
  exact hname

/-- An applied Deployment asks for what was applied. -/
theorem deployment_applyDeployment (d : Deployment) (w : World) :
    ∃ d', (w.applyDeployment d).deployment d.name = some d' ∧ d'.replicas = d.replicas := by
  unfold World.applyDeployment
  split
  · rename_i hsome
    obtain ⟨e, he⟩ := Option.isSome_iff_exists.mp hsome
    refine ⟨{ d with readyReplicas := e.readyReplicas }, ?_, rfl⟩
    unfold World.deployment at he ⊢
    rw [find?_map_at (f := fun e : Deployment => { d with readyReplicas := e.readyReplicas })
      (fun _ _ => rfl), he]
    rfl
  · rename_i hnone
    refine ⟨d, ?_, rfl⟩
    unfold World.deployment at hnone ⊢
    rw [List.find?_append]
    rw [Option.not_isSome_iff_eq_none] at hnone
    simp [hnone]

/-! ## The restore controller -/

/-- **What a pass that converges the Deployment leaves behind**, of what matters here. -/
structure Converged (restore : Restore) (ρ : Call → Reply Error) (w w' : World) : Prop where
  jobs : w'.jobs = w.jobs
  applied : converges w restore.status ρ = true →
    ∃ d, d.name = restore.name ∧ d.replicas = 1 ∧ w'.deployments = (w.applyDeployment d).deployments
  unchanged : converges w restore.status ρ = false → w'.deployments = w.deployments

theorem Converged.of_view {restore : Restore} {ρ : Call → Reply Error} {w w' w'' : World}
    (h : Converged restore ρ w w')
    (hview : (w''.jobs, w''.deployments) = (w'.jobs, w'.deployments)) : Converged restore ρ w w'' := by
  obtain ⟨hjobs, hdeployments⟩ := Prod.mk.inj hview
  refine ⟨hjobs.trans h.jobs, ?_, fun hc => hdeployments.trans (h.unchanged hc)⟩
  intro hc
  obtain ⟨d, hname, hreplicas, hd⟩ := h.applied hc
  exact ⟨d, hname, hreplicas, hdeployments.trans hd⟩

theorem jobs_applyDeployment (d : Deployment) (w : World) :
    (w.applyDeployment d).jobs = w.jobs := by
  unfold World.applyDeployment
  split <;> rfl

/-- A replica that is there is converged where the version is known. -/
theorem convergeDeployment_state {restore : Restore} {replica : Replica} {ρ : Call → Reply Error}
    {w : World} (hreplica : w.replicaDeleted = false) (hget : ρ .getReplica = .ok) :
    Converged restore ρ w (convergeDeployment restore replica ρ w).state := by
  unfold convergeDeployment
  cases hversion : restore.status.postgresVersion with
  | none => exact ⟨rfl, fun hc => by simp [converges, hversion] at hc, fun _ => rfl⟩
  | some version =>
    simp only [Option.isSome_some, if_true, applyRestoreDeployment, buildDeployment, hversion,
      bind_eq_andThen, andThen, call]
    cases happly : ρ .applyDeployment with
    | refused e =>
      exact ⟨rfl, fun hc => by simp [converges, happly, Reply.tookEffect] at hc, fun _ => rfl⟩
    | cut => exact ⟨rfl, fun hc => by simp [converges, happly, Reply.tookEffect] at hc, fun _ => rfl⟩
    | _ =>
      refine ⟨jobs_applyDeployment _ w, fun _ => ⟨_, rfl, rfl, rfl⟩, ?_⟩
      intro hc
      simp [converges, happly, Reply.tookEffect, hreplica, hget, hversion] at hc

/-- **A pass that looks up the replica, converges the Deployment and does nothing else to it.** -/
theorem convergePass_state {restore : Restore} {a : Action} {tail : Op Action}
    (htail : Quiet (fun w : World => (w.jobs, w.deployments)) tail) (ρ : Call → Reply Error)
    (w : World) :
    Converged restore ρ w
      ((Op.getReplicaOpt .getReplica >>= fun replica =>
        match replica with
        | none => pure a
        | some replica => convergeDeployment restore replica >>= fun _ => tail) ρ w).state := by
  have hgone : (ρ .getReplica).isOk = false → converges w restore.status ρ = false := by
    intro h
    simp [converges, h]
  simp only [bind_eq_andThen, Op.getReplicaOpt, andThen, Prog.read]
  cases hget : ρ .getReplica with
  | ok =>
    cases hreplica : w.replicaDeleted with
    | true => exact ⟨rfl, fun hc => by simp [converges, hreplica] at hc, fun _ => rfl⟩
    | false =>
      simp only [Bool.false_eq_true, if_false]
      exact (convergeDeployment_state hreplica hget).of_view (Quiet.state_bind (fun _ => htail) ρ w)
  | _ =>
    have hnot := hgone (by rw [hget]; rfl)
    exact ⟨rfl, fun hc => absurd hc (by simp [hnot]), fun _ => rfl⟩

theorem reconcileSwitching_state (restore : Restore) (ρ : Call → Reply Error) (w : World) :
    Converged restore ρ w (reconcileSwitching restore ρ w).state :=
  convergePass_state (Quiet.ret _) ρ w

theorem reconcileActive_state (restore : Restore) (ρ : Call → Reply Error) (w : World) :
    Converged restore ρ w (reconcileActive restore ρ w).state :=
  have hmark : Quiet (fun w : World => (w.jobs, w.deployments))
      (markPodReadyForTraffic restore.name >>= fun _ => pure (⟨300⟩ : Action)) :=
    Quiet.bind (Quiet.call fun _ => rfl) fun _ => Quiet.ret _
  convergePass_state hmark ρ w

/-- **A converging pass keeps the exclusion exactly if it does not apply the Deployment during a
    reset.** -/
theorem scaledDown_converged {w w' : World} {seen : RestoreStatus} {ρ : Call → Reply Error}
    (h : ScaledDown r w) (hw' : Converged { r with status := seen } ρ w w') :
    ScaledDown r w' ↔ (resetRunning r w && converges w seen ρ) = false := by
  have hrunning : resetRunning r w' = resetRunning r w := by
    unfold resetRunning World.job
    rw [hw'.jobs]
  cases hreset : resetRunning r w with
  | false =>
    rw [hreset] at hrunning
    simp only [Bool.false_and, iff_true]
    intro hr
    rw [hrunning] at hr
    cases hr
  | true =>
    rw [hreset] at hrunning
    simp only [Bool.true_and]
    cases hc : converges w seen ρ with
    | false =>
      simp only [iff_true]
      intro _ d hd
      apply h hreset d
      unfold World.deployment at hd ⊢
      rw [hw'.unchanged hc] at hd
      exact hd
    | true =>
      -- the Deployment applied asks for one pod, and the Job still runs
      refine ⟨?_, fun hfalse => by cases hfalse⟩
      intro hscaled
      obtain ⟨d, hname, hreplicas, hd⟩ := hw'.applied hc
      obtain ⟨d', hd', hsame⟩ := deployment_applyDeployment d w
      have hname : d.name = r.name := hname
      have hfound : w'.deployment r.name = some d' := by
        unfold World.deployment at hd' ⊢
        rw [hd, ← hname]
        exact hd'
      have hzero := hscaled hrunning d' hfound
      rw [hsame, hreplicas] at hzero
      cases hzero

/-! ## The replica controller -/

/-- A step that keeps the exclusion. -/
def KeepsScaledDown (r : Restore) (w w' : World) : Prop :=
  ScaledDown r w → ScaledDown r w'

/-- Without a running reset nothing is asked of the Deployment. -/
theorem keepsScaledDown_of_idle {w w' : World} (h : resetRunning r w' = false) :
    ReflTransGen (KeepsScaledDown r) w w' :=
  .single fun _ hr => by rw [h] at hr; cases hr

theorem resetRunning_deleteJob (w : World) :
    resetRunning r (w.deleteJob (.credentialReset r.name)) = false := by
  simp [resetRunning, job_deleteJob]

/-- Scaling the Deployment while no reset runs. -/
theorem scaleDeployment_idle {c : Call} {n : Nat} {ρ : Call → Reply Error} {w : World}
    (h : resetRunning r w = false) :
    Along id (KeepsScaledDown r) ρ (Op.scaleDeployment c r.name n)
      (fun _ w' => resetRunning r w' = false ∧ w'.jobs = w.jobs ∧
        ∀ d, w'.deployment r.name = some d → d.replicas = n)
      (fun _ w' => resetRunning r w' = false) w := by
  apply Along.get_bind
  split
  · exact Along.fail h
  · refine Along.call (keepsScaledDown_of_idle h) (fun _ => ⟨h, rfl, ?_⟩) (fun _ _ => h)
      fun _ _ => h
    intro d hd
    rw [deployment_scaleDeployment] at hd
    obtain ⟨d', _, rfl⟩ := Option.map_eq_some_iff.mp hd
    rfl

theorem bestEffort_idle {m : Op Unit} {ρ : Call → Reply Error} {w : World} {Q : Unit → World → Prop}
    (h : Along id (KeepsScaledDown r) ρ m Q (fun _ w' => resetRunning r w' = false) w)
    (hQ : ∀ w', Q () w' → resetRunning r w' = false) :
    Along id (KeepsScaledDown r) ρ (bestEffort m) (fun _ w' => resetRunning r w' = false)
      (fun _ _ => True) w :=
  Along.bestEffort h hQ fun _ _ h => h

/-- Deleting the reset Job once it is done. -/
theorem deleteResetJob_idle {ρ : Call → Reply Error} {w : World} (h : resetRunning r w = false) :
    Along id (KeepsScaledDown r) ρ
      (call (.resetDeleteJob r.name) (World.deleteJob (.credentialReset r.name)) : Op Unit)
      (fun _ w' => resetRunning r w' = false) (fun _ w' => resetRunning r w' = false) w :=
  Along.call (keepsScaledDown_of_idle (resetRunning_deleteJob w)) (fun _ => resetRunning_deleteJob w)
    (fun _ _ => h) fun _ _ => resetRunning_deleteJob w

/-- **A pass of the credential reset keeps the exclusion**, however its calls end: the Job is created
    right after the Deployment was scaled to zero. -/
theorem ensureCredentialReset_keeps (seen : RestoreStatus) (ρ : Call → Reply Error) (w : World) :
    Along id (KeepsScaledDown r) ρ (ensureCredentialReset { r with status := seen })
      (fun _ _ => True) (fun _ _ => True) w := by
  refine Along.read_bind (fun _ => trivial) ?_
  dsimp only
  cases hjob : w.job (.credentialReset r.name) with
  | some job =>
    dsimp only
    cases hstate : classifyJob job with
    | active => exact Along.ret trivial
    | succeeded =>
      have hidle : resetRunning r w = false := by simp [resetRunning, hjob, hstate]
      refine Along.bind (bestEffort_idle (scaleDeployment_idle hidle) fun _ h => h.1) ?_
      intro _ w₂ h₂
      refine Along.bind (bestEffort_idle (deleteResetJob_idle h₂) fun _ h => h) ?_
      intro _ _ _
      exact Along.ret trivial
    | failed =>
      have hidle : resetRunning r w = false := by simp [resetRunning, hjob, hstate]
      refine Along.bind (bestEffort_idle (deleteResetJob_idle hidle) fun _ h => h) ?_
      intro _ w₂ h₂
      refine Along.bind (bestEffort_idle (scaleDeployment_idle h₂) fun _ h => h.1) ?_
      intro _ _ _
      exact Along.ret trivial
  | none =>
    have hidle : resetRunning r w = false := by simp [resetRunning, hjob]
    refine Along.bind ((scaleDeployment_idle hidle).mono (fun _ _ h => h) fun _ _ _ => trivial) ?_
    intro _ w₂ h₂
    refine Along.read_bind (fun _ => trivial) ?_
    split
    · exact Along.ret trivial
    cases hmk : buildCredentialResetJob { r with status := seen } with
    | error e => exact Along.fail trivial
    | ok mk =>
      refine Along.bind (Q := fun _ _ => True) ?_ fun _ _ _ => Along.ret trivial
      refine createJob_along (fun _ => trivial) fun _ => ?_
      -- nothing moved since the Deployment was scaled down, so the Job starts next to none
      exact Along.call (.single fun _ _ => h₂.2.2) (fun _ => trivial) (fun _ _ => trivial)
        fun _ _ => trivial

/-- What is reached by steps that keep the exclusion has it. -/
theorem scaledDown_of_reaches {w w' : World} (h : ReflTransGen (KeepsScaledDown r) w w')
    (hw : ScaledDown r w) : ScaledDown r w' := by
  induction h with
  | refl => exact hw
  | tail _ hkeeps ih => exact hkeeps ih

/-! ## The result -/

theorem scaledDown_after {α : Type} (outcome : Outcome World Error α) :
    ScaledDown r (World.after outcome) ↔ ScaledDown r outcome.state :=
  Iff.of_eq (view_after (ScaledDown r) (fun _ => rfl) outcome)

/-- A report on the reset Job starts none. -/
theorem resetRunning_reportJob {w : World} {report : JobReport}
    (h : resetRunning r (w.reportJob (.credentialReset r.name) report) = true) :
    resetRunning r w = true := by
  unfold resetRunning at h ⊢
  rw [job_reportJob] at h
  cases hjob : w.job (.credentialReset r.name) with
  | none =>
    rw [hjob] at h
    cases h
  | some job =>
    simp only [hjob, Option.map_some, Option.any_some, decide_eq_true_eq] at h ⊢
    by_cases hactive : job.key = .credentialReset r.name ∧ classifyJob job = .active
    · exact hactive.2
    · rwa [if_neg hactive] at h

/-- **A step keeps the exclusion exactly if it does not apply the Deployment during a reset.** -/
theorem scaledDown_step {w : World} {e : ResetEvent} (h : ScaledDown r w) :
    ScaledDown r (resetStep r w e) ↔ appliesDuringReset r w e = false := by
  cases e with
  | resetPass seen replies =>
    simp only [appliesDuringReset, iff_true]
    exact (scaledDown_after _).mpr
      (scaledDown_of_reaches (ensureCredentialReset_keeps seen replies w).reaches h)
  | switchingPass seen replies =>
    exact (scaledDown_after _).trans (scaledDown_converged h (reconcileSwitching_state _ replies w))
  | activePass seen replies =>
    exact (scaledDown_after _).trans (scaledDown_converged h (reconcileActive_state _ replies w))
  | jobReported report =>
    simp only [appliesDuringReset, iff_true]
    exact fun hr => h (resetRunning_reportJob hr)
  | jobRemoved =>
    simp only [appliesDuringReset, iff_true]
    intro hr
    rw [show resetRunning r (resetStep r w .jobRemoved) = false from resetRunning_deleteJob w] at hr
    cases hr
  | podsChanged pods =>
    simp only [appliesDuringReset, iff_true]
    exact h
  | replicaDeleted =>
    simp only [appliesDuringReset, iff_true]
    exact h

/-- **No pod is asked for during a reset exactly if none is applied.**  From any state without a reset
    Job, whatever the order of the passes of the two controllers and however their calls end: the
    Deployment asks for no pod in any state in which the Job runs if and only if the restore controller
    applies the Deployment in none of them. -/
theorem scaled_down_during_reset (r : Restore) (w : World) (es : List ResetEvent)
    (hnone : w.job (.credentialReset r.name) = none) :
    Always (resetStep r) (ScaledDown r) w es ↔
      Meets (resetStep r) (fun w e => appliesDuringReset r w e = false) w es := by
  have hidle : resetRunning r w = false := by simp [resetRunning, hnone]
  refine always_iff_meets (I := fun _ => True) (fun _ _ _ => trivial)
    (fun _ _ _ h => scaledDown_step h) trivial ?_ es
  intro hr
  rw [hidle] at hr
  cases hr

/-! ## A restore in Switching whose credentials are reset -/

/-- A restore of a known version. -/
def versionedRestore : Restore :=
  plainRestore 1 "a" "s" { phase := some .switching, postgresVersion := some "16" }

/-- A pass of the restore controller on it, in which every call goes through. -/
def quietSwitching : ResetEvent := .switchingPass versionedRestore.status fun _ => .ok

/-- A pass of the credential reset on it. -/
def quietReset : ResetEvent := .resetPass versionedRestore.status fun _ => .ok

theorem undisturbed_reset_is_scaled_down :
    resetRunning versionedRestore (runFrom (resetStep versionedRestore)
        (World.initial ⟨"ns", "r"⟩ plainSpec) [quietSwitching, quietReset]) = true ∧
      Always (resetStep versionedRestore) (ScaledDown versionedRestore)
        (World.initial ⟨"ns", "r"⟩ plainSpec)
        [quietSwitching, quietReset, .jobReported { succeeded := some 1 }, quietSwitching, quietReset] :=
  ⟨by decide +kernel, (scaled_down_during_reset versionedRestore (World.initial ⟨"ns", "r"⟩ plainSpec)
    [quietSwitching, quietReset, .jobReported { succeeded := some 1 }, quietSwitching, quietReset]
    rfl).mpr (by decide +kernel)⟩

/-- The restore controller comes by while the Job runs, and asks for a pod. -/
theorem disturbed_reset_is_not_scaled_down :
    ¬ Always (resetStep versionedRestore) (ScaledDown versionedRestore)
      (World.initial ⟨"ns", "r"⟩ plainSpec) [quietSwitching, quietReset, quietSwitching] := by
  intro h
  have hscaled := h.2.2.2
  have hzero :=
    hscaled (by decide +kernel) { name := "a", replicas := 1, readOnly := true } (by decide +kernel)
  cases hzero

end RestoreOperator
