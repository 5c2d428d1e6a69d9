import RestoreOperator.System.Gates

/-!
# `Correctness.Role` — the analytics role after a redaction

Two writers decide what the analytics role of a restore may do: the redaction, which demotes it once it
is through, and the init script, which every start of the pod runs anew.  The script goes by
`read_only` of the Deployment, and the builder sets that to false because the replica has a redaction.
So the demotion lasts exactly until the next start of the pod.
-/

namespace RestoreOperator

open Calls Calls.Prog

/-! ## The pod of a restore -/

/-- **What can happen to the pod of a restore.** -/
inductive PodEvent where
  /-- The restore controller applies the Deployment. -/
  | deploymentApplied (replies : Call → Reply Error)
  | podStopped
  /-- A pod starts: its init script runs, and postgres serves. -/
  | podStarted

/-- A pod can start: the Deployment asks for one, and none serves. -/
def podCanStart (r : Restore) (w : World) : Bool :=
  (w.deployment r.name).any (fun d => d.replicas ≠ 0) && !(w.databases r.name).serving

/-- Start the pod of a restore, with the script of its Deployment. -/
def startPod (r : Restore) (w : World) : World :=
  match w.deployment r.name with
  | none => w
  | some d => w.patchDatabase r.name fun db => { setupAuth d.readOnly db with serving := true }

/-- **One step of the pod of a restore.** -/
def podStep (r : Restore) (w : World) : PodEvent → World
  | .deploymentApplied replies => World.after (applyRestoreDeployment w.replica r replies w)
  | .podStopped => w.patchDatabase r.name fun d => { d with serving := false }
  | .podStarted => if podCanStart r w then startPod r w else w

/-- **A pod of the restore starts.** -/
def startsPod (r : Restore) (w : World) : PodEvent → Bool
  | .podStarted => podCanStart r w
  | _ => false

/-- **The analytics role is no superuser while postgres serves.** -/
def Demoted (r : Restore) (w : World) : Prop :=
  (w.databases r.name).serving = true → (w.databases r.name).superuser = false

/-! ## The redaction -/

/-- Locking the database leaves the role demoted. -/
theorem enforceReadOnly_demotes {name : String} {ρ : Call → Reply Error} {w w' : World}
    (h : enforceReadOnly name ρ w = .done () w') : (w'.databases name).superuser = false := by
  obtain ⟨_, w₁, _, h⟩ := Prog.bind_eq_done h
  obtain ⟨_, w₂, _, h⟩ := Prog.bind_eq_done h
  rw [Prog.call_eq_done h]
  simp [World.patchDatabase]

/-- A redaction that returned `Ok` has demoted the role, where it is the step to put read-only back. -/
theorem reconcileRedaction_demotes {p : ReplicaPass} {replica : Replica} {r : Restore}
    {ρ : Call → Reply Error} {w w' : World} {result : Option String × RedactionOutcome}
    (h : reconcileRedaction p replica r ρ w = .done result w')
    (henforce : shouldEnforceReadOnly replica.spec = true) :
    (w'.databases r.name).superuser = false := by
  unfold reconcileRedaction at h
  cases hredaction : replica.spec.redaction with
  | none =>
    rw [hredaction] at h
    cases h
  | some spec =>
    rw [hredaction] at h
    cases hvalid : validateSpec spec with
    | error e =>
      simp only [hvalid] at h
      cases h
    | ok _ =>
      simp only [hvalid] at h
      obtain ⟨_, w₁, hrun, h⟩ := Prog.bind_eq_done h
      cases h
      -- the credentials, the database, the connection, the version, the manifest and its application
      obtain ⟨_, _, _, hrun⟩ := Prog.bind_eq_done hrun
      obtain ⟨_, _, _, hrun⟩ := Prog.bind_eq_done hrun
      obtain ⟨_, _, _, hrun⟩ := Prog.bind_eq_done hrun
      obtain ⟨_, _, _, hrun⟩ := Prog.bind_eq_done hrun
      obtain ⟨_, _, _, hrun⟩ := Prog.bind_eq_done hrun
      obtain ⟨_, _, _, hrun⟩ := Prog.bind_eq_done hrun
      obtain ⟨_, w₂, hlock, hrun⟩ := Prog.bind_eq_done hrun
      rw [henforce] at hlock
      cases hrun
      have hdemoted : (w₁.databases r.name).superuser = false := enforceReadOnly_demotes hlock
      exact hdemoted

/-- The redaction leaves the replica and the Deployments alone. -/
theorem quiet_reconcileRedaction (p : ReplicaPass) (replica : Replica) (r : Restore) :
    Quiet (fun w : World => (w.replica, w.deployments)) (reconcileRedaction p replica r) := by
  unfold reconcileRedaction
  split
  · exact Quiet.fail _
  split
  · exact Quiet.fail _
  refine Quiet.bind (quiet_runRedaction (fun _ _ => rfl) _ _ _) ?_
  intro _
  exact Quiet.bind (Quiet.modify fun _ => rfl) fun _ => Quiet.ret _

/-! ## The Deployment -/

/-- **The Deployment of the restore lets its pod write**: the builder sees to it for every replica with
    a redaction. -/
structure BuiltWritable (r : Restore) (w : World) : Prop where
  redaction : w.replica.spec.redaction.isSome = true
  writable : ∀ d ∈ w.deployments, d.name = r.name → d.readOnly = false

theorem BuiltWritable.of_eq {r : Restore} {w w' : World} (h : BuiltWritable r w)
    (hsame : (w'.replica, w'.deployments) = (w.replica, w.deployments)) : BuiltWritable r w' := by
  obtain ⟨hreplica, hdeployments⟩ := Prod.mk.inj hsame
  exact ⟨hreplica ▸ h.redaction, hdeployments ▸ h.writable⟩

theorem mem_applyDeployment {w : World} {d e : Deployment} (h : e ∈ (w.applyDeployment d).deployments) :
    e ∈ w.deployments ∨ e.readOnly = d.readOnly := by
  unfold World.applyDeployment at h
  split at h
  · obtain ⟨e', he', rfl⟩ := List.mem_map.mp h
    split
    · exact .inr rfl
    · exact .inl he'
  · rcases List.mem_append.mp h with h | h
    · exact .inl h
    · rw [List.mem_singleton.mp h]
      exact .inr rfl

/-- The builder leaves a restore that is to be redacted writable. -/
theorem buildDeployment_readOnly {replica : Replica} {r : Restore} {d : Deployment}
    (h : buildDeployment replica r = .ok d) (hredaction : replica.spec.redaction.isSome = true) :
    d.readOnly = false := by
  unfold buildDeployment at h
  split at h
  · cases h
  · cases h
    obtain ⟨spec, hspec⟩ := Option.isSome_iff_exists.mp hredaction
    simp [effectiveReadOnly, hspec]

/-- Every step keeps the Deployment writable. -/
theorem BuiltWritable.step {r : Restore} {w : World} (e : PodEvent) (h : BuiltWritable r w) :
    BuiltWritable r (podStep r w e) := by
  cases e with
  | deploymentApplied replies =>
    have hafter := view_after (fun w => (w.replica, w.deployments)) (fun _ => rfl)
      (applyRestoreDeployment w.replica r replies w)
    rcases state_applyRestoreDeployment w.replica r replies w with hstate | ⟨d, hbuild, hstate⟩
    · rw [hstate] at hafter
      exact h.of_eq hafter
    · rw [hstate] at hafter
      have happlied : BuiltWritable r (w.applyDeployment d) := by
        refine ⟨replica_applyDeployment d w ▸ h.redaction, ?_⟩
        intro e he hname
        rcases mem_applyDeployment he with he | hsame
        · exact h.writable e he hname
        · exact hsame.trans (buildDeployment_readOnly hbuild h.redaction)
      exact happlied.of_eq hafter
  | podStopped => exact h.of_eq rfl
  | podStarted =>
    simp only [podStep, startPod]
    split
    · split <;> exact h.of_eq rfl
    · exact h

/-- **A step keeps the role demoted exactly if no pod starts.** -/
theorem demoted_step {r : Restore} {w : World} {e : PodEvent} (hw : BuiltWritable r w)
    (h : Demoted r w) : Demoted r (podStep r w e) ↔ startsPod r w e = false := by
  cases e with
  | deploymentApplied replies =>
    have hafter : (podStep r w (.deploymentApplied replies)).databases = w.databases := by
      refine (view_after World.databases (fun _ => rfl) _).trans ?_
      rcases state_applyRestoreDeployment w.replica r replies w with hstate | ⟨d, _, hstate⟩
      · rw [hstate]
      · rw [hstate, databases_applyDeployment]
    simp only [startsPod, iff_true]
    unfold Demoted
    rw [hafter]
    exact h
  | podStopped => simp [Demoted, podStep, startsPod, World.patchDatabase]
  | podStarted =>
    cases hstart : podCanStart r w with
    | false =>
      simp only [podStep, startsPod, hstart, iff_true]
      exact h
    | true =>
      -- the script of a writable Deployment grants the superuser
      simp only [podStep, startsPod, hstart, if_true]
      refine ⟨?_, fun hfalse => by cases hfalse⟩
      intro hdemoted
      obtain ⟨d, hd⟩ : ∃ d, w.deployment r.name = some d := by
        simp only [podCanStart, Bool.and_eq_true, Option.any_eq_true] at hstart
        obtain ⟨⟨d, hd, _⟩, _⟩ := hstart
        exact ⟨d, hd⟩
      have hname : d.name = r.name :=
        beq_iff_eq.mp (List.find?_some (p := fun d : Deployment => d.name == r.name) hd)
      have hwritable : d.readOnly = false := hw.writable d (List.mem_of_find?_eq_some hd) hname
      simp [Demoted, startPod, hd, World.patchDatabase, setupAuth, hwritable] at hdemoted

/-! ## The result -/

/-- **The demotion lasts exactly until a pod starts.**  A replica that is read-only, has a redaction and
    no persistent schemas brings up a restore (`past`), its redaction returns `Ok`, and pods restart and
    the Deployment is applied again (`es`): the analytics role is no superuser in any state in which
    postgres serves if and only if no pod starts. -/
theorem demoted_until_pod_starts (p : ReplicaPass) (r : Restore) (w w' : World)
    (result : Option String × RedactionOutcome) (past es : List PodEvent)
    (hreadOnly : w.replica.spec.readOnly = true)
    (hredaction : w.replica.spec.redaction.isSome = true)
    (hschemas : w.replica.spec.persistentSchemas = none)
    (hnew : ∀ d ∈ w.deployments, d.name ≠ r.name)
    (hok : reconcileRedaction p w.replica r p.replies (runFrom (podStep r) w past) = .done result w') :
    Always (podStep r) (Demoted r) w' es ↔
      Meets (podStep r) (fun w e => startsPod r w e = false) w' es := by
  have hpast : BuiltWritable r (runFrom (podStep r) w past) :=
    run_invariant (C := fun _ _ => True) (fun w e _ h => h.step e)
      ⟨hredaction, fun d hd hname => absurd hname (hnew d hd)⟩ (meets_of_forall (fun _ _ => trivial) w past)
  have hw' : BuiltWritable r w' :=
    hpast.of_eq ((quiet_reconcileRedaction p w.replica r).of_eq_done hok)
  have hdemoted : (w'.databases r.name).superuser = false :=
    reconcileRedaction_demotes hok (by simp [shouldEnforceReadOnly, hreadOnly, hschemas])
  exact always_iff_meets (I := BuiltWritable r) (P := Demoted r) (fun _ e h => h.step e)
    (fun _ _ hI hP => demoted_step hI hP) hw' (fun _ => hdemoted) es

/-! ## A pod that restarts after the redaction -/

/-- A read-only replica with a redaction. -/
def redactedSpec : ReplicaSpec :=
  { kopiaSecretRef := some "kopia", schedule := "H", redaction := some { manifestUrl := "m" } }

/-- A restore of it. -/
def redactedRestore : Restore :=
  plainRestore 1 "a" "s" { postgresVersion := some "16" }

/-- The restore is up and was redacted. -/
def afterRedaction : World :=
  (reconcileRedaction { now := 0 } { name := "r", spec := redactedSpec } redactedRestore (fun _ => .ok)
    (runFrom (podStep redactedRestore) (World.initial ⟨"ns", "r"⟩ redactedSpec)
      [.deploymentApplied fun _ => .ok, .podStarted])).state

theorem applied_again_is_demoted :
    (afterRedaction.databases "a").serving = true ∧
      Always (podStep redactedRestore) (Demoted redactedRestore) afterRedaction
        [.deploymentApplied fun _ => .ok, .podStopped] :=
  ⟨rfl, (demoted_until_pod_starts { now := 0 } redactedRestore (World.initial ⟨"ns", "r"⟩ redactedSpec)
    afterRedaction (none, {}) [.deploymentApplied fun _ => .ok, .podStarted]
    [.deploymentApplied fun _ => .ok, .podStopped] rfl rfl rfl (by simp [World.initial]) rfl).mpr
      (by decide +kernel)⟩

/-- The pod restarts, and its init script grants the superuser again. -/
theorem restarted_pod_is_not_demoted :
    ¬ Always (podStep redactedRestore) (Demoted redactedRestore) afterRedaction
      [.podStopped, .podStarted] := by
  rintro ⟨_, _, hdemoted⟩
  exact absurd (hdemoted rfl) (by decide +kernel)

end RestoreOperator
