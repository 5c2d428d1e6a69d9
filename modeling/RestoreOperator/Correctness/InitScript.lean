import RestoreOperator.Correctness.Role
import RestoreOperator.Correctness.SetUpRoles
import RestoreOperator.Restore.Startup

/-!
# `Correctness.InitScript` — one init script, looked at three times

What the init script does to the roles is told in three places: `setupAuth` says what becomes of the
analytics role each time a pod starts, `Lockdown.setUpRoles` runs the statements over all the roles of a
cluster, and `Startup.setupAuth` has it as one command of the whole script.  They are the same script: an
init container that has finished went through the set-up of the roles, and this leaves the analytics role as
the restore's own record of it says.
-/

namespace RestoreOperator

open Calls

namespace Lockdown

variable {f : Failing} {analytics : String} {users : List ExtraUser} {readOnly : Bool} {c : Cluster}

/-- **The record of a restored database is true of its cluster**, as far as a role goes. -/
structure ShowsRole (role : String) (c : Cluster) (d : RestoreOperator.Database) : Prop where
  superuser : d.superuser = c.isSuperuser role
  readAllData : d.readAllData = c.members.any fun m => m.role = "pg_read_all_data" ∧ m.member = role

/-- A member of nothing is no member of `pg_read_all_data`. -/
theorem NoMember.reads_nothing {w : String} (h : NoMember w c) :
    (c.members.any fun m => m.role = "pg_read_all_data" ∧ m.member = w) = false := by
  rw [List.any_eq_false]
  intro m hm hreads
  exact h m hm (of_decide_eq_true hreads).2

/-- The blocks of the roles leave the analytics role there, and without power. -/
theorem analytics_reset (users : List ExtraUser) (hruns : ∀ st, f.role st = false)
    (hmembers : Revocable analytics c) :
    let c' := users.foldl (fun c user => roleResetBlock f user.username true c)
      (roleResetBlock f analytics false c)
    HasRole analytics c' ∧ NotSuperuser analytics c' ∧ NoMember analytics c' ∧ c'.pgMajor = c.pgMajor := by
  have hkeeps {I : Cluster → Prop} (hI : KeptByResets f I) (h : I (roleResetBlock f analytics false c)) :
      I (users.foldl (fun c user => roleResetBlock f user.username true c)
        (roleResetBlock f analytics false c)) := by
    generalize roleResetBlock f analytics false c = c' at h
    induction users generalizing c' with
    | nil => exact h
    | cons user rest ih => exact ih _ (roleResetBlock_keeps hI h)
  refine ⟨?_, ?_, ?_, ?_⟩
  · exact hkeeps kept_hasRole (hasRole_roleResetBlock (hruns _))
  · exact hkeeps kept_notSuperuser (notSuperuser_roleResetBlock (hruns _))
  · exact hkeeps kept_noMember (noMember_roleResetBlock (fun _ => hruns _) hmembers)
  · exact hkeeps (kept_pgMajor c.pgMajor) (roleResetBlock_keeps (kept_pgMajor c.pgMajor) rfl)

/-- **The statements about the roles leave the analytics role as its record says**, whatever it was before:
    a superuser, or a reader of everything.  Its name reads as itself where it is not quoted, and no
    statement about a role fails. -/
theorem setUpRoles_shows (hspliced : splicedRole analytics = some analytics) (hruns : ∀ st, f.role st = false)
    (hmembers : Revocable analytics c) {d : RestoreOperator.Database} (hmajor : d.pgMajor = c.pgMajor) :
    ShowsRole analytics (setUpRoles f analytics users readOnly c) (RestoreOperator.setupAuth readOnly d) := by
  obtain ⟨hthere, hnotSuperuser, hnoMember, hsame⟩ := analytics_reset users hruns hmembers
  unfold setUpRoles permissionBranch RestoreOperator.setupAuth
  dsimp only
  rw [hspliced, hmajor, ← hsame]
  generalize users.foldl (fun c user => roleResetBlock f user.username true c)
    (roleResetBlock f analytics false c) = c' at *
  dsimp only
  by_cases hgranular : 14 ≤ c'.pgMajor ∧ readOnly = true
  · have hcoarse : (decide (c'.pgMajor ≥ 14) && readOnly) = true := by simpa using hgranular
    rw [if_pos hcoarse, if_pos (show 14 ≤ (Cluster.inDatabases _ _).pgMajor ∧ readOnly = true from hgranular)]
    unfold runRole
    rw [hruns]
    refine ⟨hnotSuperuser.isSuperuser.symm, ?_⟩
    symm
    exact List.any_eq_true.mpr
      ⟨⟨"pg_read_all_data", analytics, "postgres"⟩, List.mem_append_right _ (List.mem_singleton_self _), by simp⟩
  · have hcoarse : ¬(decide (c'.pgMajor ≥ 14) && readOnly) = true := by simpa using hgranular
    rw [if_neg hcoarse, if_neg (show ¬(14 ≤ (Cluster.inDatabases _ _).pgMajor ∧ readOnly = true) from hgranular)]
    unfold runRole
    rw [hruns]
    exact ⟨(isSuperuser_setSuperuser (c := Cluster.inDatabases _ _) hthere).symm, hnoMember.reads_nothing.symm⟩

end Lockdown

namespace Startup

/-- What was asked and answered was answered well. -/
theorem isOk_of_ask {κ σ ε : Type} {c : κ} {ρ : κ → Reply ε} {s s' : σ} {a : Unit}
    (h : Prog.ask c () ρ s = .done a s') : (ρ c).isOk = true := by
  unfold Prog.ask Prog.read at h
  cases hr : ρ c <;> rw [hr] at h <;> first | rfl | cases h

/-- **An init container that has finished went through the set-up of the roles**, and made the server
    read-only if it was to. -/
theorem finished_set_up_roles {isReadOnly : Bool} {ρ : SetupCall → Reply PgError} {s s' : Setup}
    (hdone : setupAuth isReadOnly ρ s = .done () s') :
    (ρ .roles).isOk = true ∧ (isReadOnly = true → (ρ .readOnly).isOk = true) := by
  unfold setupAuth at hdone
  -- what comes before the roles
  iterate 8 obtain ⟨_, _, _, hdone⟩ := Prog.bind_eq_done hdone
  obtain ⟨_, _, hroles, hdone⟩ := Prog.bind_eq_done hdone
  -- and what comes after them
  iterate 3 obtain ⟨_, _, _, hdone⟩ := Prog.bind_eq_done hdone
  refine ⟨isOk_of_ask hroles, ?_⟩
  rintro rfl
  exact isOk_of_ask hdone

end Startup

/-- **A pod that has started has the analytics role its script set up.**  The script ran with the `read_only`
    of the Deployment, to its end, over the cluster of the restore. -/
theorem startPod_shows {r : Restore} {w : World} {deployment : Deployment}
    (hdeployment : w.deployment r.name = some deployment)
    {ρ : Startup.SetupCall → Reply Startup.PgError} {s s' : Startup.Setup}
    (hdone : Startup.setupAuth deployment.readOnly ρ s = .done () s')
    {f : Lockdown.Failing} {analytics : String} {users : List ExtraUser} {c : Lockdown.Cluster}
    (hspliced : Lockdown.splicedRole analytics = some analytics) (hruns : ∀ st, f.role st = false)
    (hmembers : Lockdown.Revocable analytics c) (hmajor : (w.databases r.name).pgMajor = c.pgMajor) :
    (ρ .roles).isOk = true ∧
      Lockdown.ShowsRole analytics (Lockdown.setUpRoles f analytics users deployment.readOnly c)
        ((startPod r w).databases r.name) ∧
      (((startPod r w).databases r.name).serverReadOnly = true → (ρ .readOnly).isOk = true) := by
  obtain ⟨hroles, hreadOnly⟩ := Startup.finished_set_up_roles hdone
  have hstarted : (startPod r w).databases r.name =
      { setupAuth deployment.readOnly (w.databases r.name) with serving := true } := by
    unfold startPod World.patchDatabase
    rw [hdeployment]
    exact if_pos rfl
  have hshows : Lockdown.ShowsRole analytics (Lockdown.setUpRoles f analytics users deployment.readOnly c)
      (setupAuth deployment.readOnly (w.databases r.name)) :=
    Lockdown.setUpRoles_shows hspliced hruns hmembers hmajor
  rw [hstarted]
  refine ⟨hroles, ⟨hshows.superuser, hshows.readAllData⟩, fun hserver => hreadOnly ?_⟩
  rwa [← serverReadOnly_setupAuth deployment.readOnly (w.databases r.name)]

end RestoreOperator
