import RestoreOperator.Objects.Calls

/-!
# `Replica.CredentialReset` — resetting the analytics password of a restore

A restore whose database refuses the replica's credentials has its password reset by a Job that
mounts the data directory.  The Deployment is scaled to zero first, so that no postgres runs on the
same files.
-/

namespace RestoreOperator

open Calls

/-- The Job that resets the credentials of a restore; the image is that of its postgres. -/
def buildCredentialResetJob (restore : Restore) : Except Error (Nat → Job) :=
  match restore.status.postgresVersion with
  | none => .error (.missingField "status.postgresVersion")
  | some _ => .ok fun uid =>
      { key := .credentialReset restore.name, uid := uid, backoffLimit := some 2 }

/-- A pod that still holds the volume. -/
def Pod.isLive (p : Pod) : Bool :=
  p.phase == .running || p.phase == .pending

/-- **Drive the credential reset of a restore.**  It answers `true` once the Job has succeeded. -/
def ensureCredentialReset (restore : Restore) : Op Bool := do
  let job ← Op.getJob (.resetGetJob restore.name) (.credentialReset restore.name)
  match job with
  | some job =>
    match classifyJob job with
    | .active => return false
    | .succeeded => do
      let _ ← Prog.bestEffort (Op.scaleDeployment (.resetScaleUp restore.name) restore.name 1)
      let _ ← Prog.bestEffort
        (Prog.call (.resetDeleteJob restore.name) (World.deleteJob (.credentialReset restore.name)))
      return true
    | .failed => do
      let _ ← Prog.bestEffort
        (Prog.call (.resetDeleteJob restore.name) (World.deleteJob (.credentialReset restore.name)))
      let _ ← Prog.bestEffort (Op.scaleDeployment (.resetScaleUp restore.name) restore.name 1)
      return false
  | none => do
    Op.scaleDeployment (.resetScaleDown restore.name) restore.name 0
    -- at most two pods are listed
    let pods ← Prog.read (.resetListPods restore.name) fun w =>
      (w.pods.filter fun p => p.restore == restore.name).take 2
    if pods.any Pod.isLive then return false
    else
      match buildCredentialResetJob restore with
      | .error e => Prog.fail e
      | .ok mk => do
        Op.createJob (.resetCreateJob restore.name) mk
        return false

end RestoreOperator
