import RestoreOperator.Replica.Trigger

/-!
# `Replica.Reconcile` — one pass of the replica controller

`reconcile` reads the stored replica and the list of its restores once and then runs its blocks in
order; each of them may end the pass.  Every decision of the pass is taken from what it read at its
start, while its writes go to the objects as they are.
-/

namespace RestoreOperator

open Calls

/-- Record whether the replica's credentials can be used. -/
def credentialCondition (status reason message : String) : Op Unit :=
  Op.updateCondition "KopiaSecretValid" status reason message

/-- **Check the credential source**: exactly one of the Secret and canopy. -/
def validateCredentials (p : ReplicaPass) (replica : Replica) : Op (Option Action) :=
  match replica.spec.kopiaSecretRef, replica.spec.canopySource with
  | some _, some _ => do
    credentialCondition "False" "SecretRefAndCanopySource"
      "kopiaSecretRef and canopySource are mutually exclusive; set exactly one"
    return some ⟨60⟩
  | none, none => do
    credentialCondition "False" "NoCredentialSource"
      "one of kopiaSecretRef or canopySource must be set"
    return some ⟨60⟩
  | some secretName, none => do
    let secret ← Prog.attempt (Op.touch .getKopiaSecret)
    match secret with
    | .error e => do
      credentialCondition "False" "SecretNotFound"
        ("Secret " ++ secretName ++ " not found: " ++ e.display)
      return some ⟨60⟩
    | .ok _ =>
      match p.kopiaSecretValid with
      | .ok _ => do
        credentialCondition "True" "SecretValid" "All required keys present"
        return none
      | .error e => do
        credentialCondition "False" "SecretInvalid" e
        return some ⟨60⟩
  | none, some _ => do
    credentialCondition "True" "CanopySourced"
      "canopy-managed replica; credentials issued by canopy at Job time"
    return none

/-- The objects every pass makes sure of. -/
def ensureObjects (replica : Replica) : Op Unit := do
  Op.touch .ensureCredentialsSecret
  Op.touch .ensureExtraUserSecrets
  Prog.call .ensureService fun w => { w with serviceExists := true }
  Op.patchStatus .patchServiceName fun s => { s with serviceName := some replica.name }
  Op.touch .patchConnectionInfo

/-- **What a pass does with the restores it listed.** -/
def reconcileRestores (ctx : Context) (p : ReplicaPass) (replica : Replica)
    (restores : List Restore) : Op Action :=
  Prog.unlessReturned (reconcileSwitchover ctx p replica restores) <|
  Prog.unlessReturned (ephemeralTeardown replica restores) do
    sweepStale p replica restores
    cleanupFailed p restores
    let snapshotJob ← Op.getJob .getSnapshotJob .snapshotList
    Prog.unlessReturned (reconcileSnapshotList ctx p replica restores snapshotJob) do
      clearSuspension replica
      reconcileTrigger ctx p replica restores snapshotJob

/-- **One pass of the replica controller.** -/
def reconcile (ctx : Context) (p : ReplicaPass) : Op Action := do
  let w ← Prog.get
  Prog.unlessReturned (validateCredentials p w.replica) do
    ensureObjects w.replica
    let restores ← Prog.read .listRestores fun w => w.restores
    reconcileRestores ctx p w.replica restores

end RestoreOperator
