import RestoreOperator.Objects.Calls

/-!
# `Restore.Deployment` — the Deployment of a restore

Every phase with a running pod applies the Deployment afresh from the live specs, by a forced
server-side apply: what the Deployment asks for afterwards is what the builder says.
-/

namespace RestoreOperator

open Calls

/-- **The database of the restore comes up read-only**: nothing after the restore has to write to
    it. -/
def effectiveReadOnly (spec : ReplicaSpec) (restore : Restore) : Bool :=
  spec.readOnly && spec.persistentSchemas.isNone && spec.redaction.isNone &&
    restore.spec.migrateTo.isNone

/-- **The Deployment of a restore.** -/
def buildDeployment (replica : Replica) (restore : Restore) : Except Error Deployment :=
  match restore.status.postgresVersion with
  | none => .error (.missingField "status.postgresVersion")
  | some _ => .ok
      { name := restore.name
        replicas := 1
        readOnly := effectiveReadOnly replica.spec restore }

/-- Apply a Deployment: what it asks for replaces what was asked before, and its status stays. -/
def World.applyDeployment (d : Deployment) (w : World) : World :=
  if (w.deployment d.name).isSome then
    { w with deployments := w.deployments.map fun e =>
        if e.name = d.name then { d with readyReplicas := e.readyReplicas } else e }
  else { w with deployments := w.deployments ++ [d] }

/-- **Apply the desired Deployment of a restore**, and read back how many of its pods are ready. -/
def applyRestoreDeployment (replica : Replica) (restore : Restore) : Op Nat :=
  match buildDeployment replica restore with
  | .error e => Prog.fail e
  | .ok d => do
    Prog.call .applyDeployment (World.applyDeployment d)
    let w ← Prog.get
    return ((w.deployment restore.name).map (·.readyReplicas)).getD 0

/-- Applying the Deployment of a restore leaves behind the state it found, or the Deployment applied. -/
theorem state_applyRestoreDeployment (replica : Replica) (r : Restore) (ρ : Call → Reply Error)
    (w : World) :
    (applyRestoreDeployment replica r ρ w).state = w ∨
      ∃ d, buildDeployment replica r = .ok d ∧
        (applyRestoreDeployment replica r ρ w).state = w.applyDeployment d := by
  unfold applyRestoreDeployment
  cases hbuild : buildDeployment replica r with
  | error e => exact .inl rfl
  | ok d =>
    simp only [Prog.bind_eq_andThen, Prog.andThen, Prog.call]
    cases ρ .applyDeployment with
    | ok => exact .inr ⟨d, rfl, rfl⟩
    | refused e => exact .inl rfl
    | lost e => exact .inr ⟨d, rfl, rfl⟩
    | cut => exact .inl rfl
    | cutAfter => exact .inr ⟨d, rfl, rfl⟩

theorem databases_applyDeployment (d : Deployment) (w : World) :
    (w.applyDeployment d).databases = w.databases := by
  unfold World.applyDeployment
  split <;> rfl

theorem replica_applyDeployment (d : Deployment) (w : World) :
    (w.applyDeployment d).replica = w.replica := by
  unfold World.applyDeployment
  split <;> rfl

/-! ## The init script -/

/-- The role reset that opens the `setup-auth` script: no superuser and no memberships. -/
def resetRole (d : Database) : Database :=
  { d with superuser := false, readAllData := false }

/-- **The `setup-auth` script**, run by every start of a pod with the `read_only` its Deployment was
    built with: the analytics role is reset and then set up anew. -/
def setupAuth (readOnly : Bool) (d : Database) : Database :=
  let reset := resetRole d
  if d.pgMajor ≥ 14 && readOnly then
    { reset with readAllData := true, serverReadOnly := readOnly }
  else
    { reset with superuser := true, serverReadOnly := readOnly }

theorem serverReadOnly_setupAuth (readOnly : Bool) (d : Database) :
    (setupAuth readOnly d).serverReadOnly = readOnly := by
  unfold setupAuth
  dsimp only
  split <;> rfl

end RestoreOperator
