import RestoreOperator.Objects.Calls

/-!
# `Replica.Redaction` — the redaction gate of the switchover

A replica with `spec.redaction` has every restore redacted before it goes live.  The step is gated
by `status.redactionPhase`, which lives on the replica.
-/

namespace RestoreOperator

open Calls

/-- Whether a text contains another. -/
def containsText (needle hay : String) : Bool :=
  hay.toList.tails.any fun t => needle.toList.isPrefixOf t

/-- The part of a manifest URL that stands for the version. -/
def versionPlaceholder : String := "\x7bversion\x7d"

/-- **Check the redaction spec**: a version exactly when the URL has a place for one. -/
def validateSpec (spec : RedactionSpec) : Except Error Unit :=
  let templated := containsText versionPlaceholder spec.manifestUrl
  let hasLiteral := spec.version.isSome
  let hasQuery := spec.versionQuery.isSome
  if hasLiteral && hasQuery then
    .error (.redaction "redaction spec: `version` and `versionQuery` are mutually exclusive")
  else if templated && !(hasLiteral || hasQuery) then
    .error (.redaction
      "redaction spec: `manifestUrl` contains `\x7bversion\x7d` but no `version` or `versionQuery` provided")
  else if !templated && (hasLiteral || hasQuery) then
    .error (.redaction
      "redaction spec: `version`/`versionQuery` set but `manifestUrl` has no `\x7bversion\x7d` placeholder")
  else .ok ()

/-- Redaction is the step that puts the restore back into read-only mode: nothing after it still has
    to write. -/
def shouldEnforceReadOnly (spec : ReplicaSpec) : Bool :=
  spec.readOnly && spec.persistentSchemas.isNone

/-- The version of the manifest: the literal one, or the answer of the query. -/
def resolveVersion (p : ReplicaPass) (spec : RedactionSpec) : Op (Option String) :=
  match spec.version with
  | some v => pure (some v)
  | none =>
    match spec.versionQuery with
    | none => pure none
    | some _ => Prog.ask .redactionVersion p.redactionVersion

/-- **Lock the redacted database**: read-only by default, and the analytics role demoted. The grant
    comes before the demotion, which it needs the superuser for. -/
def enforceReadOnly (restoreName : String) : Op Unit := do
  Prog.call .redactionAlterDatabase (World.patchDatabase restoreName fun d =>
    { d with databaseReadOnly := true })
  Prog.call .redactionGrant (World.patchDatabase restoreName fun d => { d with readAllData := true })
  Prog.call .redactionDemote (World.patchDatabase restoreName fun d => { d with superuser := false })

/-- The steps of a redaction against a restore: find the database, resolve the version, fetch and
    apply the manifest, and put read-only back. -/
def runRedaction (p : ReplicaPass) (replica : Replica) (spec : RedactionSpec)
    (restoreName : String) : Op (Option String × RedactionOutcome) := do
  Op.touch .redactionCredentials
  Op.touch .redactionDiscover
  Op.touch .redactionConnect
  let version ← resolveVersion p spec
  Op.touch .redactionManifest
  let outcome ← Prog.ask .redactionApply p.redactionOutcome
  Prog.when (shouldEnforceReadOnly replica.spec) (enforceReadOnly restoreName)
  return (version, outcome)

/-- **Run the redaction** against a restore, and log that it returned `Ok`. -/
def reconcileRedaction (p : ReplicaPass) (replica : Replica) (restore : Restore) :
    Op (Option String × RedactionOutcome) :=
  match replica.spec.redaction with
  | none => Prog.fail (.redaction "reconcile_redaction called with no spec.redaction")
  | some spec =>
    match validateSpec spec with
    | .error e => Prog.fail e
    | .ok () => do
      let result ← runRedaction p replica spec restore.name
      Prog.modify (World.log (.redacted restore.uid))
      return result

/-- The phase a finished redaction is recorded as. -/
def RedactionOutcome.phase (o : RedactionOutcome) : RedactionPhase :=
  if o.isPartial then .partly else .complete

/-- **The redaction gate.**  It answers whether the switchover may proceed; a run that failed is
    recorded and tried again on the next pass. -/
def reconcileRedactionStep (p : ReplicaPass) (replica : Replica) (switching : Restore) : Op Bool :=
  -- the marker is the replica's, whichever restore it was written for
  if replica.status.redactionPhase.any RedactionPhase.isDone then pure true
  else do
    Prog.when (replica.status.redactionPhase ≠ some .active)
      (Op.patchStatus .redactionPatchActive fun s => { s with redactionPhase := some .active })
    let result ← Prog.attempt (reconcileRedaction p replica switching)
    match result with
    | .ok (version, outcome) => do
      Op.patchStatus .redactionPatchSettled fun s =>
        { s with
          redactionPhase := some outcome.phase
          redactionVersion := version
          redactionColumnsApplied := some outcome.columnsAttempted }
      return true
    | .error e => do
      Op.patchStatus .redactionPatchFailed fun s =>
        { s with redactionPhase := some (.failed e.display) }
      Op.publishEvent "RedactionFailed"
      return false

end RestoreOperator
