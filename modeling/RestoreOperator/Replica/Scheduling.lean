import RestoreOperator.Objects.Context

/-!
# `Replica.Scheduling` — when a replica restores

The schedule of a replica, the backoff after failures, and the time budgets derived from either.
-/

namespace RestoreOperator

/-- What the schedule says about restoring now. -/
inductive ScheduleDecision where
  | notDue
  | trigger
  | skippedByTtl
  deriving Repr, DecidableEq

/-- **The backoff after consecutive failures**: `clamp(60s * 2^n, 2min, 1h)`, and none at all
    without a failure. -/
def failureBackoffDelay (consecutiveFailures : Nat) : Option Duration :=
  if consecutiveFailures = 0 then none
  else
    let exponent := min consecutiveFailures 20
    let unclamped := 60 * 2 ^ exponent
    some (max 120 (min unclamped 3600) : Nat)

/-- **How long a restore's Deployment may take to become ready**: the replica's own timeout, or the
    operator's default with 900 s on top for every 100 GiB of snapshot. -/
def deploymentReadyTimeout (explicit : Option TimeSpan) (snapshotSize : Quantity)
    (globalDefaultSecs : Nat) : Duration :=
  match explicit.bind TimeSpan.totalSeconds with
  | some secs => secs
  | none =>
    match snapshotSize.parsed with
    | none => globalDefaultSecs
    | some bytes =>
      let extra := Rat.floor (bytes / (100 * gibibyte) * 900)
      max (globalDefaultSecs : Int) (globalDefaultSecs + extra)

/-- **A failure backoff is still in effect**: the replica has failed, and the time its last failure
    scheduled has not come. -/
def backoffPending (status : ReplicaStatus) (now : Timestamp) : Bool :=
  if status.consecutiveRestoreFailures.getD 0 = 0 then false
  else
    match status.nextScheduledRestore with
    | some next => now < next
    | none => false

/-- The hash that tells whether the schedule or its jitter changed. -/
def scheduleInputHash (ctx : Context) (spec : ReplicaSpec) : String :=
  ctx.hashSchedule spec.schedule spec.scheduleJitter

/-- The time between the next two firings of the schedule. -/
def cronInterval (ctx : Context) (spec : ReplicaSpec) (now : Timestamp) : Option Duration := do
  let next ← ctx.findNext false spec.schedule now
  let after ← ctx.findNext false spec.schedule (next + 1)
  return after - next

/-- **The wall-clock budget of a schema migration**: a fifth of the time between two firings, or an
    hour. -/
def schemaMigrationTimeout (ctx : Context) (spec : ReplicaSpec) (now : Timestamp) : Duration :=
  match cronInterval ctx spec now with
  | none => 3600
  | some interval => interval.tdiv 5

/-- **The next time the schedule fires**, moved by a sample of the jitter. -/
def computeNextScheduledRestore (ctx : Context) (spec : ReplicaSpec) (jitter : Duration)
    (now : Timestamp) : Option Timestamp :=
  (ctx.findNext true spec.schedule now).map (· + jitter)

/-- The last restore completed less than `minimumTtl` ago. -/
def withinMinimumTtl (spec : ReplicaSpec) (status : ReplicaStatus) (now : Timestamp) : Bool :=
  match spec.minimumTtl, status.lastRestoreCompletedAt with
  | some ttl, some last => now < last.add ttl
  | _, _ => false

/-- **What the schedule says now.** -/
def checkSchedule (spec : ReplicaSpec) (status : ReplicaStatus) (now : Timestamp) :
    ScheduleDecision :=
  match status.nextScheduledRestore with
  | none => .trigger
  | some next =>
    if now < next then .notDue
    else if withinMinimumTtl spec status now then .skippedByTtl
    else .trigger

end RestoreOperator
