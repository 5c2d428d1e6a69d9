import RestoreOperator.Objects.World

/-!
# `Objects.Context` — what the operator takes from libraries and its configuration

The functions of third-party packages the controllers call (cron, hashing, JSON, globbing, the
formatting of times) and the operator-wide settings.  Nothing is assumed about them here.
-/

namespace RestoreOperator

/-- **A kopia snapshot**, as `kopia snapshot list --json` prints it. -/
structure Snapshot where
  id : String
  description : String := ""
  host : String := ""
  path : String := ""
  tags : List (String × String) := []
  startTime : String := ""
  totalSize : Option Nat := none
  deriving Repr, DecidableEq

/-- The size in bytes, or 0 if unknown. -/
def Snapshot.totalSizeBytes (s : Snapshot) : Nat :=
  s.totalSize.getD 0

/-- **The library functions and settings of the operator.** -/
structure Context where
  /-- The first firing of a cron expression after a time, if it parses and fires again.  With
      `hashed` the expression may use `H`, resolved by a hash of the replica. -/
  findNext : (hashed : Bool) → (schedule : String) → Timestamp → Option Timestamp
  /-- The hash of a schedule and its jitter. -/
  hashSchedule : String → TimeSpan → String
  /-- `%Y%m%d-%H%M%S`. -/
  strftime : Timestamp → String
  /-- Parse a JSON array of snapshots. -/
  parseSnapshots : String → Except String (List Snapshot)
  globMatches : (pattern : String) → (text : String) → Bool
  deploymentReadyTimeoutSecs : Nat := 300
  builderPullSecret : Option String := none
  /-- Whether the operator has a canopy client. -/
  canopy : Bool := true

end RestoreOperator
