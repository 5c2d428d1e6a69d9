import Mathlib.Data.Int.Cast.Basic
import RestoreOperator.Objects.Types

/-!
# `Objects.ReindexWatch` — waiting for a locale reindex

A restore past its readiness budget may still be held by a locale reindex that makes progress.  The
operator keeps one watch per restore, with the progress it last saw and when that last changed.

A watch is kept in memory only, so its times are seconds of any resolution; whole ones by default.
-/

namespace RestoreOperator

/-- How long a reindex may show no progress. -/
def stallTimeout : Duration := 30 * 60

/-- The least time between two looks at the same restore. -/
def observeInterval : Duration := 60

/-- A watch nobody has looked at for this long is dropped. -/
def abandonedAfter : Duration := 10 * 60

/-- **What the operator remembers of a reindex.**  `progress` is compared only for change, and is
    absent when no reindex holds readiness. -/
structure Watch (T : Type := Timestamp) where
  progress : Option String
  observedAt : T
  changedAt : T
  deriving Repr, DecidableEq

/-- What a watch says about going on waiting. -/
inductive Verdict where
  | wait
  | notReindexing
  | stalled
  deriving Repr, DecidableEq

namespace Watch

variable {T : Type} [Ring T] [LinearOrder T]

/-- Fold an observation in; the stall clock restarts when the progress changed. -/
def record (previous : Option (Watch T)) (progress : Option String) (now : T) : Watch T :=
  { progress := progress
    observedAt := now
    changedAt :=
      match previous with
      | some prev => if prev.progress = progress then prev.changedAt else now
      | none => now }

/-- An observation that failed reads as no change. -/
def unobserved (previous : Watch T) (now : T) : Watch T :=
  { previous with observedAt := now }

/-- It is time to look again. -/
def needsObservation (w : Watch T) (now : T) : Bool :=
  now - w.observedAt ≥ observeInterval

/-- Nobody has looked for too long. -/
def isAbandoned (w : Watch T) (now : T) : Bool :=
  now - w.observedAt > abandonedAfter

/-- What the watch says now. -/
def verdict (w : Watch T) (now : T) : Verdict :=
  if w.progress.isNone then .notReindexing
  else if now - w.changedAt > stallTimeout then .stalled
  else .wait

end Watch

/-- **What to do past the budget**: nothing, or fail with a message. -/
def pastBudget (elapsed budget : Duration) (verdict : Option Verdict) : Option String :=
  let notReady := "postgres Deployment was not Ready " ++ toString elapsed ++
    "s after restore completion (budget " ++ toString budget ++ "s)"
  match verdict with
  | some .wait => none
  | some .stalled => some (notReady ++ "; its locale reindex made no progress for " ++
      toString stallTimeout ++ "s")
  | some .notReindexing => some notReady
  | none => some notReady

end RestoreOperator
