import Mathlib.Data.Rat.Floor
import RestoreOperator.Restore.Phases

/-!
# `Restore.CachePressure` — the shared cache volume under pressure

A restore Job whose cache fills up says so, and the operator asks for a larger volume; the Job's own
limit on the content cache is worked out from the snapshot.
-/

namespace RestoreOperator

open Calls

/-! ## Sizes -/

/-- Whether a size asked for is strictly larger than the current one. -/
def cacheSizeNeedsGrow (current desired : ℚ) : Bool := desired > current

/-- The largest size pressure grows the volume to: twice the default. -/
def kopiaCachePvcMax (snapshotSize : Quantity) : ℚ := kopiaCachePvcSize snapshotSize * 2

/-- The growth at one pressure event. -/
def kopiaCachePressureGrowthFactor : ℚ := 115 / 100

/-- The size asked for after a pressure event.  Above the cap this is the cap, which is less than the
    current size. -/
def nextCachePvcSizeAfterPressure (current : ℚ) (snapshotSize : Quantity) : ℚ :=
  let bumped := current * kopiaCachePressureGrowthFactor
  let cap := kopiaCachePvcMax snapshotSize
  if bumped > cap then cap else bumped

/-- What is left free on the volume at the least, in MiB. -/
def kopiaCacheReserveMinMb : Nat := 2048

/-- The metadata cache, in MiB. -/
def kopiaMetadataCacheMb : Nat := 512

/-- The content cache at the least, in MiB. -/
def kopiaContentCacheFloorMb : Nat := 1024

/-- **The limit on the content cache** a restore Job is given, in MiB: the size the volume should
    have, less three tenths of it. -/
def kopiaContentCacheMb (snapshotSize : Quantity) : Nat :=
  let pvcMb := ⌊kopiaCachePvcSize snapshotSize / 1024 / 1024⌋₊
  let proportionalReserve := pvcMb * 3 / 10
  let reserve := max proportionalReserve kopiaCacheReserveMinMb
  max (pvcMb - reserve) kopiaContentCacheFloorMb

/-! ## Growing -/

/-- **Grow the shared cache volume after pressure** reported by a restore; best effort. -/
def growCachePvcAfterPressure (restoreName : String) : Op Unit := do
  let found ← Prog.attempt (Prog.read .getPressuredRestore fun w =>
    w.restores.find? fun r => r.name == restoreName)
  match found with
  | .ok (some restore) => do
    let existing ← Prog.attempt (Prog.read .getPressuredCache fun w => w.cachePvc)
    match existing with
    | .ok (some current) =>
      let next := nextCachePvcSizeAfterPressure current restore.spec.snapshotSize
      if cacheSizeNeedsGrow current next then do
        let _ ← Prog.bestEffort
          (Prog.call .growPressuredCache fun w => { w with cachePvc := some next })
      else pure ()
    | _ => pure ()
  | _ => pure ()

end RestoreOperator
