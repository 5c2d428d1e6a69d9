import Mathlib.Order.WithBot
import Mathlib.Tactic.Linarith
import Mathlib.Tactic.Ring
import RestoreOperator.Replica.SnapshotList

/-!
# `Correctness.StorageSize` — the volume a restore is given

A restore's volume is sized from its snapshot: a tenth on top, or, where more data is to be written into the
restore, the larger of a tenth and what was last measured, and 5 GiB.  A floor raises this and a maximum
bounds it, and the two differ: what was derived from the snapshot must fit under the maximum, or the restore
is refused, while a floor above the maximum only yields to it.
-/

namespace RestoreOperator

/-! ## What the size is meant to be -/

/-- **The size derived from a snapshot.** -/
def derivedSize (writesIntoRestore : Bool) (snapshot : ℚ) (measured : Option ℚ) : ℚ :=
  if writesIntoRestore then snapshot + max (measured.getD 0) (snapshot / 10) + 5 * gibibyte
  else snapshot * (11 / 10)

/-- The maximum, which is 2 TiB if it does not parse. -/
def maximumSize (maximum : Quantity) : ℚ := maximum.parsed.getD (2048 * gibibyte)

/-- The floor, if there is one that parses. -/
def floorSize (overrideSize : Option Quantity) : WithBot ℚ := overrideSize.bind Quantity.parsed

/-- A size raised to a floor. -/
def raisedTo (floor : WithBot ℚ) (size : ℚ) : ℚ :=
  match floor with
  | none => size
  | some floor => max size floor

/-- A size, with a refusal above all of them. -/
def sizeOrTop : Except Error ℚ → WithTop ℚ
  | .ok size => size
  | .error _ => ⊤

theorem le_raisedTo (floor : WithBot ℚ) (size : ℚ) : size ≤ raisedTo floor size := by
  cases floor with
  | bot => exact le_refl size
  | coe floor => exact le_max_left size floor

theorem raisedTo_mono {floor floor' : WithBot ℚ} {size size' : ℚ} (hfloor : floor ≤ floor')
    (hsize : size ≤ size') : raisedTo floor size ≤ raisedTo floor' size' := by
  cases floor with
  | bot => exact le_trans hsize (le_raisedTo floor' size')
  | coe floor =>
    cases floor' with
    | bot => exact absurd hfloor (by simp)
    | coe floor' => exact max_le_max hsize (WithBot.coe_le_coe.mp hfloor)

/-- The derived size grows with the snapshot and with what was measured. -/
theorem derivedSize_mono (writes : Bool) {snapshot snapshot' : ℚ} {measured measured' : Option ℚ}
    (hsnapshot : snapshot ≤ snapshot') (hmeasured : measured.getD 0 ≤ measured'.getD 0) :
    derivedSize writes snapshot measured ≤ derivedSize writes snapshot' measured' := by
  unfold derivedSize
  cases writes with
  | true =>
    have htenth : snapshot / 10 ≤ snapshot' / 10 := by linarith
    have hoverhead := max_le_max hmeasured htenth
    simp only [if_true]
    linarith
  | false =>
    simp only [Bool.false_eq_true, if_false]
    linarith

/-- There is room for the snapshot and a tenth of it. -/
theorem le_derivedSize (writes : Bool) (snapshot : ℚ) (measured : Option ℚ) :
    snapshot * (11 / 10) ≤ derivedSize writes snapshot measured := by
  unfold derivedSize
  cases writes with
  | true =>
    have htenth := le_max_right (measured.getD 0) (snapshot / 10)
    have hspare : 0 ≤ 5 * gibibyte := by norm_num [gibibyte]
    simp only [if_true]
    linarith
  | false => simp

/-! ## What the code makes of it -/

section Size

variable (snapshot : ℚ) (overrideSize : Option Quantity) (maximum : Quantity) (writes : Bool)
  (measured : Option ℚ)

/-- **The code computes that size.** -/
theorem computeStorageSize_eq :
    computeStorageSize snapshot overrideSize maximum writes measured =
      if maximumSize maximum < derivedSize writes snapshot measured then
        .error (.storageLimitExceeded (derivedSize writes snapshot measured) (maximumSize maximum))
      else
        .ok (min (raisedTo (floorSize overrideSize) (derivedSize writes snapshot measured))
          (maximumSize maximum)) := by
  have htenth : snapshot * (1 / 10) = snapshot / 10 := by ring
  unfold computeStorageSize
  simp only [gt_iff_lt, htenth, ← max_def_lt, ← min_def_lt]
  rw [max_comm (snapshot / 10), ← derivedSize, ← maximumSize, min_comm (maximumSize maximum)]
  unfold raisedTo floorSize
  cases overrideSize.bind Quantity.parsed <;> rfl

variable {snapshot overrideSize maximum writes measured}

/-- A size that is given was not refused. -/
theorem computeStorageSize_ok {size : ℚ}
    (h : computeStorageSize snapshot overrideSize maximum writes measured = .ok size) :
    ¬ maximumSize maximum < derivedSize writes snapshot measured ∧
      size = min (raisedTo (floorSize overrideSize) (derivedSize writes snapshot measured))
        (maximumSize maximum) := by
  rw [computeStorageSize_eq] at h
  split at h
  · exact absurd h (by simp)
  · rename_i hfits
    exact ⟨hfits, (Except.ok.inj h).symm⟩

/-- A size that is given holds the snapshot and a tenth of it. -/
theorem le_of_computeStorageSize {size : ℚ}
    (h : computeStorageSize snapshot overrideSize maximum writes measured = .ok size) :
    snapshot * (11 / 10) ≤ size := by
  obtain ⟨hfits, hsize⟩ := computeStorageSize_ok h
  have hroom := le_derivedSize writes snapshot measured
  have hraised := le_raisedTo (floorSize overrideSize) (derivedSize writes snapshot measured)
  rw [hsize]
  exact le_min (le_trans hroom hraised) (le_trans hroom (not_lt.mp hfits))

/-- Larger inputs give a larger size, or a refusal. -/
theorem sizeOrTop_mono {snapshot' : ℚ} {overrideSize' : Option Quantity} {measured' : Option ℚ}
    (hsnapshot : snapshot ≤ snapshot') (hfloor : floorSize overrideSize ≤ floorSize overrideSize')
    (hmeasured : measured.getD 0 ≤ measured'.getD 0) :
    sizeOrTop (computeStorageSize snapshot overrideSize maximum writes measured) ≤
      sizeOrTop (computeStorageSize snapshot' overrideSize' maximum writes measured') := by
  have hderived := derivedSize_mono writes hsnapshot hmeasured
  have hraised := raisedTo_mono hfloor hderived
  rw [computeStorageSize_eq, computeStorageSize_eq]
  by_cases hfits' : maximumSize maximum < derivedSize writes snapshot' measured'
  · rw [if_pos hfits']
    exact le_top
  · have hfits : ¬ maximumSize maximum < derivedSize writes snapshot measured :=
      fun h => hfits' (lt_of_lt_of_le h hderived)
    rw [if_neg hfits, if_neg hfits']
    exact WithTop.coe_le_coe.mpr (min_le_min_right _ hraised)

end Size

/-- **What the size of a volume is promised to be.** -/
structure SizesVolume (writes : Bool) : Prop where
  /-- It is refused exactly if the derived size exceeds the maximum. -/
  refused : ∀ snapshot overrideSize maximum measured e,
    computeStorageSize snapshot overrideSize maximum writes measured = .error e ↔
      maximumSize maximum < derivedSize writes snapshot measured ∧
        e = .storageLimitExceeded (derivedSize writes snapshot measured) (maximumSize maximum)
  /-- Otherwise it is the derived size, raised to the floor and then bounded by the maximum. -/
  given : ∀ snapshot overrideSize maximum measured size,
    computeStorageSize snapshot overrideSize maximum writes measured = .ok size →
      size = min (raisedTo (floorSize overrideSize) (derivedSize writes snapshot measured))
        (maximumSize maximum)
  /-- It holds the snapshot and a tenth of it. -/
  holds : ∀ snapshot overrideSize maximum measured size,
    computeStorageSize snapshot overrideSize maximum writes measured = .ok size →
      snapshot + snapshot / 10 ≤ size
  /-- It grows with the snapshot, -/
  snapshot : ∀ overrideSize maximum measured, Monotone fun snapshot =>
    sizeOrTop (computeStorageSize snapshot overrideSize maximum writes measured)
  /-- with the floor, -/
  floor : ∀ snapshot maximum measured overrideSize overrideSize',
    floorSize overrideSize ≤ floorSize overrideSize' →
      sizeOrTop (computeStorageSize snapshot overrideSize maximum writes measured) ≤
        sizeOrTop (computeStorageSize snapshot overrideSize' maximum writes measured)
  /-- and with what was measured. -/
  measured : ∀ snapshot overrideSize maximum measured measured',
    measured.getD 0 ≤ measured'.getD 0 →
      sizeOrTop (computeStorageSize snapshot overrideSize maximum writes measured) ≤
        sizeOrTop (computeStorageSize snapshot overrideSize maximum writes measured')
  /-- No floor has it refused. -/
  anyFloor : ∀ snapshot maximum measured overrideSize overrideSize' size,
    computeStorageSize snapshot overrideSize maximum writes measured = .ok size →
      ∃ size', computeStorageSize snapshot overrideSize' maximum writes measured = .ok size'

/-- **Volumes are sized as promised**, whether or not data is written into the restore. -/
theorem volume_sized (writes : Bool) : SizesVolume writes := by
  constructor
  · intro snapshot overrideSize maximum measured e
    rw [computeStorageSize_eq]
    by_cases hfits : maximumSize maximum < derivedSize writes snapshot measured
    · rw [if_pos hfits, Except.error.injEq]
      exact ⟨fun h => ⟨hfits, h.symm⟩, fun h => h.2.symm⟩
    · rw [if_neg hfits]
      exact ⟨fun h => absurd h (by simp), fun h => absurd h.1 hfits⟩
  · intro snapshot overrideSize maximum measured size h
    exact (computeStorageSize_ok h).2
  · intro snapshot overrideSize maximum measured size h
    have hroom := le_of_computeStorageSize h
    linarith
  · intro overrideSize maximum measured snapshot snapshot' h
    exact sizeOrTop_mono h (le_refl _) (le_refl _)
  · intro snapshot maximum measured overrideSize overrideSize' h
    exact sizeOrTop_mono (le_refl _) h (le_refl _)
  · intro snapshot overrideSize maximum measured measured' h
    exact sizeOrTop_mono (le_refl _) (le_refl _) h
  · intro snapshot maximum measured overrideSize overrideSize' size h
    rw [computeStorageSize_eq, if_neg (computeStorageSize_ok h).1]
    exact ⟨_, rfl⟩

/-- **The volume of a restore holds its snapshot**, and a tenth of it on top. -/
theorem restore_volume_holds_snapshot {replica : Replica} {snap : Snapshot} {size : ℚ}
    (h : restoreStorageSize replica snap = .ok size) :
    (snap.totalSizeBytes : ℚ) * (11 / 10) ≤ size :=
  le_of_computeStorageSize h

/-- A floor above the maximum yields to it; a snapshot above it does not. -/
example : computeStorageSize 100 (some (.amount 300)) (.amount 200) false none = .ok 200 ∧
    computeStorageSize 300 (some (.amount 300)) (.amount 200) false none =
      .error (.storageLimitExceeded 330 200) := by
  decide +kernel

end RestoreOperator
