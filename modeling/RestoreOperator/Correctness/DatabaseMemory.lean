import Mathlib.Algebra.Order.Floor.Semiring
import Mathlib.Tactic.FieldSimp
import Mathlib.Tactic.Linarith
import Mathlib.Tactic.Positivity
import Mathlib.Tactic.Ring
import RestoreOperator.Base.Rounding
import RestoreOperator.Restore.Memory

/-!
# `Correctness.DatabaseMemory` — the memory and the shared memory of a database

The memory for a snapshot is a tenth of it, brought between a floor and a cap, and then rounded up to whole
MiB.  The rounding comes last, so a cap that is not itself whole MiB does not hold: the memory stays within
the cap exactly if the cap is whole, or if what is rounded up is no more than the whole MiB of the cap.

The shared memory is within the floors and bounds asked of it, and the shared buffers within the shared
memory, whatever the resources are.
-/

namespace RestoreOperator

open Rounding

theorem mebibyte_pos : 0 < mebibyte := by norm_num [mebibyte]

theorem bytes_Mi : ((QuantityUnit.Mi.bytes : Nat) : ℚ) = mebibyte := by
  norm_num [QuantityUnit.bytes, mebibyte]

/-! ## The memory for a snapshot -/

section Scaled

variable (snapshot floor cap : ℚ)

/-- A tenth of the snapshot, between the floor and the cap. -/
def clampedMemory : ℚ := clamp (snapshot * snapshotMemoryRatio) (min floor cap) cap

/-- **The memory for a snapshot**: that, rounded up to whole MiB. -/
def scaledMemory : ℚ := up mebibyte (clampedMemory snapshot floor cap)

theorem clamp_eq {x low high : ℚ} (h : low ≤ high) : clamp x low high = max low (min x high) := by
  unfold clamp
  by_cases hlow : x < low
  · have hx : x ≤ high := le_trans hlow.le h
    rw [if_pos hlow, min_eq_left hx, max_eq_left hlow.le]
  · rw [if_neg hlow]
    by_cases hhigh : x > high
    · rw [if_pos hhigh, min_eq_right hhigh.le, max_eq_right h]
    · rw [if_neg hhigh, min_eq_left (not_lt.mp hhigh), max_eq_right (not_lt.mp hlow)]

theorem clampedMemory_eq :
    clampedMemory snapshot floor cap = max (min floor cap) (min (snapshot / 10) cap) := by
  have htenth : snapshot * snapshotMemoryRatio = snapshot / 10 := by
    unfold snapshotMemoryRatio
    ring
  unfold clampedMemory
  rw [clamp_eq (min_le_right floor cap), htenth]

variable {snapshot floor cap}

theorem clampedMemory_mono {snapshot' floor' : ℚ} (hsnapshot : snapshot ≤ snapshot')
    (hfloor : floor ≤ floor') :
    clampedMemory snapshot floor cap ≤ clampedMemory snapshot' floor' cap := by
  have htenth : snapshot / 10 ≤ snapshot' / 10 := by linarith
  rw [clampedMemory_eq, clampedMemory_eq]
  exact max_le_max (min_le_min_right cap hfloor) (min_le_min_right cap htenth)

theorem clampedMemory_nonneg (floor : ℚ) (hsnapshot : 0 ≤ snapshot) (hcap : 0 ≤ cap) :
    0 ≤ clampedMemory snapshot floor cap := by
  have htenth : 0 ≤ snapshot / 10 := by linarith
  rw [clampedMemory_eq]
  exact le_trans (le_min htenth hcap) (le_max_right _ _)

/-- What is rounded stays within the whole MiB of the cap, if the floor and the tenth do. -/
theorem clampedMemory_le_iff {bound : ℚ} (hbound : bound < cap) :
    clampedMemory snapshot floor cap ≤ bound ↔ snapshot / 10 ≤ bound ∧ floor ≤ bound := by
  rw [clampedMemory_eq, max_le_iff, min_le_iff, min_le_iff]
  constructor
  · rintro ⟨hfloor | hcap, htenth | hcap'⟩
    · exact ⟨htenth, hfloor⟩
    · exact absurd hcap' (not_le.mpr hbound)
    · exact absurd hcap (not_le.mpr hbound)
    · exact absurd hcap (not_le.mpr hbound)
  · rintro ⟨htenth, hfloor⟩
    exact ⟨Or.inl hfloor, Or.inl htenth⟩

/-- The code rounds up to whole MiB. -/
theorem ceilTo_of_nonneg {q : ℚ} (hq : 0 ≤ q) : ceilTo q .Mi = up mebibyte q := by
  have hunit := mebibyte_pos
  have hfloor : 0 ≤ ⌊q / mebibyte⌋ := Int.floor_nonneg.mpr (div_nonneg hq hunit.le)
  have hwhole : ((⌊q / mebibyte⌋.toNat : Nat) : ℚ) = (⌊q / mebibyte⌋ : ℚ) := by
    rw [← Int.cast_natCast, Int.toNat_of_nonneg hfloor]
  have hremainder : q - ⌊q / mebibyte⌋ * mebibyte > 0 ↔ (⌊q / mebibyte⌋ : ℚ) < q / mebibyte := by
    rw [gt_iff_lt, sub_pos, lt_div_iff₀ hunit]
  unfold ceilTo up
  simp only [bytes_Mi, hremainder]
  rw [ceil_eq_floor_add, Nat.cast_add, hwhole]
  push_cast
  rfl

/-- The code's roundings, to whole bytes and then to whole MiB, are one. -/
theorem ceilTo_ceil {x : ℚ} (hx : 0 ≤ x) : ceilTo ⌈x⌉₊ .Mi = up mebibyte x := by
  have hceil : ((⌈x⌉₊ : Nat) : ℚ) = (⌈x⌉ : ℚ) := natCast_ceil_eq_intCast_ceil hx
  have hwhole : mebibyte = ((1048576 : Nat) : ℚ) := by norm_num [mebibyte]
  rw [ceilTo_of_nonneg (Nat.cast_nonneg _), hceil, hwhole]
  exact up_ceil (by norm_num) x

/-- **The code derives that memory**, as request and as limit. -/
theorem scaleMemoryForSnapshot_eq (hsnapshot : 0 ≤ snapshot) (hcap : 0 ≤ cap) :
    scaleMemoryForSnapshot (.amount snapshot) (.amount floor) (.amount cap) =
      some
        { requests := some ⟨[("memory", .amount (scaledMemory snapshot floor cap))]⟩
          limits := some ⟨[("memory", .amount (scaledMemory snapshot floor cap))]⟩ } := by
  have hround := ceilTo_ceil (clampedMemory_nonneg floor hsnapshot hcap)
  unfold scaledMemory
  rw [← hround]
  rfl

end Scaled

/-- The memory of one side of the resources. -/
def memoryOf (side : Option ResourceMap) : Option ℚ :=
  (side.bind (·.get "memory")).bind Quantity.parsed

/-- The memory request and the memory limit that are derived. -/
def requestAndLimit (snapshot floor cap : ℚ) : Option (ℚ × ℚ) := do
  let resources ← scaleMemoryForSnapshot (.amount snapshot) (.amount floor) (.amount cap)
  let request ← memoryOf resources.requests
  let limit ← memoryOf resources.limits
  return (request, limit)

/-- **What the memory for a snapshot is promised to be.** -/
structure ScaledAsPromised (snapshot floor cap memory : ℚ) : Prop where
  /-- It is a whole number of MiB, -/
  whole : ∃ n : Nat, memory = n * mebibyte
  /-- not below the floor, where the cap leaves room for it, -/
  floored : min floor cap ≤ memory
  /-- and not above the cap. -/
  capped : memory ≤ cap
  /-- A larger snapshot, or a higher floor, gets no less. -/
  monotone : ∀ snapshot' floor' request limit, snapshot ≤ snapshot' → floor ≤ floor' →
    requestAndLimit snapshot' floor' cap = some (request, limit) → memory ≤ request

/-- **The memory is scaled as promised**, the request being the limit. -/
def ScalesMemory (snapshot floor cap : ℚ) : Prop :=
  ∃ memory, requestAndLimit snapshot floor cap = some (memory, memory) ∧
    ScaledAsPromised snapshot floor cap memory

section Scaled

variable {snapshot floor cap : ℚ}

theorem requestAndLimit_eq (hsnapshot : 0 ≤ snapshot) (hcap : 0 ≤ cap) :
    requestAndLimit snapshot floor cap =
      some (scaledMemory snapshot floor cap, scaledMemory snapshot floor cap) := by
  unfold requestAndLimit
  rw [scaleMemoryForSnapshot_eq hsnapshot hcap]
  rfl

/-- The memory is in whole MiB. -/
theorem scaledMemory_whole (hsnapshot : 0 ≤ snapshot) (hcap : 0 ≤ cap) :
    ∃ n : Nat, scaledMemory snapshot floor cap = n * mebibyte := by
  have hclamped := clampedMemory_nonneg floor hsnapshot hcap
  refine ⟨⌈clampedMemory snapshot floor cap / mebibyte⌉₊, ?_⟩
  rw [natCast_ceil_eq_intCast_ceil (div_nonneg hclamped mebibyte_pos.le)]
  rfl

/-- The memory is not below the floor. -/
theorem le_scaledMemory : min floor cap ≤ scaledMemory snapshot floor cap := by
  refine le_trans ?_ (le_up mebibyte_pos _)
  rw [clampedMemory_eq]
  exact le_max_left _ _

/-- **The memory stays within the cap**, if the cap is whole MiB, or if its whole MiB hold the tenth of the
    snapshot and the floor. -/
theorem scaledMemory_le_iff :
    scaledMemory snapshot floor cap ≤ cap ↔
      down mebibyte cap = cap ∨ snapshot / 10 ≤ down mebibyte cap ∧ floor ≤ down mebibyte cap := by
  unfold scaledMemory
  rw [up_le_iff mebibyte_pos]
  by_cases hwhole : down mebibyte cap = cap
  · have hclamped : clampedMemory snapshot floor cap ≤ cap := by
      rw [clampedMemory_eq]
      exact max_le (min_le_right _ _) (min_le_right _ _)
    rw [hwhole]
    exact ⟨fun _ => Or.inl rfl, fun _ => hclamped⟩
  · have hbound : down mebibyte cap < cap := lt_of_le_of_ne (down_le mebibyte_pos cap) hwhole
    rw [clampedMemory_le_iff hbound]
    exact ⟨Or.inr, fun h => h.resolve_left hwhole⟩

/-- A cap that is rounded down to itself is whole MiB. -/
theorem down_eq_iff (hcap : 0 ≤ cap) : down mebibyte cap = cap ↔ ∃ n : Nat, cap = n * mebibyte := by
  constructor
  · intro h
    refine ⟨⌊cap / mebibyte⌋₊, ?_⟩
    rw [natCast_floor_eq_intCast_floor (div_nonneg hcap mebibyte_pos.le)]
    exact h.symm
  · rintro ⟨n, rfl⟩
    unfold down
    rw [mul_div_cancel_right₀ _ mebibyte_pos.ne', Int.floor_natCast, Int.cast_natCast]

end Scaled

/-- **The memory is scaled as promised exactly if it stays within the cap**: the cap is whole MiB, or its
    whole MiB hold the tenth of the snapshot and the floor. -/
theorem memory_scaled_iff {snapshot floor cap : ℚ} (hsnapshot : 0 ≤ snapshot) (hcap : 0 ≤ cap) :
    ScalesMemory snapshot floor cap ↔
      (∃ n : Nat, cap = n * mebibyte) ∨
        snapshot / 10 ≤ down mebibyte cap ∧ floor ≤ down mebibyte cap := by
  rw [← down_eq_iff hcap, ← scaledMemory_le_iff]
  have hderived : requestAndLimit snapshot floor cap =
      some (scaledMemory snapshot floor cap, scaledMemory snapshot floor cap) :=
    requestAndLimit_eq hsnapshot hcap
  constructor
  · rintro ⟨memory, hmemory, hpromised⟩
    rw [hderived, Option.some.injEq, Prod.mk.injEq] at hmemory
    rw [hmemory.1]
    exact hpromised.capped
  · intro hcapped
    refine ⟨scaledMemory snapshot floor cap, hderived, scaledMemory_whole hsnapshot hcap,
      le_scaledMemory, hcapped, ?_⟩
    intro snapshot' floor' request limit hsnapshot' hfloor' hrequest
    rw [requestAndLimit_eq (le_trans hsnapshot hsnapshot') hcap, Option.some.injEq,
      Prod.mk.injEq] at hrequest
    rw [← hrequest.1]
    exact up_mono mebibyte_pos (clampedMemory_mono hsnapshot' hfloor')

/-- A snapshot of 2000 GiB gets the cap of 64 GiB. -/
theorem whole_cap_holds : ScalesMemory (2000 * gibibyte) (2 * gibibyte) (64 * gibibyte) := by
  refine (memory_scaled_iff ?_ ?_).mpr (Or.inl ⟨65536, ?_⟩)
  all_goals norm_num [gibibyte, mebibyte]

/-- **A cap of a thousand million bytes is exceeded**: 954 MiB are more. -/
theorem part_of_mebibyte_exceeds_cap :
    requestAndLimit (100 * gibibyte) (8 * gibibyte) 1000000000 = some (1000341504, 1000341504) ∧
      ¬ ScalesMemory (100 * gibibyte) (8 * gibibyte) 1000000000 := by
  have hderived : requestAndLimit (100 * gibibyte) (8 * gibibyte) 1000000000 =
      some (1000341504, 1000341504) := by decide +kernel
  refine ⟨hderived, ?_⟩
  rintro ⟨memory, hmemory, hpromised⟩
  rw [hderived, Option.some.injEq, Prod.mk.injEq] at hmemory
  have hcapped := hpromised.capped
  rw [← hmemory.1] at hcapped
  exact absurd hcapped (by norm_num)

/-- **The memory of a restore Job is between 4 and 16 GiB**, and never below what it asks for. -/
theorem restoreJobResources_bounds {size : ℚ} (hsize : 0 ≤ size) :
    ∃ memory, memoryOf (restoreJobResources (.amount size)).limits = some memory ∧
      4 * gibibyte ≤ memory ∧ memory ≤ 16 * gibibyte := by
  have hcap : (0 : ℚ) ≤ 16 * gibibyte := by norm_num [gibibyte]
  have hfour : Quantity.fromUnit 4 .Gi = .amount (4 * gibibyte) := by
    norm_num [Quantity.fromUnit, QuantityUnit.bytes, gibibyte]
  have hsixteen : Quantity.fromUnit 16 .Gi = .amount (16 * gibibyte) := by
    norm_num [Quantity.fromUnit, QuantityUnit.bytes, gibibyte]
  refine ⟨scaledMemory size (4 * gibibyte) (16 * gibibyte), ?_, ?_, ?_⟩
  · simp only [restoreJobResources, hfour, hsixteen]
    rw [scaleMemoryForSnapshot_eq hsize hcap]
    rfl
  · refine le_trans (le_min (le_refl _) ?_) le_scaledMemory
    norm_num [gibibyte]
  · refine scaledMemory_le_iff.mpr (Or.inl ((down_eq_iff hcap).mpr ⟨16384, ?_⟩))
    norm_num [gibibyte, mebibyte]

/-! ## The shared memory -/

/-- **What the shared memory and the shared buffers of a database are promised to be.** -/
structure ShmAsPromised (resources : Option ResourceRequirements) (floor : Option ℚ) (shm : ℚ)
    (sharedBuffersMb : Nat) : Prop where
  least : 16 * mebibyte ≤ shm
  floored : ∀ f, floor = some f → f ≤ shm
  /-- The buffers fit in the shared memory. -/
  buffers : sharedBuffersMb * mebibyte ≤ shm
  /-- With no floor the buffers are seven tenths of the shared memory, -/
  share : floor = none → sharedBuffersMb = ⌊shm / mebibyte * (7 / 10)⌋₊
  /-- and that is at most half the limit, in whole MiB. -/
  limited : floor = none → ∀ limit, memoryLimit resources = some limit → 32 * mebibyte ≤ limit →
    shm ≤ up mebibyte (limit / 2)

section Shm

variable (resources : Option ResourceRequirements)

theorem sixteen_le_computeShmMib : 16 ≤ computeShmMib resources := by
  unfold computeShmMib
  exact le_max_right _ _

/-- The shared memory is within half the limit, unless that is less than 16 MiB. -/
theorem computeShmMib_le {limit : ℚ} (hlimit : memoryLimit resources = some limit)
    (hlarge : 32 * mebibyte ≤ limit) : computeShmMib resources ≤ ⌈limit / 2 / mebibyte⌉₊ := by
  have hunit := mebibyte_pos
  have hhalf : 16 ≤ limit / 2 / mebibyte := by
    rw [le_div_iff₀ hunit]
    linarith
  unfold computeShmMib
  rw [hlimit, bytes_Mi]
  refine max_le ?_ ?_
  · refine Nat.ceil_mono (div_le_div_of_nonneg_right ?_ hunit.le)
    exact min_le_right _ _
  · have hceil : (16 : ℚ) ≤ ⌈limit / 2 / mebibyte⌉₊ := le_trans hhalf (Nat.le_ceil _)
    exact_mod_cast hceil

/-- The buffers are no more than seven tenths of the shared memory. -/
theorem sharedBuffers_le : ((computeShmAndSharedBuffers resources).2 : ℚ) ≤
    computeShmMib resources * (7 / 10) := by
  have hnonneg : (0 : ℚ) ≤ computeShmMib resources * (70 / 100) := by positivity
  have hfloor := Nat.floor_le hnonneg
  have hshare : ((70 : ℚ) / 100) = 7 / 10 := by norm_num
  rw [hshare] at hfloor
  unfold computeShmAndSharedBuffers
  simp only [hshare]
  exact hfloor

theorem computeShm_eq : (computeShmAndSharedBuffers resources).1 =
    .amount (computeShmMib resources * mebibyte) := by
  unfold computeShmAndSharedBuffers Quantity.fromUnit
  simp only [bytes_Mi]

/-- What is computed from the resources is as promised without a floor. -/
theorem computed_as_promised : ShmAsPromised resources none
    (computeShmMib resources * mebibyte) (computeShmAndSharedBuffers resources).2 := by
  have hunit := mebibyte_pos
  have hleast : (16 : ℚ) ≤ computeShmMib resources := by
    exact_mod_cast sixteen_le_computeShmMib resources
  constructor
  · exact mul_le_mul_of_nonneg_right hleast hunit.le
  · exact fun f hf => absurd hf (by simp)
  · refine mul_le_mul_of_nonneg_right (le_trans (sharedBuffers_le resources) ?_) hunit.le
    linarith
  · intro _
    unfold computeShmAndSharedBuffers
    rw [mul_div_cancel_right₀ _ hunit.ne']
    norm_num
  · intro _ limit hlimit hlarge
    have hbound : (computeShmMib resources : ℚ) ≤ ⌈limit / 2 / mebibyte⌉₊ := by
      exact_mod_cast computeShmMib_le resources hlimit hlarge
    have hpos : 0 ≤ limit / 2 / mebibyte := div_nonneg (by linarith) hunit.le
    rw [natCast_ceil_eq_intCast_ceil hpos] at hbound
    exact mul_le_mul_of_nonneg_right hbound hunit.le

/-- Raised in proportion, the buffers stay within the shared memory. -/
theorem scaledBuffers_le {floor : ℚ} (hfloor : computeShmMib resources * mebibyte < floor) :
    ((max ⌊((computeShmAndSharedBuffers resources).2 : ℚ) *
        (floor / (computeShmMib resources * mebibyte))⌋₊ 16 : Nat) : ℚ) * mebibyte ≤ floor := by
  have hunit := mebibyte_pos
  have hleast : (16 : ℚ) ≤ computeShmMib resources := by
    exact_mod_cast sixteen_le_computeShmMib resources
  have hshm : 0 < computeShmMib resources * mebibyte := mul_pos (by linarith) hunit
  have hsixteen : 16 * mebibyte ≤ computeShmMib resources * mebibyte :=
    mul_le_mul_of_nonneg_right hleast hunit.le
  have hratio : 0 ≤ floor / (computeShmMib resources * mebibyte) :=
    div_nonneg (by linarith) hshm.le
  have hbuffers : ((computeShmAndSharedBuffers resources).2 : ℚ) ≤ computeShmMib resources := by
    linarith [sharedBuffers_le resources]
  rw [← le_div_iff₀ hunit, Nat.cast_max]
  refine max_le ?_ ?_
  · calc ((⌊((computeShmAndSharedBuffers resources).2 : ℚ) *
            (floor / (computeShmMib resources * mebibyte))⌋₊ : Nat) : ℚ)
        ≤ (computeShmAndSharedBuffers resources).2 *
            (floor / (computeShmMib resources * mebibyte)) :=
          Nat.floor_le (mul_nonneg (Nat.cast_nonneg _) hratio)
      _ ≤ computeShmMib resources * (floor / (computeShmMib resources * mebibyte)) :=
          mul_le_mul_of_nonneg_right hbuffers hratio
      _ = floor / mebibyte := by
          have hne : (computeShmMib resources : ℚ) ≠ 0 := by linarith
          field_simp
  · rw [le_div_iff₀ hunit]
    push_cast
    linarith

end Shm

/-- **The shared memory and the shared buffers are as promised**, for any resources, and for a floor that
    is absent or parses. -/
theorem shm_as_promised (resources : Option ResourceRequirements) (floor : Option ℚ) :
    ∃ shm, (postgresShm resources (floor.map Quantity.amount)).1 = .amount shm ∧
      ShmAsPromised resources floor shm
        (postgresShm resources (floor.map Quantity.amount)).2 := by
  have hpromised := computed_as_promised resources
  have hcomputed := computeShm_eq resources
  cases floor with
  | none => exact ⟨_, hcomputed, hpromised⟩
  | some floor =>
    unfold postgresShm applyShmFloor
    simp only [Option.map_some, hcomputed, Quantity.parsed]
    by_cases hraised : floor > computeShmMib resources * mebibyte
    · rw [if_pos hraised]
      refine ⟨floor, rfl, ?_, ?_, scaledBuffers_le resources hraised, ?_, ?_⟩
      · exact le_trans hpromised.least hraised.le
      · intro f hf
        exact (Option.some.inj hf).ge
      · exact fun h => absurd h (by simp)
      · exact fun h => absurd h (by simp)
    · rw [if_neg hraised]
      refine ⟨_, rfl, hpromised.least, ?_, hpromised.buffers, ?_, ?_⟩
      · intro f hf
        rw [← Option.some.inj hf]
        exact not_lt.mp hraised
      · exact fun h => absurd h (by simp)
      · exact fun h => absurd h (by simp)

/-- Request equal to limit settles the shared memory at 36% of it, and a floor of 4 GiB raises both. -/
example :
    let memory := ResourceMap.mk [("memory", Quantity.fromUnit 8 .Gi)]
    let resources : ResourceRequirements := { requests := some memory, limits := some memory }
    postgresShm (some resources) none = (Quantity.fromUnit 2950 .Mi, 2065) ∧
      postgresShm (some resources) (some (Quantity.fromUnit 4 .Gi)) =
        (Quantity.fromUnit 4 .Gi, 2867) := by
  decide +kernel

end RestoreOperator
