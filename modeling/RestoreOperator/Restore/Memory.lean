import Mathlib.Data.Rat.Floor
import RestoreOperator.Objects.Types

/-!
# `Restore.Memory` — the resources of a restore's database

The memory of a database follows the size of its snapshot unless it is pinned, its CPU is configured, and
its shared memory and shared buffers follow its memory.  Amounts are exact here where the code computes in
double precision.
-/

namespace RestoreOperator

/-! ## Quantities -/

/-- The units a quantity is rounded to. -/
inductive QuantityUnit where
  | Ki
  | Mi
  | Gi
  | Ti
  | Pi
  | Ei
  deriving Repr, DecidableEq

/-- A unit in bytes. -/
def QuantityUnit.bytes : QuantityUnit → Nat
  | .Ki => 2 ^ 10
  | .Mi => 2 ^ 20
  | .Gi => 2 ^ 30
  | .Ti => 2 ^ 40
  | .Pi => 2 ^ 50
  | .Ei => 2 ^ 60

/-- **Round up to a whole multiple of a unit.** -/
def ceilTo (bytes : ℚ) (unit : QuantityUnit) : ℚ :=
  let whole := ⌊bytes / unit.bytes⌋
  let hasRemainder := bytes - whole * unit.bytes > 0
  let ceiled := whole.toNat + if hasRemainder then 1 else 0
  ceiled * unit.bytes

/-- A quantity of whole units. -/
def Quantity.fromUnit (value : Nat) (unit : QuantityUnit) : Quantity :=
  .amount (value * unit.bytes)

/-! ## Memory -/

/-- The part of the snapshot size that is used as memory. -/
def snapshotMemoryRatio : ℚ := 1 / 10

/-- A number brought within bounds. -/
def clamp (x low high : ℚ) : ℚ :=
  if x < low then low else if x > high then high else x

/-- **The memory for a snapshot**, between a floor and a cap: request and limit are the same.  Nothing is
    derived if one of the sizes does not parse. -/
def scaleMemoryForSnapshot (snapshotSize floor cap : Quantity) : Option ResourceRequirements := do
  let snapshot ← snapshotSize.parsed
  let floor ← floor.parsed
  let cap ← cap.parsed
  let memory := clamp (snapshot * snapshotMemoryRatio) (min floor cap) cap
  let quantity := Quantity.amount (ceilTo ⌈memory⌉₊ .Mi)
  return {
    requests := some ⟨[("memory", quantity)]⟩
    limits := some ⟨[("memory", quantity)]⟩ }

/-- The resources of a restore Job: its memory limit follows the snapshot. -/
def restoreJobResources (snapshotSize : Quantity) : ResourceRequirements :=
  let floor := Quantity.fromUnit 4 .Gi
  let memory := (((scaleMemoryForSnapshot snapshotSize floor (Quantity.fromUnit 16 .Gi)).bind
    (·.limits)).bind (·.get "memory")).getD floor
  { requests := some ⟨[("cpu", .amount (500 / 1000)), ("memory", Quantity.fromUnit 1 .Gi)]⟩
    limits := some ⟨[("cpu", .amount 2), ("memory", memory)]⟩ }

/-- The cap on the memory of a replica that sets none. -/
def defaultResourcesMaximum : Quantity := Quantity.fromUnit 64 .Gi

/-- Amounts of CPU and memory, as far as there are any. -/
def resourceEntries (cpu memory : Option Quantity) : Option ResourceMap :=
  match cpu, memory with
  | none, none => none
  | some cpu, none => some ⟨[("cpu", cpu)]⟩
  | none, some memory => some ⟨[("memory", memory)]⟩
  | some cpu, some memory => some ⟨[("cpu", cpu), ("memory", memory)]⟩

/-- One side of the resources: memory as derived, CPU from the floor. -/
def mergeSide (derived fromFloor : Option ResourceMap) : Option ResourceMap :=
  resourceEntries (fromFloor.bind (·.get "cpu")) (derived.bind (·.get "memory"))

/-- **The resources of a restore's database.** -/
def resolvePostgresResources (spec : ReplicaSpec) (snapshotSize : Quantity) :
    Option ResourceRequirements :=
  match spec.resources with
  | some pinned => some pinned
  | none =>
    match spec.resourcesFloor with
    | none => none
    | some floor =>
      let floorMemory := (floor.limits.bind (·.get "memory")).getD (.amount 0)
      let cap := spec.resourcesMaximum.getD defaultResourcesMaximum
      match scaleMemoryForSnapshot snapshotSize floorMemory cap with
      | none => some floor
      | some scaled => some
          { requests := mergeSide scaled.requests floor.requests
            limits := mergeSide scaled.limits floor.limits }

/-! ## Shared memory -/

/-- The memory request, or 1 GiB. -/
def memoryRequest (resources : Option ResourceRequirements) : ℚ :=
  (((resources.bind (·.requests)).bind (·.get "memory")).bind Quantity.parsed).getD
    (1 * QuantityUnit.Gi.bytes)

/-- The memory limit. -/
def memoryLimit (resources : Option ResourceRequirements) : Option ℚ :=
  ((resources.bind (·.limits)).bind (·.get "memory")).bind Quantity.parsed

/-- **The size of the shared memory**, in MiB: half the request or 36% of the memory, within half the
    limit, and at least 16. -/
def computeShmMib (resources : Option ResourceRequirements) : Nat :=
  let request := memoryRequest resources
  let limit := memoryLimit resources
  let halfRequest := request / 2
  let effectiveMax : ℚ :=
    match limit with
    | some l => max request l
    | none => request
  let thirtySixPct := effectiveMax * (36 / 100)
  let shm := min halfRequest thirtySixPct
  let shm : ℚ :=
    match limit with
    | some l => min shm (l / 2)
    | none => shm
  max ⌈shm / QuantityUnit.Mi.bytes⌉₊ 16

/-- The shared memory, and the shared buffers in MiB. -/
def computeShmAndSharedBuffers (resources : Option ResourceRequirements) : Quantity × Nat :=
  let shmMib := computeShmMib resources
  (Quantity.fromUnit shmMib .Mi, ⌊(shmMib : ℚ) * (70 / 100)⌋₊)

/-- **Raise the shared memory to a floor**, and the shared buffers with it. -/
def applyShmFloor (computedShm : Quantity) (computedSharedBuffersMb : Nat) (floor : Option Quantity) :
    Quantity × Nat :=
  match floor with
  | none => (computedShm, computedSharedBuffersMb)
  | some floor =>
    match computedShm.parsed, floor.parsed with
    | some c, some f =>
      if f > c then
        let ratio := f / c
        (floor, max ⌊(computedSharedBuffersMb : ℚ) * ratio⌋₊ 16)
      else (computedShm, computedSharedBuffersMb)
    | _, _ => (computedShm, computedSharedBuffersMb)

/-- The shared memory and the shared buffers of a database with these resources. -/
def postgresShm (resources : Option ResourceRequirements) (shmSizeFloor : Option Quantity) :
    Quantity × Nat :=
  let (computedShm, computedSharedBuffersMb) := computeShmAndSharedBuffers resources
  applyShmFloor computedShm computedSharedBuffersMb shmSizeFloor

end RestoreOperator
