import RestoreOperator.Base.Delimited
import RestoreOperator.Redaction.Manifest
import RestoreOperator.Replica.ExtraUsers
import RestoreOperator.Restore.Memory

/-!
# `Canopy.Intent` — the replica a canopy intent asks for

Canopy hands out worklist entries, each with an intent and parameters that were set for it.  An intent has a
fixed configuration, and the parameters are merged over it into the spec of a replica.
-/

namespace RestoreOperator

open Delimited

/-! ## Parameters -/

/-- A number of 64 bits, written as a whole number.  A negative zero is not one. -/
def parseI64 (text : String) : Option Int :=
  match text.toList with
  | '-' :: digits => (decimal digits).bind fun n => if 0 < n ∧ n ≤ 2 ^ 63 then some (-n) else none
  | digits => (decimal digits).bind fun n => if n < 2 ^ 63 then some (n : Int) else none
where
  decimal (digits : List Char) : Option Nat :=
    if digits ≠ [] ∧ digits.all Char.isDigit then
      some (digits.foldl (fun n c => 10 * n + (c.toNat - 48)) 0)
    else none

/-- The truth value of a boolean. -/
def Value.asBool : Value → Option Bool
  | .bool b => some b
  | _ => none

/-- The whole number a value is. -/
def Value.asI64 : Value → Option Int
  | .number text => parseI64 text
  | _ => none

namespace params

def minimumTtl : String := "minimum_ttl"
def switchoverGrace : String := "switchover_grace"
def storageSizeMaximum : String := "storage_size_maximum"
def persistentSchemas : String := "persistent_schemas"
def migrateTo : String := "migrate_to"
def preMigrateDropSchemas : String := "pre_migrate_drop_schemas"
def preMigrateSql : String := "pre_migrate_sql"
def expose : String := "expose"
def extraUsers : String := "extra_users"
def memoryRequest : String := "memory_request"
def memoryLimit : String := "memory_limit"
def cpuRequest : String := "cpu_request"
def cpuLimit : String := "cpu_limit"
def resourcesMaximum : String := "resources_maximum"
def deploymentReadyTimeout : String := "deployment_ready_timeout"
def redactionManifestUrl : String := "redaction_manifest_url"
def redactionVersionQuery : String := "redaction_version_query"
def redactionVersionFallbackToBase : String := "redaction_version_fallback_to_base"
def builderImage : String := "builder_image"

end params

/-- The parameters of an entry. -/
abbrev Params := List (String × Value)

def paramI64 (p : Params) (key : String) : Option Int := (p.lookup key).bind Value.asI64

def paramBool (p : Params) (key : String) : Option Bool := (p.lookup key).bind Value.asBool

def paramStr (p : Params) (key : String) : Option String := (p.lookup key).bind Value.asStr

/-- A text parameter, trimmed, if that leaves anything. -/
def nonEmpty (p : Params) (key : String) : Option String :=
  ((paramStr p key).map trim).filter fun s => s ≠ ""

/-- Split at the first separator. -/
def splitOnce (sep : Char) (s : String) : Option (String × String) :=
  match s.toList.dropWhile (· ≠ sep) with
  | [] => none
  | _ :: rest => some (String.ofList (s.toList.takeWhile (· ≠ sep)), String.ofList rest)

/-- The trimmed items of a list that are not empty. -/
def parseList (sep : Char) (raw : String) : List String :=
  ((split sep raw).map trim).filter fun s => s ≠ ""

/-- Split a comma-separated text parameter. -/
def parseCommaList (raw : String) : List String := parseList ',' raw

/-- How an entry of the extra users is read: a name, or a name and the schemas it reads. -/
def parseEntry (entry : String) : ExtraUserSpec :=
  match splitOnce ':' entry with
  | some (name, schemas) => { name := trim name, schemas := parseList '+' schemas }
  | none => { name := entry }

/-- Split the extra users. -/
def parseExtraUsers (raw : String) : List ExtraUserSpec := (parseCommaList raw).map parseEntry

/-- A list-valued text parameter, unless it has no items. -/
def commaListParam (p : Params) (key : String) : Option (List String) :=
  ((paramStr p key).map parseCommaList).filter fun items => items ≠ []

/-! ## Intents -/

/-- **The fixed part of an intent**, with the defaults of what its parameters leave unset. -/
structure IntentConfig where
  resourcesFloor : Option ResourceRequirements
  resourcesMaximum : Quantity
  deploymentReadyTimeout : Option TimeSpan
  readOnly : Bool
  minimumTtl : Option TimeSpan
  switchoverGracePeriod : TimeSpan
  persistentSchemas : Option (List String)
  storageSizeOverride : Quantity
  storageSizeMaximum : Quantity
  ephemeral : Bool
  shmSizeFloor : Option Quantity
  deriving DecidableEq

/-- The resource floor of an intent.  A CPU limit is optional. -/
def resources (cpuReq memReq : Quantity) (cpuLim : Option Quantity) (memLim : Quantity) :
    ResourceRequirements :=
  { requests := resourceEntries (some cpuReq) (some memReq)
    limits := resourceEntries cpuLim (some memLim) }

/-- **The configuration of a supported intent.** -/
def configFor (intent : String) : Option IntentConfig :=
  if intent = "verify" ∨ intent = "upgrade" then some
    { resourcesFloor := some (resources (.amount (250 / 1000)) (.fromUnit 512 .Mi) (some (.amount 2))
        (.fromUnit 2 .Gi))
      readOnly := true
      minimumTtl := none
      switchoverGracePeriod := { secs := 5 * 60 }
      persistentSchemas := none
      storageSizeOverride := .fromUnit 20 .Gi
      storageSizeMaximum := .fromUnit 2 .Ti
      ephemeral := true
      resourcesMaximum := .fromUnit 8 .Gi
      deploymentReadyTimeout := none
      shmSizeFloor := some (.fromUnit 512 .Mi) }
  else if intent = "analytics" then some
    { resourcesFloor := some (resources (.amount (500 / 1000)) (.fromUnit 2 .Gi) none (.fromUnit 8 .Gi))
      readOnly := true
      minimumTtl := some { secs := 7200 }
      switchoverGracePeriod := { secs := 120 }
      persistentSchemas := none
      storageSizeOverride := .fromUnit 50 .Gi
      storageSizeMaximum := .fromUnit 2 .Ti
      ephemeral := false
      resourcesMaximum := .fromUnit 64 .Gi
      deploymentReadyTimeout := none
      shmSizeFloor := none }
  else if intent = "reporting-schema" then some
    { resourcesFloor := some (resources (.amount (500 / 1000)) (.fromUnit 2 .Gi) none (.fromUnit 8 .Gi))
      readOnly := true
      minimumTtl := none
      switchoverGracePeriod := { secs := 5 * 60 }
      persistentSchemas := none
      storageSizeOverride := .fromUnit 20 .Gi
      storageSizeMaximum := .fromUnit 2 .Ti
      ephemeral := true
      resourcesMaximum := .fromUnit 16 .Gi
      deploymentReadyTimeout := none
      shmSizeFloor := some (.fromUnit 512 .Mi) }
  else none

/-- **A worklist entry**, as far as a replica is made from it. -/
structure WorklistEntry where
  name : String
  groupId : String
  type : String
  rank : Option String := none
  targetVersion : Option String := none
  targetVersionId : Option String := none
  params : Params := []

/-! ## The spec of a replica -/

/-- The redaction the parameters ask for: none without a manifest. -/
def redactionSpec (p : Params) : Option RedactionSpec :=
  (nonEmpty p params.redactionManifestUrl).map fun url =>
    { manifestUrl := url
      version := none
      versionQuery := nonEmpty p params.redactionVersionQuery
      versionFallbackToBase := (paramBool p params.redactionVersionFallbackToBase).getD false }

/-- The tailnet hostname of a replica. -/
def exposedHostname (entryName : String) : String := "infra-replica-" ++ entryName

/-- The annotations that expose a replica on the tailnet. -/
def exposeAnnotations (entryName : String) : List (String × String) :=
  [("tailscale.com/expose", "true"), ("tailscale.com/hostname", exposedHostname entryName)]

/-- The entry asks for its replica to be exposed. -/
def isExposed (entry : WorklistEntry) : Bool := (paramBool entry.params params.expose).getD false

/-- The quantity a text stands for. -/
def Quantity.ofText (parse : String → Option ℚ) (text : String) : Quantity :=
  match parse text with
  | some q => .amount q
  | none => .unparsable text

section Spec

variable (parse : String → Option ℚ)

/-- A CPU quantity, which is a text. -/
def cpuParam (p : Params) (key : String) : Option Quantity := (paramStr p key).map (.ofText parse)

/-- A number of bytes. -/
def bytesParam (p : Params) (key : String) : Option Quantity :=
  (paramI64 p key).map fun bytes : Int => .amount bytes

/-- Set the CPU of one side of the resources. -/
def setCpu (side : Option ResourceMap) (cpu : Quantity) : Option ResourceMap :=
  some ((side.getD {}).insert "cpu" cpu)

/-- The floor with the CPU the parameters give. -/
def cpuFloor (p : Params) (floor : Option ResourceRequirements) : Option ResourceRequirements :=
  let floor :=
    match cpuParam parse p params.cpuRequest with
    | some cpu => some { floor.getD {} with requests := setCpu (floor.getD {}).requests cpu }
    | none => floor
  match cpuParam parse p params.cpuLimit with
  | some cpu => some { floor.getD {} with limits := setCpu (floor.getD {}).limits cpu }
  | none => floor

/-- **The pinned resources, if memory is pinned, and the floor.**  A memory parameter alone sets both
    sides. -/
def resolveResources (p : Params) (floor : Option ResourceRequirements) :
    Option ResourceRequirements × Option ResourceRequirements :=
  let floor := cpuFloor parse p floor
  let memoryRequest := bytesParam p params.memoryRequest
  let memoryLimit := bytesParam p params.memoryLimit
  if memoryRequest.isNone ∧ memoryLimit.isNone then (none, floor)
  else
    let floorCpu (which : ResourceRequirements → Option ResourceMap) :=
      (floor.bind which).bind (·.get "cpu")
    (some
      { requests := resourceEntries (floorCpu (·.requests)) (memoryRequest.or memoryLimit)
        limits := resourceEntries (floorCpu (·.limits)) (memoryLimit.or memoryRequest) },
      floor)

/-- The version to migrate to: canopy's own, or else the one the parameters name. -/
def migrationTarget (entry : WorklistEntry) : Option MigrationTarget :=
  match entry.targetVersion, entry.targetVersionId with
  | some version, some versionId => some { version := version, versionId := versionId }
  | _, _ => (nonEmpty entry.params params.migrateTo).map fun version =>
      { version := version, versionId := "" }

/-- **The spec of a canopy-managed replica.** -/
def IntentConfig.toReplicaSpec (config : IntentConfig) (entry : WorklistEntry) : ReplicaSpec :=
  let p := entry.params
  let seconds (key : String) : Option TimeSpan := (paramI64 p key).map fun secs => { secs := secs }
  let (pinnedResources, resourcesFloor) := resolveResources parse p config.resourcesFloor
  { kopiaSecretRef := none
    canopySource := some { group := entry.groupId, type := entry.type }
    snapshotFilter := none
    schedule := "H * * * *"
    scheduleJitter := { secs := 10 * 60 }
    minimumTtl := (seconds params.minimumTtl).or config.minimumTtl
    switchoverGracePeriod := (seconds params.switchoverGrace).getD config.switchoverGracePeriod
    analyticsUsername := "analytics"
    extraUsers := ((paramStr p params.extraUsers).map parseExtraUsers).getD []
    storageSizeOverride := some config.storageSizeOverride
    resources := pinnedResources
    resourcesFloor := resourcesFloor
    resourcesMaximum := some ((bytesParam p params.resourcesMaximum).getD config.resourcesMaximum)
    deploymentReadyTimeout := (seconds params.deploymentReadyTimeout).or config.deploymentReadyTimeout
    shmSizeFloor := config.shmSizeFloor
    serviceAnnotations := if isExposed entry then some (exposeAnnotations entry.name) else none
    readOnly := config.readOnly
    ephemeral := config.ephemeral
    persistentSchemas := (commaListParam p params.persistentSchemas).or config.persistentSchemas
    preMigrateDropSchemas := commaListParam p params.preMigrateDropSchemas
    preMigrateSql := nonEmpty p params.preMigrateSql
    migrateTo := migrationTarget entry
    builderImage := nonEmpty p params.builderImage
    rank := entry.rank
    redaction := redactionSpec p
    storageSizeMaximum :=
      (bytesParam p params.storageSizeMaximum).getD config.storageSizeMaximum }

end Spec

end RestoreOperator
