import Mathlib.Data.List.Lex
import Mathlib.Data.String.Basic
import RestoreOperator.Base.ManagedFields
import RestoreOperator.Objects.Types

/-!
# `Canopy.SpecFields` — the fields a replica's spec is applied as

The syncer applies the spec of a replica as the fields it is written with.  A field without a value is left
out, an object is written field by field, and a list is one value.  Of fields the syncer does not write, others
may set what they like.
-/

namespace RestoreOperator

/-- Where a field is: the names of the objects it is in, and its own. -/
abbrev FieldPath := List String

/-- The value of a field. -/
inductive FieldValue where
  | text (s : String)
  | flag (b : Bool)
  | span (t : TimeSpan)
  | quantity (q : Quantity)
  | texts (items : List String)
  | users (items : List ExtraUserSpec)
  /-- An object without fields. -/
  | empty
  deriving DecidableEq

/-- Fields with their values. -/
abbrev FieldList := List (FieldPath × FieldValue)

namespace FieldList

/-- A field that is always written. -/
def required (name : String) (value : FieldValue) : FieldList := [([name], value)]

/-- A field that is written if it has a value. -/
def optional (name : String) (value : Option FieldValue) : FieldList :=
  value.toList.map fun v => ([name], v)

/-- An object. -/
def object (name : String) (fields : FieldList) : FieldList :=
  if fields = [] then required name .empty else fields.map fun f => (name :: f.1, f.2)

/-- An object that is written if there is one. -/
def optionalObject (name : String) (fields : Option FieldList) : FieldList :=
  match fields with
  | some fields => object name fields
  | none => []

end FieldList

open FieldList

/-- Texts by their keys. -/
def textFields (entries : List (String × String)) : FieldList :=
  entries.map fun e => ([e.1], .text e.2)

def ResourceMap.fields (m : ResourceMap) : FieldList := m.entries.map fun e => ([e.1], .quantity e.2)

def ResourceRequirements.fields (r : ResourceRequirements) : FieldList :=
  optionalObject "requests" (r.requests.map ResourceMap.fields) ++
    optionalObject "limits" (r.limits.map ResourceMap.fields)

def CanopySource.fields (source : CanopySource) : FieldList :=
  required "group" (.text source.group) ++ required "type" (.text source.type)

def SnapshotFilter.fields (filter : SnapshotFilter) : FieldList :=
  optionalObject "tags" (filter.tags.map textFields) ++
    optional "hostPattern" (filter.hostPattern.map .text) ++
    optional "descriptionPattern" (filter.descriptionPattern.map .text) ++
    optional "pathPattern" (filter.pathPattern.map .text)

def MigrationTarget.fields (target : MigrationTarget) : FieldList :=
  required "version" (.text target.version) ++ required "versionId" (.text target.versionId)

def RedactionSpec.fields (redaction : RedactionSpec) : FieldList :=
  required "manifestUrl" (.text redaction.manifestUrl) ++
    optional "version" (redaction.version.map .text) ++
    optional "versionQuery" (redaction.versionQuery.map .text) ++
    required "versionFallbackToBase" (.flag redaction.versionFallbackToBase)

/-- **The fields of a spec.** -/
def ReplicaSpec.fieldList (spec : ReplicaSpec) : FieldList :=
  optionalObject "kopiaSecretRef" (spec.kopiaSecretRef.map fun name => required "name" (.text name)) ++
    optionalObject "canopySource" (spec.canopySource.map CanopySource.fields) ++
    optionalObject "snapshotFilter" (spec.snapshotFilter.map SnapshotFilter.fields) ++
    required "schedule" (.text spec.schedule) ++
    required "scheduleJitter" (.span spec.scheduleJitter) ++
    optional "minimumTtl" (spec.minimumTtl.map .span) ++
    required "switchoverGracePeriod" (.span spec.switchoverGracePeriod) ++
    required "analyticsUsername" (.text spec.analyticsUsername) ++
    (if spec.extraUsers = [] then [] else required "extraUsers" (.users spec.extraUsers)) ++
    optional "storageSizeOverride" (spec.storageSizeOverride.map .quantity) ++
    optionalObject "resources" (spec.resources.map ResourceRequirements.fields) ++
    optionalObject "resourcesFloor" (spec.resourcesFloor.map ResourceRequirements.fields) ++
    optional "resourcesMaximum" (spec.resourcesMaximum.map .quantity) ++
    optional "deploymentReadyTimeout" (spec.deploymentReadyTimeout.map .span) ++
    optional "shmSizeFloor" (spec.shmSizeFloor.map .quantity) ++
    optionalObject "serviceAnnotations" (spec.serviceAnnotations.map textFields) ++
    required "readOnly" (.flag spec.readOnly) ++
    required "ephemeral" (.flag spec.ephemeral) ++
    optional "persistentSchemas" (spec.persistentSchemas.map .texts) ++
    optional "preMigrateDropSchemas" (spec.preMigrateDropSchemas.map .texts) ++
    optional "preMigrateSql" (spec.preMigrateSql.map .text) ++
    optionalObject "migrateTo" (spec.migrateTo.map MigrationTarget.fields) ++
    optional "builderImage" (spec.builderImage.map .text) ++
    optional "rank" (spec.rank.map .text) ++
    required "storageSizeMaximum" (.quantity spec.storageSizeMaximum) ++
    optionalObject "redaction" (spec.redaction.map RedactionSpec.fields)

/-- The fields of a spec, as they are applied. -/
def ReplicaSpec.fields (spec : ReplicaSpec) : OrderedMap FieldPath FieldValue := .ofList spec.fieldList

/-- **The spec that is stored**: what the syncer applied, and what others set. -/
abbrev StoredSpec := ManagedFields FieldPath FieldValue

end RestoreOperator
