import RestoreOperator.Base.Hex
import RestoreOperator.Objects.Uuid
import RestoreOperator.Replica.UserSecrets

/-!
# `Canopy.Namespace` — the namespace of a worklist entry

The replica of an entry lives in a namespace of its own, named after the entry and told from others of
that name by a short hash of what identifies the replica.
-/

namespace RestoreOperator

open Hex

/-- The intent whose entries are dispatched per pair of group and version. -/
def reportingSchemaIntent : String := "reporting-schema"

/-- **What identifies the replica of a worklist entry.** -/
structure EntryIdentity where
  intent : String
  name : String
  replicaId : Uuid
  serverId : Uuid
  targetVersionId : Option Uuid := none

section Hash

variable (sha256 : List UInt8 → Vector UInt8 32)

/-- **Eight digits of a hash** of the replica and the server, and of the version where entries of one
    declaration are told apart by it. -/
def shortHash (replicaId serverId : Uuid) (versionId : Option Uuid) : String :=
  let hashed := replicaId.bytes.toList ++ serverId.bytes.toList
  let hashed :=
    match versionId with
    | some version => hashed ++ version.bytes.toList
    | none => hashed
  String.ofList (hex ((sha256 hashed).toList.take 4))

/-- **The name of an entry's namespace.** -/
def namespaceNameFor (entry : EntryIdentity) : String :=
  let perPair := if entry.intent = reportingSchemaIntent then entry.targetVersionId else none
  slug entry.name ++ "-" ++ shortHash sha256 entry.replicaId entry.serverId perPair

end Hash

end RestoreOperator
