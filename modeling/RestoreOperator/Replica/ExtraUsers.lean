import RestoreOperator.Objects.Calls

/-!
# `Replica.ExtraUsers` — the additional login roles of a replica
-/

namespace RestoreOperator

open Calls

/-- Unicode white space. -/
def isWhiteSpace (c : Char) : Bool :=
  let n := c.toNat
  (9 ≤ n && n ≤ 13) || n == 32 || n == 0x85 || n == 0xA0 || n == 0x1680 ||
    (0x2000 ≤ n && n ≤ 0x200A) || n == 0x2028 || n == 0x2029 || n == 0x202F || n == 0x205F ||
    n == 0x3000

/-- A text without the white space around it. -/
def trim (s : String) : String :=
  String.ofList ((s.toList.dropWhile isWhiteSpace).reverse.dropWhile isWhiteSpace).reverse

/-- The trimmed, non-empty items of a list, each kept where it first appears. -/
def cleanNames (seen : List String) : List String → List String
  | [] => []
  | x :: rest =>
    let name := trim x
    if name = "" ∨ name ∈ seen then cleanNames seen rest
    else name :: cleanNames (name :: seen) rest

/-- The users, cleaned up: trimmed, without empties, duplicates and the analytics user. -/
def cleanUsers (analytics : String) (seen : List String) : List ExtraUserSpec → List ExtraUserSpec
  | [] => []
  | u :: rest =>
    let name := trim u.name
    if name = "" ∨ name = analytics ∨ name ∈ seen then cleanUsers analytics seen rest
    else
      { name := name, schemas := cleanNames [] u.schemas } ::
        cleanUsers analytics (name :: seen) rest

/-- **The extra login roles to provision.** -/
def extraUsers (spec : ReplicaSpec) : List ExtraUserSpec :=
  cleanUsers spec.analyticsUsername [] spec.extraUsers

/-- The extra users that are granted a schema. -/
def extraUsersWithSchemas (spec : ReplicaSpec) : List ExtraUserSpec :=
  (extraUsers spec).filter fun u => u.schemas ≠ []

/-- **Grant the extra users their schemas** on a restore, unless its role may no longer do so. -/
def reconcileExtraUserGrants (p : ReplicaPass) (replica : Replica) : Op Unit :=
  if extraUsersWithSchemas replica.spec = [] then pure ()
  else do
    Op.touch .grantCredentials
    Op.touch .grantConnect
    let superuser ← Prog.ask .grantSuperuser p.roleIsSuperuser
    Prog.when superuser (Op.touch .grantSchemaRead)

end RestoreOperator
