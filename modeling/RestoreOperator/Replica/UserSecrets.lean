import Mathlib.Data.List.DropRight
import RestoreOperator.Replica.ExtraUsers

/-!
# `Replica.UserSecrets` — the credentials of the login roles

Each extra user of a replica has a Secret with a generated password, under a name made from the
user's; the Deployment of a restore provisions the login roles from these Secrets.
-/

namespace RestoreOperator

open Calls

/-! ## Names -/

/-- One character of a slug: kept in lower case, or one dash for a run of others. -/
def slugStep (acc : List Char × Bool) (c : Char) : List Char × Bool :=
  if c.isAlphanum then (acc.1 ++ [c.toLower], false)
  else if acc.2 then acc
  else (acc.1 ++ ['-'], true)

/-- **Slugify**: lower case, runs of other characters as one dash, none at the ends, at most fifty
    characters. -/
def slug (s : String) : String :=
  let out := (s.toList.foldl slugStep ([], true)).1
  let out := (out.rdropWhile (· == '-')).dropWhile (· == '-')
  let out := if out.isEmpty then "replica".toList else out
  let out := if out.length > 50 then (out.take 50).rdropWhile (· == '-') else out
  String.ofList out

/-- The Secret of the analytics user. -/
def credsSecretName (replica : Replica) : String := replica.name ++ "-creds"

/-- The Secret of an extra user. -/
def extraUserSecretName (replica : Replica) (username : String) : String :=
  replica.name ++ "-user-" ++ slug username ++ "-creds"

/-! ## Secrets -/

/-- The credentials in a Secret. -/
structure Credentials where
  username : String
  password : String
  deriving Repr, DecidableEq

/-- **The Secrets of a namespace**, and how many passwords were generated so far. -/
structure Secrets where
  byName : String → Option Credentials
  generated : Nat := 0

/-- The replies to the calls of one pass, by the Secret they are about. -/
structure SecretReplies where
  get : String → Option Error := fun _ => none
  create : String → Reply Error := fun _ => .ok

/-- Put a Secret with the next password. -/
def Secrets.create (draw : Nat → String) (s : Secrets) (name username : String) : Secrets where
  byName := Function.update s.byName name (some ⟨username, draw s.generated⟩)
  generated := s.generated + 1

/-- A password that was generated for nothing. -/
def Secrets.skip (s : Secrets) : Secrets := { s with generated := s.generated + 1 }

/-- **Make sure each user has a Secret**; one that exists is left alone.  `draw` is the password
    generator, and the answer is whether the pass went through. -/
def ensureUserSecrets (draw : Nat → String) (replies : SecretReplies) (replica : Replica) :
    List ExtraUserSpec → Secrets → Bool × Secrets
  | [], s => (true, s)
  | user :: rest, s =>
    let secretName := extraUserSecretName replica user.name
    match replies.get secretName with
    | some _ => (false, s)
    | none =>
      match s.byName secretName with
      | some _ => ensureUserSecrets draw replies replica rest s
      | none =>
        match replies.create secretName with
        | .ok => ensureUserSecrets draw replies replica rest (s.create draw secretName user.name)
        | .refused _ | .cut => (false, s.skip)
        | .lost _ | .cutAfter => (false, s.create draw secretName user.name)

/-- Make sure each extra user of a replica has a Secret. -/
def ensureExtraUserSecrets (draw : Nat → String) (replies : SecretReplies) (replica : Replica)
    (s : Secrets) : Bool × Secrets :=
  ensureUserSecrets draw replies replica (extraUsers replica.spec) s

/-! ## The Deployment -/

/-- An extra login role of a Deployment, and the Secret its password is read from. -/
structure ExtraUser where
  username : String
  passwordSecret : String
  schemas : List String
  deriving Repr, DecidableEq

/-- The extra login roles of a restore's Deployment. -/
def deploymentUsers (replica : Replica) : List ExtraUser :=
  (extraUsers replica.spec).map fun user =>
    { username := user.name
      passwordSecret := extraUserSecretName replica user.name
      schemas := user.schemas }

/-- The password a login role is provisioned with. -/
def provisioned (s : Secrets) (role : ExtraUser) : Option String :=
  (s.byName role.passwordSecret).map Credentials.password

end RestoreOperator
