import RestoreOperator.Base.Delimited
import RestoreOperator.Redaction.Mask
import RestoreOperator.Replica.UserSecrets

/-!
# `Restore.SchemaGrants` — schemas by name, in the operator and in the scripts it runs

The extra users of a replica read the schemas they name.  The init script of a restore grants them that, and
the operator does once more before the switchover.  Scripts are handed schemas as one text, with commas
between them: the init script splits it in SQL, and the script of the migration Job in the shell.
-/

namespace RestoreOperator

open Delimited

/-! ## The init script -/

/-- The value of `EXTRA_USER_SCHEMAS_i`. -/
def extraUserSchemas (user : ExtraUser) : String := join ',' user.schemas

/-- SQL's `string_to_array`: an empty text has no elements. -/
def stringToArray (s : String) (sep : Char) : List String :=
  if s = "" then [] else split sep s

/-- SQL's `trim`, which takes off spaces only. -/
def sqlTrim (s : String) : String :=
  String.ofList ((s.toList.dropWhile (· = ' ')).reverse.dropWhile (· = ' ')).reverse

/-- **The grants of the init script** in a database with these schemas: a user and a schema each. -/
def lockdownGrants (present : List String) (users : List ExtraUser) : List (String × String) :=
  users.flatMap fun user =>
    if user.schemas = [] then []
    else (stringToArray (extraUserSchemas user) ',').flatMap fun name =>
      (present.filter fun schema => schema = sqlTrim name).map fun schema => (user.username, schema)

/-! ## The operator -/

/-- The schemas among the candidates that exist. -/
def existingSchemasOn (present candidates : List String) : List String :=
  candidates.filter (· ∈ present)

/-- The statements that let a user read a schema. -/
def schemaReadGrants (username schema owner : String) : List String :=
  let user := quoteIdent username
  let ns := quoteIdent schema
  ["GRANT USAGE ON SCHEMA " ++ ns ++ " TO " ++ user,
    "GRANT SELECT ON ALL TABLES IN SCHEMA " ++ ns ++ " TO " ++ user,
    "GRANT SELECT ON ALL SEQUENCES IN SCHEMA " ++ ns ++ " TO " ++ user,
    "ALTER DEFAULT PRIVILEGES FOR ROLE " ++ quoteIdent owner ++ " IN SCHEMA " ++ ns ++
      " GRANT SELECT ON TABLES TO " ++ user]

/-- What was run to grant a user its schemas, and the schemas it was granted. -/
structure SchemaReads where
  executed : List String
  granted : List String
  deriving Repr, DecidableEq

/-- **Grant a user the schemas that exist.** -/
def grantSchemaReadOn (present : List String) (username : String) (schemas : List String)
    (owner : String) : SchemaReads :=
  let granted := existingSchemasOn present schemas
  { executed := granted.flatMap fun schema => schemaReadGrants username schema owner
    granted := granted }

/-- The grants of the operator in a database with these schemas. -/
def operatorGrants (present : List String) (spec : ReplicaSpec) : List (String × String) :=
  (extraUsersWithSchemas spec).flatMap fun user =>
    (grantSchemaReadOn present user.name user.schemas spec.analyticsUsername).granted.map
      fun schema => (user.name, schema)

/-! ## The migration Job -/

/-- The value of `SCHEMAS`. -/
def schemasVariable (schemas : List String) : String := join ',' schemas

/-- The shell's `IFS=',' read -ra`: it reads one line, and an empty field at its end is none. -/
def readArray (sep : Char) (input : String) : List String :=
  let fields := split sep (String.ofList (input.toList.takeWhile (· ≠ '\n')))
  if fields.getLast? = some "" then fields.dropLast else fields

/-- The schemas the migration script goes by. -/
def schemaArray (schemas : List String) : List String := readArray ',' (schemasVariable schemas)

end RestoreOperator
