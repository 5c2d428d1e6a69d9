import Mathlib.Data.List.Dedup
import RestoreOperator.Base.Privileges
import RestoreOperator.Base.SqlLexer
import RestoreOperator.Restore.SchemaGrants

/-!
# `Restore.Lockdown` — the roles of a restore, and what is left to them

A physical restore brings the roles of the source along, with whatever they own and were granted.  The init
script resets the roles that a replica manages, closes every database to `PUBLIC`, takes from the managed roles
what they had, and grants the extra users the schemas they name.  Each statement runs on its own: one that
fails leaves the others to run.
-/

namespace RestoreOperator

open Privileges

namespace Lockdown

/-! ## A cluster -/

inductive Privilege where
  | select
  | usage
  | execute
  | create
  /-- One of the others: `INSERT`, `UPDATE`, `TRIGGER` and so on. -/
  | other (name : String)
  deriving Repr, DecidableEq

inductive RelationKind where
  | table
  | view
  | materializedView
  | sequence
  | foreignTable
  | partitionedTable
  deriving Repr, DecidableEq

inductive ObjectKind where
  | schema
  | relation (kind : RelationKind)
  | routine (procedure : Bool)
  deriving Repr, DecidableEq

/-- An object of a database.  A schema is in the schema of its own name, and a routine is named by its
    signature.  The list of grants is never left to a default: where the catalog has none, it is the built-in
    one. -/
structure Object where
  kind : ObjectKind
  schema : String
  name : String
  access : Access String Privilege

inductive DefaultType where
  | tables
  | sequences
  | functions
  | types
  | schemas
  deriving Repr, DecidableEq

/-- What objects that a role, the owner, creates later are granted: in a schema, or in all. -/
structure DefaultAcl where
  schema : Option String
  type : DefaultType
  access : Access String Privilege

structure Database where
  name : String
  owner : String
  allowsConnections : Bool := true
  objects : List Object := []
  defaults : List DefaultAcl := []

structure Role where
  name : String
  login : Bool := false
  superuser : Bool := false
  /-- Any of `CREATEDB`, `CREATEROLE`, `REPLICATION` and `BYPASSRLS`. -/
  privileged : Bool := false
  /-- Its sessions start read-only. -/
  readOnly : Bool := false

structure Membership where
  role : String
  member : String
  grantor : String
  deriving Repr, DecidableEq

structure Cluster where
  pgMajor : Nat
  roles : List Role := []
  members : List Membership := []
  databases : List Database := []

/-- The schemas of a database. -/
def Database.schemas (db : Database) : List String :=
  (db.objects.filter fun o => o.kind = .schema).map (·.schema)

def Object.isRelation (o : Object) : Bool :=
  match o.kind with
  | .relation _ => true
  | _ => false

/-- `LIKE`, with `%` and `_` in the pattern. -/
def like : List Char → List Char → Bool
  | [], s => s.isEmpty
  | '%' :: pattern, s => s.tails.any fun rest => like pattern rest
  | '_' :: pattern, s =>
    match s with
    | [] => false
    | _ :: rest => like pattern rest
  | c :: pattern, s =>
    match s with
    | [] => false
    | d :: rest => c == d && like pattern rest

/-! ## Statements about roles -/

inductive RoleStatement where
  | createRole (role : String)
  /-- `ALTER ROLE … WITH LOGIN NOSUPERUSER NOCREATEDB NOCREATEROLE NOREPLICATION NOBYPASSRLS PASSWORD …`. -/
  | reset (role : String)
  | setReadOnly (role : String)
  | revoke (role member : String)
  | grant (role member : String)
  | setSuperuser (role : String)
  deriving Repr, DecidableEq

def Cluster.updateRole (name : String) (f : Role → Role) (c : Cluster) : Cluster :=
  { c with roles := c.roles.map fun r => if r.name = name then f r else r }

/-- A statement that `postgres` runs. -/
def execRole (st : RoleStatement) (c : Cluster) : Cluster :=
  match st with
  | .createRole role => { c with roles := c.roles ++ [{ name := role }] }
  | .reset role =>
    c.updateRole role fun r => { r with login := true, superuser := false, privileged := false }
  | .setReadOnly role => c.updateRole role fun r => { r with readOnly := true }
  | .revoke role member =>
    -- who granted it matters since version 16
    { c with
      members := c.members.filter fun m =>
        ¬(m.role = role ∧ m.member = member ∧ (c.pgMajor < 16 ∨ m.grantor = "postgres")) }
  | .grant role member => { c with members := c.members ++ [⟨role, member, "postgres"⟩] }
  | .setSuperuser role => c.updateRole role fun r => { r with superuser := true }

/-! ## Statements in a database -/

inductive Statement where
  /-- `REVOKE ALL … FROM PUBLIC`. -/
  | revokeSchema (schema : String)
  | revokeRelation (schema name : String)
  | revokeRoutine (procedure : Bool) (schema name : String)
  | revokeDefault (role : String) (schema : Option String) (type : DefaultType)
  | reassignOwned (role : String)
  | dropOwned (role : String)
  | grantUsage (schema role : String)
  /-- `GRANT SELECT ON ALL TABLES`, or `ALL SEQUENCES`, `IN SCHEMA`. -/
  | grantSelect (sequences : Bool) (schema role : String)
  | grantDefaultSelect (owner schema role : String)
  | grantExecute (procedure : Bool) (schema name role : String)
  deriving Repr, DecidableEq

/-- The objects that a statement is about.  A routine is found only by the key word for its kind. -/
def Statement.isAbout (st : Statement) (o : Object) : Bool :=
  match st with
  | .revokeSchema schema => o.kind = .schema ∧ o.schema = schema
  | .revokeRelation schema name => o.isRelation ∧ o.schema = schema ∧ o.name = name
  | .revokeRoutine procedure schema name => o.kind = .routine procedure ∧ o.schema = schema ∧ o.name = name
  | .revokeDefault _ _ _ => false
  | .reassignOwned _ => true
  | .dropOwned _ => true
  | .grantUsage schema _ => o.kind = .schema ∧ o.schema = schema
  | .grantSelect sequences schema _ =>
    o.isRelation ∧ (o.kind = .relation .sequence ↔ sequences = true) ∧ o.schema = schema
  | .grantDefaultSelect _ _ _ => false
  | .grantExecute procedure schema name _ => o.kind = .routine procedure ∧ o.schema = schema ∧ o.name = name

/-- **What it does to who may use them.** -/
def Statement.change (st : Statement) (a : Access String Privilege) : Access String Privilege :=
  match st with
  | .revokeSchema _ => a.revoke .everyone
  | .revokeRelation _ _ => a.revoke .everyone
  | .revokeRoutine _ _ _ => a.revoke .everyone
  | .revokeDefault _ _ _ => a
  | .reassignOwned role => a.reassign role "postgres"
  | .dropOwned role => a.revoke (.role role)
  | .grantUsage _ role => a.grant (.role role) .usage
  | .grantSelect _ _ role => a.grant (.role role) .select
  | .grantDefaultSelect _ _ _ => a
  | .grantExecute _ _ _ role => a.grant (.role role) .execute

/-- What a statement leaves of an object. -/
def onObject (st : Statement) (o : Object) : Option Object :=
  if st = .dropOwned o.access.owner then none
  else some (if st.isAbout o then { o with access := st.change o.access } else o)

/-- What a statement leaves of a default. -/
def onDefault (st : Statement) (d : DefaultAcl) : Option DefaultAcl :=
  match st with
  | .revokeDefault role schema type =>
    if d.access.owner = role ∧ d.schema = schema ∧ d.type = type then
      some { d with access := d.access.revoke .everyone }
    else some d
  | .dropOwned role =>
    if d.access.owner = role then none else some { d with access := d.access.revoke (.role role) }
  | .grantDefaultSelect owner schema role =>
    if d.access.owner = owner ∧ d.schema = some schema ∧ d.type = .tables then
      some { d with access := d.access.grant (.role role) .select }
    else some d
  | _ => some d

/-- The default that is made for a grant where there is none. -/
def newDefaults (st : Statement) (defaults : List DefaultAcl) : List DefaultAcl :=
  match st with
  | .grantDefaultSelect owner schema role =>
    if defaults.any fun d => d.access.owner = owner ∧ d.schema = some schema ∧ d.type = .tables then []
    else [{ schema := some schema, type := .tables, access := ⟨owner, [⟨.role role, .select, owner⟩]⟩ }]
  | _ => []

/-- **A statement that `postgres` runs in a database.** -/
def exec (st : Statement) (db : Database) : Database :=
  { db with
    owner := if st = .reassignOwned db.owner then "postgres" else db.owner
    objects := db.objects.filterMap (onObject st)
    defaults := db.defaults.filterMap (onDefault st) ++ newDefaults st db.defaults }

/-! ## The script -/

/-- Which statements fail.  They change nothing, and the script goes on. -/
structure Failing where
  role : RoleStatement → Bool := fun _ => false
  statement : String → Statement → Bool := fun _ _ => false

def runRole (f : Failing) (c : Cluster) (st : RoleStatement) : Cluster :=
  if f.role st then c else execRole st c

def run (fails : Statement → Bool) (db : Database) (st : Statement) : Database :=
  if fails st then db else exec st db

/-- `SELECT … \gexec`: the statements are those the catalogs give at that time. -/
def gexec (fails : Statement → Bool) (db : Database) (query : Database → List Statement) : Database :=
  (query db).foldl (run fails) db

/-- **Reset a managed role**, which is created if need be: no attribute and no membership is left to it. -/
def roleResetBlock (f : Failing) (role : String) (pinReadOnly : Bool) (c : Cluster) : Cluster :=
  let c := if c.roles.any fun r => r.name = role then c else runRole f c (.createRole role)
  let c := runRole f c (.reset role)
  let c := if pinReadOnly then runRole f c (.setReadOnly role) else c
  ((c.members.filter fun m => m.member = role).map fun m => RoleStatement.revoke m.role role).foldl (runRole f) c

/-- The schemas that are left alone. -/
def isSystem (schema : String) : Bool :=
  schema ∈ ["pg_catalog", "information_schema"] || like "pg_toast%".toList schema.toList ||
    like "pg_temp%".toList schema.toList

def revokeSchemas (db : Database) : List Statement :=
  (db.schemas.filter fun schema => !isSystem schema).map .revokeSchema

def revokeRelations (db : Database) : List Statement :=
  (db.objects.filter fun o => o.isRelation && !isSystem o.schema).map fun o => .revokeRelation o.schema o.name

def revokeRoutines (db : Database) : List Statement :=
  db.objects.filterMap fun o =>
    match o.kind with
    | .routine procedure =>
      if o.schema ∈ ["pg_catalog", "information_schema"] then none
      else some (.revokeRoutine procedure o.schema o.name)
    | _ => none

def revokeDefaults (db : Database) : List Statement :=
  db.defaults.map fun d => .revokeDefault d.access.owner d.schema d.type

/-- Foreign key checks run as the referenced table's owner. -/
def grantOwners (db : Database) : List Statement :=
  ((db.objects.filter fun o => o.isRelation && !isSystem o.schema).map fun o => (o.schema, o.access.owner)).dedup.map
    fun pair => .grantUsage pair.1 pair.2

/-- The schemas there are among those a user names. -/
def namedSchemas (user : ExtraUser) (db : Database) : List String :=
  (stringToArray (extraUserSchemas user) ',').flatMap fun name =>
    db.schemas.filter fun schema => schema = sqlTrim name

def grantSchemas (analytics : String) (user : ExtraUser) : List (Database → List Statement) :=
  if user.schemas = [] then []
  else
    [fun db => (namedSchemas user db).map fun schema => .grantUsage schema user.username,
      fun db => (namedSchemas user db).map fun schema => .grantSelect false schema user.username,
      fun db => (namedSchemas user db).map fun schema => .grantSelect true schema user.username,
      fun db => (namedSchemas user db).map fun schema => .grantDefaultSelect analytics schema user.username]

/-- **Close a database**, in the order of the script. -/
def lockdownQueries (analytics : String) (users : List ExtraUser) : List (Database → List Statement) :=
  [revokeSchemas, revokeRelations, revokeRoutines, revokeDefaults] ++
    ((analytics :: users.map (·.username)).flatMap fun role =>
      [fun _ => [Statement.reassignOwned role], fun _ => [Statement.dropOwned role]]) ++
    [grantOwners] ++ users.flatMap (grantSchemas analytics)

def databaseLockdownBlock (f : Failing) (analytics : String) (users : List ExtraUser) (db : Database) : Database :=
  (lockdownQueries analytics users).foldl (gexec (f.statement db.name)) db

/-- Do something in every database that a session can be opened in. -/
def Cluster.inDatabases (c : Cluster) (g : Database → Database) : Cluster :=
  { c with databases := c.databases.map fun db =>
      if db.allowsConnections ∧ db.name ≠ "template0" then g db else db }

/-- The role that a name is read as where it stands in a statement without quotes. -/
def splicedRole (name : String) : Option String :=
  match SqlLexer.tokens name.toList with
  | .ok [.word role] => some role
  | .ok [.ident role] => some role
  | _ => none

def grantRoutines (role : String) (db : Database) : List Statement :=
  db.objects.filterMap fun o =>
    match o.kind with
    | .routine procedure =>
      if o.schema ∈ ["pg_catalog", "information_schema"] then none
      else some (.grantExecute procedure o.schema o.name role)
    | _ => none

/-- **What the analytics user may do.**  Its name is put into two of the statements as it is; a name that is more
    than one word makes them statements that are not followed here. -/
def permissionBranch (f : Failing) (analytics : String) (readOnly : Bool) (c : Cluster) : Cluster :=
  if 14 ≤ c.pgMajor ∧ readOnly = true then
    let c :=
      match splicedRole analytics with
      | some role => runRole f c (.grant "pg_read_all_data" role)
      | none => c
    c.inDatabases fun db => gexec (f.statement db.name) db (grantRoutines analytics)
  else
    match splicedRole analytics with
    | some role => runRole f c (.setSuperuser role)
    | none => c

/-- **The part of the init script that sets the roles up.** -/
def setUpRoles (f : Failing) (analytics : String) (users : List ExtraUser) (readOnly : Bool) (c : Cluster) :
    Cluster :=
  let c := roleResetBlock f analytics false c
  let c := users.foldl (fun c user => roleResetBlock f user.username true c) c
  let c := c.inDatabases (databaseLockdownBlock f analytics users)
  permissionBranch f analytics readOnly c

/-! ## Who may do what -/

def Cluster.isSuperuser (c : Cluster) (role : String) : Bool := c.roles.any fun r => r.name = role ∧ r.superuser

/-- What a role is a direct member of, in a database: its owner is of one more role. -/
def Inherits (c : Cluster) (db : Database) (member role : String) : Prop :=
  (∃ m ∈ c.members, m.member = member ∧ m.role = role) ∨ role = "pg_database_owner" ∧ db.owner = member

/-- What a predefined role may do with every object. -/
def predefined (role : String) (o : Object) (p : Privilege) : Prop :=
  (role = "pg_read_all_data" ∧ (o.isRelation = true ∧ p = .select ∨ o.kind = .schema ∧ p = .usage)) ∨
    role = "pg_write_all_data" ∧
      (o.isRelation = true ∧ p ∈ [.other "INSERT", .other "UPDATE", .other "DELETE"] ∨ o.kind = .schema ∧ p = .usage)

/-- **A role may use a privilege on an object**, or may give it to itself: as a superuser, or as itself or any
    of the roles it is a member of, directly or not. -/
def May (c : Cluster) (db : Database) (role : String) (o : Object) (p : Privilege) : Prop :=
  c.isSuperuser role = true ∨
    ∃ r, Relation.ReflTransGen (Inherits c db) role r ∧
      (o.access.owner = r ∨ o.access.Allows r p ∨ predefined r o p)

/-! ## Objects created later -/

/-- Somebody creates an object. -/
structure Creation where
  creator : String
  kind : ObjectKind
  schema : String
  name : String
  deriving Repr, DecidableEq

/-- The defaults that a new object goes by. -/
def ObjectKind.defaultType : ObjectKind → DefaultType
  | .schema => .schemas
  | .relation .sequence => .sequences
  | .relation _ => .tables
  | .routine _ => .functions

/-- What is granted where a creator has no default for all schemas. -/
def builtIn (x : Creation) : List (Privileges.Grant String Privilege) :=
  match x.kind with
  | .routine _ => [⟨.everyone, .execute, x.creator⟩]
  | _ => []

def Database.defaultsFor (db : Database) (x : Creation) (schema : Option String) : List DefaultAcl :=
  db.defaults.filter fun d => d.access.owner = x.creator ∧ d.schema = schema ∧ d.type = x.kind.defaultType

/-- **What a new object is granted.**  A default for all schemas takes the place of the built-in one, and a
    default for the schema adds to it. -/
def Database.created (db : Database) (x : Creation) : Object where
  kind := x.kind
  schema := x.schema
  name := x.name
  access :=
    { owner := x.creator
      grants :=
        (if db.defaultsFor x none = [] then builtIn x else (db.defaultsFor x none).flatMap (·.access.grants)) ++
          (db.defaultsFor x (some x.schema)).flatMap (·.access.grants) }

def Database.create (db : Database) (x : Creation) : Database :=
  { db with objects := db.objects ++ [db.created x] }

/-- What happens in a database while a restore is used: among others schemas are dropped, `CASCADE`, and the
    operator grants the extra users their schemas once more, if it is not cut off. -/
inductive LaterEvent where
  | create (x : Creation)
  | drop (kind : ObjectKind) (schema name : String)
  | dropSchema (schema : String)
  | regrant (executed : Nat)
  deriving Repr, DecidableEq

/-- The statements of `schemaReadGrants`. -/
def readStatements (owner username schema : String) : List Statement :=
  [.grantUsage schema username, .grantSelect false schema username, .grantSelect true schema username,
    .grantDefaultSelect owner schema username]

/-- What the operator runs in a database, for each user and each of its schemas that are there. -/
def regrants (spec : ReplicaSpec) (db : Database) : List Statement :=
  (extraUsersWithSchemas spec).flatMap fun user =>
    (grantSchemaReadOn db.schemas user.name user.schemas spec.analyticsUsername).granted.flatMap
      (readStatements spec.analyticsUsername user.name)

/-- **The operator grants the extra users their schemas**, as far as it comes: the first statement that fails is
    the last. -/
def regrant (spec : ReplicaSpec) (executed : Nat) (db : Database) : Database :=
  ((regrants spec db).take executed).foldl (run fun _ => false) db

def Database.later (spec : ReplicaSpec) (db : Database) : LaterEvent → Database
  | .create x => db.create x
  | .drop kind schema name =>
    { db with objects := db.objects.filter fun o => ¬(o.kind = kind ∧ o.schema = schema ∧ o.name = name) }
  | .dropSchema schema =>
    { db with
      objects := db.objects.filter fun o => o.schema ≠ schema
      defaults := db.defaults.filter fun d => d.schema ≠ some schema }
  | .regrant executed => regrant spec executed db

end Lockdown

end RestoreOperator
