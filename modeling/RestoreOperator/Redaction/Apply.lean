import Mathlib.Data.Prod.Lex
import Mathlib.Data.String.Basic
import RestoreOperator.Base.Grouped
import RestoreOperator.Objects.Calls
import RestoreOperator.Redaction.Manifest

/-!
# `Redaction.Apply` — applying a manifest to a restore database

Tables are truncated one by one; columns are updated table by table, in one statement where the
database takes it and column by column where it does not.  Only the two statements that set the
extension up, and the look-up of the columns, can fail the run.
-/

namespace RestoreOperator

variable {δ F64 : Type}

/-- One assignment of an `UPDATE`: the entry of the manifest it is for, by its position, and the
    expression built for it. -/
structure Assignment (F64 : Type) where
  entry : Nat
  mask : ColumnMask F64
  expr : String
  deriving Repr, DecidableEq

/-- The table an assignment updates. -/
def Assignment.table (a : Assignment F64) : String ×ₗ String := toLex (a.mask.schema, a.mask.table)

/-- The statements of a run. -/
inductive Statement (F64 : Type) where
  | createExtension
  | init
  | truncate (entry : Nat) (mask : TableMask)
  /-- All the columns of a table at once. -/
  | updateTable (table : String ×ₗ String) (assignments : List (Assignment F64))
  /-- One column, after its table's update failed. -/
  | updateColumn (table : String ×ₗ String) (assignment : Assignment F64)

/-- `UPDATE <schema>.<table> SET <column> = <expr>, …`. -/
def updateStatement (table : String ×ₗ String) (assignments : List (String × String)) : String :=
  let sets := ", ".intercalate (assignments.map fun a => quoteIdent a.1 ++ " = " ++ a.2)
  "UPDATE " ++ quoteIdent (ofLex table).1 ++ "." ++ quoteIdent (ofLex table).2 ++ " SET " ++ sets

/-- The text a statement is sent as. -/
def Statement.sql : Statement F64 → String
  | .createExtension => "CREATE EXTENSION IF NOT EXISTS anon CASCADE"
  | .init => "SELECT anon.init()"
  | .truncate _ mask =>
    "TRUNCATE TABLE " ++ quoteIdent mask.schema ++ "." ++ quoteIdent mask.table ++ " CASCADE"
  | .updateTable table assignments =>
    updateStatement table (assignments.map fun a => (a.mask.column, a.expr))
  | .updateColumn table a => updateStatement table [(a.mask.column, a.expr)]

/-- A row of the look-up of columns. -/
structure ColumnRow where
  tableSchema : String
  tableName : String
  columnName : String
  dataType : String
  isNullable : String
  columnDefault : Option String

/-- **A database connection**: what a query answers, and what it leaves of the database. -/
structure PgConnection (δ : Type) where
  simpleQuery : String → δ → Except String Unit × δ
  /-- The look-up of the columns named by three arrays: schemas, tables and columns. -/
  queryTyped : List String → List String → List String → δ → Except Error (List ColumnRow) × δ

/-- A statement that was sent, and whether the database took it. -/
structure Sent (F64 : Type) where
  statement : Statement F64
  ok : Bool

/-- **A run against a database**: the database, and the statements sent to it so far. -/
structure Session (δ F64 : Type) where
  database : δ
  sent : List (Sent F64) := []

variable (conn : PgConnection δ)

/-- Send a statement. -/
def send (statement : Statement F64) (s : Session δ F64) : Except String Unit × Session δ F64 :=
  let (answer, database) := conn.simpleQuery statement.sql s.database
  (answer, { database := database, sent := s.sent ++ [⟨statement, answer.isOk⟩] })

/-! ## Tables -/

/-- Mask one table: truncation is the only kind there is. -/
def truncateTable (acc : RedactionOutcome × Session δ F64) (table : TableMask × Nat) :
    RedactionOutcome × Session δ F64 :=
  let outcome := { acc.1 with tablesAttempted := acc.1.tablesAttempted + 1 }
  if table.1.kind ≠ "truncate" then
    ({ outcome with tablesFailed := outcome.tablesFailed + 1 }, acc.2)
  else
    match send conn (.truncate table.2 table.1) acc.2 with
    | (.ok (), s) => (outcome, s)
    | (.error _, s) => ({ outcome with tablesFailed := outcome.tablesFailed + 1 }, s)

/-! ## Columns -/

/-- What is known of the columns that were looked up. -/
abbrev ColumnInfos := String × String × String → Option ColumnInfo

/-- The key that joins a mask with the looked-up columns. -/
def colKey (mask : ColumnMask F64) : String × String × String :=
  (mask.schema, mask.table, mask.column)

/-- Add a row of the look-up; a later row for the same column replaces an earlier one. -/
def insertRow (infos : ColumnInfos) (row : ColumnRow) : ColumnInfos :=
  Function.update infos (row.tableSchema, row.tableName, row.columnName) (some {
    dataType := row.dataType
    isNullable := row.isNullable == "YES"
    columnDefault := row.columnDefault })

/-- **Look up every masked column** in one query; none is made for no columns. -/
def lookupColumnInfos (masks : List (ColumnMask F64)) (s : Session δ F64) :
    Except Error ColumnInfos × Session δ F64 :=
  if masks.isEmpty then (.ok fun _ => none, s)
  else
    match conn.queryTyped (masks.map (·.schema)) (masks.map (·.table)) (masks.map (·.column))
      s.database with
    | (.error e, database) => (.error e, { s with database := database })
    | (.ok rows, database) =>
      (.ok (rows.foldl insertRow fun _ => none), { s with database := database })

/-- The assignments of a run, grouped by table. -/
abbrev ByTable (F64 : Type) := GroupedBy (@Assignment.table F64)

/-- Plan one column: into its table's group, or counted as failed. -/
def planColumn (text : F64Text F64) (infos : ColumnInfos) (acc : RedactionOutcome × ByTable F64)
    (column : ColumnMask F64 × Nat) : RedactionOutcome × ByTable F64 :=
  let outcome := { acc.1 with columnsAttempted := acc.1.columnsAttempted + 1 }
  match infos (colKey column.1) with
  | none => ({ outcome with columnsFailed := outcome.columnsFailed + 1 }, acc.2)
  | some info =>
    match maskExpression text column.1 (some info) with
    | .ok expr => (outcome, acc.2.push { entry := column.2, mask := column.1, expr := expr })
    | .error _ => ({ outcome with columnsFailed := outcome.columnsFailed + 1 }, acc.2)

/-- Update one column on its own, counting a failure. -/
def updateColumn (table : String ×ₗ String) (acc : Nat × Session δ F64) (a : Assignment F64) :
    Nat × Session δ F64 :=
  match send conn (.updateColumn table a) acc.2 with
  | (.ok (), s) => (acc.1, s)
  | (.error _, s) => (acc.1 + 1, s)

/-- **Mask the columns of a table** in one pass over it, and if that fails one column at a time.
    Answers how many columns are still unmasked. -/
def applyTableMasks (table : String ×ₗ String) (assignments : List (Assignment F64))
    (s : Session δ F64) : Nat × Session δ F64 :=
  match send conn (.updateTable table assignments) s with
  | (.ok (), s) => (0, s)
  | (.error _, s) => assignments.foldl (updateColumn conn table) (0, s)

/-- Mask the columns of one group, and add up the failures. -/
def applyGroup (acc : RedactionOutcome × Session δ F64)
    (group : (String ×ₗ String) × List (Assignment F64)) : RedactionOutcome × Session δ F64 :=
  let (failed, s) := applyTableMasks conn group.1 group.2 acc.2
  ({ acc.1 with columnsFailed := acc.1.columnsFailed + failed }, s)

/-- **Apply a manifest** against a database. -/
def apply (text : F64Text F64) (manifest : Manifest F64) (s : Session δ F64) :
    Except Error RedactionOutcome × Session δ F64 :=
  match send conn .createExtension s with
  | (.error e, s) => (.error (.redaction ("CREATE EXTENSION anon failed: " ++ e)), s)
  | (.ok (), s) =>
    match send conn .init s with
    | (.error e, s) => (.error (.redaction ("anon.init() failed: " ++ e)), s)
    | (.ok (), s) =>
      let (outcome, s) := manifest.tables.zipIdx.foldl (truncateTable conn) ({}, s)
      match lookupColumnInfos conn manifest.columns s with
      | (.error e, s) => (.error e, s)
      | (.ok infos, s) =>
        let (outcome, byTable) :=
          manifest.columns.zipIdx.foldl (planColumn text infos) (outcome, .empty)
        let (outcome, s) := byTable.groups.foldl (applyGroup conn) (outcome, s)
        (.ok outcome, s)

end RestoreOperator
