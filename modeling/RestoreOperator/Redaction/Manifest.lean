import RestoreOperator.Redaction.Mask

/-!
# `Redaction.Manifest` — reading a masking manifest

A manifest is a JSON document with a `sources` object; a source names a table, and it and its
columns may carry a `masking` annotation under `config.meta` or `meta`.
-/

namespace RestoreOperator

/-- A JSON value.  An object lists its members in the order they are iterated in. -/
inductive Value where
  | null
  | bool (b : Bool)
  | number (text : String)
  | string (s : String)
  | array (items : List Value)
  | object (members : List (String × Value))

namespace Value

/-- The member of an object; nothing in any other value. -/
def get (v : Value) (key : String) : Option Value :=
  match v with
  | .object members => members.lookup key
  | _ => none

/-- The text of a string value. -/
def asStr : Value → Option String
  | .string s => some s
  | _ => none

/-- The members of an object value. -/
def asObject : Value → Option (List (String × Value))
  | .object members => some members
  | _ => none

end Value

/-- The masks of a document. -/
structure Manifest (F64 : Type) where
  columns : List (ColumnMask F64) := []
  tables : List TableMask := []
  deriving Repr, DecidableEq

/-- The `config.meta.masking` of a node, or else its `meta.masking`. -/
def metaMasking (node : Value) : Option Value :=
  match ((node.get "config").bind (·.get "meta")).bind (·.get "masking") with
  | some v => some v
  | none => (node.get "meta").bind (·.get "masking")

/-- The kind of a mask: the short form is the kind itself, the long form has it as a member. -/
def maskKind : Value → Option String
  | .string s => some s
  | .object members => (members.lookup "kind").bind Value.asStr
  | _ => none

variable {F64 : Type} (text : F64Text F64)

/-- The range of a mask in the long form. -/
def maskRange (mask : Value) : Option (F64 × F64) :=
  ((mask.asObject.bind (·.lookup "range")).bind Value.asStr).bind (parseRange text)

/-- The mask of a table, from its source. -/
def tableMask (schema name : String) (source : Value) : Option TableMask := do
  let mask ← metaMasking source
  let kind ← maskKind mask
  return { schema := schema, table := name, kind := kind }

/-- The mask of a column. -/
def columnMask (schema name : String) (column : String × Value) : Option (ColumnMask F64) := do
  let mask ← metaMasking column.2
  let kind ← maskKind mask
  return {
    schema := schema
    table := name
    column := column.1
    kind := kind
    range := maskRange text mask }

/-- The masks one source adds.  A source without `schema` or `name` is skipped. -/
def parseSource (out : Manifest F64) (source : Value) : Manifest F64 :=
  match (source.get "schema").bind Value.asStr with
  | none => out
  | some schema =>
    match (source.get "name").bind Value.asStr with
    | none => out
    | some name =>
      let out := { out with tables := out.tables ++ (tableMask schema name source).toList }
      match (source.get "columns").bind Value.asObject with
      | none => out
      | some columns =>
        { out with columns := out.columns ++ columns.filterMap (columnMask text schema name) }

/-- The masks of a document that was read. -/
def manifestOf (doc : Value) : Manifest F64 :=
  match (doc.get "sources").bind Value.asObject with
  | none => {}
  | some sources => sources.foldl (fun out source => parseSource text out source.2) {}

/-- **Parse a manifest**; `fromStr` reads the JSON text. -/
def parseManifest (fromStr : String → Except String Value) (json : String) :
    Except String (Manifest F64) := do
  let doc ← fromStr json
  return manifestOf text doc

end RestoreOperator
