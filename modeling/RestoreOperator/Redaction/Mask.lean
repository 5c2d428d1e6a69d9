import RestoreOperator.Base.FloatText
import RestoreOperator.Objects.Types

/-!
# `Redaction.Mask` — column masks and the expressions they assign

A mask names a column and a kind of replacement; the kind, with what the database says about the
column, gives the right-hand side of `SET <column> = …`.
-/

namespace RestoreOperator

/-- **Double-precision numbers as texts**: how one is read, written, and made of an integer. -/
structure F64Text (F64 : Type) where
  parse : String → Option F64
  display : F64 → String
  ofInt : Int → F64

/-- The texts of double-precision numbers, as they are read from any text. -/
def f64Text {F64 : Type} (numbers : FloatText.Numbers F64) (display : F64 → String) : F64Text F64 where
  parse := FloatText.parse numbers
  display := display
  ofInt n := numbers.nearest (n < 0) n.natAbs

/-- A column to mask. -/
structure ColumnMask (F64 : Type) where
  schema : String
  table : String
  column : String
  kind : String
  range : Option (F64 × F64)
  deriving Repr, DecidableEq

/-- A table to mask as a whole. -/
structure TableMask where
  schema : String
  table : String
  kind : String
  deriving Repr, DecidableEq

/-- What the database says about a column. -/
structure ColumnInfo where
  dataType : String
  isNullable : Bool
  columnDefault : Option String
  deriving Repr, DecidableEq

/-- Split a text around the last occurrence of a character. -/
def rsplitOnce (sep : Char) (s : String) : Option (String × String) :=
  let back := s.toList.reverse.span (· ≠ sep)
  match back.2 with
  | [] => none
  | _ :: before => some (String.ofList before.reverse, String.ofList back.1.reverse)

variable {F64 : Type} (text : F64Text F64)

/-- A range `L-H`, split at the **last** `-`. -/
def parseRange (s : String) : Option (F64 × F64) := do
  let (lo, hi) ← rsplitOnce '-' s
  let lo ← text.parse lo
  let hi ← text.parse hi
  return (lo, hi)

/-- Escape a SQL identifier by double-quoting it. -/
def quoteIdent (s : String) : String :=
  "\"" ++ String.ofList (s.toList.flatMap fun c => if c = '"' then ['"', '"'] else [c]) ++ "\""

/-- The families of column types a `zero` or `empty` mask tells apart. -/
inductive DataTypeFamily where
  | numeric
  | text
  | bytea
  | other
  deriving Repr, DecidableEq

/-- The family of an `information_schema` type name. -/
def dataTypeFamily (s : String) : DataTypeFamily :=
  if s ∈ ["smallint", "integer", "bigint", "real", "double precision", "numeric", "decimal"] then
    .numeric
  else if s ∈ ["character varying", "character", "text", "citext"] then .text
  else if s = "bytea" then .bytea
  else .other

/-- Leave a null as it is. -/
def nullPres (col expr : String) : String :=
  s!"CASE WHEN {col} IS NULL THEN NULL ELSE {expr} END"

/-- The expression of a `zero` mask. -/
def zeroExpression (col : String) (info : ColumnInfo) : Except String String :=
  match dataTypeFamily info.dataType with
  | .bytea => .ok s!"decode(repeat('00', length({col})), 'hex')"
  | .text => .ok s!"repeat('0', length({col}))"
  | .numeric => .ok "0"
  | .other => .error ("zero mask unsupported for type " ++ info.dataType)

/-- The expression of an `empty` mask. -/
def emptyExpression (info : ColumnInfo) : Except String String :=
  match dataTypeFamily info.dataType with
  | .numeric => .ok "0"
  | .text => .ok "''"
  | .bytea => .ok "E'\\\\x'::bytea"
  | .other =>
    if info.dataType = "json" ∨ info.dataType = "jsonb" then
      .ok ("'\x7b\x7d'::" ++ info.dataType)
    else if info.dataType = "ARRAY" then .ok "'\x7b\x7d'"
    else .error ("empty mask unsupported for type " ++ info.dataType)

/-- **The expression a mask assigns to its column.**  Only the kinds that depend on the column's
    type look at `info`. -/
def maskExpression (mask : ColumnMask F64) (info : Option ColumnInfo) : Except String String :=
  let col := quoteIdent mask.column
  let range (lo hi : Int) :=
    let bounds := mask.range.getD (text.ofInt lo, text.ofInt hi)
    (text.display bounds.1, text.display bounds.2)
  match mask.kind with
  | "date" => .ok (nullPres col "anon.random_date()")
  | "datetime" =>
    .ok (nullPres col
      s!"date_trunc('day', {col}) + (floor(random() * 86400) || ' seconds')::interval")
  | "text" => .ok (nullPres col s!"anon.lorem_ipsum(characters := length({col}))")
  | "string" => .ok (nullPres col s!"anon.random_string(length({col}))")
  | "email" => .ok (nullPres col "anon.fake_email()")
  | "name" =>
    .ok (nullPres col (s!"CASE WHEN {col} LIKE '% %' " ++
      "THEN anon.fake_first_name() || ' ' || anon.fake_last_name() " ++
      "ELSE anon.fake_first_name() END"))
  | "phone" => .ok (nullPres col s!"anon.partial({col}, 2, '****', 2)")
  | "place" => .ok (nullPres col "anon.fake_city()")
  | "url" => .ok (nullPres col "'https://example.invalid/' || anon.random_string(8)")
  | "integer" =>
    let (lo, hi) := range (-2147483648) 2147483647
    .ok (nullPres col s!"(floor(random() * ({hi} - {lo} + 1)) + {lo})::int")
  | "float" =>
    let (lo, hi) := range 0 1
    .ok (nullPres col s!"(random() * ({hi} - {lo}) + {lo})::numeric")
  | "money" =>
    let (lo, hi) := range 0 10000
    .ok (nullPres col s!"round((random() * ({hi} - {lo}) + {lo})::numeric, 2)")
  | "zero" =>
    match info with
    | none => .error "zero mask needs column type"
    | some info => zeroExpression col info
  | "empty" =>
    match info with
    | none => .error "empty mask needs column type"
    | some info => emptyExpression info
  | "nil" =>
    match info with
    | none => .error "nil mask needs column type"
    | some info =>
      if info.isNullable then .ok "NULL" else .error "nil mask on non-nullable column"
  | "default" =>
    match info with
    | none => .error "default mask needs column type"
    | some info =>
      match info.columnDefault with
      | some d => .ok d
      | none => .error "default mask on column without default"
  | other => .error ("unknown mask kind: " ++ other)

end RestoreOperator
