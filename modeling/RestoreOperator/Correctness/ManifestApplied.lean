import RestoreOperator.Base.Positions
import RestoreOperator.Correctness.MaskAccounting

/-!
# `Correctness.ManifestApplied` — what a complete redaction says about its document

The entries of a manifest are the annotations of the document that can be read: those in force, with
a kind, of a source with a schema and a name or of a column of such a source.  An annotation has the
position of its source among the sources, and of its column among that source's columns, and is one
entry.  A run in which nothing failed applied them all.
-/

namespace RestoreOperator

variable {δ F64 : Type}

/-! ## Annotations of a document -/

/-- The value at a path of object members. -/
def Value.at (v : Value) : List String → Option Value
  | [] => some v
  | key :: path => (v.get key).bind fun w => w.at path

/-- The annotation of a node that is in force: `config.meta.masking`, and without one
    `meta.masking`. -/
def InForce (node mask : Value) : Prop :=
  node.at ["config", "meta", "masking"] = some mask ∨
    (node.at ["config", "meta", "masking"] = none ∧ node.at ["meta", "masking"] = some mask)

/-- The kind of an annotation, in its short form or in its long form. -/
def HasKind (mask : Value) (kind : String) : Prop :=
  mask = .string kind ∨
    ∃ members, mask = .object members ∧ members.lookup "kind" = some (.string kind)

/-- A source of a document that names its table, at its position among the sources. -/
structure NamedSource (doc : Value) (i : Nat) (source : Value) (schema table : String) : Prop where
  listed : ∃ sources id, doc.at ["sources"] = some (.object sources) ∧
    sources[i]? = some (id, source)
  hasSchema : source.at ["schema"] = some (.string schema)
  hasName : source.at ["name"] = some (.string table)

/-- A column annotation that can be read. -/
structure Annotation where
  schema : String
  table : String
  column : String
  mask : Value
  kind : String

/-- An annotation of a column of a named source, in force and with a kind: at the positions of the
    source and of the column. -/
structure ColumnAnnotated (doc : Value) (position : Nat × Nat) (a : Annotation) : Prop where
  column : ∃ source columns node, NamedSource doc position.1 source a.schema a.table ∧
    source.at ["columns"] = some (.object columns) ∧
    columns[position.2]? = some (a.column, node) ∧ InForce node a.mask
  kind : HasKind a.mask a.kind

/-- An annotation of a named source, in force and with a kind. -/
def TableAnnotated (doc : Value) (i : Nat) (mask : TableMask) : Prop :=
  ∃ source annotation, NamedSource doc i source mask.schema mask.table ∧
    InForce source annotation ∧ HasKind annotation mask.kind

/-- The column mask an annotation is read as. -/
def Annotation.columnMask (text : F64Text F64) (a : Annotation) : ColumnMask F64 where
  schema := a.schema
  table := a.table
  column := a.column
  kind := a.kind
  range := maskRange text a.mask

/-- **The entries of a manifest are the annotations of a document that can be read**, each of them
    once. -/
structure EntriesOf (text : F64Text F64) (doc : Value) (manifest : Manifest F64)
    (annotations : List ((Nat × Nat) × Annotation)) (masks : List (Nat × TableMask)) : Prop where
  columns : manifest.columns = annotations.map fun a => a.2.columnMask text
  columnsOnce : (annotations.map Prod.fst).Nodup
  columnsAnnotated : ∀ position a, (position, a) ∈ annotations ↔ ColumnAnnotated doc position a
  tables : manifest.tables = masks.map Prod.snd
  tablesOnce : (masks.map Prod.fst).Nodup
  tablesAnnotated : ∀ i mask, (i, mask) ∈ masks ↔ TableAnnotated doc i mask

/-! ## Reading them -/

theorem metaMasking_iff {node mask : Value} : metaMasking node = some mask ↔ InForce node mask := by
  have hconfig : ((node.get "config").bind (·.get "meta")).bind (·.get "masking")
      = node.at ["config", "meta", "masking"] := by
    simp [Value.at, Option.bind_assoc]
  have hmeta : (node.get "meta").bind (·.get "masking") = node.at ["meta", "masking"] := by
    simp [Value.at]
  unfold metaMasking InForce
  rw [hconfig, hmeta]
  cases node.at ["config", "meta", "masking"] with
  | none => simp
  | some v => simp

theorem maskKind_iff {mask : Value} {kind : String} :
    maskKind mask = some kind ↔ HasKind mask kind := by
  unfold maskKind HasKind
  cases mask with
  | string s => simp
  | object members =>
    cases hkind : members.lookup "kind" with
    | none => simp [hkind]
    | some v => cases v <;> simp [hkind, Value.asStr]
  | _ => simp

theorem asStr_bind_iff {v : Value} {key s : String} :
    (v.get key).bind Value.asStr = some s ↔ v.at [key] = some (.string s) := by
  cases hget : v.get key with
  | none => simp [Value.at, hget]
  | some w => cases w <;> simp [Value.at, hget, Value.asStr]

theorem asObject_bind_iff {v : Value} {key : String} {members : List (String × Value)} :
    (v.get key).bind Value.asObject = some members ↔ v.at [key] = some (.object members) := by
  cases hget : v.get key with
  | none => simp [Value.at, hget]
  | some w => cases w <;> simp [Value.at, hget, Value.asObject]

variable (text : F64Text F64)

/-- The columns and the tables one source adds, by themselves. -/
theorem parseSource_eq (out : Manifest F64) (source : Value) :
    parseSource text out source =
      { columns := out.columns ++ (parseSource text {} source).columns
        tables := out.tables ++ (parseSource text {} source).tables } := by
  unfold parseSource
  split
  · simp
  · split
    · simp
    · split <;> simp

/-- The columns and the tables of several sources. -/
theorem parseSources_eq (sources : List (String × Value)) (out : Manifest F64) :
    sources.foldl (fun out source => parseSource text out source.2) out =
      { columns := out.columns ++ sources.flatMap fun s => (parseSource text {} s.2).columns
        tables := out.tables ++ sources.flatMap fun s => (parseSource text {} s.2).tables } := by
  induction sources generalizing out with
  | nil => simp
  | cons source rest ih =>
    rw [List.foldl_cons, ih, parseSource_eq text out source.2]
    simp

/-- The members of one list that read as annotations. -/
def annotationOf (schema table : String) (column : String × Value) : Option Annotation := do
  let mask ← metaMasking column.2
  let kind ← maskKind mask
  return { schema := schema, table := table, column := column.1, mask := mask, kind := kind }

theorem columnMask_eq (schema table : String) (column : String × Value) :
    columnMask text schema table column
      = (annotationOf schema table column).map (fun a => a.columnMask text) := by
  unfold columnMask annotationOf
  cases metaMasking column.2 with
  | none => rfl
  | some mask => cases hkind : maskKind mask <;> simp [hkind, Annotation.columnMask]

theorem annotationOf_iff {schema table : String} {column : String × Value} {a : Annotation} :
    annotationOf schema table column = some a ↔
      a.schema = schema ∧ a.table = table ∧ a.column = column.1 ∧ InForce column.2 a.mask ∧
        HasKind a.mask a.kind := by
  unfold annotationOf
  rw [← metaMasking_iff, ← maskKind_iff]
  obtain ⟨s, t, c, m, k⟩ := a
  cases hmask : metaMasking column.2 with
  | none => simp
  | some mask =>
    cases hkind : maskKind mask with
    | none =>
      simp only [Option.bind_eq_bind, Option.bind_some, hkind, Option.bind_none]
      constructor
      · intro h
        exact absurd h (by simp)
      · rintro ⟨-, -, -, hm, hk⟩
        rw [← Option.some.inj hm, hkind] at hk
        exact absurd hk (by simp)
    | some kind =>
      simp only [Option.bind_eq_bind, Option.bind_some, hkind]
      constructor
      · intro h
        obtain ⟨rfl, rfl, rfl, rfl, rfl⟩ := Annotation.mk.inj (Option.some.inj h)
        exact ⟨rfl, rfl, rfl, rfl, hkind⟩
      · rintro ⟨rfl, rfl, rfl, hm, hk⟩
        obtain rfl := Option.some.inj hm
        rw [hkind] at hk
        rw [← Option.some.inj hk]
        rfl

theorem tableMask_iff {schema table : String} {source : Value} {mask : TableMask} :
    tableMask schema table source = some mask ↔
      mask.schema = schema ∧ mask.table = table ∧
        ∃ annotation, InForce source annotation ∧ HasKind annotation mask.kind := by
  unfold tableMask
  simp only [← metaMasking_iff, ← maskKind_iff]
  obtain ⟨s, t, k⟩ := mask
  cases hmask : metaMasking source with
  | none => simp
  | some annotation =>
    cases hkind : maskKind annotation with
    | none => simp [hkind]
    | some kind =>
      simp only [Option.bind_eq_bind, Option.bind_some, hkind]
      constructor
      · intro h
        obtain ⟨rfl, rfl, rfl⟩ := TableMask.mk.inj (Option.some.inj h)
        exact ⟨rfl, rfl, annotation, rfl, hkind⟩
      · rintro ⟨rfl, rfl, b, hb, hk⟩
        obtain rfl := Option.some.inj hb
        rw [hkind] at hk
        rw [← Option.some.inj hk]
        rfl

/-- The annotations of a source's columns, with the columns' positions. -/
def sourceAnnotations (source : Value) : List (Nat × Annotation) :=
  match (source.get "schema").bind Value.asStr, (source.get "name").bind Value.asStr,
    (source.get "columns").bind Value.asObject with
  | some schema, some name, some columns => Positions.read (annotationOf schema name) columns
  | _, _, _ => []

/-- The mask of a source that names its table. -/
def sourceMask (source : Value) : Option TableMask :=
  match (source.get "schema").bind Value.asStr, (source.get "name").bind Value.asStr with
  | some schema, some name => tableMask schema name source
  | _, _ => none

theorem parseSource_columns (source : Value) :
    (parseSource text {} source).columns
      = (sourceAnnotations source).map fun a => a.2.columnMask text := by
  unfold parseSource sourceAnnotations
  cases (source.get "schema").bind Value.asStr with
  | none => rfl
  | some schema =>
    cases (source.get "name").bind Value.asStr with
    | none => rfl
    | some name =>
      cases (source.get "columns").bind Value.asObject with
      | none => rfl
      | some columns =>
        simp only [List.nil_append]
        calc columns.filterMap (columnMask text schema name)
            = columns.filterMap fun c =>
                (annotationOf schema name c).map (fun a => a.columnMask text) :=
              List.filterMap_congr fun c _ => columnMask_eq text schema name c
          _ = (columns.filterMap (annotationOf schema name)).map (fun a => a.columnMask text) :=
              List.map_filterMap.symm
          _ = _ := by rw [← Positions.values_read, List.map_map]; rfl

theorem parseSource_tables (source : Value) :
    (parseSource text {} source).tables = (sourceMask source).toList := by
  unfold parseSource sourceMask
  cases (source.get "schema").bind Value.asStr with
  | none => rfl
  | some schema =>
    cases (source.get "name").bind Value.asStr with
    | none => rfl
    | some name => cases (source.get "columns").bind Value.asObject <;> rfl

theorem mem_sourceAnnotations {source : Value} {j : Nat} {a : Annotation} :
    (j, a) ∈ sourceAnnotations source ↔
      source.at ["schema"] = some (.string a.schema) ∧ source.at ["name"] = some (.string a.table) ∧
        ∃ columns node, source.at ["columns"] = some (.object columns) ∧
          columns[j]? = some (a.column, node) ∧ InForce node a.mask ∧ HasKind a.mask a.kind := by
  simp only [← asStr_bind_iff, ← asObject_bind_iff]
  unfold sourceAnnotations
  cases (source.get "schema").bind Value.asStr with
  | none => simp
  | some schema =>
    cases (source.get "name").bind Value.asStr with
    | none => simp
    | some name =>
      cases (source.get "columns").bind Value.asObject with
      | none => simp
      | some columns =>
        simp only [Positions.mem_read, annotationOf_iff, Option.some.injEq]
        constructor
        · rintro ⟨⟨column, node⟩, hget, rfl, rfl, hcolumn, hmask, hkind⟩
          exact ⟨rfl, rfl, columns, node, rfl, hcolumn ▸ hget, hmask, hkind⟩
        · rintro ⟨rfl, rfl, _, node, rfl, hget, hmask, hkind⟩
          exact ⟨(a.column, node), hget, rfl, rfl, rfl, hmask, hkind⟩

theorem nodup_sourceAnnotations (source : Value) : ((sourceAnnotations source).map Prod.fst).Nodup := by
  unfold sourceAnnotations
  split
  · exact Positions.nodup_read
  · exact List.nodup_nil

theorem sourceMask_iff {source : Value} {mask : TableMask} :
    sourceMask source = some mask ↔
      source.at ["schema"] = some (.string mask.schema) ∧
        source.at ["name"] = some (.string mask.table) ∧
        ∃ annotation, InForce source annotation ∧ HasKind annotation mask.kind := by
  simp only [← asStr_bind_iff]
  unfold sourceMask
  cases (source.get "schema").bind Value.asStr with
  | none => simp
  | some schema =>
    cases (source.get "name").bind Value.asStr with
    | none => simp
    | some name =>
      simp only [tableMask_iff, Option.some.injEq]
      exact and_congr eq_comm (and_congr eq_comm Iff.rfl)

/-- A document without sources names none. -/
theorem not_namedSource {doc : Value} (h : (doc.get "sources").bind Value.asObject = none)
    {i : Nat} {source : Value} {schema table : String} :
    ¬ NamedSource doc i source schema table := by
  rintro ⟨⟨members, _, hdoc, -⟩, -, -⟩
  rw [← asObject_bind_iff, h] at hdoc
  cases hdoc

section Sources

variable {doc : Value} {sources : List (String × Value)}
  (hdoc : doc.at ["sources"] = some (.object sources))
include hdoc

theorem columnAnnotated_iff {position : Nat × Nat} {a : Annotation} :
    ColumnAnnotated doc position a ↔
      ∃ s, sources[position.1]? = some s ∧ (position.2, a) ∈ sourceAnnotations s.2 := by
  constructor
  · rintro ⟨⟨source, columns, node, ⟨⟨members, id, hmembers, hlisted⟩, hschema, hname⟩, hcolumns,
      hget, hmask⟩, hkind⟩
    obtain rfl := Value.object.inj (Option.some.inj (hdoc.symm.trans hmembers))
    exact ⟨(id, source), hlisted, mem_sourceAnnotations.mpr
      ⟨hschema, hname, columns, node, hcolumns, hget, hmask, hkind⟩⟩
  · rintro ⟨⟨id, source⟩, hlisted, ha⟩
    obtain ⟨hschema, hname, columns, node, hcolumns, hget, hmask, hkind⟩ :=
      mem_sourceAnnotations.mp ha
    exact ⟨⟨source, columns, node, ⟨⟨sources, id, hdoc, hlisted⟩, hschema, hname⟩, hcolumns, hget,
      hmask⟩, hkind⟩

theorem tableAnnotated_iff {i : Nat} {mask : TableMask} :
    TableAnnotated doc i mask ↔ ∃ s, sources[i]? = some s ∧ sourceMask s.2 = some mask := by
  constructor
  · rintro ⟨source, annotation, ⟨⟨members, id, hmembers, hlisted⟩, hschema, hname⟩, hmask, hkind⟩
    obtain rfl := Value.object.inj (Option.some.inj (hdoc.symm.trans hmembers))
    exact ⟨(id, source), hlisted, sourceMask_iff.mpr ⟨hschema, hname, annotation, hmask, hkind⟩⟩
  · rintro ⟨⟨id, source⟩, hlisted, hmask⟩
    obtain ⟨hschema, hname, annotation, hmask, hkind⟩ := sourceMask_iff.mp hmask
    exact ⟨source, annotation, ⟨⟨sources, id, hdoc, hlisted⟩, hschema, hname⟩, hmask, hkind⟩

end Sources

/-- A manifest lists the annotations of its document. -/
theorem manifestOf_entries (doc : Value) :
    ∃ annotations masks, EntriesOf text doc (manifestOf text doc) annotations masks := by
  unfold manifestOf
  cases hsources : (doc.get "sources").bind Value.asObject with
  | none =>
    refine ⟨[], [], rfl, List.nodup_nil, fun _ a => iff_of_false (by simp) ?_, rfl, List.nodup_nil,
      fun _ mask => iff_of_false (by simp) ?_⟩
    · rintro ⟨⟨_, _, _, hsource, -⟩, -⟩
      exact not_namedSource hsources hsource
    · rintro ⟨_, _, hsource, -⟩
      exact not_namedSource hsources hsource
  | some sources =>
    have hdoc := asObject_bind_iff.mp hsources
    simp only []
    rw [parseSources_eq]
    refine ⟨Positions.gather (fun s => sourceAnnotations s.2) sources,
      Positions.read (fun s => sourceMask s.2) sources, ?_, ?_, ?_, ?_, Positions.nodup_read, ?_⟩
    · calc _ = sources.flatMap fun s => (sourceAnnotations s.2).map fun a => a.2.columnMask text := by
            rw [List.nil_append]
            exact List.flatMap_congr fun s _ => parseSource_columns text s.2
        _ = ((Positions.gather (fun s => sourceAnnotations s.2) sources).map Prod.snd).map
              (fun a => a.columnMask text) := by
            rw [Positions.values_gather, List.map_flatMap]
            simp only [List.map_map, Function.comp_def]
        _ = _ := List.map_map
    · exact Positions.nodup_gather fun s _ => nodup_sourceAnnotations s.2
    · rintro ⟨i, j⟩ a
      rw [Positions.mem_gather, columnAnnotated_iff hdoc]
    · rw [List.nil_append, Positions.values_read, List.filterMap_eq_flatMap_toList]
      exact List.flatMap_congr fun s _ => parseSource_tables text s.2
    · intro i mask
      rw [Positions.mem_read, tableAnnotated_iff hdoc]

/-! ## A complete run -/

/-- A masked entry was set by a successful update of its table. -/
theorem update_of_tries {i : Nat} {sent : List (Sent F64)} {table : String ×ₗ String}
    {column expr : String} (h : ⟨some table, column, expr, true⟩ ∈ triesFor i sent) :
    ∃ u ∈ sent, u.ok = true ∧ u.statement.updates = some table ∧
      ∃ set ∈ u.statement.assignments, set.mask.column = column ∧ set.expr = expr := by
  obtain ⟨u, hu, htry⟩ := List.mem_flatMap.mp h
  obtain ⟨set, hset, heq⟩ := List.mem_map.mp htry
  obtain ⟨htable, hcolumn, hexpr, hok⟩ := Try.mk.inj heq
  exact ⟨u, hu, hok, htable, set, (List.mem_filter.mp hset).1, hcolumn, hexpr⟩

/-- A truncated entry was truncated by a successful statement. -/
theorem truncate_of_truncations {j : Nat} {sent : List (Sent F64)} {mask : TableMask}
    (h : (mask, true) ∈ truncations j sent) :
    ∃ u ∈ sent, u.ok = true ∧ ∃ i, u.statement = .truncate i mask := by
  obtain ⟨u, hu, hanswer⟩ := List.mem_filterMap.mp h
  cases hstatement : u.statement with
  | truncate i m =>
    simp only [hstatement] at hanswer
    split at hanswer
    · obtain ⟨rfl, hok⟩ := Prod.mk.inj (Option.some.inj hanswer)
      exact ⟨u, hu, hok, i, hstatement⟩
    · exact absurd hanswer (by simp)
  | _ => simp [hstatement] at hanswer

/-- A count of nothing over the positions of a list. -/
theorem of_countP_range {n : Nat} {p : Nat → Bool}
    (h : (List.range n).countP (fun i => !p i) = 0) {i : Nat} (hi : i < n) : p i = true := by
  rw [List.countP_eq_zero] at h
  simpa using h i (List.mem_range.mpr hi)

section Complete

variable {text} {manifest : Manifest F64} {infos : ColumnInfos} {outcome : RedactionOutcome}
  {sent : List (Sent F64)} (hrun : RunSent text manifest infos outcome sent)
include hrun

/-- Where no column failed, each entry was set by a successful update of its table. -/
theorem RunSent.updated (hnone : outcome.columnsFailed = 0) {i : Nat} {mask : ColumnMask F64}
    (hmask : manifest.columns[i]? = some mask) :
    ∃ u ∈ sent, u.ok = true ∧ u.statement.updates = some (toLex (mask.schema, mask.table)) ∧
      ∃ set ∈ u.statement.assignments, set.mask.column = mask.column ∧
        planned text infos mask = some set.expr := by
  have hlt : i < manifest.columns.length := (List.getElem?_eq_some_iff.mp hmask).1
  have hmasked : masked i sent = true := of_countP_range (hrun.columnsFailed.symm.trans hnone) hlt
  obtain ⟨expr, hexpr, honce⟩ := masked_of_treatment (hrun.treats hmask) hmasked
  have hmem := List.mem_filter.mp (honce ▸ List.mem_singleton_self _)
  obtain ⟨u, hu, hok, hupdates, set, hset, hcolumn, hsetExpr⟩ := update_of_tries hmem.1
  exact ⟨u, hu, hok, hupdates, set, hset, hcolumn, hsetExpr ▸ hexpr⟩

/-- Where no table failed, each was truncated by a successful statement. -/
theorem RunSent.truncates (hnone : outcome.tablesFailed = 0) {j : Nat} {mask : TableMask}
    (hmask : manifest.tables[j]? = some mask) :
    mask.kind = "truncate" ∧ ∃ u ∈ sent, u.ok = true ∧ ∃ j, u.statement = .truncate j mask := by
  have hlt : j < manifest.tables.length := (List.getElem?_eq_some_iff.mp hmask).1
  have htruncated : truncated j sent = true := of_countP_range (hrun.tablesFailed.symm.trans hnone) hlt
  have htreat := hrun.treatsTable hmask
  rw [htruncated] at htreat
  by_cases hkind : mask.kind = "truncate"
  · rw [if_pos hkind] at htreat
    have hmem : (mask, true) ∈ truncations j sent := by
      rw [htreat]
      exact List.mem_singleton_self _
    exact ⟨hkind, truncate_of_truncations hmem⟩
  · rw [if_neg hkind] at htreat
    unfold truncated at htruncated
    rw [htreat] at htruncated
    exact absurd htruncated (by simp)

end Complete

/-- **A complete redaction.**  The columns and tables a run counts are those of the document's
    annotations that can be read, each of them once, and it counts as failed just those it did not
    apply.  When none failed, each annotation of a column was set, to its own expression, by a
    successful update of its table, and each annotation of a table by a successful truncation. -/
theorem complete_applies (text : F64Text F64) (fromStr : String → Except String Value)
    (json : String) (conn : PgConnection δ) (database : δ) {manifest : Manifest F64}
    {outcome : RedactionOutcome} {s' : Session δ F64}
    (hparse : parseManifest text fromStr json = .ok manifest)
    (happly : apply conn text manifest { database := database } = (.ok outcome, s')) :
    ∃ doc annotations masks infos, fromStr json = .ok doc ∧
      EntriesOf text doc manifest annotations masks ∧
      lookedUp conn manifest { database := database } = .ok infos ∧
      outcome.columnsAttempted = annotations.length ∧
      outcome.columnsFailed =
        (List.range annotations.length).countP (fun i => !masked i s'.sent) ∧
      outcome.tablesAttempted = masks.length ∧
      outcome.tablesFailed =
        (List.range masks.length).countP (fun j => !truncated j s'.sent) ∧
      (outcome.isPartial = false →
        (∀ position a, ColumnAnnotated doc position a → ∃ u ∈ s'.sent, u.ok = true ∧
          u.statement.updates = some (toLex (a.schema, a.table)) ∧
          ∃ set ∈ u.statement.assignments, set.mask.column = a.column ∧
            planned text infos (a.columnMask text) = some set.expr) ∧
        (∀ i mask, TableAnnotated doc i mask → mask.kind = "truncate" ∧
          ∃ u ∈ s'.sent, u.ok = true ∧ ∃ j, u.statement = .truncate j mask)) := by
  obtain ⟨infos, hlooked, hrun⟩ := apply_sent conn text manifest { database := database } rfl happly
  unfold parseManifest at hparse
  cases hjson : fromStr json with
  | error e =>
    rw [hjson] at hparse
    exact absurd hparse (by simp [bind, Except.bind])
  | ok doc =>
    rw [hjson] at hparse
    have hmanifest : manifestOf text doc = manifest := Except.ok.inj hparse
    obtain ⟨annotations, masks, hentries⟩ := manifestOf_entries text doc
    rw [hmanifest] at hentries
    have hcolumns : manifest.columns.length = annotations.length := by
      rw [hentries.columns, List.length_map]
    have htables : manifest.tables.length = masks.length := by
      rw [hentries.tables, List.length_map]
    refine ⟨doc, annotations, masks, infos, rfl, hentries, hlooked,
      hcolumns ▸ hrun.attempted.1, hcolumns ▸ hrun.columnsFailed,
      htables ▸ hrun.attempted.2, htables ▸ hrun.tablesFailed, ?_⟩
    intro hcomplete
    obtain ⟨hcolumnsFailed, htablesFailed⟩ : outcome.columnsFailed = 0 ∧ outcome.tablesFailed = 0 := by
      simpa [RedactionOutcome.isPartial] using hcomplete
    constructor
    · intro position a ha
      obtain ⟨i, hi, hget⟩ :=
        List.mem_iff_getElem.mp ((hentries.columnsAnnotated position a).mpr ha)
      have hmask : manifest.columns[i]? = some (a.columnMask text) := by
        rw [hentries.columns, List.getElem?_map, List.getElem?_eq_getElem hi, hget]
        rfl
      exact hrun.updated hcolumnsFailed hmask
    · intro k mask ha
      obtain ⟨j, hj, hget⟩ := List.mem_iff_getElem.mp ((hentries.tablesAnnotated k mask).mpr ha)
      have hmask : manifest.tables[j]? = some mask := by
        rw [hentries.tables, List.getElem?_map, List.getElem?_eq_getElem hj, hget]
        rfl
      exact hrun.truncates htablesFailed hmask

/-- A document with one source: its `schema` if it has one, a truncated table and a masked column. -/
def oneSource (schema : List (String × Value)) : Value :=
  .object [("sources", .object [("source", .object (schema ++
    [("name", .string "users"),
      ("columns", .object [("email", .object [("meta", .object [("masking", .string "email")])])])]))])]

theorem complete_applies_one :
    (apply (refusing 9) plainText
        (manifestOf plainText (oneSource [("schema", .string "public")])) { database := 0 }).1
      = .ok { columnsAttempted := 1 } ∧
    ∃ u ∈ (apply (refusing 9) plainText
        (manifestOf plainText (oneSource [("schema", .string "public")])) { database := 0 }).2.sent,
      u.ok = true ∧ u.statement.updates = some (toLex ("public", "users")) := by
  have hrun : apply (refusing 9) plainText
        (manifestOf plainText (oneSource [("schema", .string "public")])) { database := 0 } =
      (.ok { columnsAttempted := 1 }, (apply (refusing 9) plainText
        (manifestOf plainText (oneSource [("schema", .string "public")])) { database := 0 }).2) :=
    Prod.ext (by decide +kernel) rfl
  obtain ⟨doc, _, _, _, hdoc, -, -, -, -, -, -, hcomplete⟩ :=
    complete_applies plainText (fun _ => .ok (oneSource [("schema", .string "public")])) "" (refusing 9)
      0 rfl hrun
  obtain rfl := Except.ok.inj hdoc
  have hannotated : ColumnAnnotated (oneSource [("schema", .string "public")]) (0, 0)
      ⟨"public", "users", "email", .string "email", "email"⟩ :=
    ⟨⟨_, _, _, ⟨⟨_, _, rfl, rfl⟩, rfl, rfl⟩, rfl, rfl, Or.inr ⟨rfl, rfl⟩⟩, Or.inl rfl⟩
  obtain ⟨u, hu, hok, hupdates, -⟩ := (hcomplete rfl).1 _ _ hannotated
  exact ⟨by decide +kernel, u, hu, hok, hupdates⟩

/-- **A source without a schema is skipped**: its column's annotation is in the document, and the
    run is complete without an update. -/
theorem complete_without_update :
    ((((((oneSource []).get "sources").bind (·.get "source")).bind (·.get "columns")).bind
      (·.get "email")).bind fun column => column.at ["meta", "masking"]) = some (.string "email") ∧
    ∃ manifest outcome s',
      parseManifest plainText (fun _ => .ok (oneSource [])) "" = .ok manifest ∧
      apply (refusing 9) plainText manifest { database := 0 } = (.ok outcome, s') ∧
      outcome.isPartial = false ∧ ∀ u ∈ s'.sent, u.statement.assignments = [] := by
  have hsent : (apply (refusing 9) plainText (manifestOf plainText (oneSource []))
      { database := 0 }).2.sent = [⟨.createExtension, true⟩, ⟨.init, true⟩] := rfl
  refine ⟨rfl, manifestOf plainText (oneSource []), {},
    (apply (refusing 9) plainText (manifestOf plainText (oneSource [])) { database := 0 }).2, rfl,
    Prod.ext (by decide +kernel) rfl, rfl, ?_⟩
  intro u hu
  rw [hsent] at hu
  rcases List.mem_cons.mp hu with rfl | hu
  · rfl
  · rw [List.mem_singleton.mp hu]
    rfl

end RestoreOperator
