import RestoreOperator.Base.Tallied
import RestoreOperator.Redaction.Apply

/-!
# `Redaction.Sent` — what a run sends for its entries

The statements a run sends, phase by phase, and what they are for one entry of the manifest.  An
entry is sent in its table's update, and on its own when that update fails; nothing else decides
what is sent for it.
-/

namespace RestoreOperator

variable {δ F64 : Type}

/-! ## Statements of an entry -/

/-- The assignments of a statement. -/
def Statement.assignments : Statement F64 → List (Assignment F64)
  | .updateTable _ as => as
  | .updateColumn _ a => [a]
  | _ => []

/-- The table a statement updates. -/
def Statement.updates : Statement F64 → Option (String ×ₗ String)
  | .updateTable table _ => some table
  | .updateColumn table _ => some table
  | _ => none

/-- What was tried for one entry: the table updated, the column set and to what, and the answer. -/
structure Try where
  table : Option (String ×ₗ String)
  column : String
  expr : String
  ok : Bool
  deriving DecidableEq

/-- What a statement tries for an entry. -/
def Sent.tries (i : Nat) (u : Sent F64) : List Try :=
  (u.statement.assignments.filter fun a => a.entry = i).map fun a =>
    ⟨u.statement.updates, a.mask.column, a.expr, u.ok⟩

/-- What the statements of a run try for an entry. -/
def triesFor (i : Nat) (sent : List (Sent F64)) : List Try := sent.flatMap (Sent.tries i)

/-- An entry that was in a successful update. -/
def masked (i : Nat) (sent : List (Sent F64)) : Bool := (triesFor i sent).any Try.ok

/-- The update of a table as a whole succeeded. -/
def tableOk (table : String ×ₗ String) (sent : List (Sent F64)) : Bool :=
  sent.any fun u =>
    match u.statement with
    | .updateTable t _ => u.ok && t = table
    | _ => false

/-- The update of an entry on its own succeeded. -/
def columnOk (i : Nat) (sent : List (Sent F64)) : Bool :=
  sent.any fun u =>
    match u.statement with
    | .updateColumn _ a => u.ok && a.entry = i
    | _ => false

/-- **What is tried for a column**: nothing without an expression; else its table's update, and its
    own after that failed. -/
def treatment (mask : ColumnMask F64) (expr : Option String) (batchOk ownOk : Bool) : List Try :=
  let table := toLex (mask.schema, mask.table)
  match expr with
  | none => []
  | some e =>
    if batchOk then [⟨some table, mask.column, e, true⟩]
    else [⟨some table, mask.column, e, false⟩, ⟨some table, mask.column, e, ownOk⟩]

/-- The truncations sent for a table entry. -/
def truncations (j : Nat) (sent : List (Sent F64)) : List (TableMask × Bool) :=
  sent.filterMap fun u =>
    match u.statement with
    | .truncate i mask => if i = j then some (mask, u.ok) else none
    | _ => none

/-- A table entry that was truncated. -/
def truncated (j : Nat) (sent : List (Sent F64)) : Bool := (truncations j sent).any Prod.snd

/-- The assignments of the successful updates. -/
def assigned (sent : List (Sent F64)) : List (Assignment F64) :=
  (sent.filter Sent.ok).flatMap fun u => u.statement.assignments

section Append

variable (xs ys : List (Sent F64))

@[simp] theorem triesFor_append (i : Nat) :
    triesFor i (xs ++ ys) = triesFor i xs ++ triesFor i ys := by
  simp [triesFor]

@[simp] theorem tableOk_append (table : String ×ₗ String) :
    tableOk table (xs ++ ys) = (tableOk table xs || tableOk table ys) := by
  simp [tableOk]

@[simp] theorem columnOk_append (i : Nat) :
    columnOk i (xs ++ ys) = (columnOk i xs || columnOk i ys) := by
  simp [columnOk]

@[simp] theorem truncations_append (j : Nat) :
    truncations j (xs ++ ys) = truncations j xs ++ truncations j ys := by
  simp [truncations]

@[simp] theorem assigned_append : assigned (xs ++ ys) = assigned xs ++ assigned ys := by
  simp [assigned]

end Append

/-- An entry is masked exactly when a successful update assigned it. -/
theorem masked_iff {i : Nat} {sent : List (Sent F64)} :
    masked i sent = true ↔ i ∈ (assigned sent).map Assignment.entry := by
  simp only [masked, triesFor, Sent.tries, assigned, List.any_flatMap, List.any_map,
    List.any_eq_true, List.mem_map, List.mem_flatMap, List.mem_filter, Function.comp_apply,
    decide_eq_true_eq]
  constructor
  · rintro ⟨u, hu, a, ⟨ha, hi⟩, hok⟩
    exact ⟨a, ⟨u, ⟨hu, hok⟩, ha⟩, hi⟩
  · rintro ⟨a, ⟨u, ⟨hu, hok⟩, ha⟩, hi⟩
    exact ⟨u, hu, a, ⟨ha, hi⟩, hok⟩

/-! ## The phases of a run -/

/-- Sending a statement adds it to what was sent, with its answer. -/
theorem send_sent (conn : PgConnection δ) (statement : Statement F64) (s : Session δ F64) :
    (send conn statement s).2.sent
      = s.sent ++ [⟨statement, (send conn statement s).1.isOk⟩] := rfl

/-- What is sent for a table of the manifest, and how many failures that is. -/
inductive TableSent : TableMask × Nat → List (Sent F64) → Nat → Prop where
  | unsupported {t : TableMask} {j : Nat} (hkind : t.kind ≠ "truncate") : TableSent (t, j) [] 1
  | done {t : TableMask} {j : Nat} (hkind : t.kind = "truncate") :
      TableSent (t, j) [⟨.truncate j t, true⟩] 0
  | refused {t : TableMask} {j : Nat} (hkind : t.kind = "truncate") :
      TableSent (t, j) [⟨.truncate j t, false⟩] 1

/-- What is sent for a column on its own. -/
inductive ColumnSent (table : String ×ₗ String) : Assignment F64 → List (Sent F64) → Nat → Prop where
  | done {a : Assignment F64} : ColumnSent table a [⟨.updateColumn table a, true⟩] 0
  | refused {a : Assignment F64} : ColumnSent table a [⟨.updateColumn table a, false⟩] 1

/-- **What is sent for a table's columns**: its update, and after that failed each column's own. -/
inductive GroupSent :
    (String ×ₗ String) × List (Assignment F64) → List (Sent F64) → Nat → Prop where
  | batched {table : String ×ₗ String} {as : List (Assignment F64)} :
      GroupSent (table, as) [⟨.updateTable table as, true⟩] 0
  | oneByOne {table : String ×ₗ String} {as : List (Assignment F64)} {sent : List (Sent F64)}
      {n : Nat} (hcolumns : Tallied (ColumnSent table) as sent n) :
      GroupSent (table, as) (⟨.updateTable table as, false⟩ :: sent) n

section Steps

variable (conn : PgConnection δ)

/-- A table is truncated, or counted. -/
theorem truncateTable_sent (acc : RedactionOutcome × Session δ F64) (table : TableMask × Nat) :
    ∃ new n, (truncateTable conn acc table).2.sent = acc.2.sent ++ new ∧ TableSent table new n ∧
      (truncateTable conn acc table).1.tablesFailed = acc.1.tablesFailed + n := by
  obtain ⟨t, j⟩ := table
  unfold truncateTable
  by_cases hkind : t.kind = "truncate"
  · rw [if_neg (not_not.mpr hkind)]
    have hsent := send_sent conn (.truncate j t) acc.2
    split
    · rename_i s hsend
      rw [hsend] at hsent
      exact ⟨_, 0, hsent, .done hkind, rfl⟩
    · rename_i e s hsend
      rw [hsend] at hsent
      exact ⟨_, 1, hsent, .refused hkind, rfl⟩
  · rw [if_pos hkind]
    exact ⟨[], 1, (List.append_nil _).symm, .unsupported hkind, rfl⟩

/-- Every table is attempted. -/
theorem truncateTable_attempted (acc : RedactionOutcome × Session δ F64)
    (table : TableMask × Nat) :
    (truncateTable conn acc table).1.tablesAttempted = acc.1.tablesAttempted + 1 := by
  unfold truncateTable
  split
  · rfl
  · split <;> rfl

/-- The tables leave the count of columns alone. -/
theorem truncateTable_columns (acc : RedactionOutcome × Session δ F64) (table : TableMask × Nat) :
    ((truncateTable conn acc table).1.columnsAttempted, (truncateTable conn acc table).1.columnsFailed)
      = (acc.1.columnsAttempted, acc.1.columnsFailed) := by
  unfold truncateTable
  split
  · rfl
  · split <;> rfl

/-- A column on its own is updated, or counted. -/
theorem updateColumn_sent (table : String ×ₗ String) (acc : Nat × Session δ F64)
    (a : Assignment F64) :
    ∃ new n, (updateColumn conn table acc a).2.sent = acc.2.sent ++ new ∧
      ColumnSent table a new n ∧ (updateColumn conn table acc a).1 = acc.1 + n := by
  unfold updateColumn
  have hsent := send_sent conn (.updateColumn table a) acc.2
  split
  · rename_i s hsend
    rw [hsend] at hsent
    exact ⟨_, 0, hsent, .done, rfl⟩
  · rename_i e s hsend
    rw [hsend] at hsent
    exact ⟨_, 1, hsent, .refused, rfl⟩

/-- The columns of a table are updated at once, or else one by one. -/
theorem applyTableMasks_sent (table : String ×ₗ String) (as : List (Assignment F64))
    (s : Session δ F64) :
    ∃ new n, (applyTableMasks conn table as s).2.sent = s.sent ++ new ∧
      GroupSent (table, as) new n ∧ (applyTableMasks conn table as s).1 = n := by
  unfold applyTableMasks
  have hsent := send_sent conn (.updateTable table as) s
  split
  · rename_i s' hsend
    rw [hsend] at hsent
    exact ⟨_, 0, hsent, .batched, rfl⟩
  · rename_i e s' hsend
    rw [hsend] at hsent
    obtain ⟨new, n, hlog, hcolumns, hcount⟩ :=
      Tallied.of_foldl (fun acc : Nat × Session δ F64 => acc.2.sent) Prod.fst
        (updateColumn_sent conn table) as (0, s')
    refine ⟨⟨.updateTable table as, false⟩ :: new, n, ?_, .oneByOne hcolumns, ?_⟩
    · rw [hlog, hsent, List.append_assoc]
      rfl
    · rw [hcount, Nat.zero_add]

/-- A group adds its failures to the count of columns, and nothing else. -/
theorem applyGroup_sent (acc : RedactionOutcome × Session δ F64)
    (group : (String ×ₗ String) × List (Assignment F64)) :
    ∃ new n, (applyGroup conn acc group).2.sent = acc.2.sent ++ new ∧ GroupSent group new n ∧
      (applyGroup conn acc group).1.columnsFailed = acc.1.columnsFailed + n := by
  obtain ⟨new, n, hlog, hgroup, hcount⟩ := applyTableMasks_sent conn group.1 group.2 acc.2
  refine ⟨new, n, hlog, hgroup, ?_⟩
  rw [← hcount]
  rfl

theorem applyGroup_rest (acc : RedactionOutcome × Session δ F64)
    (group : (String ×ₗ String) × List (Assignment F64)) :
    { (applyGroup conn acc group).1 with columnsFailed := 0 } = { acc.1 with columnsFailed := 0 } :=
  rfl

end Steps

/-! ## The plan of the columns -/

/-- The expression an entry is assigned, from what is known of its column. -/
def planned (text : F64Text F64) (infos : ColumnInfos) (mask : ColumnMask F64) : Option String :=
  match infos (colKey mask) with
  | none => none
  | some info => (maskExpression text mask (some info)).toOption

/-- The assignment of an entry. -/
def assignmentOf (text : F64Text F64) (infos : ColumnInfos) (column : ColumnMask F64 × Nat) :
    Option (Assignment F64) :=
  (planned text infos column.1).map fun expr =>
    { entry := column.2, mask := column.1, expr := expr }

/-- An entry is planned in its table's group, or counted as failed. -/
theorem planColumn_eq (text : F64Text F64) (infos : ColumnInfos)
    (acc : RedactionOutcome × ByTable F64) (column : ColumnMask F64 × Nat) :
    planColumn text infos acc column =
      match assignmentOf text infos column with
      | some a => ({ acc.1 with columnsAttempted := acc.1.columnsAttempted + 1 }, acc.2.push a)
      | none =>
        ({ acc.1 with
            columnsAttempted := acc.1.columnsAttempted + 1
            columnsFailed := acc.1.columnsFailed + 1 }, acc.2) := by
  unfold planColumn assignmentOf planned
  cases infos (colKey column.1) with
  | none => rfl
  | some info =>
    simp only []
    cases maskExpression text column.1 (some info) <;> rfl

/-- **The plan holds every entry that has an expression**, and counts the others. -/
theorem planColumns (text : F64Text F64) (infos : ColumnInfos)
    (columns : List (ColumnMask F64 × Nat)) (acc : RedactionOutcome × ByTable F64) :
    (columns.foldl (planColumn text infos) acc).2.elems.Perm
        (acc.2.elems ++ columns.filterMap (assignmentOf text infos)) ∧
      (columns.foldl (planColumn text infos) acc).1 =
        { acc.1 with
          columnsAttempted := acc.1.columnsAttempted + columns.length
          columnsFailed := acc.1.columnsFailed +
            columns.countP fun c => (assignmentOf text infos c).isNone } := by
  induction columns generalizing acc with
  | nil => simp
  | cons column rest ih =>
    obtain ⟨hperm, houtcome⟩ := ih (planColumn text infos acc column)
    rw [List.foldl_cons]
    have hstep := planColumn_eq text infos acc column
    cases hassign : assignmentOf text infos column with
    | some a =>
      rw [hassign] at hstep
      simp only [] at hstep
      rw [hstep] at hperm houtcome ⊢
      constructor
      · rw [List.filterMap_cons_some hassign]
        have hpush := (acc.2.elems_push a).append_right (rest.filterMap (assignmentOf text infos))
        rw [List.append_assoc] at hpush
        exact hperm.trans hpush
      · rw [houtcome, List.countP_cons, hassign, List.length_cons]
        simp only [RedactionOutcome.mk.injEq]
        simp
        omega
    | none =>
      rw [hassign] at hstep
      simp only [] at hstep
      rw [hstep] at hperm houtcome ⊢
      constructor
      · rw [List.filterMap_cons_none hassign]
        exact hperm
      · rw [houtcome, List.countP_cons, hassign, List.length_cons]
        simp only [RedactionOutcome.mk.injEq]
        simp
        omega

/-! ## A whole run -/

section Run

variable (conn : PgConnection δ) (text : F64Text F64) (manifest : Manifest F64)
  (s : Session δ F64)

/-- The session once the tables are done. -/
def afterTables : Session δ F64 :=
  (manifest.tables.zipIdx.foldl (truncateTable conn)
    ({}, (send conn .init (send conn .createExtension s).2).2)).2

/-- What a run finds out about the columns. -/
def lookedUp : Except Error ColumnInfos :=
  (lookupColumnInfos conn manifest.columns (afterTables conn manifest s)).1

/-- **What a run that returns sends, and what it answers.** -/
inductive RunSent (infos : ColumnInfos) : RedactionOutcome → List (Sent F64) → Prop where
  | intro {byTable : ByTable F64} {tables columns : List (Sent F64)} {nTables nColumns : Nat}
      (hplan : byTable.elems.Perm
        (manifest.columns.zipIdx.filterMap (assignmentOf text infos)))
      (htables : Tallied TableSent manifest.tables.zipIdx tables nTables)
      (hcolumns : Tallied GroupSent byTable.groups columns nColumns) :
      RunSent infos
        { columnsAttempted := manifest.columns.length
          columnsFailed := (manifest.columns.zipIdx.countP fun c =>
            (assignmentOf text infos c).isNone) + nColumns
          tablesAttempted := manifest.tables.length
          tablesFailed := nTables }
        (⟨.createExtension, true⟩ :: ⟨.init, true⟩ :: (tables ++ columns))

/-- The look-up of the columns sends nothing that changes the database. -/
theorem lookupColumnInfos_sent :
    (lookupColumnInfos conn manifest.columns s).2.sent = s.sent := by
  unfold lookupColumnInfos
  split
  · rfl
  · split <;> rfl

/-- What the tables of a manifest come to, with what is sent for them. -/
theorem truncateTables_sent (hs : s.sent = [⟨.createExtension, true⟩, ⟨.init, true⟩]) :
    ∃ tables nTables,
      (manifest.tables.zipIdx.foldl (truncateTable conn) ({}, s)).2.sent
        = ⟨.createExtension, true⟩ :: ⟨.init, true⟩ :: tables ∧
      Tallied TableSent manifest.tables.zipIdx tables nTables ∧
      (manifest.tables.zipIdx.foldl (truncateTable conn) ({}, s)).1
        = { tablesAttempted := manifest.tables.length, tablesFailed := nTables } := by
  obtain ⟨tables, nTables, hlog, htables, hcount⟩ :=
    Tallied.of_foldl (fun acc : RedactionOutcome × Session δ F64 => acc.2.sent)
      (fun acc => acc.1.tablesFailed) (truncateTable_sent conn) manifest.tables.zipIdx ({}, s)
  have hattempted := Tallied.foldl_counts
    (fun acc : RedactionOutcome × Session δ F64 => acc.1.tablesAttempted)
    (truncateTable_attempted conn) manifest.tables.zipIdx ({}, s)
  have hkept := Tallied.foldl_keeps
    (fun acc : RedactionOutcome × Session δ F64 => (acc.1.columnsAttempted, acc.1.columnsFailed))
    (truncateTable_columns conn) manifest.tables.zipIdx ({}, s)
  refine ⟨tables, nTables, ?_, htables, ?_⟩
  · rw [hlog, hs]
    rfl
  · have hcolumns := Prod.mk.inj hkept
    rw [RedactionOutcome.mk.injEq]
    refine ⟨hcolumns.1, hcolumns.2, ?_, ?_⟩
    · rw [hattempted, List.length_zipIdx, Nat.zero_add]
    · rw [hcount, Nat.zero_add]

/-- What the groups of columns come to. -/
theorem applyGroups_sent (byTable : ByTable F64) (outcome : RedactionOutcome) :
    ∃ columns nColumns,
      (byTable.groups.foldl (applyGroup conn) (outcome, s)).2.sent = s.sent ++ columns ∧
      Tallied GroupSent byTable.groups columns nColumns ∧
      (byTable.groups.foldl (applyGroup conn) (outcome, s)).1
        = { outcome with columnsFailed := outcome.columnsFailed + nColumns } := by
  obtain ⟨columns, nColumns, hlog, hcolumns, hcount⟩ :=
    Tallied.of_foldl (fun acc : RedactionOutcome × Session δ F64 => acc.2.sent)
      (fun acc => acc.1.columnsFailed) (applyGroup_sent conn) byTable.groups (outcome, s)
  have hkept := Tallied.foldl_keeps
    (fun acc : RedactionOutcome × Session δ F64 => { acc.1 with columnsFailed := 0 })
    (applyGroup_rest conn) byTable.groups (outcome, s)
  refine ⟨columns, nColumns, hlog, hcolumns, ?_⟩
  have hrest := RedactionOutcome.mk.inj hkept
  rw [RedactionOutcome.mk.injEq]
  exact ⟨hrest.1, hcount, hrest.2.2.1, hrest.2.2.2⟩

/-- **A run that returns went through its phases.** -/
theorem apply_sent {outcome : RedactionOutcome} {s' : Session δ F64} (hs : s.sent = [])
    (h : apply conn text manifest s = (.ok outcome, s')) :
    ∃ infos, lookedUp conn manifest s = .ok infos ∧
      RunSent text manifest infos outcome s'.sent := by
  unfold apply at h
  have hcreate := send_sent conn .createExtension s
  split at h
  · exact absurd (Prod.mk.inj h).1 (by simp)
  · rename_i s₁ hsend₁
    rw [hsend₁, hs] at hcreate
    have hinit := send_sent conn .init s₁
    split at h
    · exact absurd (Prod.mk.inj h).1 (by simp)
    · rename_i s₂ hsend₂
      rw [hsend₂, hcreate] at hinit
      obtain ⟨tables, nTables, hlogT, htables, houtT⟩ :=
        truncateTables_sent conn manifest s₂ hinit
      have hafter : afterTables conn manifest s
          = (manifest.tables.zipIdx.foldl (truncateTable conn) ({}, s₂)).2 := by
        unfold afterTables
        rw [hsend₁, hsend₂]
      have hlookup := lookupColumnInfos_sent conn manifest (afterTables conn manifest s)
      split at h
      rename_i outT sT hfoldT
      rw [hfoldT] at hlogT houtT hafter
      rw [hafter] at hlookup
      split at h
      · exact absurd (Prod.mk.inj h).1 (by simp)
      · rename_i infos sL hlook
        rw [hlook] at hlookup
        refine ⟨infos, by rw [lookedUp, hafter, hlook], ?_⟩
        obtain ⟨hperm, houtP⟩ := planColumns text infos manifest.columns.zipIdx (outT, .empty)
        split at h
        rename_i outP byTable hplan
        rw [hplan] at hperm houtP
        obtain ⟨columns, nColumns, hlogC, hcolumns, houtC⟩ :=
          applyGroups_sent conn sL byTable outP
        split at h
        rename_i outC sC hgroups
        rw [hgroups] at hlogC houtC
        obtain ⟨hout, hsession⟩ := Prod.mk.inj h
        have hsent : s'.sent
            = ⟨.createExtension, true⟩ :: ⟨.init, true⟩ :: (tables ++ columns) := by
          rw [← hsession, hlogC, hlookup, hlogT]
          rfl
        have houtcome : outcome =
            { columnsAttempted := manifest.columns.length
              columnsFailed := (manifest.columns.zipIdx.countP fun c =>
                (assignmentOf text infos c).isNone) + nColumns
              tablesAttempted := manifest.tables.length
              tablesFailed := nTables } := by
          have hT : outT = _ := houtT
          have hP : outP = _ := houtP
          have hC : outC = _ := houtC
          rw [← Except.ok.inj hout, hC, hP, hT]
          simp
        rw [hsent, houtcome]
        exact .intro (by simpa using hperm) htables hcolumns

end Run

end RestoreOperator
