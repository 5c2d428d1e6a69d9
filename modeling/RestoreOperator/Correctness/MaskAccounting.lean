import RestoreOperator.Redaction.Sent

/-!
# `Correctness.MaskAccounting` — every entry of a manifest is masked once, or counted

A run that returns masks each entry in exactly one successful statement, or counts it once as
failed; and what it tries for an entry depends on the entry's own expression and answers alone.
-/

namespace RestoreOperator

variable {δ F64 : Type}

/-! ## Nothing is lost -/

/-- A column's own update assigns it, or counts it. -/
theorem ColumnSent.perm {table : String ×ₗ String} {a : Assignment F64} {sent : List (Sent F64)}
    {n : Nat} (h : ColumnSent table a sent n) :
    ∃ failed, failed.length = n ∧ (assigned sent ++ failed).Perm [a] := by
  cases h with
  | done => exact ⟨[], rfl, by simp [assigned, Statement.assignments]⟩
  | refused => exact ⟨[a], rfl, by simp [assigned]⟩

/-- A table's updates assign its columns, or count them. -/
theorem GroupSent.perm {group : (String ×ₗ String) × List (Assignment F64)}
    {sent : List (Sent F64)} {n : Nat} (h : GroupSent group sent n) :
    ∃ failed, failed.length = n ∧ (assigned sent ++ failed).Perm group.2 := by
  cases h with
  | batched => exact ⟨[], rfl, by simp [assigned, Statement.assignments]⟩
  | @oneByOne table as sent n hcolumns =>
    obtain ⟨failed, hlen, hperm⟩ :=
      hcolumns.perm (fun a => [a]) assigned rfl assigned_append ColumnSent.perm
    refine ⟨failed, hlen, ?_⟩
    simpa [assigned] using hperm

/-- All the updates of a run together. -/
theorem groups_perm {groups : List ((String ×ₗ String) × List (Assignment F64))}
    {sent : List (Sent F64)} {n : Nat} (h : Tallied GroupSent groups sent n) :
    ∃ failed, failed.length = n ∧ (assigned sent ++ failed).Perm (groups.flatMap Prod.snd) :=
  h.perm Prod.snd assigned rfl assigned_append GroupSent.perm

/-- The entries with an assignment, and the entries without one, are all the entries. -/
theorem entries_perm (text : F64Text F64) (infos : ColumnInfos)
    (columns : List (ColumnMask F64 × Nat)) :
    (((columns.filterMap (assignmentOf text infos)).map Assignment.entry) ++
      ((columns.filter fun c => (assignmentOf text infos c).isNone).map Prod.snd)).Perm
      (columns.map Prod.snd) := by
  induction columns with
  | nil => simp
  | cons column rest ih =>
    cases hassign : assignmentOf text infos column with
    | some a =>
      have hentry : a.entry = column.2 := by
        obtain ⟨expr, -, ha⟩ := Option.map_eq_some_iff.mp hassign
        rw [← ha]
      rw [List.filterMap_cons_some hassign, List.filter_cons_of_neg (by simp [hassign]),
        List.map_cons, List.map_cons, hentry, List.cons_append]
      exact ih.cons column.2
    | none =>
      rw [List.filterMap_cons_none hassign, List.filter_cons_of_pos (by simp [hassign]),
        List.map_cons, List.map_cons]
      exact List.perm_middle.trans (ih.cons column.2)

/-! ## What is tried for an entry -/

/-- A statement that does not name an entry tries nothing for it. -/
theorem tries_eq_nil {i : Nat} {u : Sent F64} (h : ∀ a ∈ u.statement.assignments, a.entry ≠ i) :
    u.tries i = [] := by
  unfold Sent.tries
  rw [List.map_eq_nil_iff, List.filter_eq_nil_iff]
  intro a ha
  simpa using h a ha

theorem triesFor_eq_nil {i : Nat} {sent : List (Sent F64)}
    (h : ∀ u ∈ sent, ∀ a ∈ u.statement.assignments, a.entry ≠ i) : triesFor i sent = [] :=
  List.flatMap_eq_nil_iff.mpr fun u hu => tries_eq_nil (h u hu)

/-- An entry's own update is among the statements that name it. -/
theorem columnOk_eq_false {i : Nat} {sent : List (Sent F64)}
    (h : ∀ u ∈ sent, ∀ a ∈ u.statement.assignments, a.entry ≠ i) : columnOk i sent = false := by
  unfold columnOk
  rw [List.any_eq_false]
  intro u hu
  have hnames := h u hu
  split
  · rename_i t a hstatement
    have hne : a.entry ≠ i := hnames a (by rw [hstatement]; exact List.mem_singleton_self a)
    simp [hne]
  · simp

/-- The updates of other tables are not this one's. -/
theorem tableOk_eq_false {table : String ×ₗ String} {sent : List (Sent F64)}
    (h : ∀ u ∈ sent, u.statement.updates ≠ some table) : tableOk table sent = false := by
  unfold tableOk
  rw [List.any_eq_false]
  intro u hu
  have hupdates := h u hu
  split
  · rename_i t as hstatement
    have hne : t ≠ table := by
      intro ht
      exact hupdates (by rw [hstatement, ht]; rfl)
    simp [hne]
  · simp

/-- The truncations update no column. -/
theorem TableSent.silent {table : TableMask × Nat} {sent : List (Sent F64)} {n : Nat}
    (h : TableSent table sent n) {u : Sent F64} (hu : u ∈ sent) :
    u.statement.assignments = [] ∧ u.statement.updates = none := by
  cases h with
  | unsupported => exact absurd hu (by simp)
  | done | refused =>
    rw [List.mem_singleton.mp hu]
    exact ⟨rfl, rfl⟩

/-- A column's own statement is an update of its table. -/
theorem ColumnSent.names {table : String ×ₗ String} {a : Assignment F64} {sent : List (Sent F64)}
    {n : Nat} (h : ColumnSent table a sent n) {u : Sent F64} (hu : u ∈ sent) :
    u.statement = .updateColumn table a := by
  cases h with
  | done | refused => rw [List.mem_singleton.mp hu]

/-- The statements of a group are updates of its table, of columns in the group. -/
theorem GroupSent.names {group : (String ×ₗ String) × List (Assignment F64)}
    {sent : List (Sent F64)} {n : Nat} (h : GroupSent group sent n) {u : Sent F64} (hu : u ∈ sent) :
    u.statement.updates = some group.1 ∧ ∀ a ∈ u.statement.assignments, a ∈ group.2 := by
  cases h with
  | batched =>
    rw [List.mem_singleton.mp hu]
    exact ⟨rfl, fun _ ha => ha⟩
  | oneByOne hcolumns =>
    rcases List.mem_cons.mp hu with rfl | hu
    · exact ⟨rfl, fun _ ha => ha⟩
    · obtain ⟨a, ha, ys, m, hys, hmem⟩ := hcolumns.report hu
      rw [hys.names hmem]
      refine ⟨rfl, ?_⟩
      intro b hb
      rw [List.mem_singleton.mp hb]
      exact ha

/-- Where no two elements have one key, the others do not have this one's. -/
theorem key_ne_of_nodup {α β : Type} {key : α → β} {before after : List α} {a b : α}
    (h : ((before ++ a :: after).map key).Nodup) (hb : b ∈ before ∨ b ∈ after) : key b ≠ key a := by
  rw [List.map_append, List.map_cons, List.nodup_middle, List.nodup_cons, ← List.map_append] at h
  intro heq
  exact h.1 (heq ▸ List.mem_map_of_mem (List.mem_append.mpr hb))

/-- The updates of the other assignments of a table do not name this one's entry. -/
theorem columns_unnamed {table : String ×ₗ String} {as : List (Assignment F64)} {sent : List (Sent F64)}
    {n i : Nat} (h : Tallied (ColumnSent table) as sent n) (hentry : ∀ b ∈ as, b.entry ≠ i) :
    ∀ u ∈ sent, ∀ b ∈ u.statement.assignments, b.entry ≠ i := by
  intro u hu b hb
  obtain ⟨c, hc, _, _, hsent, hmem⟩ := h.report hu
  rw [hsent.names hmem] at hb
  rw [List.mem_singleton.mp hb]
  exact hentry c hc

/-- An entry's own update, among the others of its table. -/
theorem columns_treat {table : String ×ₗ String} {as : List (Assignment F64)}
    {sent : List (Sent F64)} {n : Nat} (h : Tallied (ColumnSent table) as sent n)
    (hnodup : (as.map Assignment.entry).Nodup) {a : Assignment F64} (ha : a ∈ as) :
    triesFor a.entry sent = [⟨some table, a.mask.column, a.expr, columnOk a.entry sent⟩] := by
  obtain ⟨before, after, rfl⟩ := List.append_of_mem ha
  obtain ⟨xs, ys, zs, k, m, l, rfl, hxs, hys, hzs⟩ := h.split
  have hbefore := columns_unnamed hxs fun b hb => key_ne_of_nodup hnodup (.inl hb)
  have hafter := columns_unnamed hzs fun b hb => key_ne_of_nodup hnodup (.inr hb)
  rw [triesFor_append, triesFor_append, triesFor_eq_nil hbefore, triesFor_eq_nil hafter,
    columnOk_append, columnOk_append, columnOk_eq_false hbefore, columnOk_eq_false hafter]
  cases hys <;> simp [triesFor, Sent.tries, Statement.assignments, Statement.updates, columnOk]

/-- What one group tries for an entry of it. -/
theorem group_treat {group : (String ×ₗ String) × List (Assignment F64)} {sent : List (Sent F64)}
    {n : Nat} (h : GroupSent group sent n) (hnodup : (group.2.map Assignment.entry).Nodup)
    {a : Assignment F64} (ha : a ∈ group.2) (htable : a.table = group.1) :
    triesFor a.entry sent
      = treatment a.mask (some a.expr) (tableOk a.table sent) (columnOk a.entry sent) := by
  have hsame : (group.2.filter fun b => b.entry = a.entry) = [a] := by
    obtain ⟨before, after, hlist⟩ := List.append_of_mem ha
    rw [hlist] at hnodup ⊢
    have hbefore : (before.filter fun b => b.entry = a.entry) = [] :=
      List.filter_eq_nil_iff.mpr fun b hb => by simpa using key_ne_of_nodup hnodup (.inl hb)
    have hafter : (after.filter fun b => b.entry = a.entry) = [] :=
      List.filter_eq_nil_iff.mpr fun b hb => by simpa using key_ne_of_nodup hnodup (.inr hb)
    rw [List.filter_append, List.filter_cons_of_pos (by simp), hbefore, hafter, List.nil_append]
  have hmask : toLex (a.mask.schema, a.mask.table) = group.1 := htable
  rw [htable]
  cases h with
  | batched =>
    simp [triesFor, Sent.tries, Statement.assignments, Statement.updates, hsame, treatment, tableOk,
      hmask]
  | @oneByOne table as sent n hcolumns =>
    have hown := columns_treat hcolumns hnodup ha
    have hno : tableOk table sent = false := by
      unfold tableOk
      rw [List.any_eq_false]
      intro u hu
      obtain ⟨_, _, _, _, hsent, hmem⟩ := hcolumns.report hu
      rw [hsent.names hmem]
      simp
    have hbatch : columnOk a.entry (⟨.updateTable table as, false⟩ :: sent)
        = columnOk a.entry sent := rfl
    have hupdate : tableOk table (⟨.updateTable table as, false⟩ :: sent) = tableOk table sent := rfl
    rw [hbatch, hupdate, hno]
    have hcons : triesFor a.entry (⟨.updateTable table as, false⟩ :: sent)
        = Sent.tries a.entry ⟨.updateTable table as, false⟩ ++ triesFor a.entry sent := rfl
    rw [hcons, hown]
    simp only [Sent.tries, Statement.assignments, Statement.updates, hsame, treatment, hmask]
    rfl

/-! ## A whole run -/

section Run

variable {text : F64Text F64} {manifest : Manifest F64} {infos : ColumnInfos}
  {outcome : RedactionOutcome} {sent : List (Sent F64)}

/-- The assignment of an entry carries the entry and its mask. -/
theorem assignmentOf_eq_some {column : ColumnMask F64 × Nat} {a : Assignment F64}
    (h : assignmentOf text infos column = some a) :
    a.entry = column.2 ∧ a.mask = column.1 ∧ planned text infos column.1 = some a.expr := by
  obtain ⟨expr, hexpr, ha⟩ := Option.map_eq_some_iff.mp h
  rw [← ha]
  exact ⟨rfl, rfl, hexpr⟩

/-- No entry has two assignments. -/
theorem entries_nodup (text : F64Text F64) (infos : ColumnInfos) (columns : List (ColumnMask F64)) :
    ((columns.zipIdx.filterMap (assignmentOf text infos)).map Assignment.entry).Nodup := by
  have hperm := entries_perm text infos columns.zipIdx
  have hall : (columns.zipIdx.map Prod.snd).Nodup := by
    rw [List.zipIdx_map_snd]
    exact List.nodup_range'
  exact (List.nodup_append.mp (hperm.nodup_iff.mpr hall)).1

/-- Nothing among the statements is about an entry or its table. -/
def Silent (i : Nat) (table : String ×ₗ String) (sent : List (Sent F64)) : Prop :=
  ∀ u ∈ sent, u.statement.updates ≠ some table ∧ ∀ a ∈ u.statement.assignments, a.entry ≠ i

/-- Silent statements around others are not seen. -/
theorem treatment_around {i : Nat} {table : String ×ₗ String} {before after : List (Sent F64)}
    (hbefore : Silent i table before) (hafter : Silent i table after) (sent : List (Sent F64)) :
    triesFor i (before ++ (sent ++ after)) = triesFor i sent ∧
      tableOk table (before ++ (sent ++ after)) = tableOk table sent ∧
      columnOk i (before ++ (sent ++ after)) = columnOk i sent := by
  refine ⟨?_, ?_, ?_⟩
  · rw [triesFor_append, triesFor_append, triesFor_eq_nil fun u hu => (hbefore u hu).2,
      triesFor_eq_nil fun u hu => (hafter u hu).2, List.nil_append, List.append_nil]
  · rw [tableOk_append, tableOk_append, tableOk_eq_false fun u hu => (hbefore u hu).1,
      tableOk_eq_false fun u hu => (hafter u hu).1, Bool.false_or, Bool.or_false]
  · rw [columnOk_append, columnOk_append, columnOk_eq_false fun u hu => (hbefore u hu).2,
      columnOk_eq_false fun u hu => (hafter u hu).2, Bool.false_or, Bool.or_false]

/-- The statements before the columns' are about no column. -/
theorem start_names {tables : List (Sent F64)} {ts : List (TableMask × Nat)} {n : Nat}
    (htables : Tallied TableSent ts tables n) {u : Sent F64}
    (hu : u ∈ ⟨.createExtension, true⟩ :: ⟨.init, true⟩ :: tables) :
    u.statement.assignments = [] ∧ u.statement.updates = none := by
  rcases List.mem_cons.mp hu with rfl | hu
  · exact ⟨rfl, rfl⟩
  · rcases List.mem_cons.mp hu with rfl | hu
    · exact ⟨rfl, rfl⟩
    · obtain ⟨_, _, _, _, hsent, hmem⟩ := htables.report hu
      exact hsent.silent hmem

theorem start_silent {tables : List (Sent F64)} {ts : List (TableMask × Nat)} {n : Nat}
    (htables : Tallied TableSent ts tables n) (i : Nat) (table : String ×ₗ String) :
    Silent i table (⟨.createExtension, true⟩ :: ⟨.init, true⟩ :: tables) := by
  intro u hu
  obtain ⟨hassign, hupdates⟩ := start_names htables hu
  rw [hassign, hupdates]
  simp

/-- The groups of other tables, with other entries, are silent. -/
theorem groups_silent {groups : List ((String ×ₗ String) × List (Assignment F64))}
    {sent : List (Sent F64)} {n : Nat} (h : Tallied GroupSent groups sent n) {i : Nat}
    {table : String ×ₗ String} (htable : ∀ g ∈ groups, g.1 ≠ table)
    (hentry : ∀ g ∈ groups, ∀ a ∈ g.2, a.entry ≠ i) : Silent i table sent := by
  intro u hu
  obtain ⟨g, hg, _, _, hsent, hmem⟩ := h.report hu
  obtain ⟨hupdates, hassign⟩ := hsent.names hmem
  refine ⟨?_, fun a ha => hentry g hg a (hassign a ha)⟩
  rw [hupdates]
  exact fun heq => htable g hg (Option.some.inj heq)

/-- What the updates of all tables try for an entry that has an assignment. -/
theorem groups_treat {byTable : ByTable F64} {columns : List (Sent F64)} {n : Nat}
    (hcolumns : Tallied GroupSent byTable.groups columns n)
    (hnodup : (byTable.elems.map Assignment.entry).Nodup) {a : Assignment F64} (ha : a ∈ byTable.elems) :
    triesFor a.entry columns
      = treatment a.mask (some a.expr) (tableOk a.table columns) (columnOk a.entry columns) := by
  -- the assignment is in its table's group; the other groups have other tables
  obtain ⟨as, hgroup, hmem⟩ := GroupedBy.mem_group ha
  obtain ⟨before, after, hgroups⟩ := List.append_of_mem hgroup
  rw [hgroups] at hcolumns
  obtain ⟨xs, ys, zs, _, _, _, rfl, hxs, hys, hzs⟩ := hcolumns.split
  have hsorted := byTable.sorted
  rw [hgroups, List.pairwise_append, List.pairwise_cons] at hsorted
  obtain ⟨-, ⟨hlater, -⟩, hearlier⟩ := hsorted
  rw [GroupedBy.elems, hgroups, List.flatMap_append, List.flatMap_cons, List.map_append,
    List.map_append, List.nodup_append, List.nodup_append] at hnodup
  obtain ⟨-, ⟨hown, -, hdisjointAfter⟩, hdisjointBefore⟩ := hnodup
  have hentry : a.entry ∈ as.map Assignment.entry := List.mem_map_of_mem hmem
  have hbefore : Silent a.entry a.table xs := by
    apply groups_silent hxs
    · intro g hg
      exact ne_of_lt (hearlier g hg _ List.mem_cons_self)
    · intro g hg b hb
      exact hdisjointBefore _ (List.mem_map_of_mem (List.mem_flatMap.mpr ⟨g, hg, hb⟩)) _
        (List.mem_append_left _ hentry)
  have hafter : Silent a.entry a.table zs := by
    apply groups_silent hzs
    · intro g hg
      exact (ne_of_lt (hlater g hg)).symm
    · intro g hg b hb
      exact (hdisjointAfter _ hentry _
        (List.mem_map_of_mem (List.mem_flatMap.mpr ⟨g, hg, hb⟩))).symm
  obtain ⟨htries, htable, hcolumn⟩ := treatment_around hbefore hafter ys
  rw [htries, htable, hcolumn]
  exact group_treat hys hown hmem rfl

/-- An entry whose expression could not be built has no assignment. -/
theorem entry_ne_of_unplanned {byTable : ByTable F64}
    (hplan : byTable.elems.Perm (manifest.columns.zipIdx.filterMap (assignmentOf text infos))) {i : Nat}
    {mask : ColumnMask F64} (hmask : manifest.columns[i]? = some mask)
    (hplanned : planned text infos mask = none) : ∀ a ∈ byTable.elems, a.entry ≠ i := by
  intro a ha heq
  obtain ⟨c, hc, hassign⟩ := List.mem_filterMap.mp (hplan.mem_iff.mp ha)
  obtain ⟨hi, -, hexpr⟩ := assignmentOf_eq_some hassign
  have hget := List.mem_zipIdx_iff_getElem?.mp hc
  rw [← hi, heq, hmask] at hget
  rw [← Option.some.inj hget, hplanned] at hexpr
  cases hexpr

/-- **What a run tries for an entry**: as its own expression and its own answers have it. -/
theorem RunSent.treats (h : RunSent text manifest infos outcome sent) {i : Nat}
    {mask : ColumnMask F64} (hmask : manifest.columns[i]? = some mask) :
    triesFor i sent = treatment mask (planned text infos mask)
      (tableOk (toLex (mask.schema, mask.table)) sent) (columnOk i sent) := by
  cases h with
  | @intro byTable tables columns nTables nColumns hplan htables hcolumns =>
    cases hplanned : planned text infos mask with
    | none =>
      have hentry := entry_ne_of_unplanned hplan hmask hplanned
      apply triesFor_eq_nil
      intro u hu
      rw [← List.cons_append, ← List.cons_append] at hu
      rcases List.mem_append.mp hu with hu | hu
      · rw [(start_names htables hu).1]
        simp
      · obtain ⟨g, hg, _, _, hsent, hmem⟩ := hcolumns.report hu
        intro a ha
        exact hentry a (List.mem_flatMap.mpr ⟨g, hg, (hsent.names hmem).2 a ha⟩)
    | some expr =>
      have hcolumn : (mask, i) ∈ manifest.columns.zipIdx := List.mem_zipIdx_iff_getElem?.mpr hmask
      have hassign : assignmentOf text infos (mask, i) = some ⟨i, mask, expr⟩ := by
        simp [assignmentOf, hplanned]
      have hmem : (⟨i, mask, expr⟩ : Assignment F64) ∈ byTable.elems :=
        hplan.mem_iff.mpr (List.mem_filterMap.mpr ⟨(mask, i), hcolumn, hassign⟩)
      have hnodup : (byTable.elems.map Assignment.entry).Nodup :=
        (hplan.map _).nodup_iff.mpr (entries_nodup text infos manifest.columns)
      have hend : Silent i (toLex (mask.schema, mask.table)) ([] : List (Sent F64)) := by
        intro u hu
        cases hu
      obtain ⟨htries, htable, hcol⟩ := treatment_around
        (start_silent htables i (toLex (mask.schema, mask.table))) hend columns
      rw [List.append_nil, List.cons_append, List.cons_append] at htries htable hcol
      rw [htries, htable, hcol]
      exact groups_treat hcolumns hnodup hmem

/-- An entry was tried as a success exactly when it is masked. -/
theorem masked_of_treatment {i : Nat} {mask : ColumnMask F64} {expr : Option String} {b o : Bool}
    (h : triesFor i sent = treatment mask expr b o) (hmasked : masked i sent = true) :
    ∃ e, expr = some e ∧ (triesFor i sent).filter Try.ok
      = [⟨some (toLex (mask.schema, mask.table)), mask.column, e, true⟩] := by
  unfold masked at hmasked
  rw [h] at hmasked ⊢
  cases expr with
  | none => simp [treatment] at hmasked
  | some e =>
    refine ⟨e, rfl, ?_⟩
    cases b with
    | true => simp [treatment]
    | false =>
      cases o with
      | true => simp [treatment]
      | false => simp [treatment] at hmasked

/-- **The failures of a run are its entries in no successful update.** -/
theorem RunSent.columnsFailed (h : RunSent text manifest infos outcome sent) :
    outcome.columnsFailed =
      (List.range manifest.columns.length).countP fun i => !masked i sent := by
  cases h with
  | @intro byTable tables columns nTables nColumns hplan htables hcolumns =>
    obtain ⟨failed, hlen, hperm⟩ := groups_perm hcolumns
    have hstart : assigned (⟨.createExtension, true⟩ :: ⟨.init, true⟩ :: tables) = [] := by
      unfold assigned
      rw [List.flatMap_eq_nil_iff]
      intro u hu
      exact (start_names htables (List.mem_filter.mp hu).1).1
    have hall : assigned (⟨.createExtension, true⟩ :: ⟨.init, true⟩ :: (tables ++ columns))
        = assigned columns := by
      rw [← List.cons_append, ← List.cons_append, assigned_append, hstart, List.nil_append]
    -- the entries that were assigned, that failed, and that had no expression
    have hplanned : ((assigned columns).map Assignment.entry ++ failed.map Assignment.entry).Perm
        ((manifest.columns.zipIdx.filterMap (assignmentOf text infos)).map Assignment.entry) := by
      rw [← List.map_append]
      exact (hperm.trans hplan).map _
    have hentries := entries_perm text infos manifest.columns.zipIdx
    have hrange : (manifest.columns.zipIdx.map Prod.snd) = List.range manifest.columns.length := by
      rw [List.zipIdx_map_snd, List.range_eq_range']
    have hsplit : ((assigned columns).map Assignment.entry ++ (failed.map Assignment.entry ++
        ((manifest.columns.zipIdx.filter fun c => (assignmentOf text infos c).isNone).map
          Prod.snd))).Perm (List.range manifest.columns.length) := by
      rw [← List.append_assoc, ← hrange]
      exact (hplanned.append_right _).trans hentries
    have hcount := length_failed List.nodup_range hsplit
    simp only [List.length_append, List.length_map] at hcount
    have hsum : (manifest.columns.zipIdx.countP fun c => (assignmentOf text infos c).isNone)
        + nColumns = (List.range manifest.columns.length).countP fun i =>
          i ∉ (assigned columns).map Assignment.entry := by
      rw [← hcount, hlen, List.countP_eq_length_filter]
      omega
    refine hsum.trans ?_
    apply List.countP_congr
    intro i _
    have hmasked : masked i (⟨.createExtension, true⟩ :: ⟨.init, true⟩ :: (tables ++ columns)) = true
        ↔ i ∈ (assigned columns).map Assignment.entry := by
      rw [masked_iff, hall]
    rw [decide_eq_true_eq, Bool.not_eq_true', ← Bool.not_eq_true]
    exact not_congr hmasked.symm

/-! ## Tables -/

/-- Statements that truncate another table, or none, are not seen. -/
theorem truncations_eq_nil {j : Nat} {sent : List (Sent F64)}
    (h : ∀ u ∈ sent, ∀ mask, u.statement ≠ .truncate j mask) : truncations j sent = [] := by
  unfold truncations
  rw [List.filterMap_eq_nil_iff]
  intro u hu
  have hnot := h u hu
  split
  · rename_i i mask hstatement
    rw [if_neg]
    rintro rfl
    exact hnot mask hstatement
  · rfl

/-- What is sent for a table truncates it and nothing else. -/
theorem TableSent.names {table : TableMask × Nat} {xs : List (Sent F64)} {n : Nat}
    (h : TableSent table xs n) {u : Sent F64} (hu : u ∈ xs) :
    u.statement = .truncate table.2 table.1 := by
  cases h with
  | unsupported => exact absurd hu (by simp)
  | done | refused => rw [List.mem_singleton.mp hu]

/-- The entries of the successful truncations. -/
def doneTables (sent : List (Sent F64)) : List Nat :=
  sent.filterMap fun u =>
    match u.statement with
    | .truncate j _ => if u.ok then some j else none
    | _ => none

@[simp] theorem doneTables_append (xs ys : List (Sent F64)) :
    doneTables (xs ++ ys) = doneTables xs ++ doneTables ys := by
  simp [doneTables]

/-- A table entry is truncated exactly when a successful statement did it. -/
theorem truncated_iff {j : Nat} {sent : List (Sent F64)} :
    truncated j sent = true ↔ j ∈ doneTables sent := by
  unfold truncated truncations doneTables
  rw [List.any_eq_true, List.mem_filterMap]
  constructor
  · rintro ⟨⟨mask, ok⟩, hmem, hok⟩
    obtain ⟨u, hu, hanswer⟩ := List.mem_filterMap.mp hmem
    refine ⟨u, hu, ?_⟩
    cases hstatement : u.statement with
    | truncate i m =>
      simp only [hstatement] at hanswer ⊢
      split at hanswer
      · rename_i hij
        have hpair := Prod.mk.inj (Option.some.inj hanswer)
        rw [if_pos (hpair.2.trans hok), hij]
      · exact absurd hanswer (by simp)
    | _ => simp [hstatement] at hanswer
  · rintro ⟨u, hu, hanswer⟩
    cases hstatement : u.statement with
    | truncate i m =>
      simp only [hstatement] at hanswer
      split at hanswer
      · rename_i hok
        refine ⟨(m, u.ok), List.mem_filterMap.mpr ⟨u, hu, ?_⟩, hok⟩
        simp only [hstatement]
        rw [if_pos (Option.some.inj hanswer)]
      · exact absurd hanswer (by simp)
    | _ => simp [hstatement] at hanswer

/-- A table is truncated, or counted. -/
theorem TableSent.perm {table : TableMask × Nat} {xs : List (Sent F64)} {n : Nat}
    (h : TableSent table xs n) :
    ∃ failed, failed.length = n ∧ (doneTables xs ++ failed).Perm [table.2] := by
  cases h with
  | unsupported => exact ⟨_, rfl, .refl _⟩
  | done => exact ⟨[], rfl, .refl _⟩
  | refused => exact ⟨_, rfl, .refl _⟩

/-- The statements for columns truncate nothing. -/
theorem GroupSent.no_truncate {group : (String ×ₗ String) × List (Assignment F64)}
    {xs : List (Sent F64)} {n : Nat} (h : GroupSent group xs n) {u : Sent F64} (hu : u ∈ xs)
    (j : Nat) (mask : TableMask) : u.statement ≠ .truncate j mask := by
  intro heq
  have hupdates := (h.names hu).1
  rw [heq] at hupdates
  exact absurd hupdates (by simp [Statement.updates])

/-- **What a run tries for a table**: one truncation, if that is its kind. -/
theorem RunSent.treatsTable (h : RunSent text manifest infos outcome sent) {j : Nat}
    {mask : TableMask} (hmask : manifest.tables[j]? = some mask) :
    truncations j sent =
      if mask.kind = "truncate" then [(mask, truncated j sent)] else [] := by
  cases h with
  | @intro byTable tables columns nTables nColumns hplan htables hcolumns =>
    have htable : (mask, j) ∈ manifest.tables.zipIdx := List.mem_zipIdx_iff_getElem?.mpr hmask
    obtain ⟨before, after, hsplit⟩ := List.append_of_mem htable
    rw [hsplit] at htables
    obtain ⟨xs, ys, zs, _, _, _, rfl, hxs, hys, hzs⟩ := htables.split
    have hnodup : (manifest.tables.zipIdx.map Prod.snd).Nodup := by
      rw [List.zipIdx_map_snd]
      exact List.nodup_range'
    rw [hsplit] at hnodup
    have hxsNone : truncations j xs = [] := by
      apply truncations_eq_nil
      intro u hu m heq
      obtain ⟨t, ht, _, _, hsent, hmem⟩ := hxs.report hu
      rw [hsent.names hmem] at heq
      exact key_ne_of_nodup hnodup (.inl ht) (Statement.truncate.inj heq).1
    have hzsNone : truncations j zs = [] := by
      apply truncations_eq_nil
      intro u hu m heq
      obtain ⟨t, ht, _, _, hsent, hmem⟩ := hzs.report hu
      rw [hsent.names hmem] at heq
      exact key_ne_of_nodup hnodup (.inr ht) (Statement.truncate.inj heq).1
    have hcolumnsNone : truncations j columns = [] := by
      apply truncations_eq_nil
      intro u hu m
      obtain ⟨g, _, _, _, hsent, hmem⟩ := hcolumns.report hu
      exact hsent.no_truncate hmem j m
    have hall : truncations j
        (⟨.createExtension, true⟩ :: ⟨.init, true⟩ :: ((xs ++ (ys ++ zs)) ++ columns))
        = truncations j ys := by
      have hhead : ∀ rest : List (Sent F64),
          truncations j (⟨.createExtension, true⟩ :: ⟨.init, true⟩ :: rest) = truncations j rest :=
        fun _ => rfl
      rw [hhead, truncations_append, truncations_append, truncations_append, hxsNone, hzsNone,
        hcolumnsNone, List.nil_append, List.append_nil, List.append_nil]
    unfold truncated
    rw [hall]
    cases hys with
    | unsupported hkind => rw [if_neg hkind]; rfl
    | done hkind | refused hkind =>
      rw [if_pos hkind]
      simp [truncations]

/-- **The failures among the tables are those without a successful truncation.** -/
theorem RunSent.tablesFailed (h : RunSent text manifest infos outcome sent) :
    outcome.tablesFailed =
      (List.range manifest.tables.length).countP fun j => !truncated j sent := by
  cases h with
  | @intro byTable tables columns nTables nColumns hplan htables hcolumns =>
    obtain ⟨failed, hlen, hperm⟩ :=
      htables.perm (fun t => [t.2]) doneTables rfl doneTables_append TableSent.perm
    have hrange : (manifest.tables.zipIdx.flatMap fun t => [t.2])
        = List.range manifest.tables.length := by
      rw [← List.map_eq_flatMap, List.zipIdx_map_snd, List.range_eq_range']
    rw [hrange] at hperm
    refine (hlen.symm.trans (length_failed List.nodup_range hperm)).trans ?_
    have hcolumnsNone : doneTables columns = [] := by
      unfold doneTables
      rw [List.filterMap_eq_nil_iff]
      intro u hu
      obtain ⟨g, _, _, _, hsent, hmem⟩ := hcolumns.report hu
      have hnot := hsent.no_truncate hmem
      split
      · rename_i j mask hstatement
        exact absurd hstatement (hnot j mask)
      · rfl
    have hall : doneTables (⟨.createExtension, true⟩ :: ⟨.init, true⟩ :: (tables ++ columns))
        = doneTables tables := by
      have hhead : ∀ rest : List (Sent F64),
          doneTables (⟨.createExtension, true⟩ :: ⟨.init, true⟩ :: rest) = doneTables rest :=
        fun _ => rfl
      rw [hhead, doneTables_append, hcolumnsNone, List.append_nil]
    apply List.countP_congr
    intro j _
    have htruncated :
        truncated j (⟨.createExtension, true⟩ :: ⟨.init, true⟩ :: (tables ++ columns)) = true
          ↔ j ∈ doneTables tables := by
      rw [truncated_iff, hall]
    rw [decide_eq_true_eq, Bool.not_eq_true', ← Bool.not_eq_true]
    exact not_congr htruncated.symm

theorem RunSent.attempted (h : RunSent text manifest infos outcome sent) :
    outcome.columnsAttempted = manifest.columns.length ∧
      outcome.tablesAttempted = manifest.tables.length := by
  cases h
  exact ⟨rfl, rfl⟩

end Run

/-- **The accounting of a run.**  A run that returns has counted every entry as attempted and, as
    failed, exactly the entries no successful statement was about; any other entry was set, to its
    own expression, by exactly one successful update of its table, and a table truncated by exactly
    one successful truncation.  What is tried for an entry is a function of its own expression, the
    answer to its table's update and the answer to its own. -/
theorem apply_accounts (conn : PgConnection δ) (text : F64Text F64) (manifest : Manifest F64)
    (database : δ) {outcome : RedactionOutcome} {s' : Session δ F64}
    (h : apply conn text manifest { database := database } = (.ok outcome, s')) :
    ∃ infos, lookedUp conn manifest { database := database } = .ok infos ∧
      outcome.columnsAttempted = manifest.columns.length ∧
      outcome.columnsFailed =
        (List.range manifest.columns.length).countP (fun i => !masked i s'.sent) ∧
      (∀ i mask, manifest.columns[i]? = some mask →
        triesFor i s'.sent = treatment mask (planned text infos mask)
          (tableOk (toLex (mask.schema, mask.table)) s'.sent) (columnOk i s'.sent) ∧
        (masked i s'.sent = true → ∃ expr, planned text infos mask = some expr ∧
          (triesFor i s'.sent).filter Try.ok
            = [⟨some (toLex (mask.schema, mask.table)), mask.column, expr, true⟩])) ∧
      outcome.tablesAttempted = manifest.tables.length ∧
      outcome.tablesFailed =
        (List.range manifest.tables.length).countP (fun j => !truncated j s'.sent) ∧
      (∀ j mask, manifest.tables[j]? = some mask →
        truncations j s'.sent
          = if mask.kind = "truncate" then [(mask, truncated j s'.sent)] else []) := by
  obtain ⟨infos, hlooked, hrun⟩ := apply_sent conn text manifest { database := database } rfl h
  refine ⟨infos, hlooked, hrun.attempted.1, hrun.columnsFailed, ?_, hrun.attempted.2,
    hrun.tablesFailed, fun j mask hmask => hrun.treatsTable hmask⟩
  intro i mask hmask
  exact ⟨hrun.treats hmask, masked_of_treatment (hrun.treats hmask)⟩

/-- Numbers kept as the texts they are written as. -/
def plainText : F64Text String where
  parse := some
  display := id
  ofInt := toString

/-- A database with one column, that refuses one statement, counting from zero. -/
def refusing (n : Nat) : PgConnection Nat where
  simpleQuery := fun _ k =>
    (if k = n then .error "multiple assignments to same column \"email\" (42601)" else .ok (), k + 1)
  queryTyped := fun _ _ _ k => (.ok [⟨"public", "users", "email", "text", "YES", none⟩], k)

/-- A column listed twice, one the database does not have, and two tables. -/
def repeatedManifest : Manifest String where
  columns := [⟨"public", "users", "email", "email", none⟩, ⟨"public", "users", "phone", "phone", none⟩,
    ⟨"public", "users", "email", "email", none⟩]
  tables := [⟨"public", "audit", "truncate"⟩, ⟨"public", "logs", "mask"⟩]

theorem apply_accounts_repeated :
    ∃ infos, lookedUp (refusing 3) repeatedManifest { database := 0 } = .ok infos ∧
      (apply (refusing 3) plainText repeatedManifest { database := 0 }).1
        = .ok { columnsAttempted := 3, columnsFailed := 1, tablesAttempted := 2, tablesFailed := 1 } ∧
      1 = (List.range 3).countP (fun i => !masked i
        (apply (refusing 3) plainText repeatedManifest { database := 0 }).2.sent) := by
  have hrun : apply (refusing 3) plainText repeatedManifest { database := 0 } =
      (.ok { columnsAttempted := 3, columnsFailed := 1, tablesAttempted := 2, tablesFailed := 1 },
        (apply (refusing 3) plainText repeatedManifest { database := 0 }).2) :=
    Prod.ext (by decide +kernel) rfl
  obtain ⟨infos, hlooked, -, hcolumns, -⟩ := apply_accounts (refusing 3) plainText repeatedManifest 0 hrun
  exact ⟨infos, hlooked, by decide +kernel, hcolumns⟩

end RestoreOperator
