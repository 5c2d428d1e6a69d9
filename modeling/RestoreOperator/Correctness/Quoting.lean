import RestoreOperator.Correctness.MaskAccounting
import RestoreOperator.Redaction.Tokens
import RestoreOperator.Restore.SchemaGrants

/-!
# `Correctness.Quoting` — names in the statements that are sent

A name is quoted wherever it stands in a statement, so a statement has the same tokens whatever its names
are: each name is one identifier, and nothing else of the statement is read out of a name.  An identifier is
no longer than 63 bytes, and none is empty.
-/

namespace RestoreOperator

open SqlLexer

/-! ## Statements with a name at each place -/

/-- The tokens of a truncation. -/
def truncateTokens (mask : TableMask) : Except Refusal (List Token) := do
  let schema ← nameToken mask.schema
  let table ← nameToken mask.table
  return [.word "truncate", .word "table", schema, .symbol ".", table, .word "cascade"]

/-- **A truncation names its table.** -/
theorem sqlTokens_truncate {F64 : Type} (entry : Nat) (mask : TableMask) :
    sqlTokens (Statement.truncate entry mask : Statement F64).sql = truncateTokens mask := by
  have hfront : Opens "TRUNCATE TABLE ".toList [.word "truncate", .word "table"] := by decide
  have hdot : Opens ".".toList [.symbol "."] := by decide
  have hback : tokens " CASCADE".toList = .ok [.word "cascade"] := by decide
  show tokens ("TRUNCATE TABLE " ++ quoteIdent mask.schema ++ "." ++ quoteIdent mask.table ++
    " CASCADE").toList = _
  simp only [String.toList_append, quoteIdent_toList, List.append_assoc]
  rw [tokens_opens hfront mask.schema.toList (head?_append_ne (by decide) _),
    tokens_opens hdot mask.table.toList (by decide), hback]
  unfold truncateTokens nameToken
  cases identifier mask.schema.toList with
  | error e => rfl
  | ok schema => cases identifier mask.table.toList <;> rfl

/-- The tokens of a grant on a schema, with those before its name. -/
def grantTokens (front : List Token) (schema username : String) : Except Refusal (List Token) := do
  let schema ← nameToken schema
  let user ← nameToken username
  return front ++ [schema, .word "to", user]

/-- The tokens of the statement about what an owner creates later. -/
def defaultPrivilegesTokens (owner schema username : String) : Except Refusal (List Token) := do
  let owner ← nameToken owner
  let schema ← nameToken schema
  let user ← nameToken username
  return [.word "alter", .word "default", .word "privileges", .word "for", .word "role", owner,
    .word "in", .word "schema", schema, .word "grant", .word "select", .word "on", .word "tables",
    .word "to", user]

/-- A grant names a schema, and the user it is to. -/
theorem sqlTokens_grant {front : String} {read : List Token} (h : Opens front.toList read)
    (schema username : String) :
    sqlTokens (front ++ quoteIdent schema ++ " TO " ++ quoteIdent username) =
      grantTokens read schema username := by
  have hto : Opens " TO ".toList [.word "to"] := by decide
  unfold sqlTokens grantTokens nameToken
  simp only [String.toList_append, quoteIdent_toList, List.append_assoc]
  rw [tokens_opens h schema.toList (head?_append_ne (by decide) _), tokens_opens_last hto]
  cases identifier schema.toList with
  | error e => rfl
  | ok schema => cases identifier username.toList <;> rfl

/-- The privileges on what comes later name its owner too. -/
theorem sqlTokens_defaultPrivileges (owner schema username : String) :
    sqlTokens ("ALTER DEFAULT PRIVILEGES FOR ROLE " ++ quoteIdent owner ++ " IN SCHEMA " ++ quoteIdent schema ++
        " GRANT SELECT ON TABLES TO " ++ quoteIdent username) =
      defaultPrivilegesTokens owner schema username := by
  have hrole : Opens "ALTER DEFAULT PRIVILEGES FOR ROLE ".toList
      [.word "alter", .word "default", .word "privileges", .word "for", .word "role"] := by decide
  have hin : Opens " IN SCHEMA ".toList [.word "in", .word "schema"] := by decide
  have hto : Opens " GRANT SELECT ON TABLES TO ".toList
      [.word "grant", .word "select", .word "on", .word "tables", .word "to"] := by decide
  unfold sqlTokens defaultPrivilegesTokens nameToken
  simp only [String.toList_append, quoteIdent_toList, List.append_assoc]
  rw [tokens_opens hrole owner.toList (head?_append_ne (by decide) _),
    tokens_opens hin schema.toList (head?_append_ne (by decide) _), tokens_opens_last hto]
  cases identifier owner.toList with
  | error e => rfl
  | ok owner =>
    cases identifier schema.toList with
    | error e => rfl
    | ok schema => cases identifier username.toList <;> rfl

/-- **The grants on a schema name it, the user, and the owner of what comes later.** -/
theorem sqlTokens_schemaReadGrants (username schema owner : String) :
    (schemaReadGrants username schema owner).map sqlTokens =
      [grantTokens [.word "grant", .word "usage", .word "on", .word "schema"] schema username,
        grantTokens [.word "grant", .word "select", .word "on", .word "all", .word "tables",
          .word "in", .word "schema"] schema username,
        grantTokens [.word "grant", .word "select", .word "on", .word "all", .word "sequences",
          .word "in", .word "schema"] schema username,
        defaultPrivilegesTokens owner schema username] := by
  have husage : Opens "GRANT USAGE ON SCHEMA ".toList
      [.word "grant", .word "usage", .word "on", .word "schema"] := by decide
  have htables : Opens "GRANT SELECT ON ALL TABLES IN SCHEMA ".toList
      [.word "grant", .word "select", .word "on", .word "all", .word "tables", .word "in",
        .word "schema"] := by decide
  have hsequences : Opens "GRANT SELECT ON ALL SEQUENCES IN SCHEMA ".toList
      [.word "grant", .word "select", .word "on", .word "all", .word "sequences", .word "in",
        .word "schema"] := by decide
  unfold schemaReadGrants
  simp only [List.map_cons, List.map_nil]
  rw [sqlTokens_grant husage, sqlTokens_grant htables, sqlTokens_grant hsequences,
    sqlTokens_defaultPrivileges]

/-! ## Updates -/

/-- The tokens of an assignment. -/
def assignmentTokens (a : String × String) : Except Refusal (List Token) := do
  let column ← nameToken a.1
  let expr ← sqlTokens a.2
  return column :: .operator "=" :: expr

/-- The expression of an assignment is read on its own, if its column can be named. -/
def ReadsAlone (a : String × String) : Prop :=
  ∀ token, nameToken a.1 = .ok token → ∃ read, sqlTokens a.2 = .ok read

/-- An assignment is its column, and its expression with what comes after it. -/
theorem tokens_assignment (column : List Char) (k : List Char) :
    tokens (quote column ++ (" = ".toList ++ k)) = do
      let column ← identifier column
      let back ← tokens k
      return column :: .operator "=" :: back := by
  have hequals : run .start " = ".toList = .ok (.start, [.operator "="]) := by decide
  rw [tokens_quote column (head?_append_ne (by decide) k), tokens_append hequals]
  cases identifier column with
  | error e => rfl
  | ok column => cases tokens k <;> rfl

/-- What comes after an expression and a comma is read on its own. -/
theorem tokens_separated {expr : List Char} {read : List Token} (h : tokens expr = .ok read)
    (k : List Char) :
    tokens (expr ++ (", ".toList ++ k)) = (tokens k).map (read ++ .symbol "," :: ·) := by
  have hspace : run .start [' '] = .ok (.start, []) := rfl
  have hafter := tokens_append hspace k
  show tokens (expr ++ ',' :: ([' '] ++ k)) = _
  rw [tokens_comma h, hafter]
  cases tokens k <;> rfl

/-- **Assignments are read one by one.** -/
theorem sqlTokens_assignments {assignments : List (String × String)}
    (h : ∀ a ∈ assignments, ReadsAlone a) :
    sqlTokens (", ".intercalate (assignments.map fun a => quoteIdent a.1 ++ " = " ++ a.2)) =
      (assignments.mapM assignmentTokens).map ([Token.symbol ","].intercalate ·) := by
  induction assignments with
  | nil => decide
  | cons a rest ih =>
    have hrest := ih fun b hb => h b (List.mem_cons_of_mem a hb)
    have ha := h a List.mem_cons_self
    rw [List.mapM_cons, List.map_cons, assignmentTokens]
    unfold nameToken
    cases rest with
    | nil =>
      rw [List.map_nil, String.intercalate_singleton, List.mapM_nil]
      unfold sqlTokens
      simp only [String.toList_append, quoteIdent_toList, List.append_assoc]
      rw [tokens_assignment]
      cases identifier a.1.toList with
      | error e => rfl
      | ok column =>
        cases tokens a.2.toList with
        | error e => rfl
        | ok expr => exact congrArg Except.ok List.intercalate_singleton.symm
    | cons b rest =>
      have hne : (b :: rest).map (fun a => quoteIdent a.1 ++ " = " ++ a.2) ≠ [] := List.cons_ne_nil _ _
      rw [String.intercalate_cons_of_ne_nil hne]
      generalize ", ".intercalate (List.map _ (b :: rest)) = sets at hrest ⊢
      unfold sqlTokens at hrest ⊢
      simp only [String.toList_append, quoteIdent_toList, List.append_assoc]
      rw [tokens_assignment]
      cases hcolumn : identifier a.1.toList with
      | error e => rfl
      | ok column =>
        obtain ⟨read, hread⟩ : ∃ read, tokens a.2.toList = .ok read := ha column hcolumn
        rw [tokens_separated hread, hrest, hread, List.mapM_cons]
        cases assignmentTokens b with
        | error e => rfl
        | ok second =>
          cases rest.mapM assignmentTokens with
          | error e => rfl
          | ok others =>
            show Except.ok (column :: .operator "=" :: (read ++ .symbol "," ::
                [Token.symbol ","].intercalate (second :: others))) =
              .ok ([Token.symbol ","].intercalate ((column :: .operator "=" :: read) :: second :: others))
            rw [List.intercalate_cons_cons, List.append_assoc]
            rfl

/-- The tokens of an update, with those of what it sets. -/
def updateTokens (table : String ×ₗ String) (sets : Except Refusal (List (List Token))) :
    Except Refusal (List Token) := do
  let schema ← nameToken (ofLex table).1
  let name ← nameToken (ofLex table).2
  let sets ← sets
  return .word "update" :: schema :: .symbol "." :: name :: .word "set" ::
    [Token.symbol ","].intercalate sets

/-- **An update names its table and its columns**, and sets each to its expression. -/
theorem sqlTokens_updateStatement (table : String ×ₗ String) {assignments : List (String × String)}
    (h : ∀ a ∈ assignments, ReadsAlone a) :
    sqlTokens (updateStatement table assignments) =
      updateTokens table (assignments.mapM assignmentTokens) := by
  have hupdate : Opens "UPDATE ".toList [.word "update"] := by decide
  have hdot : Opens ".".toList [.symbol "."] := by decide
  have hset : run .start " SET ".toList = .ok (.start, [.word "set"]) := by decide
  have hsets := sqlTokens_assignments h
  unfold updateStatement updateTokens
  generalize ", ".intercalate (assignments.map _) = sets at hsets ⊢
  unfold sqlTokens nameToken at *
  simp only [String.toList_append, quoteIdent_toList, List.append_assoc]
  rw [tokens_opens hupdate (ofLex table).1.toList (head?_append_ne (by decide) _),
    tokens_opens hdot (ofLex table).2.toList (head?_append_ne (by decide) _),
    tokens_append hset, hsets]
  cases identifier (ofLex table).1.toList with
  | error e => rfl
  | ok schema =>
    cases identifier (ofLex table).2.toList with
    | error e => rfl
    | ok name => cases assignments.mapM assignmentTokens <;> rfl

variable {F64 : Type} (text : F64Text F64)

/-! ## Updates of masked columns -/

/-- The tokens of the expressions of masks, apart from the name of the column that stands between them. -/
abbrev ExprTokens (F64 : Type) :=
  String → Option (F64 × F64) → Option ColumnInfo → List (List Token)

/-- The tokens of an assignment to a masked column. -/
def maskTokens (parts : ExprTokens F64) (info : Assignment F64 → Option ColumnInfo) (a : Assignment F64) :
    Except Refusal (List Token) := do
  let column ← nameToken a.mask.column
  return column :: .operator "=" :: [column].intercalate (parts a.mask.kind a.mask.range (info a))

theorem mapM_congr {ε α β : Type} {f g : α → Except ε β} {as : List α} (h : ∀ a ∈ as, f a = g a) :
    as.mapM f = as.mapM g := by
  induction as with
  | nil => rw [List.mapM_nil, List.mapM_nil]
  | cons a as ih =>
    rw [List.mapM_cons, List.mapM_cons, h a List.mem_cons_self, ih fun b hb => h b (List.mem_cons_of_mem a hb)]

/-- An assignment that was built for its column. -/
def Masks (info : Assignment F64 → Option ColumnInfo) (a : Assignment F64) : Prop :=
  DefaultReads (info a) ∧ maskExpression text a.mask (info a) = .ok a.expr

/-- **An update of masked columns has the same tokens whatever its names are**, apart from the names. -/
theorem sqlTokens_masked (hdisplay : ∀ x, PlainNumber (text.display x)) :
    ∃ parts : ExprTokens F64, ∀ (table : String ×ₗ String) (info : Assignment F64 → Option ColumnInfo)
      (as : List (Assignment F64)), (∀ a ∈ as, Masks text info a) →
        sqlTokens (updateStatement table (as.map fun a => (a.mask.column, a.expr))) =
          updateTokens table (as.mapM (maskTokens parts info)) := by
  have hparts : ∀ kind range info, ∃ parts : List (List Token), DefaultReads info →
      ∀ (mask : ColumnMask F64) (expr : String), mask.kind = kind → mask.range = range →
        maskExpression text mask info = .ok expr → ∀ column, nameToken mask.column = .ok column →
          sqlTokens expr = .ok ([column].intercalate parts) := by
    intro kind range info
    by_cases hdefault : DefaultReads info
    · obtain ⟨parts, hread⟩ := sqlTokens_maskExpression text hdisplay kind range hdefault
      exact ⟨parts, fun _ => hread⟩
    · exact ⟨[], fun h => absurd h hdefault⟩
  choose parts hread using hparts
  refine ⟨parts, fun table info as has => ?_⟩
  have hread' : ∀ a ∈ as, ∀ column, nameToken a.mask.column = .ok column → sqlTokens a.expr =
      .ok ([column].intercalate (parts a.mask.kind a.mask.range (info a))) :=
    fun a ha => hread a.mask.kind a.mask.range (info a) (has a ha).1 a.mask a.expr rfl rfl (has a ha).2
  have halone : ∀ b ∈ as.map fun a => (a.mask.column, a.expr), ReadsAlone b := by
    intro b hb
    obtain ⟨a, ha, rfl⟩ := List.mem_map.mp hb
    exact fun column hcolumn => ⟨_, hread' a ha column hcolumn⟩
  rw [sqlTokens_updateStatement table halone, List.mapM_map]
  congr 1
  refine mapM_congr fun a ha => ?_
  show assignmentTokens (a.mask.column, a.expr) = maskTokens parts info a
  unfold assignmentTokens maskTokens
  cases hcolumn : nameToken a.mask.column with
  | error e => rfl
  | ok column =>
    rw [hread' a ha column hcolumn]
    rfl

/-! ## The statements of a run -/

/-- **The tokens that a statement of a run is meant to have.** -/
def Statement.intended (parts : ExprTokens F64) (info : Assignment F64 → Option ColumnInfo) :
    Statement F64 → Except Refusal (List Token)
  | .createExtension =>
    .ok [.word "create", .word "extension", .word "if", .word "not", .word "exists", .word "anon",
      .word "cascade"]
  | .init => .ok [.word "select", .word "anon", .symbol ".", .word "init", .symbol "(", .symbol ")"]
  | .truncate _ mask => truncateTokens mask
  | .updateTable table as => updateTokens table (as.mapM (maskTokens parts info))
  | .updateColumn table a => updateTokens table ([a].mapM (maskTokens parts info))

/-- A statement whose assignments were built for their columns is read as it is meant. -/
theorem sqlTokens_statement (hdisplay : ∀ x, PlainNumber (text.display x)) :
    ∃ parts : ExprTokens F64, ∀ (info : Assignment F64 → Option ColumnInfo) (statement : Statement F64),
      (∀ a ∈ statement.assignments, Masks text info a) →
        sqlTokens statement.sql = statement.intended parts info := by
  obtain ⟨parts, hread⟩ := sqlTokens_masked text hdisplay
  have hcreate : sqlTokens "CREATE EXTENSION IF NOT EXISTS anon CASCADE" =
      .ok [.word "create", .word "extension", .word "if", .word "not", .word "exists", .word "anon",
        .word "cascade"] := by decide
  have hinit : sqlTokens "SELECT anon.init()" =
      .ok [.word "select", .word "anon", .symbol ".", .word "init", .symbol "(", .symbol ")"] := by
    decide
  refine ⟨parts, fun info statement h => ?_⟩
  cases statement with
  | createExtension => exact hcreate
  | init => exact hinit
  | truncate entry mask => exact sqlTokens_truncate entry mask
  | updateTable table as => exact hread table info as h
  | updateColumn table a => exact hread table info [a] h

section Run

variable {δ : Type} {manifest : Manifest F64} {infos : ColumnInfos} {outcome : RedactionOutcome}
  {sent : List (Sent F64)}

/-- What is planned for a column is the expression of its mask. -/
theorem maskExpression_of_planned {mask : ColumnMask F64} {expr : String}
    (h : planned text infos mask = some expr) :
    maskExpression text mask (infos (colKey mask)) = .ok expr := by
  unfold planned at h
  cases hinfo : infos (colKey mask) with
  | none =>
    rw [hinfo] at h
    cases h
  | some info =>
    rw [hinfo] at h
    dsimp only at h
    cases hexpr : maskExpression text mask (some info) with
    | error reason =>
      rw [hexpr] at h
      cases h
    | ok expr' =>
      rw [hexpr] at h
      exact congrArg Except.ok (Option.some.inj h)

/-- The assignments of a run were built for their columns. -/
theorem RunSent.masks (h : RunSent text manifest infos outcome sent)
    (hdefaults : ∀ key, DefaultReads (infos key)) {u : Sent F64} (hu : u ∈ sent) {a : Assignment F64}
    (ha : a ∈ u.statement.assignments) : Masks text (fun a => infos (colKey a.mask)) a := by
  cases h with
  | @intro byTable tables columns nTables nColumns hplan htables hcolumns =>
    have hplanned : a ∈ byTable.elems := by
      rcases List.mem_cons.mp hu with rfl | hu
      · cases ha
      rcases List.mem_cons.mp hu with rfl | hu
      · cases ha
      rcases List.mem_append.mp hu with hu | hu
      · obtain ⟨table, _, ys, n, hsent, hmem⟩ := htables.report hu
        rw [(hsent.silent hmem).1] at ha
        cases ha
      · obtain ⟨group, hgroup, ys, n, hsent, hmem⟩ := hcolumns.report hu
        exact List.mem_flatMap.mpr ⟨group, hgroup, (hsent.names hmem).2 a ha⟩
    obtain ⟨column, _, hassign⟩ := List.mem_filterMap.mp (hplan.mem_iff.mp hplanned)
    obtain ⟨_, hmask, hexpr⟩ := assignmentOf_eq_some hassign
    rw [← hmask] at hexpr
    exact ⟨hdefaults _, maskExpression_of_planned text hexpr⟩

/-- **Every statement of a run is read as it is meant**, whatever the names in the manifest are. -/
theorem apply_sends_intended (hdisplay : ∀ x, PlainNumber (text.display x)) :
    ∃ parts : ExprTokens F64, ∀ (conn : PgConnection δ) (manifest : Manifest F64) (s s' : Session δ F64)
      (outcome : RedactionOutcome) (infos : ColumnInfos), s.sent = [] →
        apply conn text manifest s = (.ok outcome, s') → lookedUp conn manifest s = .ok infos →
          (∀ key, DefaultReads (infos key)) → ∀ u ∈ s'.sent,
            sqlTokens u.statement.sql = u.statement.intended parts fun a => infos (colKey a.mask) := by
  obtain ⟨parts, hread⟩ := sqlTokens_statement text hdisplay
  refine ⟨parts, fun conn manifest s s' outcome infos hs happly hlook hdefaults u hu => ?_⟩
  obtain ⟨infos', hlook', hsent⟩ := apply_sent conn text manifest s hs happly
  rw [hlook] at hlook'
  cases hlook'
  exact hread _ u.statement fun a ha => hsent.masks text hdefaults hu ha

end Run

/-! ## Names are identifiers -/

/-- **Every name of a statement is one identifier of it, and no other token depends on a name.** -/
theorem quoted_names_are_identifiers (hdisplay : ∀ x, PlainNumber (text.display x)) :
    (∀ (s : String) (k : List Char), k.head? ≠ some '"' →
      readDelimited ((quoteIdent s).toList ++ k) = (nameToken s).map (fun name => (name, k)) ∧
        tokens ((quoteIdent s).toList ++ k) = do
          let name ← nameToken s
          let back ← tokens k
          return name :: back) ∧
    (∀ s : String, nul ∉ s.toList → s ≠ "" → ∃ name : String, nameToken s = .ok (.ident name) ∧
      Utf8.LongestStart s.toList 63 name.toList) ∧
    (∀ s : String, nul ∉ s.toList → s ≠ "" → Utf8.byteLen s.toList ≤ 63 →
      nameToken s = .ok (.ident s)) ∧
    (∀ s : String, nul ∈ s.toList ∨ s = "" → ∃ refusal, nameToken s = .error refusal) ∧
    (∀ (entry : Nat) (mask : TableMask),
      sqlTokens (Statement.truncate entry mask : Statement F64).sql = truncateTokens mask) ∧
    (∀ username schema owner : String, (schemaReadGrants username schema owner).map sqlTokens =
      [grantTokens [.word "grant", .word "usage", .word "on", .word "schema"] schema username,
        grantTokens [.word "grant", .word "select", .word "on", .word "all", .word "tables",
          .word "in", .word "schema"] schema username,
        grantTokens [.word "grant", .word "select", .word "on", .word "all", .word "sequences",
          .word "in", .word "schema"] schema username,
        defaultPrivilegesTokens owner schema username]) ∧
    (∀ (table : String ×ₗ String) (assignments : List (String × String)),
      (∀ a ∈ assignments, ReadsAlone a) → sqlTokens (updateStatement table assignments) =
        updateTokens table (assignments.mapM assignmentTokens)) ∧
    ∃ parts : ExprTokens F64, ∀ (table : String ×ₗ String) (info : Assignment F64 → Option ColumnInfo)
      (as : List (Assignment F64)), (∀ a ∈ as, Masks text info a) →
        sqlTokens (updateStatement table (as.map fun a => (a.mask.column, a.expr))) =
          updateTokens table (as.mapM (maskTokens parts info)) := by
  refine ⟨fun s k hk => ⟨readDelimited_quoteIdent s hk, ?_⟩, ?_, fun s => nameToken_eq_self,
    fun s => nameToken_refused, sqlTokens_truncate, sqlTokens_schemaReadGrants,
    fun table assignments => sqlTokens_updateStatement table, sqlTokens_masked text hdisplay⟩
  · rw [quoteIdent_toList]
    exact tokens_quote s.toList hk
  · intro s hnul hne
    refine ⟨_, nameToken_eq hnul hne, ?_⟩
    rw [String.toList_ofList]
    exact Utf8.longestStart_takeBytes 63 s.toList

/-- Numbers of one digit. -/
def digitText : F64Text (Fin 10) where
  parse s := (List.finRange 10).find? fun d => s = toString d.val
  display d := toString d.val
  ofInt n := ⟨n.toNat % 10, Nat.mod_lt _ (by decide)⟩

theorem plainNumber_digit (d : Fin 10) : PlainNumber (digitText.display d) := by
  refine .inl ⟨{ negative := false, whole := [d], whole_ne_nil := List.cons_ne_nil _ _ }, ?_⟩
  revert d
  decide

/-- A column that is masked with digits, and has a name that looks like the rest of an update. -/
def hostileColumn : Assignment (Fin 10) where
  entry := 0
  mask := ⟨"public", "people", "a\" = 0; --", "integer", some (⟨0, by decide⟩, ⟨9, by decide⟩)⟩
  expr := nullPres (quoteIdent "a\" = 0; --") "(floor(random() * (9 - 0 + 1)) + 0)::int"

/-- Names that look like the rest of a statement are identifiers. -/
theorem hostile_names_are_identifiers :
    (∀ d, PlainNumber (digitText.display d)) ∧
      sqlTokens (Statement.truncate 0 ⟨"public", "a\"; DROP TABLE b; --", "truncate"⟩ :
          Statement (Fin 10)).sql =
        .ok [.word "truncate", .word "table", .ident "public", .symbol ".",
          .ident "a\"; DROP TABLE b; --", .word "cascade"] ∧
      ∃ parts : ExprTokens (Fin 10),
        sqlTokens (updateStatement (toLex ("public", "people"))
            [(hostileColumn.mask.column, hostileColumn.expr)]) =
          .ok (.word "update" :: .ident "public" :: .symbol "." :: .ident "people" :: .word "set" ::
            .ident "a\" = 0; --" :: .operator "=" ::
              [Token.ident "a\" = 0; --"].intercalate (parts "integer" hostileColumn.mask.range none)) := by
  obtain ⟨_, _, _, _, htruncate, _, _, parts, hmasked⟩ :=
    quoted_names_are_identifiers digitText plainNumber_digit
  refine ⟨plainNumber_digit, ?_, parts, ?_⟩
  · rw [htruncate]
    decide
  · have hmasks : ∀ a ∈ [hostileColumn], Masks digitText (fun _ => none) a := by
      intro a ha
      rw [List.mem_singleton.mp ha]
      exact ⟨fun _ hnone => absurd hnone (by simp), by decide⟩
    have hschema : nameToken "public" = .ok (.ident "public") := by decide
    have htable : nameToken "people" = .ok (.ident "people") := by decide
    have hcolumn : nameToken "a\" = 0; --" = .ok (.ident "a\" = 0; --") := by decide
    have hread := hmasked (toLex ("public", "people")) (fun _ => none) [hostileColumn] hmasks
    refine hread.trans ?_
    unfold updateTokens maskTokens
    simp only [ofLex_toLex, hschema, htable, List.mapM_cons, List.mapM_nil, hostileColumn, hcolumn]
    show Except.ok (_ :: _ :: _ :: _ :: _ :: [Token.symbol ","].intercalate [_]) = _
    rw [List.intercalate_singleton]

/-- **An empty name is refused, and a long one is cut.** -/
theorem quoted_names_not_all_read :
    readDelimited (quoteIdent "").toList = .error .zeroLength ∧
      readDelimited ((quoteIdent (String.ofList (List.replicate 64 'a'))).toList ++ " CASCADE".toList) =
        .ok (.ident (String.ofList (List.replicate 63 'a')), " CASCADE".toList) ∧
      ¬ ∀ (s : String) (k : List Char), nul ∉ s.toList → k.head? ≠ some '"' →
        readDelimited ((quoteIdent s).toList ++ k) = .ok (.ident s, k) := by
  refine ⟨by decide, by decide, ?_⟩
  intro h
  have hempty := h "" [] (by decide) (by decide)
  revert hempty
  decide

end RestoreOperator
