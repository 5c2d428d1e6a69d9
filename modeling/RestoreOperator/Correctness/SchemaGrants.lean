import RestoreOperator.Correctness.ExtraUsers
import RestoreOperator.Restore.SchemaGrants
import RestoreOperator.System.Events

/-!
# `Correctness.SchemaGrants` — schemas that are handed over as one text

The init script grants what the operator grants, and the migration script goes by the schemas it was given,
as long as no schema has a comma in its name: with one, a name is taken for several.  The migration script
reads a single line besides, and drops an empty name at its end.
-/

namespace RestoreOperator

open Delimited

/-! ## Names as they come -/

/-- The schemas of an extra user are trimmed, and none is empty. -/
theorem extraUsers_trimmed {spec : ReplicaSpec} {user : ExtraUserSpec} (h : user ∈ extraUsers spec)
    {schema : String} (hschema : schema ∈ user.schemas) :
    Trimmed isWhiteSpace schema ∧ schema ≠ "" := by
  obtain ⟨_, hschemas, _⟩ := extraUsers_clean spec h
  obtain ⟨htrim, hne⟩ := hschemas schema hschema
  exact ⟨trim_eq_self_iff.mp htrim, hne⟩

/-! ## The grants -/

theorem sqlTrim_eq {s : String} (h : Trimmed isWhiteSpace s) : sqlTrim s = s := by
  have hspace : ∀ c, decide (c = ' ') = true → isWhiteSpace c = true := by
    intro c hc
    rw [of_decide_eq_true hc]
    rfl
  exact ofList_rdropWhile_eq _ s (h.mono hspace)

section Grants

variable {present : List String} {users : List ExtraUser}

/-- **The init script grants a user a schema** that is there, if it finds the name in what it split. -/
theorem mem_lockdownGrants {pair : String × String} :
    pair ∈ lockdownGrants present users ↔
      pair.2 ∈ present ∧ ∃ user ∈ users, user.schemas ≠ [] ∧ user.username = pair.1 ∧
        ∃ name ∈ stringToArray (extraUserSchemas user) ',', sqlTrim name = pair.2 := by
  obtain ⟨username, schema⟩ := pair
  unfold lockdownGrants
  rw [List.mem_flatMap]
  constructor
  · rintro ⟨user, huser, hmem⟩
    by_cases hnone : user.schemas = []
    · rw [if_pos hnone] at hmem
      cases hmem
    · rw [if_neg hnone, List.mem_flatMap] at hmem
      obtain ⟨name, hname, hmem⟩ := hmem
      obtain ⟨found, hfound, heq⟩ := List.mem_map.mp hmem
      cases heq
      rw [List.mem_filter] at hfound
      have htrim := of_decide_eq_true hfound.2
      exact ⟨hfound.1, user, huser, hnone, rfl, name, hname, htrim.symm⟩
  · rintro ⟨hpresent, user, huser, hnone, rfl, name, hname, htrim⟩
    refine ⟨user, huser, ?_⟩
    rw [if_neg hnone, List.mem_flatMap]
    refine ⟨name, hname, List.mem_map.mpr ⟨schema, ?_, rfl⟩⟩
    rw [List.mem_filter]
    exact ⟨hpresent, decide_eq_true htrim.symm⟩

/-- **The operator grants a user a schema** that is there, if the user names it. -/
theorem mem_operatorGrants {spec : ReplicaSpec} {pair : String × String} :
    pair ∈ operatorGrants present spec ↔
      pair.2 ∈ present ∧ ∃ user ∈ extraUsers spec, user.name = pair.1 ∧ pair.2 ∈ user.schemas := by
  obtain ⟨username, schema⟩ := pair
  unfold operatorGrants extraUsersWithSchemas grantSchemaReadOn existingSchemasOn
  rw [List.mem_flatMap]
  constructor
  · rintro ⟨user, huser, hmem⟩
    obtain ⟨granted, hgranted, heq⟩ := List.mem_map.mp hmem
    cases heq
    rw [List.mem_filter] at hgranted huser
    exact ⟨of_decide_eq_true hgranted.2, user, huser.1, rfl, hgranted.1⟩
  · rintro ⟨hpresent, user, huser, rfl, hschema⟩
    refine ⟨user, ?_, List.mem_map.mpr ⟨schema, ?_, rfl⟩⟩
    · rw [List.mem_filter]
      exact ⟨huser, decide_eq_true (List.ne_nil_of_mem hschema)⟩
    · rw [List.mem_filter]
      exact ⟨hschema, decide_eq_true hpresent⟩

end Grants

/-- No schema of an extra user has a comma in its name. -/
def NoCommas (spec : ReplicaSpec) : Prop :=
  ∀ user ∈ extraUsers spec, ∀ schema ∈ user.schemas, ',' ∉ schema.toList

/-- **The init script and the operator grant the same**, whatever schemas there are. -/
def GrantsAgree (replica : Replica) : Prop :=
  ∀ present pair, pair ∈ lockdownGrants present (deploymentUsers replica) ↔
    pair ∈ operatorGrants present replica.spec

/-- Names without commas are read back as they are. -/
theorem stringToArray_join {schemas : List String} (hne : schemas ≠ [])
    (hnames : ∀ schema ∈ schemas, schema ≠ "")
    (hcommas : ∀ schema ∈ schemas, ',' ∉ schema.toList) :
    stringToArray (join ',' schemas) ',' = schemas := by
  have hsplit := (split_join_iff hne).mpr hcommas
  unfold stringToArray
  by_cases hempty : join ',' schemas = ""
  · -- then there is a single name, and it is empty
    rw [hempty] at hsplit
    have hsingle : split ',' "" = [""] := rfl
    rw [hsingle] at hsplit
    exact absurd rfl (hnames "" (by rw [← hsplit]; exact List.mem_singleton_self ""))
  · rw [if_neg hempty, hsplit]

/-- What is split has no commas. -/
theorem not_mem_sqlTrim {s name : String} (h : name ∈ stringToArray s ',') :
    ',' ∉ (sqlTrim name).toList := by
  have hname : ',' ∉ name.toList := by
    unfold stringToArray at h
    by_cases hempty : s = ""
    · rw [if_pos hempty] at h
      cases h
    · rw [if_neg hempty] at h
      exact not_mem_of_mem_split h
  intro hmem
  unfold sqlTrim at hmem
  rw [String.toList_ofList, List.mem_reverse] at hmem
  have hreversed := (List.dropWhile_sublist _).mem hmem
  rw [List.mem_reverse] at hreversed
  exact hname ((List.dropWhile_sublist _).mem hreversed)

/-- **Without commas the init script finds the names the user has.** -/
theorem grantsAgree_of_noCommas {replica : Replica} (h : NoCommas replica.spec) :
    GrantsAgree replica := by
  intro present pair
  rw [mem_lockdownGrants, mem_operatorGrants]
  apply and_congr_right
  intro _
  have hread : ∀ user ∈ extraUsers replica.spec, user.schemas ≠ [] →
      stringToArray (join ',' user.schemas) ',' = user.schemas := fun user huser hne =>
    stringToArray_join hne (fun schema hschema => (extraUsers_trimmed huser hschema).2)
      (h user huser)
  constructor
  · rintro ⟨role, hrole, hne, hname, name, hmem, htrim⟩
    obtain ⟨user, huser, rfl⟩ := List.mem_map.mp hrole
    have hschema : name ∈ user.schemas := by
      rw [← hread user huser hne]
      exact hmem
    rw [sqlTrim_eq (extraUsers_trimmed huser hschema).1] at htrim
    rw [← htrim]
    exact ⟨user, huser, hname, hschema⟩
  · rintro ⟨user, huser, hname, hschema⟩
    have hne : user.schemas ≠ [] := List.ne_nil_of_mem hschema
    refine ⟨_, List.mem_map.mpr ⟨user, huser, rfl⟩, hne, hname, pair.2, ?_, ?_⟩
    · show pair.2 ∈ stringToArray (join ',' user.schemas) ','
      rw [hread user huser hne]
      exact hschema
    · exact sqlTrim_eq (extraUsers_trimmed huser hschema).1

/-- **A name with a comma is granted by the operator alone**, where there is such a schema. -/
theorem noCommas_of_grantsAgree {replica : Replica} (h : GrantsAgree replica) :
    NoCommas replica.spec := by
  intro user huser schema hschema hcomma
  have hgranted : (user.name, schema) ∈ operatorGrants [schema] replica.spec :=
    mem_operatorGrants.mpr ⟨List.mem_singleton_self schema, user, huser, rfl, hschema⟩
  obtain ⟨_, role, _, _, _, name, hname, htrim⟩ := mem_lockdownGrants.mp ((h _ _).mpr hgranted)
  have hnot := not_mem_sqlTrim hname
  rw [htrim] at hnot
  exact hnot hcomma

/-! ## The schemas of a migration -/

/-- Names that fit in a line with commas between them, the last of which is not empty. -/
def ReadableNames (schemas : List String) : Prop :=
  (∀ schema ∈ schemas, ',' ∉ schema.toList ∧ '\n' ∉ schema.toList) ∧ schemas.getLast? ≠ some ""

/-- What the shell reads are parts of the first line. -/
theorem mem_readArray {sep : Char} {input part : String} (h : part ∈ readArray sep input) :
    part ∈ split sep (String.ofList (input.toList.takeWhile (· ≠ '\n'))) := by
  unfold readArray at h
  dsimp only at h
  split at h
  · exact (List.dropLast_sublist _).mem h
  · exact h

/-- Of names that are read back, none has a comma or a line break. -/
theorem readArray_parts {input part : String} (h : part ∈ readArray ',' input) :
    ',' ∉ part.toList ∧ '\n' ∉ part.toList := by
  have hpart := mem_readArray h
  refine ⟨not_mem_of_mem_split hpart, ?_⟩
  intro hline
  have hmem := mem_of_mem_split hpart hline
  rw [String.toList_ofList] at hmem
  have hnot := List.mem_takeWhile_imp hmem
  simp at hnot

/-- The shell reads the parts of a list of names that are all in one line. -/
theorem schemaArray_eq {schemas : List String} (hne : schemas ≠ [])
    (hnames : ∀ schema ∈ schemas, ',' ∉ schema.toList ∧ '\n' ∉ schema.toList) :
    schemaArray schemas = if schemas.getLast? = some "" then schemas.dropLast else schemas := by
  have hline : (schemasVariable schemas).toList.takeWhile (· ≠ '\n') =
      (schemasVariable schemas).toList := by
    have hnot : '\n' ∉ (schemasVariable schemas).toList :=
      not_mem_join (by decide) fun schema hschema => (hnames schema hschema).2
    exact takeWhile_ne_of_notMem hnot
  have hsplit : split ',' (schemasVariable schemas) = schemas :=
    (split_join_iff hne).mpr fun schema hschema => (hnames schema hschema).1
  unfold schemaArray readArray
  rw [hline, String.ofList_toList, hsplit]

/-- **The migration script goes by the schemas it was given exactly when their names are readable.** -/
theorem schemaArray_iff (schemas : List String) :
    schemaArray schemas = schemas ↔ ReadableNames schemas := by
  by_cases hne : schemas = []
  · subst hne
    refine iff_of_true rfl ⟨?_, by simp⟩
    exact fun _ h => absurd h List.not_mem_nil
  constructor
  · intro h
    have hnames : ∀ schema ∈ schemas, ',' ∉ schema.toList ∧ '\n' ∉ schema.toList := by
      intro schema hschema
      rw [← h] at hschema
      exact readArray_parts hschema
    refine ⟨hnames, ?_⟩
    intro hlast
    -- an empty last name is lost
    rw [schemaArray_eq hne hnames, if_pos hlast] at h
    have hlength := congrArg List.length h
    have hpos := List.length_pos_iff.mpr hne
    rw [List.length_dropLast] at hlength
    omega
  · rintro ⟨hnames, hlast⟩
    rw [schemaArray_eq hne hnames, if_neg hlast]

/-- **Schemas are handed over as they are exactly when their names allow it**: to the init script, those
    without commas, and to the migration script, those in one line without commas and with no empty last. -/
theorem schemas_handed_over_iff (replica : Replica) (schemas : List String) :
    (GrantsAgree replica ↔ NoCommas replica.spec) ∧
      (schemaArray schemas = schemas ↔ ReadableNames schemas) :=
  ⟨⟨noCommas_of_grantsAgree, grantsAgree_of_noCommas⟩, schemaArray_iff schemas⟩

/-- A replica with a user that reads the schema `a,b`. -/
def commaReplica : Replica :=
  { name := "r", spec := { plainSpec with extraUsers := [{ name := "etl", schemas := ["a,b"] }] } }

/-- **The init script grants the user two schemas it does not name**, and the migration Job copies them. -/
theorem comma_splits_schema :
    ¬ GrantsAgree commaReplica ∧ schemaArray ["a,b"] ≠ ["a,b"] := by
  refine ⟨?_, by decide⟩
  intro h
  have hgranted : ("etl", "a") ∈ operatorGrants ["a", "b"] commaReplica.spec :=
    (h ["a", "b"] ("etl", "a")).mp (by decide)
  exact absurd hgranted (by decide)

end RestoreOperator
