import RestoreOperator.Correctness.SetUpRoles

/-!
# `Correctness.LaterObjects` — what an extra user may do with objects that are created later

A restore lives on after its roles are set up: the analytics user copies schemas into it and builds tables.  What
is granted on them is what their creators' defaults say, so the argument follows the defaults through the script
as it followed the objects.
-/

namespace RestoreOperator

open Privileges

namespace Lockdown

/-! ## One statement -/

/-- What a default is for. -/
def DefaultAcl.key (d : DefaultAcl) : String × Option String × DefaultType := (d.access.owner, d.schema, d.type)

/-- The defaults of a database, as rows that statements act on. -/
def defaultTable : Rows.Table Statement DefaultAcl := ⟨onDefault, newDefaults⟩

section Defaults

variable {fails : Statement → Bool} {db : Database} {w : String} {st : Statement} {d d' : DefaultAcl}

theorem defaults_run (st : Statement) (db : Database) :
    (run fails db st).defaults = defaultTable.run fails db.defaults st := by
  unfold run Rows.Table.run
  split
  · rfl
  · rfl

theorem defaults_foldl (sts : List Statement) (db : Database) :
    (sts.foldl (run fails) db).defaults = sts.foldl (defaultTable.run fails) db.defaults := by
  induction sts generalizing db with
  | nil => rfl
  | cons st rest ih => rw [List.foldl_cons, List.foldl_cons, ih, defaults_run]

/-- **What a statement leaves of a default**: something is taken back, or it grants one role to read tables. -/
theorem onDefault_eq_some (h : onDefault st d = some d') :
    d' = d ∨ (∃ g, d' = { d with access := d.access.revoke g }) ∨
      ∃ schema role, st = .grantDefaultSelect d.access.owner schema role ∧ d.schema = some schema ∧
        d.type = .tables ∧ d' = { d with access := d.access.grant (.role role) .select } := by
  cases st with
  | revokeDefault role schema type =>
    simp only [onDefault] at h
    split at h
    · exact .inr (.inl ⟨_, (Option.some.inj h).symm⟩)
    · exact .inl (Option.some.inj h).symm
  | dropOwned role =>
    simp only [onDefault] at h
    split at h
    · cases h
    · exact .inr (.inl ⟨_, (Option.some.inj h).symm⟩)
  | grantDefaultSelect owner schema role =>
    simp only [onDefault] at h
    split at h
    · rename_i hthis
      obtain ⟨rfl, hschema, htype⟩ := hthis
      exact .inr (.inr ⟨schema, role, rfl, hschema, htype, (Option.some.inj h).symm⟩)
    · exact .inl (Option.some.inj h).symm
  | revokeSchema schema => exact .inl (Option.some.inj h).symm
  | revokeRelation schema name => exact .inl (Option.some.inj h).symm
  | revokeRoutine procedure schema name => exact .inl (Option.some.inj h).symm
  | reassignOwned role => exact .inl (Option.some.inj h).symm
  | grantUsage schema role => exact .inl (Option.some.inj h).symm
  | grantSelect sequences schema role => exact .inl (Option.some.inj h).symm
  | grantExecute procedure schema name role => exact .inl (Option.some.inj h).symm

theorem mem_newDefaults {defaults : List DefaultAcl} (h : d ∈ newDefaults st defaults) :
    ∃ owner schema role, st = .grantDefaultSelect owner schema role ∧
      d = { schema := some schema, type := .tables, access := ⟨owner, [⟨.role role, .select, owner⟩]⟩ } := by
  cases st with
  | grantDefaultSelect owner schema role =>
    simp only [newDefaults] at h
    split at h
    · cases h
    · exact ⟨owner, schema, role, rfl, List.mem_singleton.mp h⟩
  | _ => cases h

/-- No statement makes a default another's. -/
theorem key_onDefault (h : onDefault st d = some d') : d'.key = d.key := by
  rcases onDefault_eq_some h with rfl | ⟨_, rfl⟩ | ⟨_, _, _, _, _, rfl⟩ <;> rfl

theorem defaultKeeps_byOwner (st : Statement) : defaultTable.Keeps (fun d => d.access.ByOwner) st where
  on d d' h hbyOwner := by
    rcases onDefault_eq_some h with rfl | ⟨g, rfl⟩ | ⟨_, role, _, _, _, rfl⟩
    · exact hbyOwner
    · exact hbyOwner.revoke g
    · exact hbyOwner.grant _ _
  new defaults d h := by
    obtain ⟨owner, schema, role, _, rfl⟩ := mem_newDefaults h
    intro x hx
    rw [List.mem_singleton.mp hx]

theorem defaultKeeps_closed (st : Statement) : defaultTable.Keeps (fun d => d.access.Closed) st where
  on d d' h hclosed := by
    rcases onDefault_eq_some h with rfl | ⟨g, rfl⟩ | ⟨_, role, _, _, _, rfl⟩
    · exact hclosed
    · exact hclosed.revoke g
    · exact hclosed.grant role _
  new defaults d h := by
    obtain ⟨owner, schema, role, _, rfl⟩ := mem_newDefaults h
    intro x hx
    rw [List.mem_singleton.mp hx]
    exact fun heq => nomatch heq

/-- **A role stays within bounds** that every grant to it respects, if no default is made for itself. -/
theorem defaultKeeps_within {P : String × Option String × DefaultType → Privilege → Prop}
    (hgrant : ∀ owner schema role, st = .grantDefaultSelect owner schema role →
      owner ≠ w ∧ (role = w → P (owner, some schema, .tables) .select)) :
    defaultTable.Keeps (fun d => d.access.Within w (P d.key)) st where
  on d d' h hwithin := by
    have hkey := key_onDefault h
    rw [hkey]
    rcases onDefault_eq_some h with rfl | ⟨g, rfl⟩ | ⟨schema, role, hst, hschema, htype, rfl⟩
    · exact hwithin
    · exact hwithin.revoke g
    · refine hwithin.grant fun heq => ?_
      have hthis : d.key = (d.access.owner, some schema, .tables) := by
        unfold DefaultAcl.key
        rw [hschema, htype]
      rw [hthis]
      exact (hgrant _ _ _ hst).2 (by injection heq)
  new defaults d h := by
    obtain ⟨owner, schema, role, hst, rfl⟩ := mem_newDefaults h
    obtain ⟨hne, hto⟩ := hgrant _ _ _ hst
    refine ⟨hne, fun x hx heq => ?_⟩
    rw [List.mem_singleton.mp hx] at heq ⊢
    exact hto (by injection heq)

/-- What only grants carries a default on. -/
theorem onDefault_carries {k : String × Option String × DefaultType}
    (hst : st.granted.isSome = true ∨ ∃ owner schema role, st = .grantDefaultSelect owner schema role) (d : DefaultAcl)
    (h : d.key = k ∧ d.access.Allows w .select) :
    ∃ d', onDefault st d = some d' ∧ d'.key = k ∧ d'.access.Allows w .select := by
  rcases hst with hst | ⟨owner, schema, role, rfl⟩
  · refine ⟨d, ?_, h⟩
    cases st <;> first
      | rfl
      | cases hst
  · by_cases hthis : d.access.owner = owner ∧ d.schema = some schema ∧ d.type = .tables
    · exact ⟨_, if_pos hthis, h.1, h.2.grant _ _⟩
    · exact ⟨d, if_neg hthis, h⟩

/-- A grant that runs makes a default allow what it grants. -/
theorem grantDefaultSelect_allows {owner schema : String}
    (hruns : fails (.grantDefaultSelect owner schema w) = false) (defaults : List DefaultAcl) :
    ∃ d ∈ defaultTable.run fails defaults (.grantDefaultSelect owner schema w),
      d.key = (owner, some schema, .tables) ∧ d.access.Allows w .select := by
  unfold Rows.Table.run
  rw [hruns, if_neg Bool.false_ne_true]
  by_cases hany : ∃ d ∈ defaults, d.access.owner = owner ∧ d.schema = some schema ∧ d.type = .tables
  · obtain ⟨d, hd, hthis⟩ := hany
    refine ⟨{ d with access := d.access.grant (.role w) .select }, List.mem_append_left _ ?_, ?_, Access.allows_grant⟩
    · exact List.mem_filterMap.mpr ⟨d, hd, if_pos hthis⟩
    · obtain ⟨howner, hschema, htype⟩ := hthis
      show (d.access.owner, d.schema, d.type) = _
      rw [howner, hschema, htype]
  · let made : DefaultAcl :=
      { schema := some schema, type := .tables, access := ⟨owner, [⟨.role w, .select, owner⟩]⟩ }
    refine ⟨made, List.mem_append_right _ ?_, rfl, ⟨_, List.mem_singleton_self _, rfl, .inr rfl⟩⟩
    show made ∈ newDefaults (.grantDefaultSelect owner schema w) defaults
    unfold newDefaults
    dsimp only
    rw [if_neg (by simpa using hany)]
    exact List.mem_singleton_self _

end Defaults

/-! ## The defaults through the script -/

section Script

variable {fails : Statement → Bool} {db : Database} {w analytics : String} {users : List ExtraUser}

/-- The statements about defaults that matter to a user do not fail. -/
structure DefaultsRun (fails : Statement → Bool) (analytics w : String) : Prop where
  revokes : ∀ owner schema type, fails (.revokeDefault owner schema type) = false
  drops : fails (.dropOwned w) = false
  grants : ∀ schema, fails (.grantDefaultSelect analytics schema w) = false

/-- The defaults of a database have a property. -/
def EveryDefault (I : DefaultAcl → Prop) (db : Database) : Prop := ∀ d ∈ db.defaults, I d

theorem EveryDefault.foldl {I : DefaultAcl → Prop} (h : EveryDefault I db) {sts : List Statement}
    (hsts : ∀ st ∈ sts, defaultTable.Keeps I st) : EveryDefault I (sts.foldl (run fails) db) := by
  unfold EveryDefault
  rw [defaults_foldl]
  exact Rows.Table.foldl_all h hsts

theorem EveryDefault.gexec {I : DefaultAcl → Prop} (h : EveryDefault I db) {query : Database → List Statement}
    (hquery : ∀ st ∈ query db, defaultTable.Keeps I st) : EveryDefault I (gexec fails db query) := h.foldl hquery

theorem EveryDefault.foldl_makes {I J : DefaultAcl → Prop} (h : EveryDefault I db) {sts : List Statement}
    (hkeeps : ∀ st ∈ sts, defaultTable.Keeps I st ∧ defaultTable.Keeps J st)
    (hmakes : ∀ d ∈ db.defaults, ∃ st ∈ sts, defaultTable.Makes fails DefaultAcl.key I J st d.key) :
    EveryDefault J (sts.foldl (run fails) db) := by
  unfold EveryDefault
  rw [defaults_foldl]
  exact Rows.Table.foldl_makes (fun _ _ _ => key_onDefault) h hkeeps fun d hd _ => .inr (hmakes d hd)

/-- **After its own revoke nothing of a default is everyone's.** -/
theorem revokeDefaults_closes (h : EveryDefault (fun d => d.access.ByOwner) db)
    (hruns : DefaultsRun fails analytics w) :
    EveryDefault (fun d => d.access.Closed) (gexec fails db revokeDefaults) := by
  refine h.foldl_makes (fun st _ => ⟨defaultKeeps_byOwner st, defaultKeeps_closed st⟩) fun d hd => ?_
  refine ⟨_, List.mem_map_of_mem hd, hruns.revokes _ _ _, fun d₁ d₂ hkey heq hbyOwner => ?_⟩
  simp only [DefaultAcl.key, Prod.mk.injEq] at hkey
  have hrevoked : onDefault (.revokeDefault d.access.owner d.schema d.type) d₁ =
      some { d₁ with access := d₁.access.revoke .everyone } := if_pos hkey
  obtain rfl := Option.some.inj (hrevoked.symm.trans heq)
  exact hbyOwner.closed_revoke

/-- A statement of these that makes no default leaves a role within any bounds. -/
theorem defaultKeeps_within_of_ne {P : String × Option String × DefaultType → Privilege → Prop} {st : Statement}
    (hst : ∀ owner schema role, st ≠ .grantDefaultSelect owner schema role) :
    defaultTable.Keeps (fun d => d.access.Within w (P d.key)) st :=
  defaultKeeps_within fun owner schema role heq => absurd heq (hst owner schema role)

/-- **No default is left to a managed role**, nor grants it anything. -/
theorem defaults_stripped {roles : List String} (h : EveryDefault (fun d => d.access.ByOwner) db) (hw : w ∈ roles)
    (hruns : fails (.dropOwned w) = false) :
    EveryDefault (fun d => d.access.Within w fun _ => False) ((takeFrom roles).foldl (run fails) db) := by
  have htaken : ∀ st ∈ takeFrom roles, ∀ owner schema role, st ≠ .grantDefaultSelect owner schema role := by
    rintro st hst owner schema role rfl
    obtain ⟨role', _, heq | heq⟩ := mem_takeFrom.mp hst <;> cases heq
  refine h.foldl_makes (fun st hst => ⟨defaultKeeps_byOwner st, ?_⟩) fun d _ => ?_
  · exact defaultKeeps_within_of_ne (P := fun _ _ => False) (htaken st hst)
  · refine ⟨.dropOwned w, mem_takeFrom.mpr ⟨w, hw, .inr rfl⟩, hruns, fun d₁ d₂ _ heq hbyOwner => ?_⟩
    have hdropped : (if d₁.access.owner = w then none else some { d₁ with access := d₁.access.revoke (.role w) }) =
        some d₂ := heq
    split at hdropped
    · cases hdropped
    · rename_i howner
      obtain rfl := Option.some.inj hdropped
      exact hbyOwner.within_revoke howner

/-- Read the tables that a role creates in the schemas that may be read. -/
def ReadsLater (owner : String) (G : String → Prop) (key : String × Option String × DefaultType) (p : Privilege) :
    Prop := p = .select ∧ ∃ schema, G schema ∧ key = (owner, some schema, .tables)

theorem GrantsReads.defaultsWithin {owner : String} {G : String → Prop} {sts : List Statement}
    (hsts : GrantsReads owner w G sts) (hne : w ≠ owner)
    (h : EveryDefault (fun d => d.access.Within w (ReadsLater owner G d.key)) db) :
    EveryDefault (fun d => d.access.Within w (ReadsLater owner G d.key)) (sts.foldl (run fails) db) := by
  refine h.foldl fun st hst => defaultKeeps_within fun owner' schema role hgrant => ?_
  subst hgrant
  obtain ⟨w', schema', hin, hst⟩ := hsts _ hst
  simp only [readStatements, List.mem_cons, List.not_mem_nil, or_false, reduceCtorEq, false_or,
    Statement.grantDefaultSelect.injEq] at hst
  obtain ⟨rfl, rfl, rfl⟩ := hst
  exact ⟨fun heq => hne heq.symm, fun hrole => ⟨rfl, schema, hin hrole, rfl⟩⟩

/-- What the defaults may grant a user. -/
def Readable (analytics : String) (db : Database) (users : List ExtraUser) (w : String)
    (key : String × Option String × DefaultType) (p : Privilege) : Prop :=
  ReadsLater analytics (GrantedIn db users w) key p

/-- **What the lockdown comes to for the defaults.** -/
structure DefaultsDown (analytics : String) (users : List ExtraUser) (w : String) (db : Database) : Prop where
  closed : EveryDefault (fun d => d.access.Closed) db
  within : EveryDefault (fun d => d.access.Within w (Readable analytics db users w d.key)) db
  allows : ∀ schema, GrantedIn db users w schema →
    ∃ d ∈ db.defaults, d.key = (analytics, some schema, .tables) ∧ d.access.Allows w .select

/-- Grants to read later tables, made one after the other, are all made. -/
theorem schemaStatements_allows (hgrants : ∀ schema, fails (.grantDefaultSelect analytics schema w) = false)
    {schema : String} (hin : GrantedIn db users w schema) :
    ∃ d ∈ ((schemaStatements analytics users db).foldl (run fails) db).defaults,
      d.key = (analytics, some schema, .tables) ∧ d.access.Allows w .select := by
  have hmem : .grantDefaultSelect analytics schema w ∈ schemaStatements analytics users db :=
    mem_schemaStatements.mpr ⟨w, schema, hin, by simp⟩
  -- the grant makes the default, and the grants after it carry it on
  obtain ⟨before, after, hsplit⟩ := List.append_of_mem hmem
  rw [defaults_foldl, hsplit, List.foldl_append, List.foldl_cons]
  refine Rows.Table.foldl_exists (grantDefaultSelect_allows (hgrants schema) _) fun st hst d h => ?_
  refine onDefault_carries ?_ d h
  obtain ⟨w', schema', _, hst⟩ := mem_schemaStatements.mp
    (hsplit ▸ List.mem_append_right _ (List.mem_cons_of_mem _ hst) : st ∈ schemaStatements analytics users db)
  simp only [List.mem_cons, List.not_mem_nil, or_false] at hst
  rcases hst with rfl | rfl | rfl | rfl
  · exact .inl rfl
  · exact .inl rfl
  · exact .inl rfl
  · exact .inr ⟨_, _, _, rfl⟩

/-- What the defaults may grant is told by the schemas there are. -/
theorem readable_congr {db' : Database} (h : db'.schemas = db.schemas) (key : String × Option String × DefaultType)
    (p : Privilege) : Readable analytics db' users w key p ↔ Readable analytics db users w key p := by
  unfold Readable ReadsLater GrantedIn
  rw [h]

theorem defaultsDown_lockdown {f : Failing} (h : EveryDefault (fun d => d.access.ByOwner) db)
    (hw : w ∈ analytics :: users.map (·.username)) (hanalytics : w ≠ analytics)
    (hruns : DefaultsRun (f.statement db.name) analytics w) :
    DefaultsDown analytics users w (databaseLockdownBlock f analytics users db) := by
  obtain ⟨db₁, db₂, db₃, hdb₁, hdb₂, hdb₃, heq⟩ := databaseLockdownBlock_eq f analytics users db
  have hrevoked : EveryDefault (fun d => d.access.ByOwner) (gexec (f.statement db.name) (gexec (f.statement db.name)
      (gexec (f.statement db.name) db revokeSchemas) revokeRelations) revokeRoutines) :=
    ((h.gexec fun st _ => defaultKeeps_byOwner st).gexec fun st _ => defaultKeeps_byOwner st).gexec
      fun st _ => defaultKeeps_byOwner st
  have hbyOwner₁ : EveryDefault (fun d => d.access.ByOwner) db₁ := by
    rw [hdb₁]
    exact hrevoked.gexec fun st _ => defaultKeeps_byOwner st
  have hclosed₁ : EveryDefault (fun d => d.access.Closed) db₁ := by
    rw [hdb₁]
    exact revokeDefaults_closes hrevoked hruns
  have hclosed₃ : EveryDefault (fun d => d.access.Closed) db₃ := by
    rw [hdb₃, hdb₂]
    exact (hclosed₁.foldl fun st _ => defaultKeeps_closed st).gexec fun st _ => defaultKeeps_closed st
  have hstripped₂ : EveryDefault (fun d => d.access.Within w fun _ => False) db₂ := by
    rw [hdb₂]
    exact defaults_stripped hbyOwner₁ hw hruns.drops
  have hstripped₃ : EveryDefault (fun d => d.access.Within w fun _ => False) db₃ := by
    rw [hdb₃]
    refine hstripped₂.gexec fun st hst => defaultKeeps_within_of_ne (P := fun _ _ => False) ?_
    rintro owner schema role rfl
    obtain ⟨_, _, heq⟩ := mem_grantOwners hst
    cases heq
  have hschemas : ((schemaStatements analytics users db₃).foldl (run (f.statement db.name)) db₃).schemas =
      db₃.schemas := schemas_schemaStatements analytics users db₃
  rw [heq]
  refine ⟨hclosed₃.foldl fun st _ => defaultKeeps_closed st, fun d hd => ?_, fun schema hin => ?_⟩
  · have hstart : EveryDefault (fun d => d.access.Within w (Readable analytics db₃ users w d.key)) db₃ :=
      fun d hd => (hstripped₃ d hd).mono fun _ hfalse => hfalse.elim
    have hgranted : EveryDefault (fun d => d.access.Within w (Readable analytics db₃ users w d.key))
        ((schemaStatements analytics users db₃).foldl (run (f.statement db.name)) db₃) :=
      (grantsReads_schemaStatements analytics).defaultsWithin hanalytics hstart
    exact (hgranted d hd).mono fun p hp => (readable_congr hschemas d.key p).mpr hp
  · refine schemaStatements_allows hruns.grants ?_
    unfold GrantedIn at hin ⊢
    rwa [hschemas] at hin

/-- What the analytics user is granted on routines changes no default. -/
theorem DefaultsDown.grantRoutines (h : DefaultsDown analytics users w db) (role : String) :
    DefaultsDown analytics users w (gexec fails db (Lockdown.grantRoutines role)) := by
  have hsts : ∀ st ∈ Lockdown.grantRoutines role db, st.granted.isSome = true := by
    intro st hst
    obtain ⟨o, _, hst⟩ := List.mem_filterMap.mp hst
    split at hst
    · split at hst
      · cases hst
      · obtain rfl := Option.some.inj hst
        rfl
    · cases hst
  have hschemas : (gexec fails db (Lockdown.grantRoutines role)).schemas = db.schemas :=
    schemas_eq_of_keys (keys_foldl (not_dropOwned_grantRoutines role db))
  have hwithin : EveryDefault (fun d => d.access.Within w (Readable analytics db users w d.key)) db := h.within
  refine ⟨h.closed.gexec fun st _ => defaultKeeps_closed st, fun d hd => ?_, fun schema hin => ?_⟩
  · refine (hwithin.gexec (fun st hst => defaultKeeps_within_of_ne ?_) d hd).mono fun p hp =>
      (readable_congr hschemas d.key p).mpr hp
    rintro owner schema role' rfl
    cases hsts _ hst
  · unfold gexec
    rw [defaults_foldl]
    refine Rows.Table.foldl_exists (h.allows schema ?_) fun st hst d hd => onDefault_carries (.inl (hsts st hst)) d hd
    unfold GrantedIn at hin ⊢
    rwa [hschemas] at hin

end Script

/-! ## Objects created later -/

section Later

variable {db : Database} {w analytics : String} {users : List ExtraUser}

/-- Creations add objects, each by the defaults that there were at first. -/
theorem foldl_create (xs : List Creation) (db : Database) :
    (xs.foldl Database.create db).objects = db.objects ++ xs.map db.created ∧
      (xs.foldl Database.create db).owner = db.owner := by
  induction xs generalizing db with
  | nil => exact ⟨(List.append_nil _).symm, rfl⟩
  | cons x rest ih =>
    obtain ⟨hobjects, howner⟩ := ih (db.create x)
    refine ⟨?_, howner⟩
    rw [List.foldl_cons, hobjects]
    show (db.objects ++ [db.created x]) ++ rest.map db.created = db.objects ++ (db.created x :: rest.map db.created)
    rw [List.append_assoc]
    rfl

theorem mem_defaultsFor {x : Creation} {schema : Option String} {d : DefaultAcl} :
    d ∈ db.defaultsFor x schema ↔ d ∈ db.defaults ∧ d.key = (x.creator, schema, x.kind.defaultType) := by
  unfold Database.defaultsFor DefaultAcl.key
  rw [List.mem_filter, decide_eq_true_eq, Prod.mk.injEq, Prod.mk.injEq]

theorem created_grants (db : Database) (x : Creation) :
    (db.created x).access.grants =
      (if db.defaultsFor x none = [] then builtIn x else (db.defaultsFor x none).flatMap (·.access.grants)) ++
        (db.defaultsFor x (some x.schema)).flatMap (·.access.grants) := rfl

/-- What is granted on a new object comes from a default, or is everyone's to execute. -/
theorem mem_created_grants {x : Creation} {g : Privileges.Grant String Privilege}
    (h : g ∈ (db.created x).access.grants) :
    (∃ d ∈ db.defaults, g ∈ d.access.grants ∧
      (d.key = (x.creator, none, x.kind.defaultType) ∨ d.key = (x.creator, some x.schema, x.kind.defaultType))) ∨
      db.defaultsFor x none = [] ∧ (∃ procedure, x.kind = .routine procedure) ∧
        g = ⟨.everyone, .execute, x.creator⟩ := by
  have hfrom {schema : Option String} (h : g ∈ (db.defaultsFor x schema).flatMap (·.access.grants)) :
      ∃ d ∈ db.defaults, g ∈ d.access.grants ∧ d.key = (x.creator, schema, x.kind.defaultType) := by
    obtain ⟨d, hd, hg⟩ := List.mem_flatMap.mp h
    obtain ⟨hmem, hkey⟩ := mem_defaultsFor.mp hd
    exact ⟨d, hmem, hg, hkey⟩
  rw [created_grants] at h
  rcases List.mem_append.mp h with h | h
  · split at h
    · rename_i hnone
      unfold builtIn at h
      split at h
      · rename_i procedure hkind
        exact .inr ⟨hnone, ⟨procedure, hkind⟩, List.mem_singleton.mp h⟩
      · cases h
    · obtain ⟨d, hd, hg, hkey⟩ := hfrom h
      exact .inl ⟨d, hd, hg, .inl hkey⟩
  · obtain ⟨d, hd, hg, hkey⟩ := hfrom h
    exact .inl ⟨d, hd, hg, .inr hkey⟩

/-- **What an extra user may do with a new object**: read it, if it is a table of the analytics user in a schema
    it was granted, or execute it, if its creator has no default for routines. -/
def MayLater (analytics : String) (db : Database) (users : List ExtraUser) (w : String) (x : Creation)
    (p : Privilege) : Prop :=
  (p = .select ∧ x.creator = analytics ∧ x.kind.defaultType = .tables ∧ GrantedIn db users w x.schema) ∨
    p = .execute ∧ (∃ procedure, x.kind = .routine procedure) ∧ db.defaultsFor x none = []

theorem DefaultsDown.created_allows_iff (h : DefaultsDown analytics users w db) (x : Creation) (p : Privilege) :
    (db.created x).access.Allows w p ↔ MayLater analytics db users w x p := by
  constructor
  · rintro ⟨g, hg, rfl, hgrantee⟩
    rcases mem_created_grants hg with ⟨d, hd, hmem, hkey⟩ | ⟨hnone, hkind, rfl⟩
    · -- what a default grants is granted to the user by name
      have hrole := hgrantee.resolve_left (h.closed d hd g hmem)
      obtain ⟨hselect, schema, hin, hthis⟩ := (h.within d hd).2 g hmem hrole
      rcases hkey with hkey | hkey
      · rw [hkey] at hthis
        simp at hthis
      · rw [hkey, Prod.mk.injEq, Prod.mk.injEq, Option.some.injEq] at hthis
        obtain ⟨hcreator, rfl, htype⟩ := hthis
        exact .inl ⟨hselect, hcreator, htype, hin⟩
    · exact .inr ⟨rfl, hkind, hnone⟩
  · rintro (⟨rfl, hcreator, htype, hin⟩ | ⟨rfl, ⟨procedure, hkind⟩, hnone⟩)
    · obtain ⟨d, hd, hkey, g, hg, hselect, hgrantee⟩ := h.allows x.schema hin
      have hfor : d ∈ db.defaultsFor x (some x.schema) := by
        refine mem_defaultsFor.mpr ⟨hd, ?_⟩
        rw [hkey, hcreator, htype]
      refine ⟨g, ?_, hselect, hgrantee⟩
      rw [created_grants]
      exact List.mem_append_right _ (List.mem_flatMap.mpr ⟨d, hfor, hg⟩)
    · refine ⟨⟨.everyone, .execute, x.creator⟩, ?_, rfl, .inl rfl⟩
      rw [created_grants, if_pos hnone]
      unfold builtIn
      rw [hkind]
      exact List.mem_append_left _ (List.mem_singleton_self _)

end Later

section Whole

variable {f : Failing} {analytics : String} {users : List ExtraUser} {readOnly : Bool} {c : Cluster}

theorem defaultsDown_setUpRoles (hc : ∀ db ∈ c.databases, EveryDefault (fun d => d.access.ByOwner) db) {w : String}
    (hw : w ∈ analytics :: users.map (·.username)) (hanalytics : w ≠ analytics) {db : Database}
    (hdb : db ∈ (setUpRoles f analytics users readOnly c).databases) (hopen : db.IsOpen)
    (hruns : DefaultsRun (f.statement db.name) analytics w) : DefaultsDown analytics users w db := by
  obtain ⟨db₀, hdb₀, hname, hfrom⟩ := mem_setUpRoles hdb hopen
  rw [hname] at hruns
  have hlockdown : DefaultsDown analytics users w (databaseLockdownBlock f analytics users db₀) :=
    defaultsDown_lockdown (hc db₀ hdb₀) hw hanalytics hruns
  rcases hfrom with rfl | rfl
  · exact hlockdown
  · exact hlockdown.grantRoutines analytics

/-- **Whatever others create later in a restore, an extra user may read the tables that the analytics user
    creates in a schema it was granted**, and may do nothing else with a new object but execute a routine of
    somebody who has no default for them.  What was there when the roles were set up stays as it was. -/
theorem may_later_iff (hc : ∀ db ∈ c.databases, (∀ o ∈ db.objects, o.access.ByOwner) ∧
      ∀ d ∈ db.defaults, d.access.ByOwner)
    {user : ExtraUser} (huser : user ∈ users)
    (hnames : user.username ∉ ["postgres", "pg_read_all_data", "pg_write_all_data"])
    (hanalytics : user.username ≠ analytics) {role : String} (hspliced : splicedRole analytics = some role)
    (hrole : role ≠ user.username) (hreset : f.role (.reset user.username) = false)
    (hrevoke : ∀ role, f.role (.revoke role user.username) = false) (hmembers : Revocable user.username c)
    {db : Database} (hdb : db ∈ (setUpRoles f analytics users readOnly c).databases) (hopen : db.IsOpen)
    (hdefaults : DefaultsRun (f.statement db.name) analytics user.username) {xs : List Creation}
    (hcreators : ∀ x ∈ xs, x.creator ≠ user.username) {o : Object}
    (ho : o ∈ (xs.foldl Database.create db).objects) (hlocked : Locked o.key)
    (hruns : RunsFor (f.statement db.name) user.username o.key) (p : Privilege) :
    May (setUpRoles f analytics users readOnly c) (xs.foldl Database.create db) user.username o p ↔
      (o ∈ db.objects ∧ Granted db users user.username o.key p) ∨
        ∃ x ∈ xs, o = db.created x ∧ MayLater analytics db users user.username x p := by
  simp only [List.mem_cons, List.not_mem_nil, or_false, not_or] at hnames
  obtain ⟨hpostgres, hread, hwrite⟩ := hnames
  have hw : ∃ extra ∈ users, extra.username = user.username := ⟨user, huser, rfl⟩
  obtain ⟨hdown, howner⟩ := lockedDown_setUpRoles (fun db hdb => (hc db hdb).1) (mem_managed hw) hpostgres hanalytics
    hdb hopen hruns
  have hdefaultsDown : DefaultsDown analytics users user.username db :=
    defaultsDown_setUpRoles (fun db hdb => (hc db hdb).2) (mem_managed hw) hanalytics hdb hopen hdefaults
  obtain ⟨hobjects, hsame⟩ := foldl_create xs db
  rw [may_iff_allows (powerless hw hspliced hrole hreset hrevoke hmembers) (hsame ▸ howner) hread hwrite]
  have hnew : ∀ x ∈ xs, ((db.created x).access.owner = user.username ∨ (db.created x).access.Allows user.username p) ↔
      MayLater analytics db users user.username x p := fun x hx => by
    rw [← hdefaultsDown.created_allows_iff x p]
    exact or_iff_right (hcreators x hx)
  rw [hobjects] at ho
  constructor
  · intro hmay
    rcases List.mem_append.mp ho with hold | hcreated
    · exact .inl ⟨hold, (hdown.allows_iff hold rfl hlocked p).mp hmay⟩
    · obtain ⟨x, hx, rfl⟩ := List.mem_map.mp hcreated
      exact .inr ⟨x, hx, rfl, (hnew x hx).mp hmay⟩
  · rintro (⟨hold, hgranted⟩ | ⟨x, hx, rfl, hmay⟩)
    · exact (hdown.allows_iff hold rfl hlocked p).mpr hgranted
    · exact (hnew x hx).mpr hmay

/-- A table that the analytics user builds. -/
def salesTotals : Creation where
  creator := "analytics"
  kind := .relation .table
  schema := "sales"
  name := "totals"

theorem reporting_reads_totals :
    May (setUpRoles {} "analytics" salesUsers true salesCluster) ([salesTotals].foldl Database.create salesDatabase)
      "reporting" (salesDatabase.created salesTotals) .select := by
  have hbyOwner : ∀ db ∈ salesCluster.databases, (∀ o ∈ db.objects, o.access.ByOwner) ∧
      ∀ d ∈ db.defaults, d.access.ByOwner := by
    unfold Access.ByOwner
    decide
  have hspliced : splicedRole "analytics" = some "analytics" := by decide
  have hrevocable : Revocable "reporting" salesCluster := fun h => absurd h (by decide)
  have hdb : salesDatabase ∈ (setUpRoles {} "analytics" salesUsers true salesCluster).databases := by
    rw [databases_salesCluster]
    exact List.mem_singleton_self _
  have ho : salesDatabase.created salesTotals ∈ ([salesTotals].foldl Database.create salesDatabase).objects := by
    rw [(foldl_create [salesTotals] salesDatabase).1]
    exact List.mem_append_right _ (List.mem_singleton_self _)
  refine (may_later_iff hbyOwner (List.mem_singleton_self salesUser) (by decide) (by decide) hspliced (by decide) rfl
    (fun _ => rfl) hrevocable hdb ⟨rfl, by decide⟩ ⟨fun _ _ _ => rfl, rfl, fun _ => rfl⟩ (by decide) ho
    (show isSystem "sales" = false by decide) (fun _ _ _ _ _ => rfl) .select).mpr ?_
  refine .inr ⟨salesTotals, List.mem_singleton_self _, rfl, .inl ⟨rfl, rfl, rfl, ?_⟩⟩
  unfold GrantedIn
  decide

end Whole

end Lockdown

end RestoreOperator
