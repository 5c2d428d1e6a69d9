import RestoreOperator.Base.Rows
import RestoreOperator.Correctness.SchemaGrants
import RestoreOperator.Restore.Lockdown

/-!
# `Correctness.Lockdown` — what a database leaves to a user

Every statement acts on each object by itself, so the argument follows one object through the script: first
nobody is let in, then the user has nothing, then it has what it is granted.  That the statements of other
objects or of other users may fail does not matter to it.
-/

namespace RestoreOperator

open Privileges

namespace Lockdown

/-! ## One statement -/

/-- What an object is called. -/
def Object.key (o : Object) : ObjectKind × String × String := (o.kind, o.schema, o.name)

theorem onObject_eq_some {st : Statement} {o o' : Object} (h : onObject st o = some o') :
    st ≠ .dropOwned o.access.owner ∧ o' = if st.isAbout o then { o with access := st.change o.access } else o := by
  unfold onObject at h
  split at h
  · cases h
  · rename_i hne
    exact ⟨hne, (Option.some.inj h).symm⟩

/-- No statement gives an object another name. -/
theorem key_onObject {st : Statement} {o o' : Object} (h : onObject st o = some o') : o'.key = o.key := by
  obtain ⟨_, rfl⟩ := onObject_eq_some h
  split <;> rfl

/-- A property of objects that a statement keeps. -/
def Keeps (I : Object → Prop) (st : Statement) : Prop := ∀ o o', onObject st o = some o' → I o → I o'

/-- What is kept of who may use an object is kept of the object. -/
theorem keeps_access {st : Statement} {I : ObjectKind × String × String → Access String Privilege → Prop}
    (h : ∀ o, st.isAbout o = true → I o.key o.access → I o.key (st.change o.access)) :
    Keeps (fun o => I o.key o.access) st := by
  rintro o o' hst hI
  have hkey := key_onObject hst
  obtain ⟨_, rfl⟩ := onObject_eq_some hst
  rw [hkey]
  split
  · rename_i habout
    exact h o habout hI
  · exact hI

theorem byOwner_change {a : Access String Privilege} (h : a.ByOwner) (st : Statement) : (st.change a).ByOwner := by
  cases st with
  | revokeSchema schema => exact h.revoke _
  | revokeRelation schema name => exact h.revoke _
  | revokeRoutine procedure schema name => exact h.revoke _
  | revokeDefault role schema type => exact h
  | reassignOwned role => exact h.reassign _ _
  | dropOwned role => exact h.revoke _
  | grantUsage schema role => exact h.grant _ _
  | grantSelect sequences schema role => exact h.grant _ _
  | grantDefaultSelect owner schema role => exact h
  | grantExecute procedure schema name role => exact h.grant _ _

theorem closed_change {a : Access String Privilege} (h : a.Closed) (st : Statement) : (st.change a).Closed := by
  cases st with
  | revokeSchema schema => exact h.revoke _
  | revokeRelation schema name => exact h.revoke _
  | revokeRoutine procedure schema name => exact h.revoke _
  | revokeDefault role schema type => exact h
  | reassignOwned role => exact h.reassign _ _
  | dropOwned role => exact h.revoke _
  | grantUsage schema role => exact h.grant _ _
  | grantSelect sequences schema role => exact h.grant _ _
  | grantDefaultSelect owner schema role => exact h
  | grantExecute procedure schema name role => exact h.grant _ _

/-- The role a statement grants something on objects, and what. -/
def Statement.granted : Statement → Option (String × Privilege)
  | .grantUsage _ role => some (role, .usage)
  | .grantSelect _ _ role => some (role, .select)
  | .grantExecute _ _ _ role => some (role, .execute)
  | _ => none

/-- **A role stays within bounds** that every grant to it respects. -/
theorem within_change {a : Access String Privilege} {role : String} {P : Privilege → Prop} (h : a.Within role P)
    (hne : role ≠ "postgres") {st : Statement} (hgrant : ∀ p, st.granted = some (role, p) → P p) :
    (st.change a).Within role P := by
  have hto {r : String} {p : Privilege} (hst : st.granted = some (r, p)) :
      (a.grant (.role r) p).Within role P := by
    refine h.grant fun heq => hgrant p ?_
    rw [hst]
    injection heq with heq
    rw [heq]
  cases st with
  | revokeSchema schema => exact h.revoke _
  | revokeRelation schema name => exact h.revoke _
  | revokeRoutine procedure schema name => exact h.revoke _
  | revokeDefault r schema type => exact h
  | reassignOwned r => exact h.reassign hne _
  | dropOwned r => exact h.revoke _
  | grantUsage schema r => exact hto rfl
  | grantSelect sequences schema r => exact hto rfl
  | grantDefaultSelect owner schema r => exact h
  | grantExecute procedure schema name r => exact hto rfl

/-! ## Many statements -/

section Runs

variable {fails : Statement → Bool} {db : Database} {I J : Object → Prop}

/-- The objects of a database have a property. -/
def Every (I : Object → Prop) (db : Database) : Prop := ∀ o ∈ db.objects, I o

/-- The objects of a database, as rows that statements act on. -/
def objectTable : Rows.Table Statement Object := ⟨onObject, fun _ _ => []⟩

theorem objects_run (st : Statement) : (run fails db st).objects = objectTable.run fails db.objects st := by
  unfold run Rows.Table.run
  split
  · rfl
  · exact (List.append_nil _).symm

theorem objects_foldl (sts : List Statement) (db : Database) :
    (sts.foldl (run fails) db).objects = sts.foldl (objectTable.run fails) db.objects := by
  induction sts generalizing db with
  | nil => rfl
  | cons st rest ih => rw [List.foldl_cons, List.foldl_cons, ih, objects_run]

theorem Keeps.row {st : Statement} (h : Keeps I st) : objectTable.Keeps I st :=
  ⟨h, fun _ _ hx => nomatch hx⟩

/-- Where an object comes from. -/
theorem mem_run {st : Statement} {o' : Object} (h : o' ∈ (run fails db st).objects) :
    o' ∈ db.objects ∧ fails st = true ∨ ∃ o ∈ db.objects, onObject st o = some o' ∧ fails st = false := by
  rw [objects_run] at h
  rcases Rows.Table.mem_run h with hkept | ⟨hruns, ⟨o, ho, hst⟩ | hnew⟩
  · exact .inl hkept
  · exact .inr ⟨o, ho, hst, hruns⟩
  · cases hnew

theorem Every.foldl {sts : List Statement} (h : Every I db) (hsts : ∀ st ∈ sts, Keeps I st) :
    Every I (sts.foldl (run fails) db) := by
  unfold Every
  rw [objects_foldl]
  exact Rows.Table.foldl_all h fun st hst => (hsts st hst).row

/-- A statement that runs, and makes what is called so have a property. -/
def Makes (fails : Statement → Bool) (I J : Object → Prop) (st : Statement) (o : Object) : Prop :=
  fails st = false ∧ ∀ o₁ o', o₁.key = o.key → onObject st o₁ = some o' → I o₁ → J o'

/-- **Statements that each keep a property and among which one makes it**, for every object, make it. -/
theorem Every.foldl_makes {sts : List Statement} (h : Every I db) (hkeeps : ∀ st ∈ sts, Keeps I st ∧ Keeps J st)
    (hmakes : ∀ o ∈ db.objects, I o → J o ∨ ∃ st ∈ sts, Makes fails I J st o) :
    Every J (sts.foldl (run fails) db) := by
  unfold Every
  rw [objects_foldl]
  refine Rows.Table.foldl_makes (fun _ _ _ => key_onObject) h (fun st hst => ?_) hmakes
  exact ⟨(hkeeps st hst).1.row, (hkeeps st hst).2.row⟩

/-! ## The schemas there are -/

theorem keys_run {st : Statement} (h : fails st = false → ∀ o ∈ db.objects, st ≠ .dropOwned o.access.owner) :
    (run fails db st).objects.map Object.key = db.objects.map Object.key := by
  rw [objects_run]
  refine Rows.Table.keys_run (fun _ _ _ => key_onObject) fun hruns => ⟨fun o ho => ?_, rfl⟩
  show (onObject st o).isSome = true
  unfold onObject
  rw [if_neg (h hruns o ho)]
  rfl

theorem keys_foldl {sts : List Statement} (h : ∀ st ∈ sts, ∀ role, st ≠ .dropOwned role) :
    (sts.foldl (run fails) db).objects.map Object.key = db.objects.map Object.key := by
  induction sts generalizing db with
  | nil => rfl
  | cons st rest ih =>
    rw [List.foldl_cons, ih fun st' hst' => h st' (List.mem_cons_of_mem _ hst')]
    exact keys_run fun _ o _ => h st List.mem_cons_self _

/-- The schemas are told by what the objects are called. -/
theorem schemas_eq_of_keys {db' : Database} (h : db'.objects.map Object.key = db.objects.map Object.key) :
    db'.schemas = db.schemas := by
  have hschemas (objects : List Object) :
      (objects.filter fun o => o.kind = .schema).map (·.schema) =
        ((objects.map Object.key).filter fun key => key.1 = .schema).map (·.2.1) := by
    induction objects with
    | nil => rfl
    | cons o rest ih =>
      by_cases ho : o.kind = .schema
      · simp only [List.filter_cons, List.map_cons, Object.key, ho, decide_true, if_true]
        rw [ih]
      · simp only [List.filter_cons, List.map_cons, Object.key, ho, decide_false]
        exact ih
  unfold Database.schemas
  rw [hschemas, hschemas, h]

end Runs

/-! ## Following an object through the script -/

section Script

variable {fails : Statement → Bool} {db : Database} {w : String} {present : List String}
  {users : List ExtraUser}

/-- What a statement is about is told by what it is called. -/
theorem isAbout_congr {o o' : Object} (h : o'.key = o.key) (st : Statement) : st.isAbout o' = st.isAbout o := by
  obtain ⟨kind, schema, name, access⟩ := o
  obtain ⟨kind', schema', name', access'⟩ := o'
  simp only [Object.key, Prod.mk.injEq] at h
  obtain ⟨rfl, rfl, rfl⟩ := h
  cases st <;> rfl

theorem keeps_byOwner (st : Statement) : Keeps (fun o => o.access.ByOwner) st :=
  keeps_access (I := fun _ a => a.ByOwner) fun _ _ h => byOwner_change h st

theorem keeps_closed (K : ObjectKind × String × String → Prop) (st : Statement) :
    Keeps (fun o => K o.key → o.access.Closed) st :=
  keeps_access (I := fun key a => K key → a.Closed) fun _ _ h hK => closed_change (h hK) st

/-- **A role stays within bounds** that may differ from object to object. -/
theorem keeps_within {P : ObjectKind × String × String → Privilege → Prop} (hne : w ≠ "postgres")
    {st : Statement} (hgrant : ∀ o, st.isAbout o = true → ∀ p, st.granted = some (w, p) → P o.key p) :
    Keeps (fun o => o.access.Within w (P o.key)) st :=
  keeps_access (I := fun key a => a.Within w (P key)) fun o habout h => within_change h hne (hgrant o habout)

/-- **Statements that revoke from everyone close what they are about.** -/
theorem closes {K : ObjectKind × String × String → Prop} {sts : List Statement}
    (h : Every (fun o => o.access.ByOwner) db)
    (hmem : ∀ o ∈ db.objects, K o.key → ∃ st ∈ sts, st.isAbout o = true ∧ fails st = false ∧
      ∀ a, st.change a = a.revoke .everyone) :
    Every (fun o => K o.key → o.access.Closed) (sts.foldl (run fails) db) := by
  refine h.foldl_makes (fun st _ => ⟨keeps_byOwner st, keeps_closed K st⟩) fun o ho _ => ?_
  by_cases hK : K o.key
  · obtain ⟨st, hst, habout, hruns, hchange⟩ := hmem o ho hK
    refine .inr ⟨st, hst, hruns, fun o₁ o' hkey heq hbyOwner _ => ?_⟩
    obtain ⟨_, rfl⟩ := onObject_eq_some heq
    rw [isAbout_congr hkey, habout, if_pos rfl]
    show (st.change o₁.access).Closed
    rw [hchange]
    exact hbyOwner.closed_revoke
  · exact .inl fun hK' => absurd hK' hK

/-- The objects that are closed: all but those of the system. -/
def Locked (key : ObjectKind × String × String) : Prop :=
  match key.1 with
  | .routine _ => key.2.1 ∉ ["pg_catalog", "information_schema"]
  | _ => isSystem key.2.1 = false

/-- The statements that close an object, and those about one user. -/
def Statement.matters (w : String) : Statement → Prop
  | .revokeSchema _ => True
  | .revokeRelation _ _ => True
  | .revokeRoutine _ _ _ => True
  | .reassignOwned role => role = w
  | .dropOwned role => role = w
  | .grantUsage _ role => role = w
  | .grantSelect _ _ role => role = w
  | _ => False

/-- The statements that matter to the object called so, and to the user, do not fail. -/
def RunsFor (fails : Statement → Bool) (w : String) (k : ObjectKind × String × String) : Prop :=
  ∀ o : Object, o.key = k → ∀ st, st.isAbout o = true → st.matters w → fails st = false

section Closing

variable {k : ObjectKind × String × String}

theorem isSystem_of_locked {o : Object} (h : Locked o.key) (hkind : ∀ procedure, o.kind ≠ .routine procedure) :
    isSystem o.schema = false := by
  unfold Locked Object.key at h
  cases ho : o.kind with
  | schema =>
    rw [ho] at h
    exact h
  | relation kind =>
    rw [ho] at h
    exact h
  | routine procedure => exact absurd ho (hkind procedure)

theorem revokeSchemas_closes (h : Every (fun o => o.access.ByOwner) db) (hruns : RunsFor fails w k) :
    Every (fun o => (o.key = k ∧ Locked o.key ∧ o.key.1 = .schema) → o.access.Closed)
      (gexec fails db revokeSchemas) := by
  refine closes (K := fun key => key = k ∧ Locked key ∧ key.1 = .schema) h fun o ho ⟨hkey, hlocked, hschema⟩ => ?_
  have hkind : o.kind = .schema := hschema
  have habout : (Statement.revokeSchema o.schema).isAbout o = true := by simp [Statement.isAbout, hkind]
  refine ⟨.revokeSchema o.schema, ?_, habout, hruns o hkey _ habout trivial, fun _ => rfl⟩
  have hsystem := isSystem_of_locked hlocked fun procedure hroutine => nomatch hkind.symm.trans hroutine
  refine List.mem_map_of_mem (List.mem_filter.mpr ⟨?_, by rw [hsystem]; rfl⟩)
  exact List.mem_map_of_mem (List.mem_filter.mpr ⟨ho, by simp [hkind]⟩)

theorem revokeRelations_closes (h : Every (fun o => o.access.ByOwner) db) (hruns : RunsFor fails w k) :
    Every (fun o => (o.key = k ∧ Locked o.key ∧ ∃ kind, o.key.1 = .relation kind) → o.access.Closed)
      (gexec fails db revokeRelations) := by
  refine closes (K := fun key => key = k ∧ Locked key ∧ ∃ kind, key.1 = .relation kind) h
    fun o ho ⟨hkey, hlocked, kind, hrelation⟩ => ?_
  have hkind : o.kind = .relation kind := hrelation
  have hrelation : o.isRelation = true := by
    unfold Object.isRelation
    rw [hkind]
  have habout : (Statement.revokeRelation o.schema o.name).isAbout o = true := by
    simp [Statement.isAbout, hrelation]
  refine ⟨.revokeRelation o.schema o.name, ?_, habout, hruns o hkey _ habout trivial, fun _ => rfl⟩
  have hsystem := isSystem_of_locked hlocked fun procedure hroutine => nomatch hkind.symm.trans hroutine
  exact List.mem_map_of_mem (f := fun o : Object => Statement.revokeRelation o.schema o.name)
    (List.mem_filter.mpr ⟨ho, by rw [hrelation, hsystem]; rfl⟩)

theorem revokeRoutines_closes (h : Every (fun o => o.access.ByOwner) db) (hruns : RunsFor fails w k) :
    Every (fun o => (o.key = k ∧ Locked o.key ∧ ∃ procedure, o.key.1 = .routine procedure) → o.access.Closed)
      (gexec fails db revokeRoutines) := by
  refine closes (K := fun key => key = k ∧ Locked key ∧ ∃ procedure, key.1 = .routine procedure) h
    fun o ho ⟨hkey, hlocked, procedure, hroutine⟩ => ?_
  have hkind : o.kind = .routine procedure := hroutine
  have habout : (Statement.revokeRoutine procedure o.schema o.name).isAbout o = true := by
    simp [Statement.isAbout, hkind]
  refine ⟨.revokeRoutine procedure o.schema o.name, ?_, habout, hruns o hkey _ habout trivial, fun _ => rfl⟩
  refine List.mem_filterMap.mpr ⟨o, ho, ?_⟩
  unfold Locked Object.key at hlocked
  rw [hkind] at hlocked ⊢
  exact if_neg hlocked

/-- What is closed stays closed, and what was granted by the owner stays so. -/
theorem every_byOwner (h : Every (fun o => o.access.ByOwner) db) (query : Database → List Statement) :
    Every (fun o => o.access.ByOwner) (gexec fails db query) := h.foldl fun st _ => keeps_byOwner st

theorem every_closed {K : ObjectKind × String × String → Prop} (h : Every (fun o => K o.key → o.access.Closed) db)
    (query : Database → List Statement) : Every (fun o => K o.key → o.access.Closed) (gexec fails db query) :=
  h.foldl fun st _ => keeps_closed K st

/-- **After the revokes an object is closed**, if its own did not fail. -/
theorem closed_after_revokes (h : Every (fun o => o.access.ByOwner) db) (hruns : RunsFor fails w k) :
    Every (fun o => (o.key = k ∧ Locked o.key) → o.access.Closed)
      (gexec fails (gexec fails (gexec fails db revokeSchemas) revokeRelations) revokeRoutines) := by
  have h₁ : Every _ (gexec fails db revokeSchemas) := every_byOwner h revokeSchemas
  have h₂ : Every _ (gexec fails (gexec fails db revokeSchemas) revokeRelations) := every_byOwner h₁ revokeRelations
  have hschemas : Every _ (gexec fails (gexec fails (gexec fails db revokeSchemas) revokeRelations) revokeRoutines) :=
    every_closed (K := fun key => key = k ∧ Locked key ∧ key.1 = .schema)
      (every_closed (K := fun key => key = k ∧ Locked key ∧ key.1 = .schema) (revokeSchemas_closes h hruns)
        revokeRelations) revokeRoutines
  have hrelations : Every _
      (gexec fails (gexec fails (gexec fails db revokeSchemas) revokeRelations) revokeRoutines) :=
    every_closed (K := fun key => key = k ∧ Locked key ∧ ∃ kind, key.1 = .relation kind)
      (revokeRelations_closes h₁ hruns) revokeRoutines
  rintro o ho ⟨hkey, hlocked⟩
  cases hkind : o.kind with
  | schema => exact hschemas o ho ⟨hkey, hlocked, hkind⟩
  | relation kind => exact hrelations o ho ⟨hkey, hlocked, kind, hkind⟩
  | routine procedure => exact revokeRoutines_closes h₂ hruns o ho ⟨hkey, hlocked, procedure, hkind⟩

end Closing

/-! ## Taking from the managed roles -/

/-- What is taken from the roles, one after the other. -/
def takeFrom (roles : List String) : List Statement :=
  roles.flatMap fun role => [.reassignOwned role, .dropOwned role]

theorem foldl_takeFrom (roles : List String) (db : Database) :
    (roles.flatMap fun role =>
        [fun _ => [Statement.reassignOwned role], fun _ => [Statement.dropOwned role]]).foldl (gexec fails) db =
      (takeFrom roles).foldl (run fails) db := by
  induction roles generalizing db with
  | nil => rfl
  | cons role rest ih =>
    unfold takeFrom at ih ⊢
    rw [List.flatMap_cons, List.flatMap_cons, List.foldl_append, List.foldl_append]
    exact ih _

theorem mem_takeFrom {roles : List String} {st : Statement} :
    st ∈ takeFrom roles ↔ ∃ role ∈ roles, st = .reassignOwned role ∨ st = .dropOwned role := by
  unfold takeFrom
  simp only [List.mem_flatMap, List.mem_cons, List.not_mem_nil, or_false]

/-- **A managed role has nothing left**, whatever happens to the others: what it owns is handed over or dropped. -/
theorem stripped {roles : List String} (h : Every (fun o => o.access.ByOwner) db) (hw : w ∈ roles)
    (hne : w ≠ "postgres") (hruns : fails (.dropOwned w) = false) :
    Every (fun o => o.access.Within w fun _ => False) ((takeFrom roles).foldl (run fails) db) := by
  refine h.foldl_makes (fun st hst => ⟨keeps_byOwner st, ?_⟩) fun o _ _ => .inr ?_
  · refine keeps_within (P := fun _ _ => False) hne fun o _ p hgranted => ?_
    obtain ⟨role, _, rfl | rfl⟩ := mem_takeFrom.mp hst
    · cases hgranted
    · cases hgranted
  · refine ⟨.dropOwned w, mem_takeFrom.mpr ⟨w, hw, .inr rfl⟩, hruns, fun o₁ o' _ heq hbyOwner => ?_⟩
    obtain ⟨hkept, rfl⟩ := onObject_eq_some heq
    have howner : o₁.access.owner ≠ w := fun howner => hkept (by rw [howner])
    exact hbyOwner.within_revoke howner

theorem mem_grantOwners {st : Statement} (h : st ∈ grantOwners db) :
    ∃ o ∈ db.objects, st = .grantUsage o.schema o.access.owner := by
  obtain ⟨pair, hpair, rfl⟩ := List.mem_map.mp h
  obtain ⟨o, ho, rfl⟩ := List.mem_map.mp (List.mem_dedup.mp hpair)
  exact ⟨o, List.mem_of_mem_filter ho, rfl⟩

/-- The owners are granted something, but a role that owns nothing is not. -/
theorem stripped_grantOwners (h : Every (fun o => o.access.Within w fun _ => False) db) (hne : w ≠ "postgres") :
    Every (fun o => o.access.Within w fun _ => False) (gexec fails db grantOwners) := by
  refine h.foldl fun st hst => keeps_within (P := fun _ _ => False) hne fun o _ p hgranted => ?_
  obtain ⟨o', ho', rfl⟩ := mem_grantOwners hst
  injection hgranted with hgranted
  exact (h o' ho').1 (congrArg Prod.fst hgranted)

/-! ## Granting the schemas -/

/-- Queries that go by the schemas there are run the statements of the first catalog, if none drops anything. -/
theorem foldl_gexec_eq {queries : List (Database → List Statement)}
    (hqueries : ∀ query ∈ queries, ∀ db', db'.schemas = db.schemas → query db' = query db)
    (hdrop : ∀ query ∈ queries, ∀ st ∈ query db, ∀ role, st ≠ .dropOwned role) :
    queries.foldl (gexec fails) db = (queries.flatMap fun query => query db).foldl (run fails) db := by
  induction queries generalizing db with
  | nil => rfl
  | cons query rest ih =>
    have hschemas : (gexec fails db query).schemas = db.schemas :=
      schemas_eq_of_keys (keys_foldl (hdrop query List.mem_cons_self))
    have hsame : ∀ query' ∈ rest, query' (gexec fails db query) = query' db := fun query' hquery' =>
      hqueries query' (List.mem_cons_of_mem _ hquery') _ hschemas
    rw [List.foldl_cons, List.flatMap_cons, List.foldl_append, ih]
    · rw [List.flatMap_congr hsame]
      rfl
    · intro query' hquery' db' hdb'
      rw [hqueries query' (List.mem_cons_of_mem _ hquery') db' (hdb'.trans hschemas), hsame query' hquery']
    · intro query' hquery' st hst
      rw [hsame query' hquery'] at hst
      exact hdrop query' (List.mem_cons_of_mem _ hquery') st hst

/-- The statements that grant the users their schemas. -/
def schemaStatements (analytics : String) (users : List ExtraUser) (db : Database) : List Statement :=
  (users.flatMap (grantSchemas analytics)).flatMap fun query => query db

/-- A user is granted a schema there. -/
def GrantedIn (db : Database) (users : List ExtraUser) (w schema : String) : Prop :=
  (w, schema) ∈ lockdownGrants db.schemas users

theorem grantedIn_iff {schema : String} :
    GrantedIn db users w schema ↔
      ∃ user ∈ users, user.schemas ≠ [] ∧ user.username = w ∧ schema ∈ namedSchemas user db := by
  unfold GrantedIn lockdownGrants namedSchemas
  rw [List.mem_flatMap]
  constructor
  · rintro ⟨user, huser, hmem⟩
    by_cases hnone : user.schemas = []
    · rw [if_pos hnone] at hmem
      cases hmem
    · rw [if_neg hnone, List.mem_flatMap] at hmem
      obtain ⟨name, hname, hmem⟩ := hmem
      obtain ⟨found, hfound, heq⟩ := List.mem_map.mp hmem
      cases heq
      exact ⟨user, huser, hnone, rfl, List.mem_flatMap.mpr ⟨name, hname, hfound⟩⟩
  · rintro ⟨user, huser, hnone, rfl, hmem⟩
    obtain ⟨name, hname, hfound⟩ := List.mem_flatMap.mp hmem
    refine ⟨user, huser, ?_⟩
    rw [if_neg hnone, List.mem_flatMap]
    exact ⟨name, hname, List.mem_map.mpr ⟨schema, hfound, rfl⟩⟩

theorem mem_schemaStatements {analytics : String} {st : Statement} :
    st ∈ schemaStatements analytics users db ↔
      ∃ w schema, GrantedIn db users w schema ∧
        st ∈ [.grantUsage schema w, .grantSelect false schema w, .grantSelect true schema w,
          .grantDefaultSelect analytics schema w] := by
  unfold schemaStatements
  simp only [List.mem_flatMap, grantedIn_iff]
  constructor
  · rintro ⟨query, ⟨user, huser, hquery⟩, hst⟩
    unfold grantSchemas at hquery
    by_cases hnone : user.schemas = []
    · rw [if_pos hnone] at hquery
      cases hquery
    · rw [if_neg hnone] at hquery
      simp only [List.mem_cons, List.not_mem_nil, or_false] at hquery
      rcases hquery with rfl | rfl | rfl | rfl <;>
      · obtain ⟨schema, hschema, rfl⟩ := List.mem_map.mp hst
        exact ⟨user.username, schema, ⟨user, huser, hnone, rfl, hschema⟩, by simp⟩
  · rintro ⟨w, schema, ⟨user, huser, hnone, rfl, hschema⟩, hst⟩
    unfold grantSchemas
    simp only [List.mem_cons, List.not_mem_nil, or_false] at hst
    rcases hst with rfl | rfl | rfl | rfl
    · refine ⟨fun db => (namedSchemas user db).map fun schema => .grantUsage schema user.username,
        ⟨user, huser, ?_⟩, List.mem_map_of_mem hschema⟩
      rw [if_neg hnone]
      exact List.mem_cons_self
    · refine ⟨fun db => (namedSchemas user db).map fun schema => .grantSelect false schema user.username,
        ⟨user, huser, ?_⟩, List.mem_map_of_mem hschema⟩
      rw [if_neg hnone]
      exact List.mem_cons_of_mem _ List.mem_cons_self
    · refine ⟨fun db => (namedSchemas user db).map fun schema => .grantSelect true schema user.username,
        ⟨user, huser, ?_⟩, List.mem_map_of_mem hschema⟩
      rw [if_neg hnone]
      exact List.mem_cons_of_mem _ (List.mem_cons_of_mem _ List.mem_cons_self)
    · refine ⟨fun db => (namedSchemas user db).map fun schema => .grantDefaultSelect analytics schema user.username,
        ⟨user, huser, ?_⟩, List.mem_map_of_mem hschema⟩
      rw [if_neg hnone]
      exact List.mem_cons_of_mem _ (List.mem_cons_of_mem _ (List.mem_cons_of_mem _ List.mem_cons_self))

theorem foldl_grantSchemas (analytics : String) (users : List ExtraUser) (db : Database) :
    (users.flatMap (grantSchemas analytics)).foldl (gexec fails) db =
      (schemaStatements analytics users db).foldl (run fails) db := by
  refine foldl_gexec_eq (fun query hquery db' hdb' => ?_) fun query hquery st hst role heq => ?_
  · obtain ⟨user, _, hquery⟩ := List.mem_flatMap.mp hquery
    have hnamed : namedSchemas user db' = namedSchemas user db := by
      unfold namedSchemas
      rw [hdb']
    unfold grantSchemas at hquery
    split at hquery
    · cases hquery
    · simp only [List.mem_cons, List.not_mem_nil, or_false] at hquery
      rcases hquery with rfl | rfl | rfl | rfl <;>
      · dsimp only
        rw [hnamed]
  · obtain ⟨_, _, _, hmem⟩ :=
      mem_schemaStatements.mp (List.mem_flatMap.mpr ⟨query, hquery, hst⟩ : st ∈ schemaStatements analytics users db)
    subst heq
    simp at hmem

/-- Use the schemas that may be read, and read what is in them. -/
def Reads (G : String → Prop) (key : ObjectKind × String × String) (p : Privilege) : Prop :=
  G key.2.1 ∧ (key.1 = .schema ∧ p = .usage ∨ (∃ kind, key.1 = .relation kind) ∧ p = .select)

/-- **What a user may do**: use the schemas it is granted, and read what is in them. -/
def Granted (db : Database) (users : List ExtraUser) (w : String) (key : ObjectKind × String × String)
    (p : Privilege) : Prop :=
  Reads (GrantedIn db users w) key p

theorem isRelation_iff {o : Object} : o.isRelation = true ↔ ∃ kind, o.kind = .relation kind := by
  unfold Object.isRelation
  cases o.kind <;> simp

/-- Statements that let roles read schemas, and a role among them some schemas only. -/
def GrantsReads (owner w : String) (G : String → Prop) (sts : List Statement) : Prop :=
  ∀ st ∈ sts, ∃ w' schema, (w' = w → G schema) ∧ st ∈ readStatements owner w' schema

section GrantsReads

variable {owner : String} {G : String → Prop} {sts : List Statement}

/-- The grants go no further. -/
theorem GrantsReads.within (hsts : GrantsReads owner w G sts) (hne : w ≠ "postgres")
    (h : Every (fun o => o.access.Within w (Reads G o.key)) db) :
    Every (fun o => o.access.Within w (Reads G o.key)) (sts.foldl (run fails) db) := by
  refine h.foldl fun st hst => keeps_within hne fun o habout p hgranted => ?_
  obtain ⟨w', schema, hin, hst⟩ := hsts st hst
  simp only [readStatements, List.mem_cons, List.not_mem_nil, or_false] at hst
  rcases hst with rfl | rfl | rfl | rfl
  · injection hgranted with hgranted
    obtain ⟨rfl, rfl⟩ := Prod.mk.inj hgranted
    obtain ⟨hkind, rfl⟩ : o.kind = .schema ∧ o.schema = schema := by simpa [Statement.isAbout] using habout
    exact ⟨hin rfl, .inl ⟨hkind, rfl⟩⟩
  · injection hgranted with hgranted
    obtain ⟨rfl, rfl⟩ := Prod.mk.inj hgranted
    obtain ⟨hrelation, _, rfl⟩ : o.isRelation = true ∧ ¬o.kind = .relation .sequence ∧ o.schema = schema := by
      simpa [Statement.isAbout] using habout
    exact ⟨hin rfl, .inr ⟨isRelation_iff.mp hrelation, rfl⟩⟩
  · injection hgranted with hgranted
    obtain ⟨rfl, rfl⟩ := Prod.mk.inj hgranted
    obtain ⟨hrelation, _, rfl⟩ : o.isRelation = true ∧ o.kind = .relation .sequence ∧ o.schema = schema := by
      simpa [Statement.isAbout] using habout
    exact ⟨hin rfl, .inr ⟨isRelation_iff.mp hrelation, rfl⟩⟩
  · cases hgranted

/-- A grant takes nothing away. -/
theorem keeps_allows {k : ObjectKind × String × String} {P : Privilege → Prop} {st : Statement}
    (hst : st.granted.isSome = true ∨ ∀ o, st.isAbout o = false) :
    Keeps (fun o => o.key = k → ∀ p, P p → o.access.Allows w p) st := by
  refine keeps_access (I := fun key a => key = k → ∀ p, P p → a.Allows w p) fun o habout h hkey p hp => ?_
  rcases hst with hst | hst
  · have hallows := h hkey p hp
    cases st <;> first
      | exact hallows.grant _ _
      | cases hst
  · rw [hst o] at habout
    cases habout

/-- **And they come to that**, where the role's own grants do not fail. -/
theorem GrantsReads.allows {k : ObjectKind × String × String} (hsts : GrantsReads owner w G sts)
    (hall : ∀ schema, G schema → ∀ st ∈ readStatements owner w schema, st ∈ sts) (hruns : RunsFor fails w k) :
    Every (fun o => o.key = k → ∀ p, Reads G k p → o.access.Allows w p) (sts.foldl (run fails) db) := by
  have htrue : Every (fun _ => True) db := fun _ _ => trivial
  refine htrue.foldl_makes (fun st hst => ⟨fun _ _ _ _ => trivial, keeps_allows ?_⟩) fun o _ _ => ?_
  · obtain ⟨w', schema, _, hst⟩ := hsts st hst
    simp only [readStatements, List.mem_cons, List.not_mem_nil, or_false] at hst
    rcases hst with rfl | rfl | rfl | rfl
    · exact .inl rfl
    · exact .inl rfl
    · exact .inl rfl
    · exact .inr fun _ => rfl
  by_cases hreads : o.key = k ∧ ∃ p, Reads G k p
  · obtain ⟨hkey, p, hin, hwhat⟩ := hreads
    subst hkey
    have hmake (st : Statement) (p : Privilege) (hmem : st ∈ readStatements owner w o.schema)
        (habout : st.isAbout o = true) (hmatters : st.matters w) (hchange : st.granted = some (w, p))
        (honly : ∀ q, Reads G o.key q → q = p) :
        ∃ st ∈ sts, Makes fails (fun _ => True)
          (fun o' => o'.key = o.key → ∀ p, Reads G o.key p → o'.access.Allows w p) st o := by
      refine ⟨st, hall o.schema hin st hmem, hruns o rfl st habout hmatters, fun o₁ o' hkey heq _ _ q hq => ?_⟩
      obtain ⟨_, rfl⟩ := onObject_eq_some heq
      rw [isAbout_congr hkey, habout, if_pos rfl, honly q hq]
      show (st.change o₁.access).Allows w p
      cases st <;> first
        | exact (by
            injection hchange with hchange
            obtain ⟨rfl, rfl⟩ := Prod.mk.inj hchange
            exact Access.allows_grant)
        | cases hchange
    refine .inr ?_
    rcases hwhat with ⟨hkind, rfl⟩ | ⟨⟨kind, hkind⟩, rfl⟩
    · have hschema : o.kind = .schema := hkind
      refine hmake (.grantUsage o.schema w) .usage (by simp [readStatements])
        (by simp [Statement.isAbout, hschema]) rfl rfl fun q hq => ?_
      rcases hq.2 with ⟨_, rfl⟩ | ⟨⟨_, hother⟩, _⟩
      · rfl
      · exact nomatch hkind.symm.trans hother
    · have hrelation : o.kind = .relation kind := hkind
      have hsome : o.isRelation = true := isRelation_iff.mpr ⟨kind, hkind⟩
      refine hmake (.grantSelect (decide (kind = .sequence)) o.schema w) .select ?_ ?_ rfl rfl fun q hq => ?_
      · cases kind <;> simp [readStatements]
      · simp [Statement.isAbout, hsome, hrelation]
      · rcases hq.2 with ⟨hother, _⟩ | ⟨_, rfl⟩
        · exact nomatch hkind.symm.trans hother
        · rfl
  · refine .inl fun hkey p hp => absurd ⟨hkey, p, hp⟩ hreads

end GrantsReads

/-- The script's own grants are such statements. -/
theorem grantsReads_schemaStatements (analytics : String) :
    GrantsReads analytics w (GrantedIn db users w) (schemaStatements analytics users db) := by
  intro st hst
  obtain ⟨w', schema, hin, hst⟩ := mem_schemaStatements.mp hst
  exact ⟨w', schema, fun heq => heq ▸ hin, hst⟩

theorem granted_within {analytics : String} (hne : w ≠ "postgres")
    (h : Every (fun o => o.access.Within w fun _ => False) db) :
    Every (fun o => o.access.Within w (Granted db users w o.key))
      ((schemaStatements analytics users db).foldl (run fails) db) :=
  (grantsReads_schemaStatements analytics).within hne fun o ho => (h o ho).mono fun _ hfalse => hfalse.elim

theorem granted_allows {analytics : String} {k : ObjectKind × String × String} (hruns : RunsFor fails w k) :
    Every (fun o => o.key = k → ∀ p, Granted db users w k p → o.access.Allows w p)
      ((schemaStatements analytics users db).foldl (run fails) db) :=
  (grantsReads_schemaStatements analytics).allows
    (fun schema hin _ hst => mem_schemaStatements.mpr ⟨w, schema, hin, hst⟩) hruns

theorem Every.gexec {I : Object → Prop} (h : Every I db) {query : Database → List Statement}
    (hquery : ∀ st ∈ query db, Keeps I st) : Every I (gexec fails db query) := h.foldl hquery

theorem databaseLockdownBlock_eq (f : Failing) (analytics : String) (users : List ExtraUser) (db : Database) :
    ∃ db₁ db₂ db₃ : Database,
      db₁ = gexec (f.statement db.name) (gexec (f.statement db.name) (gexec (f.statement db.name)
        (gexec (f.statement db.name) db revokeSchemas) revokeRelations) revokeRoutines) revokeDefaults ∧
      db₂ = (takeFrom (analytics :: users.map (·.username))).foldl (run (f.statement db.name)) db₁ ∧
      db₃ = gexec (f.statement db.name) db₂ grantOwners ∧
      databaseLockdownBlock f analytics users db =
        (schemaStatements analytics users db₃).foldl (run (f.statement db.name)) db₃ := by
  refine ⟨_, _, _, rfl, rfl, rfl, ?_⟩
  unfold databaseLockdownBlock lockdownQueries
  rw [List.foldl_append, List.foldl_append, List.foldl_append, foldl_takeFrom, foldl_grantSchemas]
  rfl

/-- The schemas a user is granted are told by the schemas there are. -/
theorem granted_congr {db' : Database} (h : db'.schemas = db.schemas) (key : ObjectKind × String × String)
    (p : Privilege) : Granted db' users w key p ↔ Granted db users w key p := by
  unfold Granted Reads GrantedIn
  rw [h]

theorem schemas_schemaStatements (analytics : String) (users : List ExtraUser) (db : Database) :
    ((schemaStatements analytics users db).foldl (run fails) db).schemas = db.schemas := by
  refine schemas_eq_of_keys (keys_foldl fun st hst role heq => ?_)
  obtain ⟨_, _, _, hmem⟩ := mem_schemaStatements.mp hst
  subst heq
  simp at hmem

/-- **What the lockdown comes to for an object and a user.** -/
structure LockedDown (k : ObjectKind × String × String) (users : List ExtraUser) (w : String) (db : Database) :
    Prop where
  closed : Every (fun o => (o.key = k ∧ Locked o.key) → o.access.Closed) db
  within : Every (fun o => o.access.Within w (Granted db users w o.key)) db
  allows : Every (fun o => o.key = k → ∀ p, Granted db users w k p → o.access.Allows w p) db

theorem lockedDown_lockdown {f : Failing} {analytics : String} {k : ObjectKind × String × String}
    (h : Every (fun o => o.access.ByOwner) db) (hw : w ∈ analytics :: users.map (·.username))
    (hne : w ≠ "postgres") (hruns : RunsFor (f.statement db.name) w k) :
    LockedDown k users w (databaseLockdownBlock f analytics users db) := by
  obtain ⟨db₁, db₂, db₃, hdb₁, hdb₂, hdb₃, heq⟩ := databaseLockdownBlock_eq f analytics users db
  have hbyOwner₁ : Every (fun o => o.access.ByOwner) db₁ := by
    rw [hdb₁]
    exact every_byOwner (every_byOwner (every_byOwner (every_byOwner h _) _) _) _
  have hclosed₁ : Every (fun o => (o.key = k ∧ Locked o.key) → o.access.Closed) db₁ := by
    rw [hdb₁]
    exact every_closed (K := fun key => key = k ∧ Locked key) (closed_after_revokes h hruns) _
  have hkept : ∀ st, Keeps (fun o => (o.key = k ∧ Locked o.key) → o.access.Closed) st :=
    keeps_closed fun key => key = k ∧ Locked key
  have hclosed₂ : Every (fun o => (o.key = k ∧ Locked o.key) → o.access.Closed) db₂ := by
    rw [hdb₂]
    exact hclosed₁.foldl fun st _ => hkept st
  have hclosed₃ : Every (fun o => (o.key = k ∧ Locked o.key) → o.access.Closed) db₃ := by
    rw [hdb₃]
    exact hclosed₂.gexec fun st _ => hkept st
  have hdrop : f.statement db.name (.dropOwned w) = false :=
    hruns { kind := k.1, schema := k.2.1, name := k.2.2, access := ⟨w, []⟩ } rfl (.dropOwned w) rfl rfl
  have hstripped₂ : Every (fun o => o.access.Within w fun _ => False) db₂ := by
    rw [hdb₂]
    exact stripped hbyOwner₁ hw hne hdrop
  have hstripped₃ : Every (fun o => o.access.Within w fun _ => False) db₃ := by
    rw [hdb₃]
    exact stripped_grantOwners hstripped₂ hne
  have hschemas : ((schemaStatements analytics users db₃).foldl (run (f.statement db.name)) db₃).schemas =
      db₃.schemas := schemas_schemaStatements analytics users db₃
  have hsame : ∀ key p,
      Granted ((schemaStatements analytics users db₃).foldl (run (f.statement db.name)) db₃) users w key p ↔
        Granted db₃ users w key p := granted_congr hschemas
  rw [heq]
  refine ⟨hclosed₃.foldl fun st _ => hkept st, fun o ho => ?_, fun o ho hkey p hp => ?_⟩
  · exact (granted_within hne hstripped₃ o ho).mono fun p hp => (hsame o.key p).mpr hp
  · exact granted_allows hruns o ho hkey p ((hsame k p).mp hp)

/-- What is granted to others changes nothing for a user. -/
theorem LockedDown.grantRoutines {analytics : String} {k : ObjectKind × String × String}
    (h : LockedDown k users w db) (hne : w ≠ "postgres") (hanalytics : w ≠ analytics) :
    LockedDown k users w (gexec fails db (Lockdown.grantRoutines analytics)) := by
  have hsts : ∀ st ∈ Lockdown.grantRoutines analytics db, st.granted = some (analytics, .execute) := by
    intro st hst
    obtain ⟨o, _, hst⟩ := List.mem_filterMap.mp hst
    split at hst
    · split at hst
      · cases hst
      · obtain rfl := Option.some.inj hst
        rfl
    · cases hst
  have hschemas : (gexec fails db (Lockdown.grantRoutines analytics)).schemas = db.schemas := by
    refine schemas_eq_of_keys (keys_foldl fun st hst role heq => ?_)
    have hgranted := hsts st hst
    rw [heq] at hgranted
    cases hgranted
  have hsame : ∀ key p, Granted _ users w key p ↔ Granted db users w key p := granted_congr hschemas
  have hwithin : Every (fun o => o.access.Within w (Granted db users w o.key)) db := h.within
  refine ⟨h.closed.gexec fun st _ => keeps_closed (fun key => key = k ∧ Locked key) st, fun o ho => ?_,
    fun o ho hkey p hp => ?_⟩
  · refine (hwithin.gexec (fun st hst => keeps_within hne fun o _ p hgranted => ?_) o ho).mono fun p hp =>
      (hsame o.key p).mpr hp
    rw [hsts st hst] at hgranted
    injection hgranted with hgranted
    exact absurd (congrArg Prod.fst hgranted).symm hanalytics
  · refine (h.allows.gexec fun st hst => keeps_allows (.inl ?_)) o ho hkey p ((hsame k p).mp hp)
    rw [hsts st hst]
    rfl

/-- **The user may do what it is granted**, and no more. -/
theorem LockedDown.allows_iff {k : ObjectKind × String × String} (h : LockedDown k users w db) {o : Object}
    (ho : o ∈ db.objects) (hkey : o.key = k) (hlocked : Locked o.key) (p : Privilege) :
    (o.access.owner = w ∨ o.access.Allows w p) ↔ Granted db users w o.key p := by
  have hwithin := h.within o ho
  constructor
  · rintro (howner | hallows)
    · exact absurd howner hwithin.1
    · exact hwithin.of_allows (h.closed o ho ⟨hkey, hlocked⟩) hallows
  · intro hgranted
    exact .inr (h.allows o ho hkey p (hkey ▸ hgranted))

/-! ## The owner of the database -/

theorem owner_exec_ne (hne : w ≠ "postgres") (h : db.owner ≠ w) (st : Statement) : (exec st db).owner ≠ w := by
  show (if st = .reassignOwned db.owner then "postgres" else db.owner) ≠ w
  split
  · exact fun heq => hne heq.symm
  · exact h

theorem owner_foldl_ne (hne : w ≠ "postgres") {sts : List Statement}
    (h : db.owner ≠ w ∨ .reassignOwned w ∈ sts ∧ fails (.reassignOwned w) = false) :
    (sts.foldl (run fails) db).owner ≠ w := by
  induction sts generalizing db with
  | nil => exact h.resolve_right fun hmem => nomatch hmem.1
  | cons st rest ih =>
    refine ih ?_
    by_cases howner : db.owner = w
    · obtain ⟨hmem, hruns⟩ := h.resolve_left fun hother => hother howner
      rcases List.mem_cons.mp hmem with rfl | hmem
      · refine .inl ?_
        show (if fails (.reassignOwned w) then db else exec (.reassignOwned w) db).owner ≠ w
        rw [hruns]
        show (if Statement.reassignOwned w = .reassignOwned db.owner then "postgres" else db.owner) ≠ w
        rw [if_pos (by rw [howner])]
        exact fun heq => hne heq.symm
      · exact .inr ⟨hmem, hruns⟩
    · refine .inl ?_
      show (if fails st then db else exec st db).owner ≠ w
      split
      · exact howner
      · exact owner_exec_ne hne howner st

theorem owner_lockdown_ne {f : Failing} {analytics : String} (hw : w ∈ analytics :: users.map (·.username))
    (hne : w ≠ "postgres") (hruns : f.statement db.name (.reassignOwned w) = false) :
    (databaseLockdownBlock f analytics users db).owner ≠ w := by
  obtain ⟨db₁, db₂, db₃, _, hdb₂, hdb₃, heq⟩ := databaseLockdownBlock_eq f analytics users db
  rw [heq]
  refine owner_foldl_ne hne (.inl ?_)
  rw [hdb₃]
  refine owner_foldl_ne hne (.inl ?_)
  rw [hdb₂]
  exact owner_foldl_ne hne (.inr ⟨mem_takeFrom.mpr ⟨w, hw, .inl rfl⟩, hruns⟩)

end Script

end Lockdown

end RestoreOperator
