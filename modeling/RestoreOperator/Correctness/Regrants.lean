import RestoreOperator.Correctness.LaterObjects

/-!
# `Correctness.Regrants` — the grants of the operator, after all that happened to a restore

A migration drops schemas and creates them anew, and what was granted on them goes with them.  So the operator
grants the extra users their schemas once more before clients reach the restore.  Nothing that happens in between
gives an extra user more than its schemas, and the operator's pass gives it all of them.
-/

namespace RestoreOperator

open Privileges

namespace Lockdown

/-- An extra user names a schema. -/
def Names (spec : ReplicaSpec) (w schema : String) : Prop :=
  ∃ user ∈ extraUsers spec, user.name = w ∧ schema ∈ user.schemas

section Regrants

variable {fails : Statement → Bool} {db : Database} {w : String} {spec : ReplicaSpec}

/-- **The operator runs the four statements for each schema it grants.** -/
theorem mem_regrants {st : Statement} :
    st ∈ regrants spec db ↔ ∃ w schema, (w, schema) ∈ operatorGrants db.schemas spec ∧
      st ∈ readStatements spec.analyticsUsername w schema := by
  unfold regrants operatorGrants
  simp only [List.mem_flatMap]
  constructor
  · rintro ⟨user, huser, schema, hschema, hst⟩
    exact ⟨user.name, schema, ⟨user, huser, List.mem_map_of_mem hschema⟩, hst⟩
  · rintro ⟨w, schema, ⟨user, huser, hpair⟩, hst⟩
    obtain ⟨granted, hgranted, heq⟩ := List.mem_map.mp hpair
    cases heq
    exact ⟨user, huser, schema, hgranted, hst⟩

/-- However far it comes, the operator grants a user schemas that it names. -/
theorem grantsReads_regrants (executed : Nat) :
    GrantsReads spec.analyticsUsername w (Names spec w) ((regrants spec db).take executed) := by
  intro st hst
  obtain ⟨w', schema, hgranted, hst⟩ := mem_regrants.mp (List.mem_of_mem_take hst)
  obtain ⟨_, user, huser, hname, hschema⟩ := mem_operatorGrants.mp hgranted
  exact ⟨w', schema, fun heq => ⟨user, huser, hname.trans heq, hschema⟩, hst⟩

/-! ## What is kept in between -/

/-- **A user is kept within its schemas**: of an object, and of the defaults that later ones go by. -/
structure Bounded (spec : ReplicaSpec) (w : String) (k : ObjectKind × String × String) (db : Database) : Prop where
  closed : Every (fun o => (o.key = k ∧ Locked o.key ∧ ∀ procedure, o.key.1 ≠ .routine procedure) →
    o.access.Closed) db
  within : Every (fun o => o.access.Within w (Reads (Names spec w) o.key)) db
  defaultsClosed : EveryDefault (fun d => d.access.Closed) db
  defaultsWithin : EveryDefault (fun d =>
    d.access.Within w (ReadsLater spec.analyticsUsername (Names spec w) d.key)) db
  owner : db.owner ≠ w

variable {k : ObjectKind × String × String}

/-- What somebody else creates is no more open to a user than the defaults. -/
theorem Bounded.create (h : Bounded spec w k db) {x : Creation} (hx : x.creator ≠ w) :
    Bounded spec w k (db.create x) := by
  have hnewClosed (hkind : ∀ procedure, x.kind ≠ .routine procedure) : (db.created x).access.Closed := by
    intro g hg
    rcases mem_created_grants hg with ⟨d, hd, hmem, _⟩ | ⟨_, ⟨procedure, hroutine⟩, _⟩
    · exact h.defaultsClosed d hd g hmem
    · exact absurd hroutine (hkind procedure)
  have hnewWithin : (db.created x).access.Within w (Reads (Names spec w) (db.created x).key) := by
    refine ⟨hx, fun g hg hrole => ?_⟩
    rcases mem_created_grants hg with ⟨d, hd, hmem, hkey⟩ | ⟨_, _, rfl⟩
    · -- only the defaults of the analytics user grant the role anything, and only on tables
      obtain ⟨hselect, schema, hnamed, hthis⟩ := (h.defaultsWithin d hd).2 g hmem hrole
      have hfor : some schema = some x.schema ∧ x.kind.defaultType = .tables := by
        rcases hkey with hkey | hkey
        · rw [hkey] at hthis
          simp at hthis
        · rw [hkey, Prod.mk.injEq, Prod.mk.injEq] at hthis
          exact ⟨hthis.2.1.symm, hthis.2.2⟩
      obtain ⟨hschema, htype⟩ := hfor
      obtain rfl := Option.some.inj hschema
      refine ⟨hnamed, .inr ⟨?_, hselect⟩⟩
      show ∃ kind, x.kind = .relation kind
      cases hx : x.kind with
      | relation kind => exact ⟨kind, rfl⟩
      | schema =>
        rw [hx] at htype
        cases htype
      | routine procedure =>
        rw [hx] at htype
        cases htype
    · cases hrole
  refine ⟨fun o ho => ?_, fun o ho => ?_, h.defaultsClosed, h.defaultsWithin, h.owner⟩
  · rcases List.mem_append.mp ho with ho | ho
    · exact h.closed o ho
    · rw [List.mem_singleton.mp ho]
      exact fun hkey => hnewClosed hkey.2.2
  · rcases List.mem_append.mp ho with ho | ho
    · exact h.within o ho
    · rw [List.mem_singleton.mp ho]
      exact hnewWithin

theorem Bounded.regrant (h : Bounded spec w k db) (hpostgres : w ≠ "postgres")
    (hanalytics : w ≠ spec.analyticsUsername) (executed : Nat) :
    Bounded spec w k (Lockdown.regrant spec executed db) where
  closed := h.closed.foldl fun st _ =>
    keeps_closed (fun key => key = k ∧ Locked key ∧ ∀ procedure, key.1 ≠ .routine procedure) st
  within := (grantsReads_regrants executed).within hpostgres h.within
  defaultsClosed := h.defaultsClosed.foldl fun st _ => defaultKeeps_closed st
  defaultsWithin := (grantsReads_regrants executed).defaultsWithin hanalytics h.defaultsWithin
  owner := owner_foldl_ne hpostgres (.inl h.owner)

/-- **Nothing that others do takes a user out of its bounds.** -/
theorem Bounded.later (h : Bounded spec w k db) (hpostgres : w ≠ "postgres")
    (hanalytics : w ≠ spec.analyticsUsername) {es : List LaterEvent} (hes : ∀ x, .create x ∈ es → x.creator ≠ w) :
    Bounded spec w k (es.foldl (Database.later spec) db) := by
  induction es generalizing db with
  | nil => exact h
  | cons e rest ih =>
    refine ih ?_ fun x hx => hes x (List.mem_cons_of_mem _ hx)
    cases e with
    | create x => exact h.create (hes x List.mem_cons_self)
    | drop kind schema name =>
      exact { h with
        closed := fun o ho => h.closed o (List.mem_of_mem_filter ho)
        within := fun o ho => h.within o (List.mem_of_mem_filter ho) }
    | dropSchema schema =>
      exact
        { closed := fun o ho => h.closed o (List.mem_of_mem_filter ho)
          within := fun o ho => h.within o (List.mem_of_mem_filter ho)
          defaultsClosed := fun d hd => h.defaultsClosed d (List.mem_of_mem_filter hd)
          defaultsWithin := fun d hd => h.defaultsWithin d (List.mem_of_mem_filter hd)
          owner := h.owner }
    | regrant executed => exact h.regrant hpostgres hanalytics executed

end Regrants

section Whole

variable {f : Failing} {replica : Replica} {readOnly : Bool} {c : Cluster}

/-- Where no name has a comma, the script grants what the users name. -/
theorem names_of_grantedIn (hcommas : NoCommas replica.spec) {db : Database} {w schema : String}
    (h : GrantedIn db (deploymentUsers replica) w schema) : Names replica.spec w schema :=
  (mem_operatorGrants.mp ((grantsAgree_of_noCommas hcommas _ _).mp h)).2

theorem mem_deploymentUsers {user : ExtraUserSpec} (huser : user ∈ extraUsers replica.spec) :
    ∃ extra ∈ deploymentUsers replica, extra.username = user.name :=
  ⟨_, List.mem_map_of_mem huser, rfl⟩

/-- **The set-up leaves an extra user within its schemas.** -/
theorem bounded_setUpRoles (hcommas : NoCommas replica.spec)
    (hc : ∀ db ∈ c.databases, (∀ o ∈ db.objects, o.access.ByOwner) ∧ ∀ d ∈ db.defaults, d.access.ByOwner)
    {w : String} (hw : w ∈ replica.spec.analyticsUsername :: (deploymentUsers replica).map (·.username))
    (hpostgres : w ≠ "postgres") (hanalytics : w ≠ replica.spec.analyticsUsername) {db : Database}
    (hdb : db ∈ (setUpRoles f replica.spec.analyticsUsername (deploymentUsers replica) readOnly c).databases)
    (hopen : db.IsOpen) {k : ObjectKind × String × String} (hruns : RunsFor (f.statement db.name) w k)
    (hdefaults : DefaultsRun (f.statement db.name) replica.spec.analyticsUsername w) :
    Bounded replica.spec w k db := by
  obtain ⟨hdown, howner⟩ := lockedDown_setUpRoles (fun db hdb => (hc db hdb).1) hw hpostgres hanalytics hdb hopen hruns
  have hdefaultsDown : DefaultsDown replica.spec.analyticsUsername (deploymentUsers replica) w db :=
    defaultsDown_setUpRoles (fun db hdb => (hc db hdb).2) hw hanalytics hdb hopen hdefaults
  refine ⟨fun o ho hkey => hdown.closed o ho ⟨hkey.1, hkey.2.1⟩, fun o ho => ?_, hdefaultsDown.closed,
    fun d hd => ?_, howner⟩
  · exact (hdown.within o ho).mono fun p ⟨hin, hwhat⟩ => ⟨names_of_grantedIn hcommas hin, hwhat⟩
  · refine (hdefaultsDown.within d hd).mono fun p ⟨hselect, schema, hin, hkey⟩ => ?_
    exact ⟨hselect, schema, names_of_grantedIn hcommas hin, hkey⟩

/-- **When the operator has granted the extra users their schemas, each may use exactly the schemas it names and
    read what is in them**, whatever was created, dropped and granted since the set-up of the roles. -/
theorem may_regranted_iff (hcommas : NoCommas replica.spec)
    (hc : ∀ db ∈ c.databases, (∀ o ∈ db.objects, o.access.ByOwner) ∧ ∀ d ∈ db.defaults, d.access.ByOwner)
    {user : ExtraUserSpec} (huser : user ∈ extraUsers replica.spec)
    (hnames : user.name ∉ ["postgres", "pg_read_all_data", "pg_write_all_data"]) {role : String}
    (hspliced : splicedRole replica.spec.analyticsUsername = some role) (hrole : role ≠ user.name)
    (hreset : f.role (.reset user.name) = false) (hrevoke : ∀ role, f.role (.revoke role user.name) = false)
    (hmembers : Revocable user.name c) {db : Database}
    (hdb : db ∈ (setUpRoles f replica.spec.analyticsUsername (deploymentUsers replica) readOnly c).databases)
    (hopen : db.IsOpen) (hdefaults : DefaultsRun (f.statement db.name) replica.spec.analyticsUsername user.name)
    {es : List LaterEvent} (hes : ∀ x, .create x ∈ es → x.creator ≠ user.name) {executed : Nat}
    (hexecuted : (regrants replica.spec (es.foldl (Database.later replica.spec) db)).length ≤ executed) {o : Object}
    (ho : o ∈ (regrant replica.spec executed (es.foldl (Database.later replica.spec) db)).objects)
    (hschema : o.schema ∈ (es.foldl (Database.later replica.spec) db).schemas) (hlocked : Locked o.key)
    (hkind : ∀ procedure, o.kind ≠ .routine procedure) (hruns : RunsFor (f.statement db.name) user.name o.key)
    (p : Privilege) :
    May (setUpRoles f replica.spec.analyticsUsername (deploymentUsers replica) readOnly c)
        (regrant replica.spec executed (es.foldl (Database.later replica.spec) db)) user.name o p ↔
      Reads (Names replica.spec user.name) o.key p := by
  simp only [List.mem_cons, List.not_mem_nil, or_false, not_or] at hnames
  obtain ⟨hpostgres, hread, hwrite⟩ := hnames
  obtain ⟨_, hanalytics, _⟩ := extraUsers_first replica.spec huser
  have hw := mem_deploymentUsers huser
  have hbounded : Bounded replica.spec user.name o.key (es.foldl (Database.later replica.spec) db) :=
    (bounded_setUpRoles hcommas hc (mem_managed hw) hpostgres hanalytics hdb hopen hruns hdefaults).later hpostgres
      hanalytics hes
  generalize es.foldl (Database.later replica.spec) db = db' at *
  have hregranted := hbounded.regrant hpostgres hanalytics executed
  rw [may_iff_allows (powerless hw hspliced hrole hreset hrevoke hmembers) hregranted.owner hread hwrite]
  constructor
  · rintro (howner | hallows)
    · exact absurd howner (hregranted.within o ho).1
    · exact (hregranted.within o ho).of_allows (hregranted.closed o ho ⟨rfl, hlocked, hkind⟩) hallows
  · rintro ⟨hnamed, hwhat⟩
    -- the schemas that are there and named are all granted
    have hall : ∀ schema, (schema ∈ db'.schemas ∧ Names replica.spec user.name schema) →
        ∀ st ∈ readStatements replica.spec.analyticsUsername user.name schema,
          st ∈ (regrants replica.spec db').take executed := by
      intro schema hgranted st hst
      rw [List.take_of_length_le hexecuted]
      exact mem_regrants.mpr ⟨user.name, schema, mem_operatorGrants.mpr hgranted, hst⟩
    have hreads : GrantsReads replica.spec.analyticsUsername user.name
        (fun schema => schema ∈ db'.schemas ∧ Names replica.spec user.name schema)
        ((regrants replica.spec db').take executed) := by
      intro st hst
      obtain ⟨w', schema, hgranted, hst⟩ := mem_regrants.mp (List.mem_of_mem_take hst)
      exact ⟨w', schema, fun heq => mem_operatorGrants.mp (heq ▸ hgranted), hst⟩
    exact .inr (hreads.allows hall (fun _ _ _ _ _ => rfl) o ho rfl p ⟨⟨hschema, hnamed⟩, hwhat⟩)

/-- The replica of the extra user `reporting`. -/
def salesReplica : Replica where
  name := "sales"
  spec := { plainSpec with
    analyticsUsername := "analytics"
    extraUsers := [{ name := "reporting", schemas := ["sales"] }] }

/-- **A migration writes the schema anew**, and with it a table. -/
def salesMigration : List LaterEvent :=
  [.dropSchema "sales", .create { creator := "analytics", kind := .schema, schema := "sales", name := "" },
    .create salesTotals]

def migratedSales : Database := salesMigration.foldl (Database.later salesReplica.spec) salesDatabase

/-- The schema and the table after the operator's pass. -/
def regrantedSchema : Object where
  kind := .schema
  schema := "sales"
  name := ""
  access := ⟨"analytics", [⟨.role "reporting", .usage, "analytics"⟩]⟩

def regrantedTotals : Object where
  kind := .relation .table
  schema := "sales"
  name := "totals"
  access := ⟨"analytics", [⟨.role "reporting", .select, "analytics"⟩]⟩

theorem reporting_reads_migrated_totals :
    May (setUpRoles {} "analytics" (deploymentUsers salesReplica) true salesCluster)
      (regrant salesReplica.spec 4 migratedSales) "reporting" regrantedTotals .select := by
  have hcommas : NoCommas salesReplica.spec := by
    unfold NoCommas
    decide
  have hbyOwner : ∀ db ∈ salesCluster.databases, (∀ o ∈ db.objects, o.access.ByOwner) ∧
      ∀ d ∈ db.defaults, d.access.ByOwner := by
    unfold Access.ByOwner
    decide
  have huser : ({ name := "reporting", schemas := ["sales"] } : ExtraUserSpec) ∈ extraUsers salesReplica.spec := by
    decide
  have hspliced : splicedRole salesReplica.spec.analyticsUsername = some "analytics" := by decide
  have hrevocable : Revocable "reporting" salesCluster := fun h => absurd h (by decide)
  have hdb : salesDatabase ∈ (setUpRoles {} salesReplica.spec.analyticsUsername (deploymentUsers salesReplica) true
      salesCluster).databases := by
    have hsame : deploymentUsers salesReplica = salesUsers := by decide
    rw [hsame]
    show salesDatabase ∈ (setUpRoles {} "analytics" salesUsers true salesCluster).databases
    rw [databases_salesCluster]
    exact List.mem_singleton_self _
  have hcreators : ∀ x, .create x ∈ salesMigration → x.creator ≠ "reporting" := by
    intro x hx
    simp only [salesMigration, List.mem_cons, List.not_mem_nil, or_false, reduceCtorEq, false_or,
      LaterEvent.create.injEq] at hx
    rcases hx with rfl | rfl <;> decide
  have ho : regrantedTotals ∈ (regrant salesReplica.spec 4 migratedSales).objects := by
    have hobjects : (regrant salesReplica.spec 4 migratedSales).objects =
        [restoredPay, regrantedSchema, regrantedTotals] := by
      with_unfolding_all rfl
    rw [hobjects]
    exact List.mem_cons_of_mem _ (List.mem_cons_of_mem _ List.mem_cons_self)
  refine (may_regranted_iff hcommas hbyOwner huser (by decide) hspliced (by decide) rfl (fun _ => rfl) hrevocable hdb
    ⟨rfl, by decide⟩ ⟨fun _ _ _ => rfl, rfl, fun _ => rfl⟩ hcreators (by decide) ho (by decide)
    (show isSystem "sales" = false by decide) (fun _ h => nomatch h) (fun _ _ _ _ _ => rfl) .select).mpr ?_
  exact ⟨⟨_, huser, rfl, List.mem_singleton_self _⟩, .inr ⟨⟨.table, rfl⟩, rfl⟩⟩

end Whole

end Lockdown

end RestoreOperator
