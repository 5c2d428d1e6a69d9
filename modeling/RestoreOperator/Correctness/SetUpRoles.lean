import RestoreOperator.Correctness.Lockdown

/-!
# `Correctness.SetUpRoles` — what is left to an extra user

Whatever the source granted, and whatever it made of a role of that name, an extra user of a restore may read the
schemas it names, and nothing else.  All of this rests on the analytics user's name, which is not quoted
everywhere: it must not read as the name of an extra user.
-/

namespace RestoreOperator

open Privileges

namespace Lockdown

/-! ## The roles -/

section Roles

variable {f : Failing} {c : Cluster} {w : String}

/-- A role is no superuser. -/
def NotSuperuser (w : String) (c : Cluster) : Prop := ∀ r ∈ c.roles, r.name = w → r.superuser = false

/-- A role is a member of no other. -/
def NoMember (w : String) (c : Cluster) : Prop := ∀ m ∈ c.members, m.member ≠ w

/-- A statement that may give a role some power. -/
def RoleStatement.empowers (w : String) : RoleStatement → Prop
  | .grant _ member => member = w
  | .setSuperuser role => role = w
  | _ => False

theorem NotSuperuser.isSuperuser (h : NotSuperuser w c) : c.isSuperuser w = false := by
  unfold Cluster.isSuperuser
  rw [List.any_eq_false]
  intro r hr hsuper
  obtain ⟨hname, hsuper⟩ := of_decide_eq_true hsuper
  rw [h r hr hname] at hsuper
  cases hsuper

theorem mem_updateRole {name : String} {g : Role → Role} {r : Role} (h : r ∈ (c.updateRole name g).roles) :
    ∃ r₀ ∈ c.roles, r = if r₀.name = name then g r₀ else r₀ := by
  obtain ⟨r₀, hr₀, rfl⟩ := List.mem_map.mp h
  exact ⟨r₀, hr₀, rfl⟩

/-- A change of a role that adds no power. -/
theorem NotSuperuser.updateRole {name : String} {g : Role → Role} (h : NotSuperuser w c)
    (hname : ∀ r, (g r).name = r.name)
    (hg : ∀ r, name = w → r.superuser = false → (g r).superuser = false) :
    NotSuperuser w (c.updateRole name g) := by
  intro r hr hrw
  obtain ⟨r₀, hr₀, rfl⟩ := mem_updateRole hr
  by_cases hthis : r₀.name = name
  · rw [if_pos hthis] at hrw ⊢
    rw [hname] at hrw
    exact hg r₀ (hthis.symm.trans hrw) (h r₀ hr₀ hrw)
  · rw [if_neg hthis] at hrw ⊢
    exact h r₀ hr₀ hrw

theorem NotSuperuser.runRole (h : NotSuperuser w c) {st : RoleStatement} (hst : ¬st.empowers w) :
    NotSuperuser w (runRole f c st) := by
  unfold Lockdown.runRole
  split
  · exact h
  · cases st with
    | createRole role =>
      intro r hr hname
      rcases List.mem_append.mp hr with hr | hr
      · exact h r hr hname
      · rw [List.mem_singleton.mp hr]
    | reset role => exact h.updateRole (fun _ => rfl) fun _ _ _ => rfl
    | setReadOnly role => exact h.updateRole (fun _ => rfl) fun _ _ h => h
    | revoke role member => exact h
    | grant role member => exact h
    | setSuperuser role => exact h.updateRole (fun _ => rfl) fun _ hrole => absurd hrole hst

theorem NoMember.runRole (h : NoMember w c) {st : RoleStatement} (hst : ¬st.empowers w) :
    NoMember w (runRole f c st) := by
  unfold Lockdown.runRole
  split
  · exact h
  · cases st with
    | createRole role => exact h
    | reset role => exact h
    | setReadOnly role => exact h
    | revoke role member => exact fun m hm => h m (List.mem_of_mem_filter hm)
    | grant role member =>
      intro m hm
      rcases List.mem_append.mp hm with hm | hm
      · exact h m hm
      · rw [List.mem_singleton.mp hm]
        exact hst
    | setSuperuser role => exact h

/-! ### The block of a role -/

/-- The steps of a block before it revokes memberships. -/
def resetSteps (f : Failing) (role : String) (pinReadOnly : Bool) (c : Cluster) : Cluster :=
  let c := if c.roles.any fun r => r.name = role then c else runRole f c (.createRole role)
  let c := runRole f c (.reset role)
  if pinReadOnly then runRole f c (.setReadOnly role) else c

/-- The statements that revoke the memberships of a role. -/
def revokes (role : String) (ms : List Membership) : List RoleStatement :=
  ms.map fun m => .revoke m.role role

theorem roleResetBlock_eq (role : String) (pinReadOnly : Bool) :
    roleResetBlock f role pinReadOnly c =
      (revokes role ((resetSteps f role pinReadOnly c).members.filter fun m => m.member = role)).foldl (runRole f)
        (resetSteps f role pinReadOnly c) := rfl

/-- What statements that empower nobody keep. -/
def KeptByResets (f : Failing) (I : Cluster → Prop) : Prop :=
  ∀ st c, (∀ w, ¬RoleStatement.empowers w st) → I c → I (runRole f c st)

section Kept

variable {I : Cluster → Prop} (hI : KeptByResets f I) {role : String} {pinReadOnly : Bool}

include hI

theorem foldl_revokes_keeps (ms : List Membership) (h : I c) : I ((revokes role ms).foldl (runRole f) c) := by
  induction ms generalizing c with
  | nil => exact h
  | cons m rest ih => exact ih (hI (.revoke m.role role) c (fun _ h => h) h)

theorem resetSteps_keeps (h : I c) : I (resetSteps f role pinReadOnly c) := by
  have hcreated : I (if c.roles.any fun r => r.name = role then c else runRole f c (.createRole role)) := by
    split
    · exact h
    · exact hI _ _ (fun _ h => h) h
  have hreset := hI (.reset role) _ (fun _ h => h) hcreated
  unfold resetSteps
  dsimp only
  split
  · exact hI _ _ (fun _ h => h) hreset
  · exact hreset

theorem roleResetBlock_keeps (h : I c) : I (roleResetBlock f role pinReadOnly c) := by
  rw [roleResetBlock_eq]
  exact foldl_revokes_keeps hI _ (resetSteps_keeps hI h)

/-- **What every block keeps and one makes**, the blocks of the extra users come to. -/
theorem users_make {P : Cluster → Prop} (hP : KeptByResets f P) {users : List ExtraUser}
    (hmake : ∀ c, P c → I (roleResetBlock f w true c)) (hc : P c) (h : I c ∨ ∃ user ∈ users, user.username = w) :
    I (users.foldl (fun c user => roleResetBlock f user.username true c) c) := by
  induction users generalizing c with
  | nil => exact h.resolve_right fun ⟨_, hmem, _⟩ => nomatch hmem
  | cons user rest ih =>
    refine ih (roleResetBlock_keeps hP hc) ?_
    by_cases hthis : user.username = w
    · subst hthis
      exact .inl (hmake c hc)
    · rcases h with h | ⟨user', huser', hname⟩
      · exact .inl (roleResetBlock_keeps hI h)
      · rcases List.mem_cons.mp huser' with rfl | huser'
        · exact absurd hname hthis
        · exact .inr ⟨user', huser', hname⟩

end Kept

theorem kept_notSuperuser : KeptByResets f (NotSuperuser w) := fun _ _ hst h => h.runRole (hst w)

theorem kept_noMember : KeptByResets f (NoMember w) := fun _ _ hst h => h.runRole (hst w)

theorem databases_runRole (f : Failing) (c : Cluster) (st : RoleStatement) :
    (runRole f c st).databases = c.databases := by
  unfold runRole
  split
  · rfl
  · cases st <;> rfl

theorem kept_databases (databases : List Database) : KeptByResets f (fun c => c.databases = databases) :=
  fun st c _ h => (databases_runRole f c st).trans h

theorem kept_pgMajor (pgMajor : Nat) : KeptByResets f (fun c => c.pgMajor = pgMajor) := by
  intro st c _ h
  unfold runRole
  split
  · exact h
  · cases st <;> exact h

/-- The memberships of a role were granted by `postgres`, where that matters. -/
def Revocable (w : String) (c : Cluster) : Prop :=
  16 ≤ c.pgMajor → ∀ m ∈ c.members, m.member = w → m.grantor = "postgres"

theorem kept_revocable : KeptByResets f (Revocable w) := by
  intro st c hst h
  unfold runRole
  split
  · exact h
  · cases st with
    | createRole role => exact h
    | reset role => exact h
    | setReadOnly role => exact h
    | revoke role member => exact fun hmajor m hm => h hmajor m (List.mem_of_mem_filter hm)
    | grant role member => exact absurd rfl (hst member)
    | setSuperuser role => exact absurd rfl (hst role)

/-- **A block leaves its role no superuser.** -/
theorem notSuperuser_roleResetBlock {pinReadOnly : Bool} (hreset : f.role (.reset w) = false) :
    NotSuperuser w (roleResetBlock f w pinReadOnly c) := by
  have hafter (c : Cluster) : NotSuperuser w (runRole f c (.reset w)) := by
    unfold runRole
    rw [hreset]
    intro r hr hname
    obtain ⟨r₀, hr₀, rfl⟩ := mem_updateRole hr
    by_cases hthis : r₀.name = w
    · rw [if_pos hthis]
    · rw [if_neg hthis] at hname
      exact absurd hname hthis
  rw [roleResetBlock_eq]
  refine foldl_revokes_keeps kept_notSuperuser _ ?_
  unfold resetSteps
  dsimp only
  split
  · exact (hafter _).runRole fun h => h
  · exact hafter _

/-- What was revoked is gone. -/
theorem members_foldl_revokes {ms : List Membership} (hruns : ∀ role, f.role (.revoke role w) = false) {m : Membership}
    (hm : m ∈ ((revokes w ms).foldl (runRole f) c).members) :
    m ∈ c.members ∧ (m.member = w → (c.pgMajor < 16 ∨ m.grantor = "postgres") → ∀ m' ∈ ms, m.role ≠ m'.role) := by
  induction ms generalizing c with
  | nil => exact ⟨hm, fun _ _ _ h => nomatch h⟩
  | cons first rest ih =>
    have hrun : runRole f c (.revoke first.role w) = execRole (.revoke first.role w) c := by
      unfold runRole
      rw [hruns]
      rfl
    have hm' : m ∈ ((revokes w rest).foldl (runRole f) (runRole f c (.revoke first.role w))).members := hm
    rw [hrun] at hm'
    obtain ⟨hmem, hgone⟩ := ih hm'
    obtain ⟨hmem, hkept⟩ := List.mem_filter.mp hmem
    refine ⟨hmem, fun hmember hgrantor m' hm' hrole => ?_⟩
    rcases List.mem_cons.mp hm' with rfl | hm'
    · rw [decide_eq_true_eq] at hkept
      exact hkept ⟨hrole, hmember, hgrantor⟩
    · exact hgone hmember hgrantor m' hm' hrole

/-- **A block leaves its role a member of none.** -/
theorem noMember_roleResetBlock {pinReadOnly : Bool} (hrevoke : ∀ role, f.role (.revoke role w) = false)
    (hmembers : Revocable w c) : NoMember w (roleResetBlock f w pinReadOnly c) := by
  rw [roleResetBlock_eq]
  intro m hm hmember
  have hrevocable : Revocable w (resetSteps f w pinReadOnly c) := resetSteps_keeps kept_revocable hmembers
  obtain ⟨hmem, hgone⟩ := members_foldl_revokes hrevoke hm
  refine hgone hmember ?_ m (List.mem_filter.mpr ⟨hmem, by simpa using hmember⟩) rfl
  by_cases hmajor : (resetSteps f w pinReadOnly c).pgMajor < 16
  · exact .inl hmajor
  · exact .inr (hrevocable (Nat.le_of_not_lt hmajor) m hmem hmember)

/-! ### The rest of the script -/

/-- **Whom the analytics user's name does not mean** gets nothing out of what it is granted. -/
theorem NotSuperuser.permissionBranch {analytics : String} {readOnly : Bool} (h : NotSuperuser w c)
    (hspliced : splicedRole analytics ≠ some w) : NotSuperuser w (permissionBranch f analytics readOnly c) := by
  unfold Lockdown.permissionBranch
  cases hrole : splicedRole analytics with
  | none => split <;> exact h
  | some role =>
    have hne : role ≠ w := fun heq => hspliced (by rw [hrole, heq])
    split
    · have hst : ¬RoleStatement.empowers w (.grant "pg_read_all_data" role) := hne
      exact h.runRole hst
    · have hst : ¬RoleStatement.empowers w (.setSuperuser role) := hne
      exact h.runRole hst

theorem NoMember.permissionBranch {analytics : String} {readOnly : Bool} (h : NoMember w c)
    (hspliced : splicedRole analytics ≠ some w) : NoMember w (permissionBranch f analytics readOnly c) := by
  unfold Lockdown.permissionBranch
  cases hrole : splicedRole analytics with
  | none => split <;> exact h
  | some role =>
    have hne : role ≠ w := fun heq => hspliced (by rw [hrole, heq])
    split
    · have hst : ¬RoleStatement.empowers w (.grant "pg_read_all_data" role) := hne
      exact h.runRole hst
    · have hst : ¬RoleStatement.empowers w (.setSuperuser role) := hne
      exact h.runRole hst

theorem databases_users (f : Failing) (analytics : String) (users : List ExtraUser) (c : Cluster) :
    (users.foldl (fun c user => roleResetBlock f user.username true c)
      (roleResetBlock f analytics false c)).databases = c.databases := by
  have hfold (c' : Cluster) : (users.foldl (fun c user => roleResetBlock f user.username true c) c').databases =
      c'.databases := by
    induction users generalizing c' with
    | nil => rfl
    | cons user rest ih => exact (ih _).trans (roleResetBlock_keeps (kept_databases c'.databases) rfl)
  exact (hfold _).trans (roleResetBlock_keeps (kept_databases c.databases) rfl)

end Roles

/-! ## The whole script -/

section Whole

variable {f : Failing} {analytics : String} {users : List ExtraUser} {readOnly : Bool} {c : Cluster}

/-- A session can be opened in the database. -/
def Database.IsOpen (db : Database) : Prop := db.allowsConnections = true ∧ db.name ≠ "template0"

/-- No statement renames a database or closes it. -/
theorem foldl_run_same (fails : Statement → Bool) (sts : List Statement) (db : Database) :
    (sts.foldl (run fails) db).name = db.name ∧
      (sts.foldl (run fails) db).allowsConnections = db.allowsConnections := by
  induction sts generalizing db with
  | nil => exact ⟨rfl, rfl⟩
  | cons st rest ih =>
    obtain ⟨hname, hallows⟩ := ih (run fails db st)
    have hsame : (run fails db st).name = db.name ∧ (run fails db st).allowsConnections = db.allowsConnections := by
      unfold run
      split <;> exact ⟨rfl, rfl⟩
    exact ⟨hname.trans hsame.1, hallows.trans hsame.2⟩

theorem databaseLockdownBlock_same (f : Failing) (analytics : String) (users : List ExtraUser) (db : Database) :
    (databaseLockdownBlock f analytics users db).name = db.name ∧
      (databaseLockdownBlock f analytics users db).allowsConnections = db.allowsConnections := by
  have hqueries (queries : List (Database → List Statement)) (db : Database) (fails : Statement → Bool) :
      (queries.foldl (gexec fails) db).name = db.name ∧
        (queries.foldl (gexec fails) db).allowsConnections = db.allowsConnections := by
    induction queries generalizing db with
    | nil => exact ⟨rfl, rfl⟩
    | cons query rest ih =>
      obtain ⟨hname, hallows⟩ := ih (gexec fails db query)
      obtain ⟨hname', hallows'⟩ := foldl_run_same fails (query db) db
      exact ⟨hname.trans hname', hallows.trans hallows'⟩
  exact hqueries _ db _

/-- **Where a database of the set-up cluster comes from.** -/
theorem mem_setUpRoles {db : Database} (hdb : db ∈ (setUpRoles f analytics users readOnly c).databases)
    (hopen : db.IsOpen) :
    ∃ db₀ ∈ c.databases, db.name = db₀.name ∧
      (db = databaseLockdownBlock f analytics users db₀ ∨
        db = gexec (f.statement db₀.name) (databaseLockdownBlock f analytics users db₀) (grantRoutines analytics)) := by
  have hlocked {db : Database} {c' : Cluster} (hc' : c'.databases = c.databases) (hopen : db.IsOpen)
      (hdb : db ∈ (c'.inDatabases (databaseLockdownBlock f analytics users)).databases) :
      ∃ db₀ ∈ c.databases, db.name = db₀.name ∧ db = databaseLockdownBlock f analytics users db₀ := by
    obtain ⟨db₀, hdb₀, rfl⟩ := List.mem_map.mp hdb
    rw [hc'] at hdb₀
    refine ⟨db₀, hdb₀, ?_⟩
    split
    · exact ⟨(databaseLockdownBlock_same f analytics users db₀).1, rfl⟩
    · rename_i hclosed
      rw [if_neg hclosed] at hopen
      exact absurd hopen hclosed
  have hroles := databases_users f analytics users c
  unfold setUpRoles permissionBranch at hdb
  dsimp only at hdb
  split at hdb
  · obtain ⟨db₁, hdb₁, rfl⟩ := List.mem_map.mp hdb
    have hmem : db₁ ∈ ((users.foldl (fun c user => roleResetBlock f user.username true c)
        (roleResetBlock f analytics false c)).inDatabases (databaseLockdownBlock f analytics users)).databases := by
      split at hdb₁
      · rwa [databases_runRole] at hdb₁
      · exact hdb₁
    by_cases hopen₁ : db₁.allowsConnections = true ∧ db₁.name ≠ "template0"
    · obtain ⟨db₀, hdb₀, hname, heq⟩ := hlocked hroles hopen₁ hmem
      rw [if_pos hopen₁]
      refine ⟨db₀, hdb₀, (foldl_run_same _ _ _).1.trans hname, .inr ?_⟩
      rw [← hname, ← heq]
    · rw [if_neg hopen₁] at hopen
      exact absurd hopen hopen₁
  · have hmem : db ∈ ((users.foldl (fun c user => roleResetBlock f user.username true c)
        (roleResetBlock f analytics false c)).inDatabases (databaseLockdownBlock f analytics users)).databases := by
      split at hdb
      · rwa [databases_runRole] at hdb
      · exact hdb
    obtain ⟨db₀, hdb₀, hname, heq⟩ := hlocked hroles hopen hmem
    exact ⟨db₀, hdb₀, hname, .inl heq⟩

/-- **Whom the analytics user's name does not mean** is left without power by its own block. -/
theorem powerless {w role : String} (hw : ∃ user ∈ users, user.username = w)
    (hspliced : splicedRole analytics = some role) (hrole : role ≠ w) (hreset : f.role (.reset w) = false)
    (hrevoke : ∀ role, f.role (.revoke role w) = false) (hmembers : Revocable w c) :
    NotSuperuser w (setUpRoles f analytics users readOnly c) ∧
      NoMember w (setUpRoles f analytics users readOnly c) := by
  have hother : splicedRole analytics ≠ some w := fun heq =>
    hrole (Option.some.inj (hspliced.symm.trans heq))
  have hnotSuperuser : NotSuperuser w (users.foldl (fun c user => roleResetBlock f user.username true c)
      (roleResetBlock f analytics false c)) :=
    users_make kept_notSuperuser (P := fun _ => True) (fun _ _ _ _ => trivial)
      (fun _ _ => notSuperuser_roleResetBlock hreset) trivial (.inr hw)
  have hnoMember : NoMember w (users.foldl (fun c user => roleResetBlock f user.username true c)
      (roleResetBlock f analytics false c)) :=
    users_make kept_noMember kept_revocable (fun _ h => noMember_roleResetBlock hrevoke h)
      (roleResetBlock_keeps kept_revocable hmembers) (.inr hw)
  exact ⟨NotSuperuser.permissionBranch (c := Cluster.inDatabases _ _) hnotSuperuser hother,
    NoMember.permissionBranch (c := Cluster.inDatabases _ _) hnoMember hother⟩

/-- An extra user is one of the managed roles. -/
theorem mem_managed {w : String} (hw : ∃ user ∈ users, user.username = w) :
    w ∈ analytics :: users.map (·.username) := by
  obtain ⟨user, huser, rfl⟩ := hw
  exact List.mem_cons_of_mem _ (List.mem_map_of_mem huser)

/-- A role without power may do with an object what it owns or was granted there. -/
theorem may_iff_allows {w : String} (hpowerless : NotSuperuser w c ∧ NoMember w c) {db : Database}
    (howner : db.owner ≠ w) (hread : w ≠ "pg_read_all_data") (hwrite : w ≠ "pg_write_all_data") (o : Object)
    (p : Privilege) : May c db w o p ↔ o.access.owner = w ∨ o.access.Allows w p := by
  obtain ⟨hsuperuser, hnoMember⟩ := hpowerless
  have halone : ∀ r, Relation.ReflTransGen (Inherits c db) w r → r = w := by
    intro r hreach
    induction hreach with
    | refl => rfl
    | tail _ hstep ih =>
      rw [ih] at hstep
      rcases hstep with ⟨m, hm, hmember, _⟩ | ⟨_, howns⟩
      · exact absurd hmember (hnoMember m hm)
      · exact absurd howns howner
  constructor
  · rintro (hsuper | ⟨r, hreach, hmay⟩)
    · rw [hsuperuser.isSuperuser] at hsuper
      cases hsuper
    · rw [halone r hreach] at hmay
      rcases hmay with howns | hallows | hpredefined
      · exact .inl howns
      · exact .inr hallows
      · rcases hpredefined with ⟨h, _⟩ | ⟨h, _⟩
        · exact absurd h hread
        · exact absurd h hwrite
  · rintro (howns | hallows)
    · exact .inr ⟨w, .refl, .inl howns⟩
    · exact .inr ⟨w, .refl, .inr (.inl hallows)⟩

/-- **A database of the set-up cluster is locked down**, and no extra user's. -/
theorem lockedDown_setUpRoles (hc : ∀ db ∈ c.databases, ∀ o ∈ db.objects, o.access.ByOwner) {w : String}
    (hw : w ∈ analytics :: users.map (·.username)) (hpostgres : w ≠ "postgres") (hanalytics : w ≠ analytics)
    {db : Database} (hdb : db ∈ (setUpRoles f analytics users readOnly c).databases) (hopen : db.IsOpen)
    {k : ObjectKind × String × String} (hruns : RunsFor (f.statement db.name) w k) :
    LockedDown k users w db ∧ db.owner ≠ w := by
  obtain ⟨db₀, hdb₀, hname, hfrom⟩ := mem_setUpRoles hdb hopen
  rw [hname] at hruns
  have hlockdown : LockedDown k users w (databaseLockdownBlock f analytics users db₀) :=
    lockedDown_lockdown (hc db₀ hdb₀) hw hpostgres hruns
  have hreassign : f.statement db₀.name (.reassignOwned w) = false :=
    hruns { kind := k.1, schema := k.2.1, name := k.2.2, access := ⟨w, []⟩ } rfl (.reassignOwned w) rfl rfl
  have howner : (databaseLockdownBlock f analytics users db₀).owner ≠ w := owner_lockdown_ne hw hpostgres hreassign
  rcases hfrom with rfl | rfl
  · exact ⟨hlockdown, howner⟩
  · exact ⟨hlockdown.grantRoutines hpostgres hanalytics, owner_foldl_ne hpostgres (.inl howner)⟩

/-- **An extra user may use the schemas it is granted and read what is in them, and nothing else**: neither what
    the source granted or handed to a role of its name, nor what it granted to everyone, is left.  This holds of
    each object by itself, whichever statements about others fail. -/
theorem may_iff (hc : ∀ db ∈ c.databases, ∀ o ∈ db.objects, o.access.ByOwner) {user : ExtraUser}
    (huser : user ∈ users) (hnames : user.username ∉ ["postgres", "pg_read_all_data", "pg_write_all_data"])
    (hanalytics : user.username ≠ analytics) {role : String} (hspliced : splicedRole analytics = some role)
    (hrole : role ≠ user.username) (hreset : f.role (.reset user.username) = false)
    (hrevoke : ∀ role, f.role (.revoke role user.username) = false) (hmembers : Revocable user.username c)
    {db : Database} (hdb : db ∈ (setUpRoles f analytics users readOnly c).databases) (hopen : db.IsOpen)
    {o : Object} (ho : o ∈ db.objects) (hlocked : Locked o.key)
    (hruns : RunsFor (f.statement db.name) user.username o.key) (p : Privilege) :
    May (setUpRoles f analytics users readOnly c) db user.username o p ↔
      Granted db users user.username o.key p := by
  simp only [List.mem_cons, List.not_mem_nil, or_false, not_or] at hnames
  obtain ⟨hpostgres, hread, hwrite⟩ := hnames
  have hw : ∃ extra ∈ users, extra.username = user.username := ⟨user, huser, rfl⟩
  obtain ⟨hdown, howner⟩ := lockedDown_setUpRoles hc (mem_managed hw) hpostgres hanalytics hdb hopen hruns
  rw [may_iff_allows (powerless hw hspliced hrole hreset hrevoke hmembers) howner hread hwrite]
  exact hdown.allows_iff ho rfl hlocked p

/-- A table that everybody reads, as it was on the source. -/
def sourceOrders : Object where
  kind := .relation .table
  schema := "sales"
  name := "orders"
  access := ⟨"staff", [⟨.everyone, .select, "staff"⟩]⟩

/-- A table of a role that the replica has an extra user for. -/
def sourcePay : Object where
  kind := .relation .table
  schema := "hr"
  name := "pay"
  access := ⟨"reporting", [⟨.role "reporting", .select, "reporting"⟩]⟩

/-- **A source on which the role is a superuser** and owns the database. -/
def salesCluster : Cluster where
  pgMajor := 15
  roles := [{ name := "postgres", login := true, superuser := true }, { name := "reporting", superuser := true }]
  members := [⟨"staff", "reporting", "postgres"⟩]
  databases :=
    [{ name := "app"
       owner := "reporting"
       objects :=
        [{ kind := .schema, schema := "sales", name := "",
           access := ⟨"reporting", [⟨.everyone, .usage, "reporting"⟩]⟩ }, sourceOrders, sourcePay] }]

/-- On the replica it is an extra user. -/
def salesUser : ExtraUser :=
  { username := "reporting", passwordSecret := "sales-user-reporting-creds", schemas := ["sales"] }

def salesUsers : List ExtraUser := [salesUser]

def restoredOrders : Object := { sourceOrders with access := ⟨"staff", [⟨.role "reporting", .select, "staff"⟩]⟩ }

def restoredPay : Object := { sourcePay with access := ⟨"postgres", [⟨.role "postgres", .select, "postgres"⟩]⟩ }

/-- The database when the roles are set up. -/
def salesDatabase : Database where
  name := "app"
  owner := "postgres"
  objects :=
    [{ kind := .schema, schema := "sales", name := "",
       access := ⟨"postgres", [⟨.role "staff", .usage, "postgres"⟩, ⟨.role "reporting", .usage, "postgres"⟩]⟩ },
      restoredOrders, restoredPay]
  defaults :=
    [{ schema := some "sales", type := .tables, access := ⟨"analytics", [⟨.role "reporting", .select, "analytics"⟩]⟩ }]

theorem databases_salesCluster :
    (setUpRoles {} "analytics" salesUsers true salesCluster).databases = [salesDatabase] := by
  with_unfolding_all rfl

theorem reporting_reads_orders :
    May (setUpRoles {} "analytics" salesUsers true salesCluster) salesDatabase "reporting" restoredOrders .select ∧
      ¬May (setUpRoles {} "analytics" salesUsers true salesCluster) salesDatabase "reporting" restoredPay .select := by
  have hbyOwner : ∀ db ∈ salesCluster.databases, ∀ o ∈ db.objects, o.access.ByOwner := by
    unfold Access.ByOwner
    decide
  have hdb : salesDatabase ∈ (setUpRoles {} "analytics" salesUsers true salesCluster).databases := by
    rw [databases_salesCluster]
    exact List.mem_singleton_self _
  have hrevocable : Revocable "reporting" salesCluster := fun h => absurd h (by decide)
  have hspliced : splicedRole "analytics" = some "analytics" := by decide
  constructor
  · refine (may_iff hbyOwner (List.mem_singleton_self _) (by decide) (by decide) hspliced
      (by decide) rfl (fun _ => rfl) hrevocable hdb ⟨rfl, by decide⟩
      (List.mem_cons_of_mem _ List.mem_cons_self) ?_ (fun _ _ _ _ _ => rfl) .select).mpr ?_
    · show isSystem "sales" = false
      decide
    · refine ⟨?_, .inr ⟨⟨.table, rfl⟩, rfl⟩⟩
      unfold GrantedIn
      decide
  · intro hmay
    have hgranted := (may_iff hbyOwner (List.mem_singleton_self _) (by decide) (by decide) hspliced
      (by decide) rfl (fun _ => rfl) hrevocable hdb ⟨rfl, by decide⟩
      (List.mem_cons_of_mem _ (List.mem_cons_of_mem _ List.mem_cons_self))
      (show isSystem "hr" = false by decide) (fun _ _ _ _ _ => rfl) .select).mp hmay
    have hnot : ¬GrantedIn salesDatabase salesUsers "reporting" "hr" := by
      unfold GrantedIn
      decide
    exact hnot hgranted.1

/-! ## What is kept -/

/-- Handed over before it is stripped, a role loses nothing. -/
theorem keys_takeFrom {fails : Statement → Bool} {roles : List String} (db : Database)
    (hroles : ∀ role ∈ roles, role ≠ "postgres" ∧
      (fails (.reassignOwned role) = true → fails (.dropOwned role) = true)) :
    ((takeFrom roles).foldl (run fails) db).objects.map Object.key = db.objects.map Object.key := by
  induction roles generalizing db with
  | nil => rfl
  | cons role rest ih =>
    obtain ⟨hne, hfails⟩ := hroles role List.mem_cons_self
    have hreassign : (run fails db (.reassignOwned role)).objects.map Object.key = db.objects.map Object.key :=
      keys_run fun _ _ _ heq => nomatch heq
    have hdrop : (run fails (run fails db (.reassignOwned role)) (.dropOwned role)).objects.map Object.key =
        (run fails db (.reassignOwned role)).objects.map Object.key := by
      refine keys_run fun hruns o ho heq => ?_
      have howner : role = o.access.owner := by injection heq
      rcases mem_run ho with ⟨_, hfailed⟩ | ⟨o₀, _, hfrom, _⟩
      · rw [hfails hfailed] at hruns
        cases hruns
      · -- the object was handed over just before
        obtain ⟨_, rfl⟩ := onObject_eq_some hfrom
        exact Access.owner_reassign_self hne howner.symm
    show ((takeFrom rest).foldl (run fails)
      (run fails (run fails db (.reassignOwned role)) (.dropOwned role))).objects.map Object.key = _
    rw [ih _ fun role' hrole' => hroles role' (List.mem_cons_of_mem _ hrole'), hdrop, hreassign]

theorem keys_gexec {fails : Statement → Bool} {query : Database → List Statement} (db : Database)
    (h : ∀ db, ∀ st ∈ query db, ∀ role, st ≠ .dropOwned role) :
    (gexec fails db query).objects.map Object.key = db.objects.map Object.key := keys_foldl (h db)

theorem not_dropOwned_grantRoutines (role : String) (db : Database) :
    ∀ st ∈ grantRoutines role db, ∀ role, st ≠ .dropOwned role := by
  intro st hst role heq
  subst heq
  obtain ⟨o, _, hst⟩ := List.mem_filterMap.mp hst
  split at hst
  · split at hst <;> cases hst
  · cases hst

theorem keys_lockdown {f : Failing} (db : Database)
    (hroles : ∀ role ∈ analytics :: users.map (·.username), role ≠ "postgres" ∧
      (f.statement db.name (.reassignOwned role) = true → f.statement db.name (.dropOwned role) = true)) :
    (databaseLockdownBlock f analytics users db).objects.map Object.key = db.objects.map Object.key := by
  obtain ⟨db₁, db₂, db₃, hdb₁, hdb₂, hdb₃, heq⟩ := databaseLockdownBlock_eq f analytics users db
  have hschemas (db : Database) : ∀ st ∈ revokeSchemas db, ∀ role, st ≠ .dropOwned role := by
    rintro st hst role rfl
    obtain ⟨_, _, heq⟩ := List.mem_map.mp hst
    cases heq
  have hrelations (db : Database) : ∀ st ∈ revokeRelations db, ∀ role, st ≠ .dropOwned role := by
    rintro st hst role rfl
    obtain ⟨_, _, heq⟩ := List.mem_map.mp hst
    cases heq
  have hroutines (db : Database) : ∀ st ∈ revokeRoutines db, ∀ role, st ≠ .dropOwned role := by
    rintro st hst role rfl
    obtain ⟨o, _, hst⟩ := List.mem_filterMap.mp hst
    split at hst
    · split at hst <;> cases hst
    · cases hst
  have hdefaults (db : Database) : ∀ st ∈ revokeDefaults db, ∀ role, st ≠ .dropOwned role := by
    rintro st hst role rfl
    obtain ⟨_, _, heq⟩ := List.mem_map.mp hst
    cases heq
  have howners (db : Database) : ∀ st ∈ grantOwners db, ∀ role, st ≠ .dropOwned role := by
    rintro st hst role rfl
    obtain ⟨_, _, heq⟩ := mem_grantOwners hst
    cases heq
  have hgrants : ∀ st ∈ schemaStatements analytics users db₃, ∀ role, st ≠ .dropOwned role := by
    rintro st hst role rfl
    obtain ⟨_, _, _, hmem⟩ := mem_schemaStatements.mp hst
    simp at hmem
  rw [heq, keys_foldl hgrants, hdb₃, keys_gexec _ howners, hdb₂, keys_takeFrom _ hroles, hdb₁,
    keys_gexec _ hdefaults, keys_gexec _ hroutines, keys_gexec _ hrelations, keys_gexec _ hschemas]

/-- **Nothing is lost**: every object of every database is there afterwards, if no managed role that could not be
    made to hand its objects over is stripped all the same. -/
theorem nothing_lost (hpostgres : "postgres" ∉ analytics :: users.map (·.username)) {role : String}
    (hspliced : splicedRole analytics = some role)
    (hdrop : ∀ db ∈ c.databases, ∀ role ∈ analytics :: users.map (·.username),
      f.statement db.name (.reassignOwned role) = true → f.statement db.name (.dropOwned role) = true) :
    (setUpRoles f analytics users readOnly c).databases.map (fun db => (db.name, db.objects.map Object.key)) =
      c.databases.map fun db => (db.name, db.objects.map Object.key) := by
  have hsame {c : Cluster} {g : Database → Database} (h : ∀ db ∈ c.databases,
      (g db).name = db.name ∧ (g db).objects.map Object.key = db.objects.map Object.key) :
      (c.inDatabases g).databases.map (fun db => (db.name, db.objects.map Object.key)) =
        c.databases.map fun db => (db.name, db.objects.map Object.key) := by
    show (c.databases.map _).map _ = _
    rw [List.map_map]
    refine List.map_congr_left fun db hdb => ?_
    dsimp only [Function.comp]
    split
    · rw [(h db hdb).1, (h db hdb).2]
    · rfl
  have hroles := databases_users f analytics users c
  have hlocked := hsame (c := users.foldl (fun c user => roleResetBlock f user.username true c)
      (roleResetBlock f analytics false c)) (g := databaseLockdownBlock f analytics users) fun db hdb =>
    ⟨(databaseLockdownBlock_same f analytics users db).1, keys_lockdown db fun role hrole =>
      ⟨fun heq => hpostgres (heq ▸ hrole), hdrop db (hroles ▸ hdb) role hrole⟩⟩
  rw [hroles] at hlocked
  unfold setUpRoles permissionBranch
  rw [hspliced]
  dsimp only
  split
  · refine (hsame (g := fun db => gexec (f.statement db.name) db (grantRoutines analytics)) fun db _ =>
      ⟨(foldl_run_same _ _ db).1, keys_gexec db (not_dropOwned_grantRoutines analytics)⟩).trans ?_
    rw [databases_runRole, hlocked]
  · rw [databases_runRole, hlocked]

theorem sales_nothing_lost :
    (setUpRoles {} "analytics" salesUsers true salesCluster).databases.map
        (fun db => (db.name, db.objects.map Object.key)) =
      salesCluster.databases.map fun db => (db.name, db.objects.map Object.key) :=
  nothing_lost (by decide) (show splicedRole "analytics" = some "analytics" by decide) fun _ _ _ _ h => nomatch h

/-! ## The name that is not quoted -/

/-- There is such a role. -/
def HasRole (w : String) (c : Cluster) : Prop := ∃ r ∈ c.roles, r.name = w

theorem hasRole_updateRole {w name : String} {g : Role → Role} (h : HasRole w c) (hg : ∀ r, (g r).name = r.name) :
    HasRole w (c.updateRole name g) := by
  obtain ⟨r, hr, hname⟩ := h
  refine ⟨_, List.mem_map_of_mem hr, ?_⟩
  split
  · rw [hg, hname]
  · exact hname

theorem kept_hasRole {w : String} : KeptByResets f (HasRole w) := by
  intro st c _ h
  unfold runRole
  split
  · exact h
  · cases st with
    | createRole role =>
      obtain ⟨r, hr, hname⟩ := h
      exact ⟨r, List.mem_append_left _ hr, hname⟩
    | reset role => exact hasRole_updateRole h fun _ => rfl
    | setReadOnly role => exact hasRole_updateRole h fun _ => rfl
    | revoke role member => exact h
    | grant role member => exact h
    | setSuperuser role => exact hasRole_updateRole h fun _ => rfl

/-- A block creates its role. -/
theorem hasRole_roleResetBlock {w : String} {pinReadOnly : Bool} (hcreate : f.role (.createRole w) = false) :
    HasRole w (roleResetBlock f w pinReadOnly c) := by
  have hcreated : HasRole w (if c.roles.any fun r => r.name = w then c else runRole f c (.createRole w)) := by
    split
    · rename_i hany
      obtain ⟨r, hr, hname⟩ := List.any_eq_true.mp hany
      exact ⟨r, hr, of_decide_eq_true hname⟩
    · unfold runRole
      rw [hcreate]
      exact ⟨{ name := w }, List.mem_append_right _ (List.mem_singleton_self _), rfl⟩
  have hreset := kept_hasRole (f := f) (.reset w) _ (fun _ h => h) hcreated
  rw [roleResetBlock_eq]
  refine foldl_revokes_keeps kept_hasRole _ ?_
  unfold resetSteps
  dsimp only
  split
  · exact kept_hasRole _ _ (fun _ h => h) hreset
  · exact hreset

/-- A role that is there is one after it was made a superuser. -/
theorem isSuperuser_setSuperuser {w : String} (h : HasRole w c) :
    (execRole (.setSuperuser w) c).isSuperuser w = true := by
  obtain ⟨r, hr, hname⟩ := h
  refine List.any_eq_true.mpr ⟨{ r with superuser := true }, ?_, by simp [hname]⟩
  refine List.mem_map.mpr ⟨r, hr, ?_⟩
  rw [if_pos hname]

/-- **An extra user becomes a superuser exactly when the analytics user's name reads as its own**, where it is
    put into `ALTER ROLE … WITH SUPERUSER` without quotes. -/
theorem isSuperuser_iff (hruns : ∀ st, f.role st = false) (hbranch : ¬(14 ≤ c.pgMajor ∧ readOnly = true))
    {user : ExtraUser} (huser : user ∈ users) :
    (setUpRoles f analytics users readOnly c).isSuperuser user.username = true ↔
      splicedRole analytics = some user.username := by
  have hnot : NotSuperuser user.username (users.foldl (fun c user => roleResetBlock f user.username true c)
      (roleResetBlock f analytics false c)) :=
    users_make kept_notSuperuser (P := fun _ => True) (fun _ _ _ _ => trivial)
      (fun _ _ => notSuperuser_roleResetBlock (hruns _)) trivial (.inr ⟨user, huser, rfl⟩)
  have hrole : HasRole user.username (users.foldl (fun c user => roleResetBlock f user.username true c)
      (roleResetBlock f analytics false c)) :=
    users_make kept_hasRole (P := fun _ => True) (fun _ _ _ _ => trivial)
      (fun _ _ => hasRole_roleResetBlock (hruns _)) trivial (.inr ⟨user, huser, rfl⟩)
  have hmajor : (users.foldl (fun c user => roleResetBlock f user.username true c)
      (roleResetBlock f analytics false c)).pgMajor = c.pgMajor := by
    have hfirst : (roleResetBlock f analytics false c).pgMajor = c.pgMajor :=
      roleResetBlock_keeps (kept_pgMajor c.pgMajor) rfl
    exact users_make (w := user.username) (kept_pgMajor c.pgMajor) (kept_pgMajor c.pgMajor)
      (fun _ h => roleResetBlock_keeps (kept_pgMajor c.pgMajor) h) hfirst (.inl hfirst)
  constructor
  · intro hsuper
    by_contra hother
    have hsafe : NotSuperuser user.username (setUpRoles f analytics users readOnly c) :=
      NotSuperuser.permissionBranch (c := Cluster.inDatabases _ _) hnot hother
    rw [hsafe.isSuperuser] at hsuper
    cases hsuper
  · intro hspliced
    unfold setUpRoles permissionBranch
    dsimp only
    rw [if_neg (show ¬(14 ≤ (Cluster.inDatabases _ _).pgMajor ∧ readOnly = true) from hmajor ▸ hbranch), hspliced]
    dsimp only
    unfold runRole
    rw [hruns]
    exact isSuperuser_setSuperuser (c := Cluster.inDatabases _ _) hrole

/-- The extra user `reporting` of a replica whose analytics user is `Reporting`. -/
theorem reporting_isSuperuser_iff :
    (setUpRoles {} "Reporting" salesUsers false salesCluster).isSuperuser "reporting" = true ↔
      splicedRole "Reporting" = some "reporting" :=
  isSuperuser_iff (fun _ => rfl) (by decide) (List.mem_singleton_self salesUser)

end Whole

end Lockdown

end RestoreOperator
