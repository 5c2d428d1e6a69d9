import Mathlib
import RestoreOperator.Canopy.Syncer

/-!
# `Correctness.Syncer` — what a tick of the syncer comes to

The calls of a tick's entries end in any order, some of them fail, and other controllers work on the cluster
meanwhile.  An entry whose own calls all succeed still gets what it asks for, whatever becomes of the others.
-/

namespace RestoreOperator

open Calls

/-! ## What an entry asks for -/

section Provisioned

variable (parse : String → Option ℚ)

/-- The Secret of the namespace holds where the entry's repository is, and its password. -/
def HasCreds (entry : CanopyEntry) (repoPassword : String) (ns : Option CanopyNamespace) : Prop :=
  ∃ secret, ns.bind (·.creds) = some secret ∧
    secret.labels.get labels.managedBy = some labels.managedByValue ∧
    ∀ k v, (entry.credsData repoPassword).get k = some v → secret.data.get k = some v

/-- The spec the entry asks for, as it is applied. -/
def CanopyEntry.specFields (entry : CanopyEntry) (intent : IntentConfig) :
    OrderedMap FieldPath FieldValue :=
  (intent.toReplicaSpec parse entry.worklistEntry).fields

/-- The replica of the namespace has the entry's spec and labels: of what the syncer ever set in the spec
    just the fields of the entry's are left, and they have their values. -/
def HasReplica (entry : CanopyEntry) (intent : IntentConfig) (ns : Option CanopyNamespace) : Prop :=
  ∃ cr, ns.bind (·.replica) = some cr ∧ cr.spec.own = entry.specFields parse intent ∧
    (∀ path v, (entry.specFields parse intent).get path = some v → cr.spec.value path = some v) ∧
    ∀ k v, entry.labels.get k = some v → cr.labels.get k = some v

/-- The replica was told of the snapshot canopy offers, if it offers one. -/
def IsTold (entry : CanopyEntry) (ns : Option CanopyNamespace) : Prop :=
  ∀ desired, entry.snapshotId = some desired → currentSnapshot ns = some desired

/-- **The namespace has what the entry asks for.** -/
structure Provisioned (entry : CanopyEntry) (intent : IntentConfig) (repoPassword : String)
    (ns : Option CanopyNamespace) : Prop where
  creds : HasCreds entry repoPassword ns
  replica : HasReplica parse entry intent ns
  told : IsTold entry ns

end Provisioned

/-- What the syncer set in the spec of a namespace's replica, and the replica's labels. -/
def replicaOwn (ns : Option CanopyNamespace) : Option (OrderedMap FieldPath FieldValue × Labels) :=
  (ns.bind (·.replica)).map fun cr => (cr.spec.own, cr.labels)

/-- **What the other controllers leave alone** in a namespace: the Secret, and of the replica what the syncer
    set in the spec, the labels and what it was told.  They may set other fields of the spec. -/
structure LeavesAlone (ns ns' : Option CanopyNamespace) : Prop where
  creds : ns'.bind (·.creds) = ns.bind (·.creds)
  replica : replicaOwn ns' = replicaOwn ns
  told : currentSnapshot ns' = currentSnapshot ns

/-- The namespace is gone, or on its way. -/
def IsGone (ns : Option CanopyNamespace) : Prop := ∀ n, ns = some n → n.terminating = true

variable {parse : String → Option ℚ}

theorem LeavesAlone.hasCreds {entry : CanopyEntry} {repoPassword : String}
    {ns ns' : Option CanopyNamespace} (h : LeavesAlone ns ns') (hcreds : HasCreds entry repoPassword ns) :
    HasCreds entry repoPassword ns' := by
  unfold HasCreds
  rw [h.creds]
  exact hcreds

/-- A replica is an entry's by what the syncer set in it. -/
theorem hasReplica_iff {entry : CanopyEntry} {intent : IntentConfig} {ns : Option CanopyNamespace} :
    HasReplica parse entry intent ns ↔
      ∃ own : Labels, replicaOwn ns = some (entry.specFields parse intent, own) ∧
        ∀ k v, entry.labels.get k = some v → own.get k = some v := by
  unfold HasReplica replicaOwn
  constructor
  · rintro ⟨cr, hcr, hown, -, hlabels⟩
    rw [hcr]
    exact ⟨cr.labels, congrArg (fun own => some (own, cr.labels)) hown, hlabels⟩
  · rintro ⟨own, hreplica, hlabels⟩
    obtain ⟨cr, hcr, hpair⟩ := Option.map_eq_some_iff.mp hreplica
    obtain ⟨hown, rfl⟩ := Prod.mk.inj hpair
    exact ⟨cr, hcr, hown, fun path v hpath => ManagedFields.value_of_own (hown ▸ hpath), hlabels⟩

theorem LeavesAlone.hasReplica {entry : CanopyEntry} {intent : IntentConfig}
    {ns ns' : Option CanopyNamespace} (h : LeavesAlone ns ns')
    (hreplica : HasReplica parse entry intent ns) : HasReplica parse entry intent ns' := by
  rw [hasReplica_iff] at hreplica ⊢
  rw [h.replica]
  exact hreplica

theorem LeavesAlone.isTold {entry : CanopyEntry} {ns ns' : Option CanopyNamespace}
    (h : LeavesAlone ns ns') (htold : IsTold entry ns) : IsTold entry ns' := by
  unfold IsTold
  rw [h.told]
  exact htold

theorem LeavesAlone.provisioned {entry : CanopyEntry} {intent : IntentConfig} {repoPassword : String}
    {ns ns' : Option CanopyNamespace} (h : LeavesAlone ns ns')
    (hprovisioned : Provisioned parse entry intent repoPassword ns) :
    Provisioned parse entry intent repoPassword ns' :=
  ⟨h.hasCreds hprovisioned.creds, h.hasReplica hprovisioned.replica, h.isTold hprovisioned.told⟩

/-! ## The calls of an entry -/

variable {entry : CanopyEntry} {intent : IntentConfig} {repoPassword : String}
  {A : CredsRequest → String → Prop} {R : Option CanopyNamespace → Option CanopyNamespace → Prop}
  {I Q : Option CanopyNamespace → Prop} {next : NamespaceRoutine}

theorem overlay_has {m applied : Labels} {k v : String} (h : applied.get k = some v) :
    (m.overlay applied).get k = some v := by
  rw [OrderedMap.get_overlay, h]
  rfl

/-- **What applying a Secret does**, where the API takes it. -/
theorem applySecret_cases {own : Labels} {data : OrderedMap String String}
    {ns ns' : Option CanopyNamespace} (h : applySecret own data ns = some ns') :
    ∃ n, ns = some n ∧ ns' = some
      { n with
        creds := some
          { labels := (n.creds.getD { labels := ∅, data := ∅ }).labels.overlay own
            data := (n.creds.getD { labels := ∅, data := ∅ }).data.overlay data } } := by
  unfold applySecret at h
  cases ns with
  | none => cases h
  | some n =>
    dsimp only at h
    split at h
    · cases h
    · exact ⟨n, rfl, (Option.some.inj h).symm⟩

/-- **What applying a replica does**, where the API takes it. -/
theorem applyReplica_cases {own : Labels} {spec : ReplicaSpec} {ns ns' : Option CanopyNamespace}
    (h : applyReplica own spec ns = some ns') :
    ∃ n, ns = some n ∧ ns' = some
      { n with
        replica := some
          { labels := (n.replica.getD { labels := ∅, spec := ∅ }).labels.overlay own
            spec := (n.replica.getD { labels := ∅, spec := ∅ }).spec.apply spec.fields
            status := (n.replica.getD { labels := ∅, spec := ∅ }).status } } := by
  unfold applyReplica at h
  cases ns with
  | none => cases h
  | some n =>
    dsimp only at h
    split at h
    · cases h
    · exact ⟨n, rfl, (Option.some.inj h).symm⟩

/-- **What the patch of the status does**, where there is a replica. -/
theorem patchDesired_cases {desired : String} {ns ns' : Option CanopyNamespace}
    (h : patchDesired desired ns = some ns') :
    ∃ n cr, ns = some n ∧ n.replica = some cr ∧ ns' = some
      { n with
        replica := some
          { cr with status := some { cr.status.getD {} with canopyDesiredSnapshotId := some desired } } } := by
  unfold patchDesired at h
  cases ns with
  | none => cases h
  | some n =>
    cases hcr : n.replica with
    | none =>
      simp only [hcr] at h
      cases h
    | some cr =>
      simp only [hcr] at h
      exact ⟨n, cr, rfl, hcr, (Option.some.inj h).symm⟩

theorem applySecret_hasCreds {ns ns' : Option CanopyNamespace}
    (h : applySecret (.ofList [(labels.managedBy, labels.managedByValue)])
      (entry.credsData repoPassword) ns = some ns') : HasCreds entry repoPassword ns' := by
  obtain ⟨n, rfl, rfl⟩ := applySecret_cases h
  exact ⟨_, rfl, overlay_has rfl, fun k v hk => overlay_has hk⟩

/-- Applying a replica leaves the Secret, and of what was applied before nothing but what is applied again. -/
theorem applyReplica_own {own : Labels} {spec : ReplicaSpec} {ns ns' : Option CanopyNamespace}
    (h : applyReplica own spec ns = some ns') :
    ns'.bind (·.creds) = ns.bind (·.creds) ∧ ∃ labels : Labels,
      replicaOwn ns' = some (spec.fields, labels) ∧ ∀ k v, own.get k = some v → labels.get k = some v := by
  obtain ⟨n, rfl, rfl⟩ := applyReplica_cases h
  generalize spec.fields = sent
  exact ⟨rfl, _, rfl, fun k v hk => overlay_has hk⟩

theorem applyReplica_has {ns ns' : Option CanopyNamespace}
    (h : applyReplica entry.labels (intent.toReplicaSpec parse entry.worklistEntry) ns = some ns') :
    ns'.bind (·.creds) = ns.bind (·.creds) ∧ HasReplica parse entry intent ns' := by
  obtain ⟨hcreds, labels, hown, hlabels⟩ := applyReplica_own h
  exact ⟨hcreds, hasReplica_iff.mpr ⟨labels, hown, hlabels⟩⟩

theorem getReplica_eq {ns ns' : Option CanopyNamespace} (h : getReplica ns = some ns') : ns' = ns := by
  unfold getReplica at h
  split at h
  · cases h
  · exact (Option.some.inj h).symm

/-- The patch changes nothing but what the replica was told. -/
theorem patchDesired_told {desired : String} {ns ns' : Option CanopyNamespace}
    (h : patchDesired desired ns = some ns') :
    ns'.bind (·.creds) = ns.bind (·.creds) ∧ replicaOwn ns' = replicaOwn ns ∧
      currentSnapshot ns' = some desired := by
  obtain ⟨n, cr, rfl, hcr, rfl⟩ := patchDesired_cases h
  refine ⟨rfl, ?_, rfl⟩
  simp [replicaOwn, hcr]

theorem ensureNamespace_leads (hnext : next.Leads A R (fun _ => True) Q) :
    (ensureNamespace entry next).Leads A R (fun _ => True) Q :=
  Routine.Leads.call (fun _ _ _ _ => trivial) fun _ _ _ _ => ⟨fun _ => True, trivial, hnext⟩

theorem ensureCanopyCredsSecret_leads (hnext : next.Leads A R (HasCreds entry repoPassword) Q) :
    (ensureCanopyCredsSecret entry repoPassword next).Leads A R (fun _ => True) Q :=
  Routine.Leads.call (fun _ _ _ _ => trivial) fun _ _ _ hact => ⟨_, applySecret_hasCreds hact, hnext⟩

theorem ensureReplicaCr_leads (hR : ∀ ns ns', R ns ns' → LeavesAlone ns ns')
    (hnext : next.Leads A R
      (fun ns => HasCreds entry repoPassword ns ∧ HasReplica parse entry intent ns) Q) :
    (ensureReplicaCr parse entry intent next).Leads A R (HasCreds entry repoPassword) Q := by
  refine Routine.Leads.call (fun ns ns' h => (hR ns ns' h).hasCreds) fun ns ns' hcreds hact =>
    ⟨_, ?_, hnext⟩
  obtain ⟨hsame, hreplica⟩ := applyReplica_has hact
  refine ⟨?_, hreplica⟩
  unfold HasCreds
  rw [hsame]
  exact hcreds

theorem setDesiredSnapshot_leads (hR : ∀ ns ns', R ns ns' → LeavesAlone ns ns') :
    (setDesiredSnapshot entry).Leads A R
      (fun ns => HasCreds entry repoPassword ns ∧ HasReplica parse entry intent ns)
      (Provisioned parse entry intent repoPassword) := by
  have hstable : Routine.Stable R (Provisioned parse entry intent repoPassword) :=
    fun ns ns' h => (hR ns ns' h).provisioned
  have hboth : Routine.Stable R
      (fun ns => HasCreds entry repoPassword ns ∧ HasReplica parse entry intent ns) :=
    fun ns ns' h hns => ⟨(hR ns ns' h).hasCreds hns.1, (hR ns ns' h).hasReplica hns.2⟩
  unfold setDesiredSnapshot
  cases hsnapshot : entry.snapshotId with
  | none =>
    refine Routine.Leads.done hstable fun ns h => ⟨h.1, h.2, ?_⟩
    intro desired hdesired
    rw [hsnapshot] at hdesired
    cases hdesired
  | some desired =>
    refine Routine.Leads.call hboth fun ns ns' hns hact => ?_
    obtain rfl := getReplica_eq hact
    by_cases hcurrent : currentSnapshot ns' = some desired
    · -- the replica was told before
      rw [if_pos hcurrent]
      refine ⟨Provisioned parse entry intent repoPassword, ⟨hns.1, hns.2, ?_⟩,
        Routine.Leads.done hstable fun _ h => h⟩
      intro desired' hdesired'
      rw [hsnapshot] at hdesired'
      rw [hcurrent, hdesired']
    · rw [if_neg hcurrent]
      refine ⟨_, hns, Routine.Leads.call hboth fun u u' hu hact' => ?_⟩
      obtain ⟨hcreds, hown, htold⟩ := patchDesired_told hact'
      refine ⟨Provisioned parse entry intent repoPassword, ⟨?_, ?_, ?_⟩,
        Routine.Leads.done hstable fun _ h => h⟩
      · unfold HasCreds
        rw [hcreds]
        exact hu.1
      · rw [hasReplica_iff, hown, ← hasReplica_iff]
        exact hu.2
      · intro desired' hdesired'
        rw [hsnapshot] at hdesired'
        rw [htold, hdesired']

/-- **What the calls of an entry lead to**, while the other controllers keep to their own. -/
theorem reconcileEntry_leads (hintent : configFor entry.intent = some intent)
    (hR : ∀ ns ns', R ns ns' → LeavesAlone ns ns') :
    (reconcileEntry parse entry).Leads A R (fun _ => True)
      (fun ns => ∃ repoPassword, A entry.credsRequest repoPassword ∧
        Provisioned parse entry intent repoPassword ns) := by
  unfold reconcileEntry
  rw [hintent]
  refine ensureNamespace_leads (Routine.Leads.ask (fun _ _ _ _ => trivial) fun repoPassword hpassword => ?_)
  refine ensureCanopyCredsSecret_leads (ensureReplicaCr_leads hR ?_)
  intro ns hns es hes hdone
  exact ⟨repoPassword, hpassword, setDesiredSnapshot_leads hR ns hns es hes hdone⟩

theorem teardown_leads (hR : ∀ ns ns', R ns ns' → IsGone ns → IsGone ns') :
    teardown.Leads A R (fun _ => True) IsGone := by
  refine Routine.Leads.call (fun _ _ _ _ => trivial) fun ns ns' _ hact =>
    ⟨IsGone, ?_, Routine.Leads.done (fun u u' h => hR u u' h) fun _ h => h⟩
  obtain rfl := Option.some.inj hact
  intro n hn
  obtain ⟨m, _, rfl⟩ := Option.map_eq_some_iff.mp hn
  rfl

/-! ## A whole tick -/

/-- **What is relied on during a tick**: canopy's answers are among `A`, and another party changes a
    namespace by `R`. -/
def SyncerAllowed (A : CredsRequest → String → Prop)
    (R : String → Option CanopyNamespace → Option CanopyNamespace → Prop)
    (s : Syncer) : SyncerEvent → Prop
  | .pool e => Pool.Allowed A R s.pool e
  | _ => True

section Tick

variable (sha256 : List UInt8 → Vector UInt8 32) (parse : String → Option ℚ)

/-- **What the other controllers do during a tick**: in a namespace that an entry names, they leave alone
    what is the syncer's.  What is being deleted stays so until it is gone. -/
def Others (entries : List CanopyEntry) (name : String) (ns ns' : Option CanopyNamespace) : Prop :=
  (name ∈ entries.map (·.namespaceName sha256) → LeavesAlone ns ns') ∧ (IsGone ns → IsGone ns')

/-- The first half of a tick: the entries are reconciled. -/
def provisioning (entries : List CanopyEntry) (names : List String)
    (es : List (PoolEvent String String (Option CanopyNamespace))) : List SyncerEvent :=
  .worklist entries :: .listed names :: es.map .pool

/-- The second half: the orphans are deleted. -/
def deleting (es : List (PoolEvent String String (Option CanopyNamespace))) : List SyncerEvent :=
  .provisioned :: es.map .pool

/-- The calls of the `i`-th routine all succeeded. -/
def Syncer.isDone (s : Syncer) (i : Nat) : Bool := (s.pool.workers[i]?).any (·.routine.isDone)

theorem run_pool (s : Syncer) (es : List (PoolEvent String String (Option CanopyNamespace))) :
    runFrom (Syncer.step sha256 parse) s (es.map .pool) =
      { s with pool := runFrom Pool.step s.pool es } := by
  induction es generalizing s with
  | nil => rfl
  | cons e es ih => exact ih _

theorem meets_pool {C : Syncer → SyncerEvent → Prop}
    {D : Pool String CredsRequest String (Option CanopyNamespace) →
      PoolEvent String String (Option CanopyNamespace) → Prop}
    (hCD : ∀ s e, C s (.pool e) ↔ D s.pool e) {s : Syncer}
    {es : List (PoolEvent String String (Option CanopyNamespace))} :
    Meets (Syncer.step sha256 parse) C s (es.map .pool) ↔ Meets Pool.step D s.pool es := by
  induction es generalizing s with
  | nil => rfl
  | cons e es ih => exact and_congr (hCD s e) ih

theorem meets_allowed {A : CredsRequest → String → Prop}
    {R : String → Option CanopyNamespace → Option CanopyNamespace → Prop} {s : Syncer}
    {es : List (PoolEvent String String (Option CanopyNamespace))} :
    Meets (Syncer.step sha256 parse) (SyncerAllowed A R) s (es.map .pool) ↔
      Meets Pool.step (Pool.Allowed A R) s.pool es :=
  meets_pool sha256 parse fun _ _ => Iff.rfl

variable {sha256 parse}

theorem mem_orphans {entries : List CanopyEntry} {namespaces : List String} {name : String} :
    name ∈ orphans sha256 entries namespaces ↔
      name ∈ namespaces ∧ name ∉ entries.map (·.namespaceName sha256) := by
  unfold orphans
  rw [List.mem_filter, decide_eq_true_iff]

/-- The pool a tick starts its entries in. -/
def entriesPool (sha256 : List UInt8 → Vector UInt8 32) (parse : String → Option ℚ)
    (entries : List CanopyEntry) (cells : String → Option CanopyNamespace) :
    Pool String CredsRequest String (Option CanopyNamespace) :=
  { workers := entries.map fun entry =>
      { key := entry.namespaceName sha256, routine := reconcileEntry parse entry }
    cells := cells }

/-- The pool a tick starts its deletions in. -/
def orphansPool (orphans : List String) (cells : String → Option CanopyNamespace) :
    Pool String CredsRequest String (Option CanopyNamespace) :=
  { workers := orphans.map fun ns => { key := ns, routine := teardown }
    cells := cells }

/-- Where a tick is once its entries have been worked on. -/
theorem run_provisioning {s : Syncer} (hidle : s.pass = .idle) (entries : List CanopyEntry)
    (names : List String) (es : List (PoolEvent String String (Option CanopyNamespace))) :
    runFrom (Syncer.step sha256 parse) s (provisioning entries names es) =
      { pass := .provisioning entries (managed s.cluster names)
        pool := runFrom Pool.step (entriesPool sha256 parse entries s.pool.cells) es } := by
  unfold provisioning
  rw [runFrom_cons, runFrom_cons]
  have hworklist : s.step sha256 parse (.worklist entries) = { s with pass := .fetched entries } := by
    unfold Syncer.step
    rw [hidle]
  rw [hworklist]
  exact run_pool sha256 parse _ es

theorem entriesPool_worker {entries : List CanopyEntry} {cells : String → Option CanopyNamespace} {i : Nat}
    {entry : CanopyEntry} (hi : entries[i]? = some entry) :
    (entriesPool sha256 parse entries cells).workers[i]? =
      some { key := entry.namespaceName sha256, routine := reconcileEntry parse entry } := by
  unfold entriesPool
  rw [List.getElem?_map, hi]
  rfl

theorem entriesPool_keys (entries : List CanopyEntry) (cells : String → Option CanopyNamespace) :
    (entriesPool sha256 parse entries cells).workers.map Worker.key =
      entries.map (·.namespaceName sha256) := by
  unfold entriesPool
  rw [List.map_map]
  rfl

theorem orphansPool_keys (names : List String) (cells : String → Option CanopyNamespace) :
    (orphansPool names cells).workers.map Worker.key = names := by
  unfold orphansPool
  rw [List.map_map]
  exact List.map_id names

/-- Where a tick is once its orphans have been worked on, if it got there. -/
theorem run_deleting {s : Syncer} {entries : List CanopyEntry} {namespaces : List String}
    (hpass : s.pass = .provisioning entries namespaces)
    (es : List (PoolEvent String String (Option CanopyNamespace))) :
    runFrom (Syncer.step sha256 parse) s (deleting es) =
      if s.allEnded then
        { pass := .tearingDown entries namespaces
          pool := runFrom Pool.step (orphansPool (orphans sha256 entries namespaces) s.pool.cells) es }
      else { s with pool := runFrom Pool.step s.pool es } := by
  unfold deleting
  rw [runFrom_cons, run_pool]
  simp only [Syncer.step, hpass]
  split
  · rfl
  · simp only [hpass]

theorem orphansPool_worker {names : List String} {cells : String → Option CanopyNamespace} {i : Nat}
    {name : String} (hi : names[i]? = some name) :
    (orphansPool names cells).workers[i]? = some { key := name, routine := teardown } := by
  unfold orphansPool
  rw [List.getElem?_map, hi]
  rfl

section Allowed

variable {A : CredsRequest → String → Prop}
  {R : String → Option CanopyNamespace → Option CanopyNamespace → Prop}

/-- What may happen while the entries are worked on may happen to their pool. -/
theorem meets_entriesPool {s : Syncer} (hidle : s.pass = .idle) {entries : List CanopyEntry}
    {names : List String} {es : List (PoolEvent String String (Option CanopyNamespace))}
    (h : Meets (Syncer.step sha256 parse) (SyncerAllowed A R) s (provisioning entries names es)) :
    Meets Pool.step (Pool.Allowed A R) (entriesPool sha256 parse entries s.pool.cells) es := by
  have hstart := (meets_allowed sha256 parse).mp h.2.2
  have hstep : ((s.step sha256 parse (.worklist entries)).step sha256 parse (.listed names)).pool =
      entriesPool sha256 parse entries s.pool.cells := by
    simp only [Syncer.step, hidle]
    rfl
  rwa [hstep] at hstart

/-- What may happen while the orphans are worked on may happen to their pool. -/
theorem meets_orphansPool {s : Syncer} {entries : List CanopyEntry} {namespaces : List String}
    (hpass : s.pass = .provisioning entries namespaces) (hall : s.allEnded = true)
    {es : List (PoolEvent String String (Option CanopyNamespace))}
    (h : Meets (Syncer.step sha256 parse) (SyncerAllowed A R) s (deleting es)) :
    Meets Pool.step (Pool.Allowed A R) (orphansPool (orphans sha256 entries namespaces) s.pool.cells) es := by
  have hstart := (meets_allowed sha256 parse).mp h.2
  have hstep : (s.step sha256 parse .provisioned).pool =
      orphansPool (orphans sha256 entries namespaces) s.pool.cells := by
    simp only [Syncer.step, hpass, hall, if_true]
    rfl
  rwa [hstep] at hstart

end Allowed

/-- A tick that came to its end had worked on all of its entries. -/
theorem allEnded_of_tornDown {s : Syncer} {entries : List CanopyEntry} {namespaces : List String}
    (hpass : s.pass = .provisioning entries namespaces)
    {es : List (PoolEvent String String (Option CanopyNamespace))}
    (hended : (runFrom (Syncer.step sha256 parse) s (deleting es ++ [.tornDown])).pass = .idle) :
    s.allEnded = true := by
  by_contra hnot
  rw [runFrom_append, run_deleting hpass, if_neg hnot] at hended
  simp only [runFrom_cons, runFrom_nil, Syncer.step, hpass] at hended
  cases hended

theorem isDone_worker {s : Syncer} {i : Nat} (h : s.isDone i = true) :
    ∃ w, s.pool.workers[i]? = some w ∧ w.routine.isDone = true :=
  (Option.any_eq_true _ _).mp h

/-- Every answer of canopy's is relied on, where no other controller is at work. -/
theorem allowed_any {R : String → Option CanopyNamespace → Option CanopyNamespace → Prop} (s : Syncer)
    {e : SyncerEvent} (h : ∀ k v, e ≠ .pool (.changed k v)) : SyncerAllowed (fun _ _ => True) R s e := by
  cases e with
  | pool e =>
    cases e with
    | ended i reply =>
      intro w _
      unfold Routine.Answered
      split <;> trivial
    | changed k v => exact absurd rfl (h k v)
  | _ => trivial

/-- **A tick gives every entry its due.**  Whatever the other parties do beside it, in whatever order the
    calls end and whichever of them fail: an entry whose own calls succeeded has what it asks for when the
    tick is over, and an orphan whose deletion succeeded is gone or on its way. -/
theorem tick_converges {s : Syncer} (hidle : s.pass = .idle) {entries : List CanopyEntry}
    (hentries : (entries.map (·.namespaceName sha256)).Nodup) {names : List String} (hnames : names.Nodup)
    {A : CredsRequest → String → Prop} {es es' : List (PoolEvent String String (Option CanopyNamespace))}
    (hes : Meets (Syncer.step sha256 parse) (SyncerAllowed A (Others sha256 entries)) s
      (provisioning entries names es ++ deleting es' ++ [.tornDown]))
    (hended : (runFrom (Syncer.step sha256 parse) s
      (provisioning entries names es ++ deleting es' ++ [.tornDown])).pass = .idle) :
    let reconciled := runFrom (Syncer.step sha256 parse) s (provisioning entries names es)
    let torn := runFrom (Syncer.step sha256 parse) s (provisioning entries names es ++ deleting es')
    (∀ i entry intent, entries[i]? = some entry → configFor entry.intent = some intent →
      reconciled.isDone i = true → ∃ repoPassword, A entry.credsRequest repoPassword ∧
        Provisioned parse entry intent repoPassword (torn.cluster (entry.namespaceName sha256))) ∧
    (∀ i name, (orphans sha256 entries (managed s.cluster names))[i]? = some name → torn.isDone i = true →
      IsGone (torn.cluster name)) := by
  intro reconciled torn
  obtain ⟨hboth, _⟩ := meets_append.mp hes
  obtain ⟨hfirst, hsecond⟩ := meets_append.mp hboth
  have hreconciled : reconciled = _ := run_provisioning hidle entries names es
  have hpass : reconciled.pass = .provisioning entries (managed s.cluster names) := by rw [hreconciled]
  -- the first half was over when the second began
  have hall : reconciled.allEnded = true := by
    rw [List.append_assoc, runFrom_append] at hended
    exact allEnded_of_tornDown hpass hended
  have htorn : torn = _ := runFrom_append _ s (provisioning entries names es) (deleting es')
  rw [run_deleting hpass, if_pos hall] at htorn
  have hpool := meets_orphansPool hpass hall hsecond
  constructor
  · intro i entry intent hi hintent hdone
    have hR : ∀ ns ns', Others sha256 entries (entry.namespaceName sha256) ns ns' → LeavesAlone ns ns' :=
      fun ns ns' h => h.1 (List.mem_map_of_mem (List.mem_of_getElem? hi))
    obtain ⟨w, hw, hwdone⟩ := isDone_worker hdone
    rw [hreconciled] at hw
    obtain ⟨repoPassword, hpassword, hprovisioned⟩ :=
      Pool.own_leads (by rwa [entriesPool_keys]) (entriesPool_worker hi) (meets_entriesPool hidle hfirst)
        (reconcileEntry_leads hintent hR) trivial hw hwdone
    -- no orphan has the entry's name, so the deletions pass it by
    refine ⟨repoPassword, hpassword, ?_⟩
    rw [htorn]
    refine Pool.idle_cell ?_ (fun ns ns' h => (hR ns ns' h).provisioned) hpool ?_
    · rw [orphansPool_keys]
      exact fun horphan => (mem_orphans.mp horphan).2 (List.mem_map_of_mem (List.mem_of_getElem? hi))
    · show Provisioned parse entry intent repoPassword (reconciled.pool.cells _)
      rw [hreconciled]
      exact hprovisioned
  · intro i name hi hdone
    obtain ⟨w, hw, hwdone⟩ := isDone_worker hdone
    rw [htorn] at hw ⊢
    refine Pool.own_leads ?_ (orphansPool_worker hi) hpool (teardown_leads fun ns ns' h => h.2) trivial hw hwdone
    rw [orphansPool_keys]
    exact (hnames.filter _).filter _

/-- An entry that canopy wants verified, from its third snapshot. -/
def nauruEntry : CanopyEntry :=
  { replicaId := ⟨Vector.replicate 16 1⟩
    groupId := ⟨Vector.replicate 16 2⟩
    serverId := ⟨Vector.replicate 16 3⟩
    type := "tamanu-postgres"
    intent := "verify"
    name := "nauru"
    snapshotId := some "s3"
    bucket := "backups"
    region := "ap-southeast-2"
    pathPrefix := "nauru/" }

/-- A cluster without namespaces. -/
def bareCluster : Syncer := { pool := { workers := [], cells := fun _ => none } }

/-- A stand-in for the hash. -/
def zeroHash : List UInt8 → Vector UInt8 32 := fun _ => Vector.replicate 32 0

/-- Six calls of the first entry succeed, and canopy gives the password. -/
def sixAnswers : List (PoolEvent String String (Option CanopyNamespace)) :=
  List.replicate 6 (.ended 0 (.ok, "hunter2"))

theorem one_entry_converges :
    ∃ intent repoPassword, configFor "verify" = some intent ∧
      Provisioned (fun _ => none) nauruEntry intent repoPassword
        ((runFrom (Syncer.step zeroHash fun _ => none) bareCluster
          (provisioning [nauruEntry] [] sixAnswers ++ deleting [])).cluster
          (nauruEntry.namespaceName zeroHash)) := by
  have hallowed : Meets (Syncer.step zeroHash fun _ => none)
      (SyncerAllowed (fun _ _ => True) (Others zeroHash [nauruEntry])) bareCluster
      (provisioning [nauruEntry] [] sixAnswers ++ deleting [] ++ [.tornDown]) := by
    refine meets_of_events (fun e he s => allowed_any s ?_) _
    rintro k v rfl
    simp [provisioning, deleting, sixAnswers] at he
  obtain ⟨repoPassword, _, hprovisioned⟩ :=
    (@tick_converges zeroHash (fun _ => none) bareCluster rfl [nauruEntry] (List.nodup_singleton _) []
      List.nodup_nil (fun _ _ => True) sixAnswers [] hallowed rfl).1 0 nauruEntry _ rfl rfl rfl
  exact ⟨_, repoPassword, rfl, hprovisioned⟩

/-- A managed namespace that no entry names any more. -/
def oldNamespace : CanopyNamespace := { labels := .ofList [(labels.managedBy, labels.managedByValue)] }

/-- A cluster with that namespace. -/
def oldCluster : Syncer :=
  { pool := { workers := [], cells := fun name => if name = "old" then some oldNamespace else none } }

end Tick

end RestoreOperator
