import Mathlib
import RestoreOperator.Canopy.Verification
import RestoreOperator.Correctness.SyncerOwnership

/-!
# `Correctness.VerificationReport` — whom a report is for, and what it says

Canopy files a report under the ids in it.  They are read back from labels that were written from a worklist
entry, and the labels may have been stripped from the replica since; what is left, and the namespace's, are
still those of the entries that name the namespace.
-/

namespace RestoreOperator

open Calls

/-! ## Labels that tell an entry -/

/-- The labels a report is filed under. -/
def identityKeys : List String := [labels.group, labels.server, labels.declarationId]

theorem labels_group (entry : CanopyEntry) : entry.labels.get labels.group = some entry.groupId.display := by
  unfold CanopyEntry.labels OrderedMap.ofList
  simp [OrderedMap.get_insert, labels.group, labels.server, labels.type, labels.intent]

theorem labels_server (entry : CanopyEntry) :
    entry.labels.get labels.server = some entry.serverId.display := by
  unfold CanopyEntry.labels OrderedMap.ofList
  simp [OrderedMap.get_insert, labels.server, labels.type, labels.intent]

theorem labels_declarationId (entry : CanopyEntry) :
    entry.labels.get labels.declarationId = some entry.replicaId.display := by
  unfold CanopyEntry.labels OrderedMap.ofList
  simp [OrderedMap.get_insert, labels.declarationId, labels.group, labels.server, labels.type,
    labels.intent]

theorem labels_ne_none (entry : CanopyEntry) : ∀ key ∈ identityKeys, entry.labels.get key ≠ none := by
  intro key hkey
  rcases List.mem_cons.mp hkey with rfl | hkey
  · rw [labels_group]
    exact Option.some_ne_none _
  rcases List.mem_cons.mp hkey with rfl | hkey
  · rw [labels_server]
    exact Option.some_ne_none _
  · rw [List.mem_singleton.mp hkey, labels_declarationId]
    exact Option.some_ne_none _

section Tells

variable (sha256 : List UInt8 → Vector UInt8 32) (known : List CanopyEntry)

/-- **The labels tell of entries that name the namespace**, as far as they tell anything. -/
def Tells (name : String) (own : Labels) : Prop :=
  ∀ key ∈ identityKeys, own.get key = none ∨
    ∃ entry ∈ known, entry.namespaceName sha256 = name ∧ own.get key = entry.labels.get key

variable {sha256 known} {name : String} {own fallback : Labels}

theorem Tells.fill (hown : Tells sha256 known name own) (hfallback : Tells sha256 known name fallback) :
    Tells sha256 known name (fillMissingLabels own fallback) := by
  intro key hkey
  unfold fillMissingLabels
  rw [OrderedMap.get_fill]
  rcases hown key hkey with hnone | ⟨entry, hentry, hname, hget⟩
  · rw [hnone, Option.none_or]
    exact hfallback key hkey
  · refine .inr ⟨entry, hentry, hname, ?_⟩
    rw [hget]
    obtain ⟨value, hvalue⟩ := Option.ne_none_iff_exists'.mp (labels_ne_none entry key hkey)
    rw [hvalue]
    rfl

/-- **The ids such labels tell** are those of the replica and the server, and the group of one of the entries. -/
theorem Tells.ids (h : Tells sha256 known name own) {entry : CanopyEntry}
    (hsame : ∀ other ∈ known, other.namespaceName sha256 = name → SameReplica entry other) {ids : CanopyIds}
    (hids : canopyIds own = .ok ids) :
    ids.replicaId = entry.replicaId ∧ ids.serverId = entry.serverId ∧
      ∃ other ∈ known, other.namespaceName sha256 = name ∧ ids.group = other.groupId := by
  unfold canopyIds at hids
  split at hids
  · rename_i group serverId replicaId hgroup hserver hreplica
    obtain rfl := Except.ok.inj hids
    unfold labelId at hgroup hserver hreplica
    -- an id that was told is the one of an entry
    have htold : ∀ {key : String} {id : Uuid}, key ∈ identityKeys → (own.get key).bind Uuid.parse = some id →
        ∃ other ∈ known, other.namespaceName sha256 = name ∧
          (other.labels.get key).bind Uuid.parse = some id := by
      intro key id hkey hid
      rcases h key hkey with hnone | ⟨other, hother, hname, hget⟩
      · rw [hnone] at hid
        cases hid
      · exact ⟨other, hother, hname, hget ▸ hid⟩
    refine ⟨?_, ?_, ?_⟩
    · obtain ⟨other, hother, hname, hid⟩ := htold (by simp [identityKeys]) hreplica
      rw [labels_declarationId, Option.bind_some, Uuid.parse_display] at hid
      rw [(hsame other hother hname).replicaId]
      exact (Option.some.inj hid).symm
    · obtain ⟨other, hother, hname, hid⟩ := htold (by simp [identityKeys]) hserver
      rw [labels_server, Option.bind_some, Uuid.parse_display] at hid
      rw [(hsame other hother hname).serverId]
      exact (Option.some.inj hid).symm
    · obtain ⟨other, hother, hname, hid⟩ := htold (by simp [identityKeys]) hgroup
      rw [labels_group, Option.bind_some, Uuid.parse_display] at hid
      exact ⟨other, hother, hname, (Option.some.inj hid).symm⟩
  · cases hids

/-- Labels that tell all three are read. -/
theorem Tells.isOk (h : Tells sha256 known name own) (hall : ∀ key ∈ identityKeys, own.get key ≠ none) :
    ∃ ids, canopyIds own = .ok ids := by
  have hget : ∀ key ∈ identityKeys, ∃ other : CanopyEntry, own.get key = other.labels.get key := by
    intro key hkey
    rcases h key hkey with hnone | ⟨other, _, _, hget⟩
    · exact absurd hnone (hall key hkey)
    · exact ⟨other, hget⟩
  obtain ⟨e₁, h₁⟩ := hget labels.group (by simp [identityKeys])
  obtain ⟨e₂, h₂⟩ := hget labels.server (by simp [identityKeys])
  obtain ⟨e₃, h₃⟩ := hget labels.declarationId (by simp [identityKeys])
  unfold canopyIds labelId
  rw [h₁, h₂, h₃, labels_group, labels_server, labels_declarationId]
  simp only [Option.bind_some, Uuid.parse_display]
  exact ⟨_, rfl⟩

/-- **Whom a report is for**, with the labels of the namespace or without. -/
theorem Tells.reportLabels (hown : Tells sha256 known name own) (hfallback : Tells sha256 known name fallback)
    (hall : ∀ key ∈ identityKeys, fallback.get key ≠ none) {entry : CanopyEntry}
    (hsame : ∀ other ∈ known, other.namespaceName sha256 = name → SameReplica entry other) :
    (RestoreOperator.reportLabels own (some fallback)).isSome ∧
      ∀ namespaceLabels, namespaceLabels = none ∨ namespaceLabels = some fallback → ∀ merged ids,
        RestoreOperator.reportLabels own namespaceLabels = some (merged, ids) →
          ids.replicaId = entry.replicaId ∧ ids.serverId = entry.serverId ∧
            ∃ other ∈ known, other.namespaceName sha256 = name ∧ ids.group = other.groupId := by
  have hfill := hown.fill hfallback
  constructor
  · unfold RestoreOperator.reportLabels
    cases canopyIds own with
    | ok ids => rfl
    | error missing =>
      obtain ⟨ids, hids⟩ := hfill.isOk (by
        intro key hkey hnone
        unfold fillMissingLabels at hnone
        rw [OrderedMap.get_fill, Option.or_eq_none_iff] at hnone
        exact hall key hkey hnone.2)
      simp only [hids]
      rfl
  · intro namespaceLabels hlabels merged ids hreport
    unfold RestoreOperator.reportLabels at hreport
    cases hids : canopyIds own with
    | ok ids' =>
      rw [hids] at hreport
      obtain ⟨_, rfl⟩ := Prod.mk.inj (Option.some.inj hreport)
      exact hown.ids hsame hids
    | error missing =>
      simp only [hids] at hreport
      rcases hlabels with rfl | rfl
      · simp only [hids] at hreport
        cases hreport
      · cases hmerged : canopyIds (fillMissingLabels own fallback) with
        | ok ids' =>
          simp only [hmerged] at hreport
          obtain ⟨_, rfl⟩ := Prod.mk.inj (Option.some.inj hreport)
          exact hfill.ids hsame hmerged
        | error _ =>
          simp only [hmerged] at hreport
          cases hreport

end Tells

/-! ## Over the runs of the syncer -/

section Runs

variable (sha256 : List UInt8 → Vector UInt8 32) (known : List CanopyEntry)

/-- **The labels of a namespace and of its replica** tell of entries that name it, and the namespace's tell all. -/
structure Labelled (name : String) (ns : Option CanopyNamespace) : Prop where
  own : ∀ n, ns = some n →
    Tells sha256 known name n.labels ∧ ∀ key ∈ identityKeys, n.labels.get key ≠ none
  replica : ∀ n cr, ns = some n → n.replica = some cr → Tells sha256 known name cr.labels

/-- **What other parties do to the labels**: they may strip them from the replica, and take away the replica
    or the namespace. -/
def Strips (ns ns' : Option CanopyNamespace) : Prop :=
  ∀ n', ns' = some n' → ∃ n, ns = some n ∧
    (∀ key ∈ identityKeys, n'.labels.get key = n.labels.get key) ∧
    ∀ cr', n'.replica = some cr' → ∃ cr, n.replica = some cr ∧
      ∀ key ∈ identityKeys, cr'.labels.get key = none ∨ cr'.labels.get key = cr.labels.get key

variable {sha256 known}

theorem Tells.of_entry {entry : CanopyEntry} (hentry : entry ∈ known) :
    Tells sha256 known (entry.namespaceName sha256) entry.labels :=
  fun _ _ => .inr ⟨entry, hentry, rfl, rfl⟩

theorem Labelled.strips {name : String} {ns ns' : Option CanopyNamespace} (h : Labelled sha256 known name ns)
    (hstrips : Strips ns ns') : Labelled sha256 known name ns' := by
  constructor
  · intro n' hn'
    obtain ⟨n, hn, hsame, _⟩ := hstrips n' hn'
    obtain ⟨htells, hall⟩ := h.own n hn
    constructor
    · intro key hkey
      rw [hsame key hkey]
      exact htells key hkey
    · intro key hkey
      rw [hsame key hkey]
      exact hall key hkey
  · intro n' cr' hn' hcr'
    obtain ⟨n, hn, _, hreplica⟩ := hstrips n' hn'
    obtain ⟨cr, hcr, hlabels⟩ := hreplica cr' hcr'
    intro key hkey
    rcases hlabels key hkey with hnone | hsame
    · exact .inl hnone
    · rw [hsame]
      exact h.replica n cr hn hcr key hkey

theorem Labelled.provides {parse : String → Option ℚ} {A : CredsRequest → String → Prop} {entry : CanopyEntry}
    (hentry : entry ∈ known) {intent : IntentConfig} {ns ns' : Option CanopyNamespace}
    (h : Labelled sha256 known (entry.namespaceName sha256) ns) (hR : Provides parse A entry intent ns ns') :
    Labelled sha256 known (entry.namespaceName sha256) ns' := by
  cases hR with
  | read => exact h
  | made hact =>
    obtain rfl := Option.some.inj hact
    cases ns with
    | some n => exact h
    | none =>
      refine ⟨?_, ?_⟩
      · rintro n hn
        obtain rfl := Option.some.inj hn
        exact ⟨Tells.of_entry hentry, labels_ne_none entry⟩
      · rintro n cr hn hcr
        obtain rfl := Option.some.inj hn
        cases hcr
  | secret _ hact =>
    obtain ⟨n, rfl, rfl⟩ := applySecret_cases hact
    refine ⟨?_, ?_⟩
    · intro m hm
      obtain rfl := Option.some.inj hm
      exact h.own n rfl
    · intro m cr hm hcr
      obtain rfl := Option.some.inj hm
      exact h.replica n cr rfl hcr
  | replica hact =>
    obtain ⟨n, rfl, rfl⟩ := applyReplica_cases hact
    refine ⟨?_, ?_⟩
    · intro m hm
      obtain rfl := Option.some.inj hm
      exact h.own n rfl
    · intro m cr hm hcr
      obtain rfl := Option.some.inj hm
      obtain rfl := Option.some.inj hcr
      intro key hkey
      -- an applied label is the entry's own
      refine .inr ⟨entry, hentry, rfl, ?_⟩
      obtain ⟨value, hvalue⟩ := Option.ne_none_iff_exists'.mp (labels_ne_none entry key hkey)
      rw [hvalue]
      exact overlay_has hvalue
  | told _ hact =>
    obtain ⟨n, cr, rfl, hcr, rfl⟩ := patchDesired_cases hact
    refine ⟨?_, ?_⟩
    · intro m hm
      obtain rfl := Option.some.inj hm
      exact h.own n rfl
    · intro m cr' hm hcr'
      obtain rfl := Option.some.inj hm
      obtain rfl := Option.some.inj hcr'
      exact h.replica n cr rfl hcr

/-- **A report is filed under the replica it is about.**  The syncer makes the namespaces; ticks come and go,
    and other parties may strip the labels from a replica; entries for different replicas have different
    namespaces.  Then a report about the replica of a namespace can be made whenever the namespace can be read,
    whatever its spec reads as, and every report that is made is for the replica and the server of the entries
    that name the namespace, and for the group of one of them. -/
theorem reports_name_their_replica {parse : String → Option ℚ} {s₀ : Syncer} (hidle : s₀.pass = .idle)
    (hworkers : s₀.pool.workers = []) {A : CredsRequest → String → Prop} {es : List SyncerEvent}
    (hstart : ∀ entry ∈ worklists es, s₀.cluster (entry.namespaceName sha256) = none)
    (hes : Meets (Syncer.step sha256 parse) (SyncerAllowed A fun _ => Strips) s₀ es)
    (hnames : ∀ entry ∈ worklists es, ∀ other ∈ worklists es,
      entry.namespaceName sha256 = other.namespaceName sha256 → SameReplica entry other)
    {entry : CanopyEntry} (hentry : entry ∈ worklists es) {ns : CanopyNamespace} {cr : CanopyReplica}
    (hns : (runFrom (Syncer.step sha256 parse) s₀ es).cluster (entry.namespaceName sha256) = some ns)
    (hcr : ns.replica = some cr) {replica : ReadReplica} (hread : replica.labels = cr.labels)
    (restore : Restore) (outcome : RunOutcome) (error : Option String) (facts : ReportFacts) :
    (replica.spec.canopySource ≠ none → facts.namespaceLabels = some ns.labels →
      (verificationReport true replica restore outcome error facts).isSome) ∧
    (facts.namespaceLabels = none ∨ facts.namespaceLabels = some ns.labels → ∀ args,
      verificationReport true replica restore outcome error facts = some args →
        args.replicaId = entry.replicaId ∧ args.serverId = entry.serverId ∧
          ∃ other ∈ worklists es, SameReplica entry other ∧ args.group = other.groupId) := by
  have hlabelled : entry.namespaceName sha256 ∈ (worklists es).map (·.namespaceName sha256) →
      Labelled sha256 (worklists es) (entry.namespaceName sha256)
        ((runFrom (Syncer.step sha256 parse) s₀ es).cluster (entry.namespaceName sha256)) := by
    refine every_namespace (P := fun name ns => name ∈ (worklists es).map (·.namespaceName sha256) →
      Labelled sha256 (worklists es) name ns) (R := fun _ => Strips) hidle hworkers ?_ ?_ hes _
    · exact
        { provides := fun e he intent _ ns ns' h hR hname => (h hname).provides he hR
          deletes := fun name ns ns' h hdelete hname => by
            obtain rfl := Option.some.inj hdelete
            cases ns with
            | none => exact h hname
            | some n =>
              refine ⟨?_, ?_⟩
              · intro m hm
                obtain rfl := Option.some.inj hm
                exact (h hname).own n rfl
              · intro m cr hm hcr
                obtain rfl := Option.some.inj hm
                exact (h hname).replica n cr rfl hcr
          others := fun name ns ns' h hstrips hname => (h hname).strips hstrips }
    · intro name hname
      obtain ⟨e, he, rfl⟩ := List.mem_map.mp hname
      rw [hstart e he]
      exact ⟨fun n hn => absurd hn (by simp), fun n cr hn => absurd hn (by simp)⟩
  have hlabels := hlabelled (List.mem_map_of_mem hentry)
  have hsame : ∀ other ∈ worklists es, other.namespaceName sha256 = entry.namespaceName sha256 →
      SameReplica entry other :=
    fun other hother hname => hnames entry hentry other hother hname.symm
  obtain ⟨htells, hall⟩ := hlabels.own ns hns
  obtain ⟨hmade, hids⟩ := (hlabels.replica ns cr hns hcr).reportLabels htells hall hsame
  rw [← hread] at hmade hids
  constructor
  · intro hsource hfacts
    unfold verificationReport
    rw [if_neg (by simp [hsource]), hfacts, Option.isSome_map]
    exact hmade
  · intro hfacts args hargs
    unfold verificationReport at hargs
    split at hargs
    · cases hargs
    · obtain ⟨⟨merged, ids⟩, hreport, rfl⟩ := Option.map_eq_some_iff.mp hargs
      obtain ⟨hreplica, hserver, other, hother, hname, hgroup⟩ := hids _ hfacts merged ids hreport
      exact ⟨hreplica, hserver, other, hother, hsame other hother hname, hgroup⟩

/-- What a tick leaves for the entry in a cluster without namespaces. -/
theorem nauru_ran : ∃ ns cr,
    (runFrom (Syncer.step zeroHash fun _ => none) bareCluster
      (provisioning [nauruEntry] [] sixAnswers)).cluster (nauruEntry.namespaceName zeroHash) = some ns ∧
      ns.replica = some cr := by
  rw [run_provisioning rfl]
  have hworker : (entriesPool zeroHash (fun _ => none) [nauruEntry] bareCluster.pool.cells).workers[0]? = _ :=
    entriesPool_worker (i := 0) rfl
  have hown := (Pool.own_run (by rw [entriesPool_keys]; exact List.nodup_singleton _) hworker sixAnswers).2
  have hevents : Pool.ownEvents 0 (nauruEntry.namespaceName zeroHash) sixAnswers =
      List.replicate 6 (.ended (.ok, "hunter2")) := rfl
  dsimp only at hown
  rw [hevents] at hown
  exact ⟨_, _, hown, rfl⟩

/-- A restore in that namespace. -/
def nauruRestore : Restore :=
  { uid := 1
    name := "nauru-1"
    spec := { replica := "replica", snapshot := "k1", snapshotSize := .amount 1, storageSize := .amount 2 } }

/-- A spec of canopy's. -/
def nauruSpec : ReplicaSpec :=
  { canopySource := some { group := nauruEntry.groupId.display, type := nauruEntry.type }
    schedule := "H * * * *" }

theorem nauru_reported : ∃ ns cr,
    (runFrom (Syncer.step zeroHash fun _ => none) bareCluster
      (provisioning [nauruEntry] [] sixAnswers)).cluster (nauruEntry.namespaceName zeroHash) = some ns ∧
      ns.replica = some cr ∧
      ∃ args, verificationReport true { labels := cr.labels, spec := nauruSpec } nauruRestore .success none
          { namespaceLabels := some ns.labels, now := 0 } = some args ∧
        args.replicaId = nauruEntry.replicaId ∧ args.serverId = nauruEntry.serverId := by
  obtain ⟨ns, cr, hns, hcr⟩ := nauru_ran
  have hallowed : Meets (Syncer.step zeroHash fun _ => none)
      (SyncerAllowed (fun _ _ => True) fun _ => Strips) bareCluster
      (provisioning [nauruEntry] [] sixAnswers) := by
    refine meets_of_events (fun e he s => allowed_any s ?_) _
    rintro k v rfl
    simp [provisioning, sixAnswers] at he
  have hworklists : worklists (provisioning [nauruEntry] [] sixAnswers) = [nauruEntry] := rfl
  obtain ⟨hmade, hids⟩ := @reports_name_their_replica zeroHash (fun _ => none) bareCluster rfl rfl
    (fun _ _ => True) (provisioning [nauruEntry] [] sixAnswers) (fun _ _ => rfl) hallowed
    (by
      intro entry hentry other hother _
      rw [hworklists, List.mem_singleton] at hentry hother
      rw [hentry, hother]
      exact ⟨rfl, rfl, rfl⟩) nauruEntry (by rw [hworklists]; exact List.mem_singleton_self _) ns cr hns hcr
    { labels := cr.labels, spec := nauruSpec } rfl nauruRestore .success none
    { namespaceLabels := some ns.labels, now := 0 }
  obtain ⟨args, hargs⟩ := Option.isSome_iff_exists.mp (hmade (Option.some_ne_none _) rfl)
  obtain ⟨hreplica, hserver, _⟩ := hids (.inr rfl) args hargs
  exact ⟨ns, cr, hns, hcr, args, hargs, hreplica, hserver⟩

end Runs

end RestoreOperator
