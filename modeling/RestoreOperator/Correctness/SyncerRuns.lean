import Mathlib
import RestoreOperator.Correctness.Namespace
import RestoreOperator.Correctness.Syncer

/-!
# `Correctness.SyncerRuns` — what the syncer does over all its runs

Every call of an entry does one of a few things to the entry's namespace.  From that: a tick over a cluster
that is as the worklist wants it writes nothing, only managed namespaces that no entry names are deleted, and
what is in a namespace is all for one replica.
-/

namespace RestoreOperator

open Calls

variable {sha256 : List UInt8 → Vector UInt8 32} {parse : String → Option ℚ}
  {A : CredsRequest → String → Prop}

/-! ## What a call can do -/

/-- **What the calls of an entry do** to its namespace. -/
inductive Provides (parse : String → Option ℚ) (A : CredsRequest → String → Prop) (entry : CanopyEntry)
    (intent : IntentConfig) : Option CanopyNamespace → Option CanopyNamespace → Prop where
  | read (ns : Option CanopyNamespace) : Provides parse A entry intent ns ns
  | made {ns ns' : Option CanopyNamespace} (h : createNamespace entry.labels ns = some ns') :
      Provides parse A entry intent ns ns'
  | secret {repoPassword : String} (hpassword : A entry.credsRequest repoPassword)
      {ns ns' : Option CanopyNamespace}
      (h : applySecret (.ofList [(labels.managedBy, labels.managedByValue)])
        (entry.credsData repoPassword) ns = some ns') : Provides parse A entry intent ns ns'
  | replica {ns ns' : Option CanopyNamespace}
      (h : applyReplica entry.labels (intent.toReplicaSpec parse entry.worklistEntry) ns = some ns') :
      Provides parse A entry intent ns ns'
  | told {desired : String} (hdesired : entry.snapshotId = some desired)
      {ns ns' : Option CanopyNamespace} (h : patchDesired desired ns = some ns') :
      Provides parse A entry intent ns ns'

/-- What the calls of an entry do, if the operator knows its intent. -/
def EntryWrites (parse : String → Option ℚ) (A : CredsRequest → String → Prop) (entry : CanopyEntry)
    (ns ns' : Option CanopyNamespace) : Prop :=
  ∃ intent, configFor entry.intent = some intent ∧ Provides parse A entry intent ns ns'

theorem setDesiredSnapshot_writes {entry : CanopyEntry} {intent : IntentConfig}
    (hintent : configFor entry.intent = some intent) :
    (setDesiredSnapshot entry).Writes A (EntryWrites parse A entry) := by
  unfold setDesiredSnapshot
  cases hsnapshot : entry.snapshotId with
  | none => trivial
  | some desired =>
    intro ns ns' hact
    obtain rfl := getReplica_eq hact
    refine ⟨⟨intent, hintent, .read ns'⟩, ?_⟩
    dsimp only
    split
    · trivial
    · exact fun u u' hact' => ⟨⟨intent, hintent, .told hsnapshot hact'⟩, trivial⟩

/-- Every call of an entry is one of those. -/
theorem reconcileEntry_writes (parse : String → Option ℚ) (A : CredsRequest → String → Prop)
    (entry : CanopyEntry) : (reconcileEntry parse entry).Writes A (EntryWrites parse A entry) := by
  unfold reconcileEntry
  cases hintent : configFor entry.intent with
  | none => trivial
  | some intent =>
    refine fun ns ns' hnamespace => ⟨⟨intent, hintent, .made hnamespace⟩, ?_⟩
    refine fun repoPassword hpassword => ?_
    refine fun ns ns' hsecret => ⟨⟨intent, hintent, .secret hpassword hsecret⟩, ?_⟩
    exact fun ns ns' hreplica =>
      ⟨⟨intent, hintent, .replica hreplica⟩, setDesiredSnapshot_writes hintent⟩

/-- A call of an entry deletes nothing. -/
theorem Provides.alive {entry : CanopyEntry} {intent : IntentConfig} {n : CanopyNamespace}
    {ns' : Option CanopyNamespace} (h : Provides parse A entry intent (some n) ns') :
    ∃ n', ns' = some n' ∧ n'.terminating = n.terminating := by
  cases h with
  | read => exact ⟨n, rfl, rfl⟩
  | made h => exact ⟨n, (Option.some.inj h).symm, rfl⟩
  | secret _ h =>
    obtain ⟨m, hm, rfl⟩ := applySecret_cases h
    obtain rfl := Option.some.inj hm
    exact ⟨_, rfl, rfl⟩
  | replica h =>
    obtain ⟨m, hm, rfl⟩ := applyReplica_cases h
    obtain rfl := Option.some.inj hm
    exact ⟨_, rfl, rfl⟩
  | told _ h =>
    obtain ⟨m, cr, hm, _, rfl⟩ := patchDesired_cases h
    obtain rfl := Option.some.inj hm
    exact ⟨_, rfl, rfl⟩

/-! ## A tick with nothing to do -/

section Quiet

variable {entry : CanopyEntry} {intent : IntentConfig} {repoPassword : String}

theorem of_get_singleton {k₀ v₀ k v : String} (h : (OrderedMap.ofList [(k₀, v₀)]).get k = some v) :
    k = k₀ ∧ v = v₀ := by
  have hget := OrderedMap.get_insert (∅ : Labels) k₀ v₀ k
  rw [show (∅ : Labels).insert k₀ v₀ = OrderedMap.ofList [(k₀, v₀)] from rfl, h] at hget
  split at hget
  · rename_i hk
    exact ⟨hk, Option.some.inj hget⟩
  · cases hget

/-- **In a namespace that has what the entry asks for**, no call of the entry changes anything. -/
theorem Provides.quiet (hA : ∀ a, A entry.credsRequest a → a = repoPassword)
    {ns ns' : Option CanopyNamespace} (h : Provides parse A entry intent ns ns')
    (hns : Provisioned parse entry intent repoPassword ns) : ns' = ns := by
  obtain ⟨⟨secret, hsecret, hmanaged, hdata⟩, ⟨cr, hcr, hspec, _, hlabels⟩, htold⟩ := hns
  obtain ⟨n, rfl, hcreds⟩ := Option.bind_eq_some_iff.mp hsecret
  rw [Option.bind_some] at hcr
  obtain ⟨nlabels, terminating, creds, replica⟩ := n
  obtain rfl : creds = some secret := hcreds
  obtain rfl : replica = some cr := hcr
  cases h with
  | read => rfl
  | made h => exact (Option.some.inj h).symm
  | secret hpassword h =>
    obtain rfl := hA _ hpassword
    obtain ⟨m, hm, rfl⟩ := applySecret_cases h
    obtain rfl := Option.some.inj hm
    simp only [Option.getD_some]
    rw [OrderedMap.overlay_eq_self hdata, OrderedMap.overlay_eq_self]
    intro k v hk
    obtain ⟨rfl, rfl⟩ := of_get_singleton hk
    exact hmanaged
  | replica h =>
    obtain ⟨m, hm, rfl⟩ := applyReplica_cases h
    obtain rfl := Option.some.inj hm
    simp only [Option.getD_some]
    have happlied : cr.spec.own = (intent.toReplicaSpec parse entry.worklistEntry).fields := hspec
    rw [OrderedMap.overlay_eq_self hlabels, ManagedFields.apply_eq_self happlied]
  | told hdesired h =>
    obtain ⟨m, cr', hm, hcr', rfl⟩ := patchDesired_cases h
    obtain rfl := Option.some.inj hm
    obtain rfl := Option.some.inj hcr'
    -- the status it would write is the one that is there
    have hcurrent : cr.status.bind (·.canopyDesiredSnapshotId) = some _ := htold _ hdesired
    obtain ⟨status, hstatus, hwants⟩ := Option.bind_eq_some_iff.mp hcurrent
    obtain ⟨crlabels, spec, status'⟩ := cr
    obtain rfl : status' = some status := hstatus
    simp only [Option.getD_some]
    rw [← hwants]

end Quiet

/-- The namespace is as the entry wants it, if the operator knows the intent. -/
def Settled (parse : String → Option ℚ) (password : CredsRequest → String) (entry : CanopyEntry)
    (ns : Option CanopyNamespace) : Prop :=
  ∀ intent, configFor entry.intent = some intent →
    Provisioned parse entry intent (password entry.credsRequest) ns

/-- The event is the syncer's own doing, or canopy's, and not another controller's. -/
def SyncerEvent.isOwn : SyncerEvent → Bool
  | .pool (.changed _ _) => false
  | _ => true

/-- The event starts no tick. -/
def SyncerEvent.isInTick : SyncerEvent → Bool
  | .worklist _ => false
  | .listed _ => false
  | _ => true

section Settled

variable {password : CredsRequest → String} {entries : List CanopyEntry}

/-- **A tick that finds the cluster settled**: the cells stay settled, and the entries at work on them are
    those of the tick, or nothing is at work. -/
structure QuietTick (sha256 : List UInt8 → Vector UInt8 32) (parse : String → Option ℚ)
    (password : CredsRequest → String) (entries : List CanopyEntry) (s : Syncer) : Prop where
  settled : ∀ entry ∈ entries, Settled parse password entry (s.cluster (entry.namespaceName sha256))
  atWork :
    (∃ namespaces, s.pass = .provisioning entries namespaces ∧ orphans sha256 entries namespaces = [] ∧
      s.pool.workers.map Worker.key = entries.map (·.namespaceName sha256) ∧
      Pool.AllWrite (fun q a => a = password q)
        (fun i v v' => ∃ entry, entries[i]? = some entry ∧
          EntryWrites parse (fun q a => a = password q) entry v v') s.pool.workers) ∨
    (s.pool.workers = [] ∧ ∀ entries' namespaces, s.pass ≠ .provisioning entries' namespaces)

/-- The end of a call changes nothing while the cluster is settled. -/
theorem QuietTick.ended {s : Syncer} (h : QuietTick sha256 parse password entries s) {i : Nat}
    {reply : Reply Unit × String}
    (hanswer : ∀ w, s.pool.workers[i]? = some w → w.routine.Answered (fun q a => a = password q) reply.2) :
    (s.pool.step (.ended i reply)).cells = s.pool.cells := by
  rcases h.atWork with ⟨namespaces, _, _, hkeys, hwrites⟩ | ⟨hnone, _⟩
  · funext k
    rcases (Pool.writes_step hwrites hanswer).2 k with hsame | ⟨w, hw, rfl, entry, hi, intent, hintent, hR⟩
    · exact hsame
    · have hkey : w.key = entry.namespaceName sha256 := by
        have hget := congrArg (·[i]?) hkeys
        simp only [List.getElem?_map, hw, hi, Option.map_some, Option.some.injEq] at hget
        exact hget
      refine hR.quiet (fun a ha => ha) ?_
      rw [hkey]
      exact h.settled entry (List.mem_of_getElem? hi) intent hintent
  · rw [Pool.step_ended_none]
    rw [hnone]
    rfl

/-- What the other controllers leave alone stays settled. -/
theorem settled_update {cells : String → Option CanopyNamespace}
    (h : ∀ entry ∈ entries, Settled parse password entry (cells (entry.namespaceName sha256))) {k : String}
    {v : Option CanopyNamespace} (hleaves : LeavesAlone (cells k) v) :
    ∀ entry ∈ entries,
      Settled parse password entry (Function.update cells k v (entry.namespaceName sha256)) := by
  intro entry hentry intent hintent
  have hold := h entry hentry intent hintent
  generalize entry.namespaceName sha256 = name at hold
  by_cases hk : name = k
  · rw [hk] at hold ⊢
    rw [Function.update_self]
    exact hleaves.provisioned hold
  · rw [Function.update_of_ne hk]
    exact hold

theorem QuietTick.changed {s : Syncer} (h : QuietTick sha256 parse password entries s) {k : String}
    {v : Option CanopyNamespace} (hleaves : LeavesAlone (s.pool.cells k) v) :
    QuietTick sha256 parse password entries (s.step sha256 parse (.pool (.changed k v))) := by
  have hstep : s.step sha256 parse (.pool (.changed k v)) =
      { s with pool := { s.pool with cells := Function.update s.pool.cells k v } } := rfl
  have hsettled := h.settled
  unfold Syncer.cluster at hsettled
  have hupdated := settled_update hsettled hleaves
  rw [hstep]
  refine ⟨?_, h.atWork⟩
  dsimp only [Syncer.cluster]
  exact hupdated

theorem QuietTick.called {s : Syncer} (h : QuietTick sha256 parse password entries s) {i : Nat}
    {reply : Reply Unit × String}
    (hanswer : ∀ w, s.pool.workers[i]? = some w → w.routine.Answered (fun q a => a = password q) reply.2) :
    QuietTick sha256 parse password entries (s.step sha256 parse (.pool (.ended i reply))) := by
  have hstep : s.step sha256 parse (.pool (.ended i reply)) =
      { s with pool := s.pool.step (.ended i reply) } := rfl
  have hcells := h.ended hanswer
  rw [hstep]
  refine ⟨?_, ?_⟩
  · unfold Syncer.cluster
    rw [hcells]
    exact h.settled
  · rcases h.atWork with ⟨namespaces, hpass, horphans, hkeys, hwrites⟩ | ⟨hnone, hpass⟩
    · exact .inl ⟨namespaces, hpass, horphans, (Pool.step_keys s.pool _).trans hkeys,
        (Pool.writes_step hwrites hanswer).1⟩
    · refine .inr ⟨?_, hpass⟩
      dsimp only
      rw [Pool.step_ended_none (by rw [hnone]; rfl)]
      exact hnone

theorem QuietTick.provisioned {s : Syncer} (h : QuietTick sha256 parse password entries s) :
    QuietTick sha256 parse password entries (s.step sha256 parse .provisioned) := by
  unfold Syncer.step
  rcases h.atWork with ⟨namespaces, hpass, horphans, _, _⟩ | ⟨_, hpass⟩
  · simp only [hpass]
    split
    · -- no namespace is left to delete
      rw [horphans]
      exact ⟨h.settled, .inr ⟨rfl, fun _ _ hne => nomatch hne⟩⟩
    · exact h
  · cases hp : s.pass with
    | provisioning entries' namespaces => exact absurd hp (hpass entries' namespaces)
    | _ => exact h

theorem QuietTick.tornDown {s : Syncer} (h : QuietTick sha256 parse password entries s) :
    QuietTick sha256 parse password entries (s.step sha256 parse .tornDown) := by
  unfold Syncer.step
  cases s.pass with
  | tearingDown entries' namespaces =>
    dsimp only
    split
    · exact ⟨h.settled, .inr ⟨rfl, fun _ _ hne => nomatch hne⟩⟩
    · exact h
  | _ => exact h

theorem QuietTick.step {s : Syncer} (h : QuietTick sha256 parse password entries s) {e : SyncerEvent}
    (htick : e.isInTick = true)
    (hallowed : SyncerAllowed (fun q a => a = password q) (fun _ => LeavesAlone) s e) :
    QuietTick sha256 parse password entries (s.step sha256 parse e) := by
  cases e with
  | worklist _ => cases htick
  | listed _ => cases htick
  | pool e =>
    cases e with
    | changed k v => exact h.changed hallowed
    | ended i reply => exact h.called hallowed
  | provisioned => exact h.provisioned
  | tornDown => exact h.tornDown
  | stopped => exact ⟨h.settled, .inr ⟨rfl, fun _ _ hne => nomatch hne⟩⟩

/-- Only the calls of the routines and other controllers change the cluster. -/
theorem step_cluster (s : Syncer) {e : SyncerEvent} (h : ∀ e', e ≠ .pool e') :
    (s.step sha256 parse e).cluster = s.cluster := by
  unfold Syncer.step
  cases e with
  | pool e' => exact absurd rfl (h e')
  | stopped => rfl
  | worklist _ => cases s.pass <;> rfl
  | listed _ => cases s.pass <;> rfl
  | provisioned =>
    cases s.pass with
    | provisioning _ _ =>
      dsimp only
      split <;> rfl
    | _ => rfl
  | tornDown =>
    cases s.pass with
    | tearingDown _ _ =>
      dsimp only
      split <;> rfl
    | _ => rfl

/-- **A tick over a settled cluster writes nothing.**  If every entry has what it asks for, canopy says the
    same passwords again and every managed namespace is named by an entry, then no call of the tick changes
    the cluster, in whatever order they end and whatever they answer, and with other controllers at work. -/
theorem settled_tick_writes_nothing {s : Syncer} (hidle : s.pass = .idle) {names : List String}
    (hsettled : ∀ entry ∈ entries, Settled parse password entry (s.cluster (entry.namespaceName sha256)))
    (hnamed : ∀ n ∈ managed s.cluster names, n ∈ entries.map (·.namespaceName sha256))
    {es : List SyncerEvent} (htick : ∀ e ∈ es, e.isInTick = true)
    (hes : Meets (Syncer.step sha256 parse)
      (SyncerAllowed (fun q a => a = password q) fun _ => LeavesAlone) s
      (.worklist entries :: .listed names :: es)) :
    Meets (Syncer.step sha256 parse)
      (fun s e => e.isOwn = true → (s.step sha256 parse e).cluster = s.cluster) s
      (.worklist entries :: .listed names :: es) := by
  have hworklist : s.step sha256 parse (.worklist entries) = { s with pass := .fetched entries } := by
    unfold Syncer.step
    rw [hidle]
  have hlisted : (s.step sha256 parse (.worklist entries)).step sha256 parse (.listed names) =
      { pass := .provisioning entries (managed s.cluster names)
        pool := entriesPool sha256 parse entries s.pool.cells } := by
    rw [hworklist]
    rfl
  have hquiet : QuietTick sha256 parse password entries
      ((s.step sha256 parse (.worklist entries)).step sha256 parse (.listed names)) := by
    rw [hlisted]
    refine ⟨hsettled, .inl ⟨_, rfl, ?_, entriesPool_keys _ _, ?_⟩⟩
    · rw [List.eq_nil_iff_forall_not_mem]
      intro n hn
      obtain ⟨hmanaged, hnot⟩ := mem_orphans.mp hn
      exact hnot (hnamed n hmanaged)
    · intro i w hw
      have hworker : (entriesPool sha256 parse entries s.pool.cells).workers[i]? = some w := hw
      obtain ⟨entry, hi, rfl⟩ := Option.map_eq_some_iff.mp (List.getElem?_map .. ▸ hworker)
      exact (reconcileEntry_writes parse _ entry).mono fun v v' h => ⟨entry, hi, h⟩
  refine ⟨fun _ => step_cluster s (by simp), fun _ => step_cluster _ (by simp), ?_⟩
  refine Meets.of_invariant (I := QuietTick sha256 parse password entries)
    (C := fun s e => SyncerAllowed (fun q a => a = password q) (fun _ => LeavesAlone) s e ∧
      e.isInTick = true) (fun s e hC hI => hI.step hC.2 hC.1) ?_ hquiet (hes.2.2.with_events htick)
  intro s e hC hI hown
  cases e with
  | pool e =>
    cases e with
    | changed _ _ => cases hown
    | ended i reply => exact hI.ended hC.1
  | _ => exact step_cluster s (by simp)

/-- What a tick makes for an entry in a cluster without its namespace. -/
def madeNamespace (parse : String → Option ℚ) (entry : CanopyEntry) (intent : IntentConfig)
    (repoPassword : String) : CanopyNamespace :=
  { labels := entry.labels
    creds := some
      { labels := .ofList [(labels.managedBy, labels.managedByValue)]
        data := entry.credsData repoPassword }
    replica := some
      { labels := entry.labels
        spec := (∅ : StoredSpec).apply (entry.specFields parse intent)
        status := some { canopyDesiredSnapshotId := entry.snapshotId } } }

theorem madeNamespace_provisioned (parse : String → Option ℚ) (entry : CanopyEntry) (intent : IntentConfig)
    (repoPassword : String) :
    Provisioned parse entry intent repoPassword (some (madeNamespace parse entry intent repoPassword)) := by
  refine ⟨⟨_, rfl, rfl, fun _ _ h => h⟩, ?_, fun _ h => h⟩
  unfold HasReplica madeNamespace
  generalize entry.specFields parse intent = sent
  exact ⟨_, rfl, rfl, fun _ _ h => ManagedFields.value_of_own h, fun _ _ h => h⟩

/-- A cluster in which one entry has what it asks for. -/
def madeCluster : Syncer :=
  { pool :=
      { workers := []
        cells := fun _ => (configFor "verify").map fun intent =>
          madeNamespace (fun _ => none) nauruEntry intent "hunter2" } }

/-- The whole tick of that entry, all its calls and its end. -/
theorem made_cluster_quiet :
    Meets (Syncer.step zeroHash fun _ => none)
      (fun s e => e.isOwn = true → (s.step zeroHash (fun _ => none) e).cluster = s.cluster) madeCluster
      (provisioning [nauruEntry] [nauruEntry.namespaceName zeroHash] sixAnswers ++ deleting [] ++
        [.tornDown]) := by
  refine @settled_tick_writes_nothing zeroHash (fun _ => none) (fun _ => "hunter2") [nauruEntry] madeCluster
    rfl [nauruEntry.namespaceName zeroHash] ?_ ?_ (sixAnswers.map .pool ++ deleting [] ++ [.tornDown]) ?_ ?_
  · intro entry hentry intent hintent
    obtain rfl := List.mem_singleton.mp hentry
    have hcell : madeCluster.cluster (nauruEntry.namespaceName zeroHash) =
        (configFor nauruEntry.intent).map fun intent =>
          madeNamespace (fun _ => none) nauruEntry intent "hunter2" := rfl
    rw [hcell, hintent]
    exact madeNamespace_provisioned _ _ _ _
  · intro n hn
    exact (List.mem_filter.mp hn).1
  · simp [sixAnswers, deleting, SyncerEvent.isInTick]
  · refine meets_of_events (fun e he s => ?_) _
    have hcalls : ∀ reply : Reply Unit × String, reply = (.ok, "hunter2") →
        SyncerAllowed (fun _ a => a = "hunter2") (fun _ => LeavesAlone) s (.pool (.ended 0 reply)) := by
      rintro _ rfl w _
      unfold Routine.Answered
      split <;> trivial
    simp only [sixAnswers, deleting, List.mem_cons, List.mem_append, List.mem_map, List.mem_replicate,
      List.map_nil, List.not_mem_nil, or_false] at he
    rcases he with rfl | rfl | (⟨_, ⟨_, rfl⟩, rfl⟩ | rfl) | rfl
    · trivial
    · trivial
    · exact hcalls _ rfl
    · trivial
    · trivial

end Settled

/-! ## What is deleted -/

section AtWork

variable (sha256 : List UInt8 → Vector UInt8 32) (parse : String → Option ℚ)
  (A : CredsRequest → String → Prop)

/-- **Who is at work**: the entries of the tick, or then the deletions of its orphans. -/
def AtWork (s : Syncer) : Prop :=
  match s.pass with
  | .provisioning entries _ =>
    s.pool.workers.map Worker.key = entries.map (·.namespaceName sha256) ∧
      Pool.AllWrite A
        (fun i v v' => ∃ entry, entries[i]? = some entry ∧ EntryWrites parse A entry v v') s.pool.workers
  | .tearingDown entries namespaces =>
    s.pool.workers.map Worker.key = orphans sha256 entries namespaces ∧
      Pool.AllWrite A (fun _ v v' => deleteNamespace v = some v') s.pool.workers
  | .idle => s.pool.workers = []
  | .fetched _ => s.pool.workers = []

/-- **What the end of a call can do** to a namespace `k`: an entry that names it writes there, or it is
    deleted as an orphan. -/
inductive CallDoes (s : Syncer) (k : String) (ns ns' : Option CanopyNamespace) : Prop where
  | nothing (h : ns' = ns)
  | provides {entries : List CanopyEntry} {namespaces : List String} {entry : CanopyEntry}
      (hpass : s.pass = .provisioning entries namespaces) (hentry : entry ∈ entries)
      (hname : entry.namespaceName sha256 = k) (h : EntryWrites parse A entry ns ns')
  | deletes {entries : List CanopyEntry} {namespaces : List String}
      (hpass : s.pass = .tearingDown entries namespaces) (horphan : k ∈ orphans sha256 entries namespaces)
      (h : deleteNamespace ns = some ns')

/-- The questions that are answered are answered by `A`. -/
def AnswersBy (s : Syncer) : SyncerEvent → Prop
  | .pool (.ended i reply) => ∀ w, s.pool.workers[i]? = some w → w.routine.Answered A reply.2
  | _ => True

variable {sha256 parse A}

/-- A key of the pool is where a list of keys has it. -/
theorem key_eq {workers : List (Worker String CredsRequest String (Option CanopyNamespace))}
    {keys : List String} (hkeys : workers.map Worker.key = keys) {i : Nat}
    {w : Worker String CredsRequest String (Option CanopyNamespace)} (hw : workers[i]? = some w) :
    keys[i]? = some w.key := by
  rw [← hkeys, List.getElem?_map, hw]
  rfl

theorem AtWork.does {s : Syncer} (h : AtWork sha256 parse A s) {i : Nat} {reply : Reply Unit × String}
    (hanswer : AnswersBy A s (.pool (.ended i reply))) (k : String) :
    CallDoes sha256 parse A s k (s.pool.cells k) ((s.pool.step (.ended i reply)).cells k) := by
  unfold AtWork at h
  cases hpass : s.pass with
  | provisioning entries namespaces =>
    rw [hpass] at h
    obtain ⟨hkeys, hwrites⟩ := h
    rcases (Pool.writes_step hwrites hanswer).2 k with hsame | ⟨w, hw, rfl, entry, hi, hR⟩
    · exact .nothing hsame
    · refine .provides hpass (List.mem_of_getElem? hi) ?_ hR
      have hget := key_eq hkeys hw
      rw [List.getElem?_map, hi] at hget
      exact Option.some.inj hget
  | tearingDown entries namespaces =>
    rw [hpass] at h
    obtain ⟨hkeys, hwrites⟩ := h
    rcases (Pool.writes_step hwrites hanswer).2 k with hsame | ⟨w, hw, rfl, hR⟩
    · exact .nothing hsame
    · exact .deletes hpass (List.mem_of_getElem? (key_eq hkeys hw)) hR
  | idle =>
    rw [hpass] at h
    rw [Pool.step_ended_none (by rw [h]; rfl)]
    exact .nothing rfl
  | fetched entries =>
    rw [hpass] at h
    rw [Pool.step_ended_none (by rw [h]; rfl)]
    exact .nothing rfl

theorem AtWork.called {s : Syncer} (h : AtWork sha256 parse A s) {i : Nat} {reply : Reply Unit × String}
    (hanswer : AnswersBy A s (.pool (.ended i reply))) :
    AtWork sha256 parse A (s.step sha256 parse (.pool (.ended i reply))) := by
  have hstep : s.step sha256 parse (.pool (.ended i reply)) =
      { s with pool := s.pool.step (.ended i reply) } := rfl
  rw [hstep]
  unfold AtWork at h ⊢
  dsimp only
  cases hpass : s.pass with
  | provisioning entries namespaces =>
    rw [hpass] at h
    exact ⟨(Pool.step_keys s.pool _).trans h.1, (Pool.writes_step h.2 hanswer).1⟩
  | tearingDown entries namespaces =>
    rw [hpass] at h
    exact ⟨(Pool.step_keys s.pool _).trans h.1, (Pool.writes_step h.2 hanswer).1⟩
  | idle =>
    rw [hpass] at h
    dsimp only
    rw [Pool.step_ended_none (by rw [h]; rfl)]
    exact h
  | fetched entries =>
    rw [hpass] at h
    dsimp only
    rw [Pool.step_ended_none (by rw [h]; rfl)]
    exact h

/-- **Every event leaves those at work that should be.** -/
theorem AtWork.step {s : Syncer} (h : AtWork sha256 parse A s) {e : SyncerEvent} (hanswer : AnswersBy A s e) :
    AtWork sha256 parse A (s.step sha256 parse e) := by
  cases e with
  | pool e =>
    cases e with
    | ended i reply => exact h.called hanswer
    | changed k v => exact h
  | stopped => exact rfl
  | worklist entries =>
    unfold Syncer.step
    cases hpass : s.pass with
    | idle =>
      unfold AtWork at h
      rw [hpass] at h
      exact h
    | _ => exact h
  | listed names =>
    unfold Syncer.step
    cases hpass : s.pass with
    | fetched entries =>
      refine ⟨entriesPool_keys entries s.pool.cells, ?_⟩
      intro i w hw
      obtain ⟨entry, hi, rfl⟩ := Option.map_eq_some_iff.mp (List.getElem?_map .. ▸ hw)
      exact (reconcileEntry_writes parse A entry).mono fun v v' hv => ⟨entry, hi, hv⟩
    | _ => exact h
  | provisioned =>
    unfold Syncer.step
    cases hpass : s.pass with
    | provisioning entries namespaces =>
      dsimp only
      split
      · refine ⟨orphansPool_keys _ s.pool.cells, ?_⟩
        intro i w hw
        obtain ⟨name, _, rfl⟩ := Option.map_eq_some_iff.mp (List.getElem?_map .. ▸ hw)
        exact fun v v' hact => ⟨hact, trivial⟩
      · exact h
    | _ => exact h
  | tornDown =>
    unfold Syncer.step
    cases hpass : s.pass with
    | tearingDown entries namespaces =>
      dsimp only
      split
      · exact rfl
      · exact h
    | _ => exact h

end AtWork

section Deleted

variable (sha256 : List UInt8 → Vector UInt8 32) (parse : String → Option ℚ)

/-- **The tick that is under way**: it fetched `entries`, and the syncer has been busy since. -/
def Fetched (s₀ : Syncer) (es : List SyncerEvent) (entries : List CanopyEntry) : Prop :=
  ∃ before after, es = before ++ .worklist entries :: after ∧
    (runFrom (Syncer.step sha256 parse) s₀ before).pass = .idle ∧
    Always (Syncer.step sha256 parse) (fun s => s.pass ≠ .idle)
      (runFrom (Syncer.step sha256 parse) s₀ (before ++ [.worklist entries])) after

/-- **The tick that is under way**: it fetched `entries`, the managed namespaces it then listed are
    `namespaces`, and the syncer has been busy since. -/
def TickListed (s₀ : Syncer) (es : List SyncerEvent) (entries : List CanopyEntry) (namespaces : List String) :
    Prop :=
  ∃ before names after, es = before ++ .listed names :: after ∧ Fetched sha256 parse s₀ before entries ∧
    namespaces = managed (runFrom (Syncer.step sha256 parse) s₀ before).cluster names ∧
    Always (Syncer.step sha256 parse) (fun s => s.pass ≠ .idle)
      (runFrom (Syncer.step sha256 parse) s₀ (before ++ [.listed names])) after

/-- What a tick knows is what it fetched and listed. -/
def History (s₀ : Syncer) (es : List SyncerEvent) : Prop :=
  match (runFrom (Syncer.step sha256 parse) s₀ es).pass with
  | .idle => True
  | .fetched entries => Fetched sha256 parse s₀ es entries
  | .provisioning entries namespaces => TickListed sha256 parse s₀ es entries namespaces
  | .tearingDown entries namespaces => TickListed sha256 parse s₀ es entries namespaces

variable {sha256 parse} {s₀ : Syncer} {es : List SyncerEvent} {e : SyncerEvent}

theorem Fetched.snoc {entries : List CanopyEntry} (h : Fetched sha256 parse s₀ es entries)
    (hbusy : (runFrom (Syncer.step sha256 parse) s₀ (es ++ [e])).pass ≠ .idle) :
    Fetched sha256 parse s₀ (es ++ [e]) entries := by
  obtain ⟨before, after, rfl, hidle, halways⟩ := h
  refine ⟨before, after ++ [e], by simp, hidle, halways.snoc ?_⟩
  rw [← runFrom_append]
  simpa using hbusy

theorem TickListed.snoc {entries : List CanopyEntry} {namespaces : List String}
    (h : TickListed sha256 parse s₀ es entries namespaces)
    (hbusy : (runFrom (Syncer.step sha256 parse) s₀ (es ++ [e])).pass ≠ .idle) :
    TickListed sha256 parse s₀ (es ++ [e]) entries namespaces := by
  obtain ⟨before, names, after, rfl, hfetched, hlisted, halways⟩ := h
  refine ⟨before, names, after ++ [e], by simp, hfetched, hlisted, halways.snoc ?_⟩
  rw [← runFrom_append]
  simpa using hbusy

/-- An event that does not move the tick on adds nothing to its history. -/
theorem History.stay (h : History sha256 parse s₀ es)
    (hpass : (runFrom (Syncer.step sha256 parse) s₀ (es ++ [e])).pass =
      (runFrom (Syncer.step sha256 parse) s₀ es).pass) : History sha256 parse s₀ (es ++ [e]) := by
  unfold History at h ⊢
  rw [hpass]
  cases hp : (runFrom (Syncer.step sha256 parse) s₀ es).pass with
  | idle => trivial
  | fetched entries =>
    rw [hp] at h
    exact Fetched.snoc h (by rw [hpass, hp]; exact Pass.noConfusion)
  | provisioning entries namespaces =>
    rw [hp] at h
    exact TickListed.snoc h (by rw [hpass, hp]; exact Pass.noConfusion)
  | tearingDown entries namespaces =>
    rw [hp] at h
    exact TickListed.snoc h (by rw [hpass, hp]; exact Pass.noConfusion)

/-- **How an event moves a tick on.** -/
theorem step_pass (sha256 : List UInt8 → Vector UInt8 32) (parse : String → Option ℚ) (s : Syncer)
    (e : SyncerEvent) :
    (s.step sha256 parse e).pass = s.pass ∨ (s.step sha256 parse e).pass = .idle ∨
      (∃ entries, e = .worklist entries ∧ s.pass = .idle ∧
        (s.step sha256 parse e).pass = .fetched entries) ∨
      (∃ names entries, e = .listed names ∧ s.pass = .fetched entries ∧
        (s.step sha256 parse e).pass = .provisioning entries (managed s.cluster names)) ∨
      ∃ entries namespaces, s.pass = .provisioning entries namespaces ∧
        (s.step sha256 parse e).pass = .tearingDown entries namespaces := by
  unfold Syncer.step
  cases e with
  | pool e => exact .inl rfl
  | stopped => exact .inr (.inl rfl)
  | worklist entries =>
    cases hp : s.pass with
    | idle => exact .inr (.inr (.inl ⟨entries, rfl, rfl, rfl⟩))
    | _ => exact .inl hp
  | listed names =>
    cases hp : s.pass with
    | fetched entries => exact .inr (.inr (.inr (.inl ⟨names, entries, rfl, rfl, rfl⟩)))
    | _ => exact .inl hp
  | provisioned =>
    cases hp : s.pass with
    | provisioning entries namespaces =>
      dsimp only
      split
      · exact .inr (.inr (.inr (.inr ⟨entries, namespaces, rfl, rfl⟩)))
      · exact .inl hp
    | _ => exact .inl hp
  | tornDown =>
    cases hp : s.pass with
    | tearingDown entries namespaces =>
      dsimp only
      split
      · exact .inr (.inl rfl)
      · exact .inl hp
    | _ => exact .inl hp

theorem History.snoc (h : History sha256 parse s₀ es) (e : SyncerEvent) :
    History sha256 parse s₀ (es ++ [e]) := by
  have hrun : runFrom (Syncer.step sha256 parse) s₀ (es ++ [e]) =
      (runFrom (Syncer.step sha256 parse) s₀ es).step sha256 parse e := runFrom_append _ _ _ _
  have hcases := step_pass sha256 parse (runFrom (Syncer.step sha256 parse) s₀ es) e
  rw [← hrun] at hcases
  rcases hcases with hsame | hidle | ⟨entries, rfl, hidle, hpass⟩ | ⟨names, entries, rfl, hfetched, hpass⟩ |
    ⟨entries, namespaces, hprovisioning, hpass⟩
  · exact h.stay hsame
  · unfold History
    rw [hidle]
    trivial
  · unfold History
    rw [hpass]
    refine ⟨es, [], rfl, hidle, ?_⟩
    show (runFrom (Syncer.step sha256 parse) s₀ (es ++ [.worklist entries])).pass ≠ .idle
    rw [hpass]
    exact Pass.noConfusion
  · unfold History at h ⊢
    rw [hfetched] at h
    rw [hpass]
    refine ⟨es, names, [], rfl, h, rfl, ?_⟩
    show (runFrom (Syncer.step sha256 parse) s₀ (es ++ [.listed names])).pass ≠ .idle
    rw [hpass]
    exact Pass.noConfusion
  · unfold History at h ⊢
    rw [hprovisioning] at h
    rw [hpass]
    exact TickListed.snoc h (by rw [hpass]; exact Pass.noConfusion)

/-- Every run has its history. -/
theorem history (hidle : s₀.pass = .idle) (es : List SyncerEvent) : History sha256 parse s₀ es := by
  induction es using List.reverseRecOn with
  | nil =>
    unfold History
    rw [runFrom_nil, hidle]
    trivial
  | append_singleton es e ih => exact ih.snoc e

/-- Every answer is one. -/
theorem answersBy_any (s : Syncer) (e : SyncerEvent) : AnswersBy (fun _ _ => True) s e := by
  unfold AnswersBy
  split
  · intro w _
    unfold Routine.Answered
    split <;> trivial
  · trivial

/-- **What starts to delete a namespace** is the deletion of an orphan. -/
theorem AtWork.deleted {s : Syncer} (hatWork : AtWork sha256 parse (fun _ _ => True) s)
    (hown : e.isOwn = true) {name : String} {ns : CanopyNamespace} (hns : s.cluster name = some ns)
    (halive : ns.terminating = false) (hgone : IsGone ((s.step sha256 parse e).cluster name)) :
    ∃ entries namespaces, s.pass = .tearingDown entries namespaces ∧
      name ∈ orphans sha256 entries namespaces := by
  have hstays : ¬ IsGone (some ns) := fun hgone' =>
    absurd (hgone' ns rfl) (by rw [halive]; exact Bool.noConfusion)
  by_cases hcall : ∃ i reply, e = .pool (.ended i reply)
  · obtain ⟨i, reply, rfl⟩ := hcall
    have hcell : s.pool.cells name = some ns := hns
    have hdoes := hatWork.does (answersBy_any s (.pool (.ended i reply))) name
    rw [hcell] at hdoes
    cases hdoes with
    | nothing h =>
      have hsame : (s.step sha256 parse (.pool (.ended i reply))).cluster name = some ns := h
      rw [hsame] at hgone
      exact absurd hgone hstays
    | provides _ _ _ h =>
      obtain ⟨intent, _, h⟩ := h
      obtain ⟨n', hn', hsame⟩ := h.alive
      have hterminating := hgone n' hn'
      rw [hsame, halive] at hterminating
      cases hterminating
    | deletes hpass horphan _ => exact ⟨_, _, hpass, horphan⟩
  · have hnot : ∀ e', e ≠ .pool e' := by
      rintro (⟨i, reply⟩ | ⟨k, v⟩) rfl
      · exact hcall ⟨i, reply, rfl⟩
      · cases hown
    rw [step_cluster s hnot, hns] at hgone
    exact absurd hgone hstays

/-- **Only orphans are deleted.**  Whatever happened before and whatever else is going on, a namespace that the
    syncer starts to delete was listed as managed by the tick that is under way, and no entry of the worklist
    this tick fetched names it, not even one whose intent the operator does not know. -/
theorem deletes_only_orphans (hidle : s₀.pass = .idle) (hworkers : s₀.pool.workers = [])
    (es : List SyncerEvent) (hown : e.isOwn = true) {name : String} {ns : CanopyNamespace}
    (hns : (runFrom (Syncer.step sha256 parse) s₀ es).cluster name = some ns)
    (halive : ns.terminating = false)
    (hgone : IsGone ((runFrom (Syncer.step sha256 parse) s₀ (es ++ [e])).cluster name)) :
    ∃ entries namespaces, TickListed sha256 parse s₀ es entries namespaces ∧ name ∈ namespaces ∧
      name ∉ entries.map (·.namespaceName sha256) := by
  have hatWork : AtWork sha256 parse (fun _ _ => True) (runFrom (Syncer.step sha256 parse) s₀ es) := by
    refine run_invariant (C := fun _ _ => True) (fun s e _ hI => hI.step (answersBy_any s e)) ?_
      (meets_of_forall (fun _ _ => trivial) s₀ es)
    unfold AtWork
    rw [hidle]
    exact hworkers
  have hhistory : History sha256 parse s₀ es := history hidle es
  rw [runFrom_append] at hgone
  obtain ⟨entries, namespaces, hpass, horphan⟩ := hatWork.deleted hown hns halive hgone
  obtain ⟨hnamespaces, hnot⟩ := mem_orphans.mp horphan
  unfold History at hhistory
  rw [hpass] at hhistory
  exact ⟨entries, namespaces, hhistory, hnamespaces, hnot⟩

theorem old_namespace_deleted :
    ∃ entries namespaces, TickListed zeroHash (fun _ => none) oldCluster
      [.worklist [], .listed ["old"], .provisioned] entries namespaces ∧ "old" ∈ namespaces ∧
      "old" ∉ entries.map (·.namespaceName zeroHash) := by
  refine @deletes_only_orphans zeroHash (fun _ => none) oldCluster (.pool (.ended 0 (.ok, ""))) rfl rfl
    [.worklist [], .listed ["old"], .provisioned] rfl "old" oldNamespace rfl rfl ?_
  intro n hn
  have hn' : some { oldNamespace with terminating := true } = some n := hn
  rw [← Option.some.inj hn']

end Deleted

/-! ## What holds of every namespace -/

section Every

/-- The entries of a tick. -/
def Pass.entries : Pass → List CanopyEntry
  | .idle => []
  | .fetched entries => entries
  | .provisioning entries _ => entries
  | .tearingDown entries _ => entries

/-- The entries of all the worklists of a run. -/
def worklists (es : List SyncerEvent) : List CanopyEntry :=
  es.flatMap fun e =>
    match e with
    | .worklist entries => entries
    | _ => []

variable (sha256 : List UInt8 → Vector UInt8 32) (parse : String → Option ℚ)
  (A : CredsRequest → String → Prop) (known : List CanopyEntry)

/-- **A property of namespaces that everyone keeps**: the entries that name them, the deletions, and the other
    parties. -/
structure KeepsEvery (R : String → Option CanopyNamespace → Option CanopyNamespace → Prop)
    (P : String → Option CanopyNamespace → Prop) : Prop where
  provides : ∀ entry ∈ known, ∀ intent, configFor entry.intent = some intent → ∀ ns ns',
    P (entry.namespaceName sha256) ns → Provides parse A entry intent ns ns' →
      P (entry.namespaceName sha256) ns'
  deletes : ∀ name ns ns', P name ns → deleteNamespace ns = some ns' → P name ns'
  others : ∀ name ns ns', P name ns → R name ns ns' → P name ns'

/-- Every namespace has the property, and those at work are known. -/
structure EveryNamespace (P : String → Option CanopyNamespace → Prop) (s : Syncer) : Prop where
  atWork : AtWork sha256 parse A s
  entries : ∀ entry ∈ s.pass.entries, entry ∈ known
  holds : ∀ name, P name (s.cluster name)

variable {sha256 parse A known} {R : String → Option CanopyNamespace → Option CanopyNamespace → Prop}
  {P : String → Option CanopyNamespace → Prop}

/-- **One event keeps it of every namespace.** -/
theorem EveryNamespace.step (hkept : KeepsEvery sha256 parse A known R P) {s : Syncer}
    (h : EveryNamespace sha256 parse A known P s) {e : SyncerEvent} (hallowed : SyncerAllowed A R s e)
    (hknown : ∀ entry ∈ worklists [e], entry ∈ known) :
    EveryNamespace sha256 parse A known P (s.step sha256 parse e) := by
  have hanswer : AnswersBy A s e := by
    cases e with
    | pool e =>
      cases e with
      | ended i reply => exact hallowed
      | changed k v => trivial
    | _ => trivial
  refine ⟨h.atWork.step hanswer, ?_, ?_⟩
  · rcases step_pass sha256 parse s e with hsame | hidle | ⟨entries, rfl, _, hpass⟩ |
      ⟨names, entries, rfl, hfetched, hpass⟩ | ⟨entries, namespaces, hprovisioning, hpass⟩
    · rw [hsame]
      exact h.entries
    · rw [hidle]
      exact fun _ hmem => absurd hmem List.not_mem_nil
    · rw [hpass]
      exact fun entry hentry => hknown entry (by simpa [worklists, Pass.entries] using hentry)
    · rw [hpass]
      exact fun entry hentry => h.entries entry (by rw [hfetched]; exact hentry)
    · rw [hpass]
      exact fun entry hentry => h.entries entry (by rw [hprovisioning]; exact hentry)
  · by_cases hpool : ∃ e', e = .pool e'
    · obtain ⟨e', rfl⟩ := hpool
      intro name
      cases e' with
      | changed k v =>
        have hcell : (s.step sha256 parse (.pool (.changed k v))).cluster name =
            Function.update s.cluster k v name := rfl
        have hother : R k (s.cluster k) v := hallowed
        rw [hcell]
        by_cases hk : name = k
        · rw [hk, Function.update_self]
          exact hkept.others k _ _ (h.holds k) hother
        · rw [Function.update_of_ne hk]
          exact h.holds name
      | ended i reply =>
        have hholds := h.holds name
        have hdoes := h.atWork.does hanswer name
        show P name ((s.pool.step (.ended i reply)).cells name)
        cases hdoes with
        | nothing hsame =>
          rw [hsame]
          exact hholds
        | @provides entries namespaces entry hpass hentry hname hwrites =>
          obtain ⟨intent, hintent, hwrites⟩ := hwrites
          have hmem := h.entries entry (by rw [hpass]; exact hentry)
          subst hname
          exact hkept.provides entry hmem intent hintent _ _ hholds hwrites
        | deletes _ _ hdelete => exact hkept.deletes name _ _ hholds hdelete
    · rw [step_cluster s (fun e' he => hpool ⟨e', he⟩)]
      exact h.holds

/-- **What everyone keeps holds of every namespace**, in every state of a run that starts where it holds. -/
theorem every_namespace {s₀ : Syncer} (hidle : s₀.pass = .idle) (hworkers : s₀.pool.workers = [])
    {es : List SyncerEvent} (hkept : KeepsEvery sha256 parse A (worklists es) R P)
    (hstart : ∀ name, P name (s₀.cluster name))
    (hes : Meets (Syncer.step sha256 parse) (SyncerAllowed A R) s₀ es) (name : String) :
    P name ((runFrom (Syncer.step sha256 parse) s₀ es).cluster name) := by
  have hall : EveryNamespace sha256 parse A (worklists es) P s₀ := by
    refine ⟨?_, ?_, hstart⟩
    · unfold AtWork
      rw [hidle]
      exact hworkers
    · rw [hidle]
      exact fun _ hmem => absurd hmem List.not_mem_nil
  have hknown : ∀ e ∈ es, ∀ entry ∈ worklists [e], entry ∈ worklists es := by
    intro e he entry hentry
    unfold worklists at hentry ⊢
    rw [List.flatMap_singleton] at hentry
    exact List.mem_flatMap.mpr ⟨e, he, hentry⟩
  exact (run_invariant (fun s e hC hI => hI.step hkept hC.1 hC.2) hall (hes.with_events hknown)).holds name

end Every

end RestoreOperator
