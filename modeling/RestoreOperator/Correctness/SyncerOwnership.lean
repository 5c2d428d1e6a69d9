import Mathlib
import RestoreOperator.Correctness.SyncerRuns

/-!
# `Correctness.SyncerOwnership` — what is in a namespace is all for one replica

The Secret, the replica and the snapshot of a namespace are written by different calls, of different ticks and
after failures.  Each of them comes from an entry that named the namespace, and entries that name the same one
are for the same replica of the same server.
-/

namespace RestoreOperator

open Calls

/-! ## What tells two entries apart -/

/-- The version in an entry's hash. -/
def CanopyEntry.perPair (entry : CanopyEntry) : Option Uuid :=
  if entry.intent = reportingSchemaIntent then entry.targetVersionId else none

/-- The hash in the name of an entry's namespace. -/
def CanopyEntry.hash (sha256 : List UInt8 → Vector UInt8 32) (entry : CanopyEntry) : String :=
  shortHash sha256 entry.replicaId entry.serverId entry.perPair

/-- The entries are for the same replica of the same server, and for the same version where there is one
    namespace for each. -/
structure SameReplica (entry other : CanopyEntry) : Prop where
  replicaId : entry.replicaId = other.replicaId
  serverId : entry.serverId = other.serverId
  perPair : entry.perPair = other.perPair

/-- **The name of a namespace tells the hash.** -/
theorem hash_of_namespaceName {sha256 : List UInt8 → Vector UInt8 32} {entry other : CanopyEntry}
    (h : entry.namespaceName sha256 = other.namespaceName sha256) : entry.hash sha256 = other.hash sha256 := by
  obtain ⟨digits, hhash, hlength, _⟩ := shortHash_eq sha256 entry.replicaId entry.serverId entry.perPair
  obtain ⟨digits', hhash', hlength', _⟩ := shortHash_eq sha256 other.replicaId other.serverId other.perPair
  have hname (e : CanopyEntry) : e.namespaceName sha256 = slug e.name ++ "-" ++ e.hash sha256 := rfl
  rw [hname, hname] at h
  unfold CanopyEntry.hash at h ⊢
  rw [hhash, hhash'] at h ⊢
  have hlists := congrArg String.toList h
  simp only [String.toList_append, String.toList_ofList] at hlists
  -- both hashes are the last eight characters
  obtain ⟨_, hdigits⟩ := List.append_inj' hlists (by rw [hlength, hlength'])
  rw [hdigits]

/-! ## Whose the parts of a namespace are -/

section Owned

variable (sha256 : List UInt8 → Vector UInt8 32) (parse : String → Option ℚ)
  (A : CredsRequest → String → Prop) (known : List CanopyEntry)

/-- **Each part of a namespace comes from an entry that names it.** -/
structure Owned (name : String) (ns : Option CanopyNamespace) : Prop where
  creds : ∀ secret, ns.bind (·.creds) = some secret → ∃ entry ∈ known,
    entry.namespaceName sha256 = name ∧ ∃ repoPassword, A entry.credsRequest repoPassword ∧
      HasCreds entry repoPassword ns
  replica : ∀ cr, replicaOwn ns = some cr → ∃ entry ∈ known, entry.namespaceName sha256 = name ∧
    ∃ intent, configFor entry.intent = some intent ∧ HasReplica parse entry intent ns
  told : ∀ desired, currentSnapshot ns = some desired → ∃ entry ∈ known,
    entry.namespaceName sha256 = name ∧ entry.snapshotId = some desired

/-- **What other parties do to what the syncer made**: they leave it or take it away. -/
structure Removes (ns ns' : Option CanopyNamespace) : Prop where
  creds : ns'.bind (·.creds) = ns.bind (·.creds) ∨ ns'.bind (·.creds) = none
  replica : replicaOwn ns' = replicaOwn ns ∨ replicaOwn ns' = none
  told : currentSnapshot ns' = currentSnapshot ns ∨ currentSnapshot ns' = none

variable {sha256 parse A known}

section Parts

variable {name : String} {ns ns' : Option CanopyNamespace}

/-- A Secret that is left as it is stays whose it was. -/
theorem Owned.keepCreds (h : Owned sha256 parse A known name ns)
    (hsame : ns'.bind (·.creds) = ns.bind (·.creds)) {secret : CanopySecret}
    (hsecret : ns'.bind (·.creds) = some secret) : ∃ entry ∈ known,
      entry.namespaceName sha256 = name ∧ ∃ repoPassword, A entry.credsRequest repoPassword ∧
        HasCreds entry repoPassword ns' := by
  obtain ⟨entry, hentry, hname, repoPassword, hpassword, hcreds⟩ := h.creds secret (hsame ▸ hsecret)
  refine ⟨entry, hentry, hname, repoPassword, hpassword, ?_⟩
  unfold HasCreds
  rw [hsame]
  exact hcreds

/-- A replica that is left as it is stays whose it was. -/
theorem Owned.keepReplica (h : Owned sha256 parse A known name ns) (hsame : replicaOwn ns' = replicaOwn ns)
    {cr : OrderedMap FieldPath FieldValue × Labels} (hcr : replicaOwn ns' = some cr) : ∃ entry ∈ known,
      entry.namespaceName sha256 = name ∧ ∃ intent, configFor entry.intent = some intent ∧
        HasReplica parse entry intent ns' := by
  obtain ⟨entry, hentry, hname, intent, hintent, hreplica⟩ := h.replica cr (hsame ▸ hcr)
  refine ⟨entry, hentry, hname, intent, hintent, ?_⟩
  rw [hasReplica_iff] at hreplica ⊢
  rw [hsame]
  exact hreplica

theorem Owned.congr (h : Owned sha256 parse A known name ns) (hremoves : Removes ns ns') :
    Owned sha256 parse A known name ns' := by
  constructor
  · intro secret hsecret
    rcases hremoves.creds with hsame | hnone
    · exact h.keepCreds hsame hsecret
    · rw [hnone] at hsecret
      cases hsecret
  · intro cr hcr
    rcases hremoves.replica with hsame | hnone
    · exact h.keepReplica hsame hcr
    · rw [hnone] at hcr
      cases hcr
  · intro desired hdesired
    rcases hremoves.told with hsame | hnone
    · exact h.told desired (hsame ▸ hdesired)
    · rw [hnone] at hdesired
      cases hdesired

end Parts

/-- A call of an entry that names the namespace makes what it writes the entry's. -/
theorem Owned.provides {name : String} {ns ns' : Option CanopyNamespace}
    (h : Owned sha256 parse A known name ns) {entry : CanopyEntry} (hentry : entry ∈ known)
    (hname : entry.namespaceName sha256 = name) {intent : IntentConfig}
    (hintent : configFor entry.intent = some intent) (hR : Provides parse A entry intent ns ns') :
    Owned sha256 parse A known name ns' := by
  cases hR with
  | read => exact h
  | made hact =>
    obtain rfl := Option.some.inj hact
    cases ns with
    | none => exact h.congr ⟨.inl rfl, .inl rfl, .inl rfl⟩
    | some n => exact h
  | @secret repoPassword hpassword _ _ hact =>
    have hcreds := applySecret_hasCreds hact
    obtain ⟨n, rfl, rfl⟩ := applySecret_cases hact
    exact ⟨fun _ _ => ⟨entry, hentry, hname, repoPassword, hpassword, hcreds⟩, h.replica, h.told⟩
  | replica hact =>
    obtain ⟨hsame, hreplica⟩ := applyReplica_has hact
    refine ⟨fun _ hsecret => h.keepCreds hsame hsecret,
      fun _ _ => ⟨entry, hentry, hname, intent, hintent, hreplica⟩, ?_⟩
    -- the status stays, and with it what the replica was told
    obtain ⟨n, rfl, rfl⟩ := applyReplica_cases hact
    intro desired hdesired
    refine h.told desired ?_
    cases hold : n.replica with
    | none =>
      simp only [currentSnapshot, CanopyReplica.desiredSnapshot, hold, Option.bind_some,
        Option.getD_none, Option.bind_none] at hdesired
      cases hdesired
    | some cr =>
      simp only [currentSnapshot, CanopyReplica.desiredSnapshot, hold, Option.bind_some,
        Option.getD_some] at hdesired ⊢
      exact hdesired
  | told hdesired hact =>
    obtain ⟨hcreds, hown, htold⟩ := patchDesired_told hact
    refine ⟨fun _ hsecret => h.keepCreds hcreds hsecret, fun _ hcr => h.keepReplica hown hcr, ?_⟩
    intro desired' hdesired'
    rw [htold] at hdesired'
    exact ⟨entry, hentry, hname, hdesired.trans hdesired'⟩

theorem Owned.deletes {name : String} {ns ns' : Option CanopyNamespace}
    (h : Owned sha256 parse A known name ns) (hdelete : deleteNamespace ns = some ns') :
    Owned sha256 parse A known name ns' := by
  obtain rfl := Option.some.inj hdelete
  cases ns with
  | none => exact h
  | some n => exact h.congr ⟨.inl rfl, .inl rfl, .inl rfl⟩

/-- **A namespace is for one replica.**  The syncer starts over a cluster without replicas of its own; ticks
    come and go, fail half way and overlap with other parties, who may take away what the syncer made; and the
    hashes of different replicas differ.  Then in every state the Secret of a namespace, its replica and the
    snapshot this was told of come from entries of the worklists that are for the same replica of the same
    server, and the password is one that canopy gave for that entry's repository. -/
theorem namespace_of_one_replica {s₀ : Syncer} (hidle : s₀.pass = .idle) (hworkers : s₀.pool.workers = [])
    (hempty : ∀ name, (s₀.cluster name).bind (·.creds) = none ∧ (s₀.cluster name).bind (·.replica) = none)
    {es : List SyncerEvent}
    (hes : Meets (Syncer.step sha256 parse) (SyncerAllowed A fun _ => Removes) s₀ es)
    (hhash : ∀ entry ∈ worklists es, ∀ other ∈ worklists es,
      entry.hash sha256 = other.hash sha256 → SameReplica entry other) (name : String) :
    let ns := (runFrom (Syncer.step sha256 parse) s₀ es).cluster name
    Owned sha256 parse A (worklists es) name ns ∧
      ∀ entry ∈ worklists es, ∀ other ∈ worklists es, entry.namespaceName sha256 = name →
        other.namespaceName sha256 = name → SameReplica entry other := by
  intro ns
  constructor
  · refine every_namespace hidle hworkers (R := fun _ => Removes) ?_ ?_ hes name
    · exact
        { provides := fun entry hentry intent hintent ns ns' h hR => h.provides hentry rfl hintent hR
          deletes := fun _ _ _ h hdelete => h.deletes hdelete
          others := fun _ _ _ h hremoves => h.congr hremoves }
    · intro n
      obtain ⟨hcreds, hreplica⟩ := hempty n
      constructor
      · intro secret hsecret
        rw [hcreds] at hsecret
        cases hsecret
      · intro cr hcr
        rw [replicaOwn, hreplica] at hcr
        cases hcr
      · intro desired hdesired
        rw [currentSnapshot, hreplica] at hdesired
        cases hdesired
  · intro entry hentry other hother hname hname'
    exact hhash entry hentry other hother (hash_of_namespaceName (hname.trans hname'.symm))

theorem nauru_namespace_of_one_replica :
    Owned zeroHash (fun _ => none) (fun _ _ => True) [nauruEntry] (nauruEntry.namespaceName zeroHash)
      ((runFrom (Syncer.step zeroHash fun _ => none) bareCluster
        (provisioning [nauruEntry] [] sixAnswers)).cluster (nauruEntry.namespaceName zeroHash)) := by
  have hallowed : Meets (Syncer.step zeroHash fun _ => none)
      (SyncerAllowed (fun _ _ => True) fun _ => Removes) bareCluster
      (provisioning [nauruEntry] [] sixAnswers) := by
    refine meets_of_events (fun e he s => allowed_any s ?_) _
    rintro k v rfl
    simp [provisioning, sixAnswers] at he
  have hworklists : worklists (provisioning [nauruEntry] [] sixAnswers) = [nauruEntry] := rfl
  have howned := @namespace_of_one_replica zeroHash (fun _ => none) (fun _ _ => True) bareCluster rfl rfl
    (fun _ => ⟨rfl, rfl⟩) (provisioning [nauruEntry] [] sixAnswers) hallowed
    (by
      intro entry hentry other hother _
      rw [hworklists, List.mem_singleton] at hentry hother
      rw [hentry, hother]
      exact ⟨rfl, rfl, rfl⟩) (nauruEntry.namespaceName zeroHash)
  rw [hworklists] at howned
  exact howned.1

end Owned

end RestoreOperator
