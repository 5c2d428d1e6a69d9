import RestoreOperator.System.Acts
import RestoreOperator.System.Invariants
import RestoreOperator.System.Restores

/-!
# `System.Lifecycle` — the lifecycle of a restore and its invariants

The phase of a restore is written by two controllers and by eight functions, each with an unconditional
merge patch.  What they write is along the edges of one machine, given what the pass read of the restore.
An invariant of the lifecycles is one that such writes keep; how much else it is kept by tells three kinds
of them apart.

  * `Lives` — an invariant of the restores and of their records, kept by the writes of a restore's way.
  * `Robust` — deletions keep it as well, and the creation of a restore within the limit.
  * `Lifelong` — it is about the lifecycles alone, and no record matters to it.
-/

namespace RestoreOperator

open Calls Calls.Prog Relation

/-! ## The machine -/

/-- **The edges of the machine.** -/
def isEdge : Option RestorePhase → Option RestorePhase → Bool
  | none, some .pending => true
  | some .pending, some .restoring => true
  | some .restoring, some .ready => true
  | some .restoring, some .failed => true
  | some .ready, some .migrating => true
  | some .ready, some .switching => true
  | some .ready, some .failed => true
  | some .migrating, some .ready => true
  | some .migrating, some .failed => true
  | some .switching, some .active => true
  | _, _ => false

/-- **A change the machine allows**, of the restore as it was stored. -/
structure PhaseChange.Allowed (c : PhaseChange) : Prop where
  edge : isEdge c.restore.status.phase c.phase = true
  migrating : c.phase = some .migrating → c.restore.spec.migrateTo.isSome = true
  switching : c.phase = some .switching → c.restore.status.postgresVersion.isSome = true ∧
    (c.restore.spec.migrateTo = none ∨ c.restore.status.migrationResult.isSome = true)

/-- **A write the machine allows** to the status of a restore. -/
structure Restore.Writes (r : Restore) (s : RestoreStatus) : Prop where
  edge : s.phase = r.status.phase ∨ (PhaseChange.mk r s.phase).Allowed
  marked : s.phase = none → s.createdAt = none
  /-- A restore does not go to migrate again. -/
  unmigrated : s.phase = some .migrating → r.status.phase ≠ some .migrating →
    r.status.migrationResult = none
  /-- A migration that ends is recorded with its result. -/
  settled : r.status.phase = some .migrating → s.phase = some .ready →
    s.migrationResult.isSome = true
  kept : r.status.migrationResult.isSome = true → s.migrationResult.isSome = true
  built : r.status.schemaBuildResult.isSome = true → s.schemaBuildResult.isSome = true

/-- Migrating leads on to Ready or to Failed, and Failed leads nowhere. -/
theorem isEdge_migrating {ph : Option RestorePhase} (h : isEdge (some .migrating) ph = true) :
    ph = some .ready ∨ ph = some .failed := by
  cases ph with
  | none => cases h
  | some ph =>
    cases ph with
    | ready => exact .inl rfl
    | failed => exact .inr rfl
    | _ => cases h

theorem not_isEdge_failed (ph : Option RestorePhase) : isEdge (some .failed) ph = false := rfl

/-- A write of a phase. -/
theorem writes_phase {s : Restore} {t : RestoreStatus} {ph : RestorePhase} (hphase : t.phase = some ph)
    (hedge : isEdge s.status.phase (some ph) = true)
    (hmigrating : ph = .migrating →
      s.spec.migrateTo.isSome = true ∧ s.status.migrationResult = none)
    (hswitching : ph = .switching → s.status.postgresVersion.isSome = true ∧
      (s.spec.migrateTo = none ∨ s.status.migrationResult.isSome = true))
    (hsettled : s.status.phase = some .migrating → ph = .ready → t.migrationResult.isSome = true)
    (hkept : s.status.migrationResult.isSome = true → t.migrationResult.isSome = true)
    (hbuilt : s.status.schemaBuildResult.isSome = true → t.schemaBuildResult.isSome = true) :
    s.Writes t where
  edge := by
    refine .inr ⟨?_, ?_, ?_⟩
    · rw [hphase]
      exact hedge
    · intro h
      exact (hmigrating (Option.some.inj (hphase.symm.trans h))).1
    · intro h
      exact hswitching (Option.some.inj (hphase.symm.trans h))
  marked := by
    rw [hphase]
    intro hnone
    cases hnone
  unmigrated := fun h _ => (hmigrating (Option.some.inj (hphase.symm.trans h))).2
  settled := fun hwas h => hsettled hwas (Option.some.inj (hphase.symm.trans h))
  kept := hkept
  built := hbuilt

/-! ## Writes to the stored restores -/

theorem wellFormed_control {w : World} : WellFormed (control w) ↔
    (w.restores.map (·.name)).Nodup ∧ (w.restores.map (·.uid)).Nodup ∧
      ∀ r ∈ w.restores, r.uid < w.nextUid := by
  have hnames : (control w).slots.map (·.name) = w.restores.map (·.name) := by
    simp [control, Restore.slot]
  have huids : (control w).slots.map (·.uid) = w.restores.map (·.uid) := by
    simp [control, Restore.slot]
  constructor
  · intro h
    exact ⟨hnames ▸ h.names, huids ▸ h.uids, fun r hr => h.used r.slot (List.mem_map_of_mem hr)⟩
  · rintro ⟨hn, hu, hused⟩
    refine ⟨hnames ▸ hn, huids ▸ hu, ?_⟩
    intro s hs
    obtain ⟨r, hr, rfl⟩ := List.mem_map.mp hs
    exact hused r hr

theorem mem_patchRestore {w : World} {name : String} {f : RestoreStatus → RestoreStatus} {r : Restore}
    (h : r ∈ (w.patchRestore name f).restores) :
    (r ∈ w.restores ∧ r.name ≠ name) ∨
      ∃ s ∈ w.restores, s.name = name ∧ r = { s with status := f s.status } := by
  simp only [World.patchRestore, List.mem_map] at h
  obtain ⟨s, hs, rfl⟩ := h
  by_cases hname : s.name = name
  · exact .inr ⟨s, hs, hname, if_pos hname⟩
  · rw [if_neg hname]
    exact .inl ⟨hs, hname⟩

theorem mem_insertRestore {w : World} {position : Nat} {mk : Nat → Restore} {r : Restore}
    (h : r ∈ (insertRestore position mk w).restores) : r = mk w.nextUid ∨ r ∈ w.restores := by
  rcases List.mem_append.mp h with h | h
  · exact .inr (List.mem_of_mem_take h)
  · rcases List.mem_cons.mp h with rfl | h
    · exact .inl rfl
    · exact .inr (List.mem_of_mem_drop h)

/-- A write keeps the names and the identities. -/
theorem WellFormed.patchRestore {w : World} (h : WellFormed (control w)) (name : String)
    (f : RestoreStatus → RestoreStatus) : WellFormed (control (w.patchRestore name f)) := by
  have hsame : ∀ {β : Type} (g : Restore → β), (∀ r s, g { r with status := s } = g r) →
      (w.patchRestore name f).restores.map g = w.restores.map g := by
    intro β g hg
    simp only [World.patchRestore, List.map_map]
    apply List.map_congr_left
    intro r _
    by_cases hname : r.name = name
    · simp only [Function.comp_apply, if_pos hname, hg]
    · simp only [Function.comp_apply, if_neg hname]
  obtain ⟨hnames, huids, hused⟩ := wellFormed_control.mp h
  refine wellFormed_control.mpr ⟨?_, ?_, ?_⟩
  · rw [hsame _ fun _ _ => rfl]
    exact hnames
  · rw [hsame _ fun _ _ => rfl]
    exact huids
  · intro r hr
    rcases mem_patchRestore hr with ⟨hr, _⟩ | ⟨s, hs, _, rfl⟩
    · exact hused r hr
    · exact hused s hs

/-! ## Invariants -/

/-- **An invariant of the restores' lifecycles**: it is kept by what the controllers do to the restores,
    failing one apart. -/
structure Lifelong (S : World → Prop) : Prop where
  about : AboutRestores S
  wellFormed : ∀ {w : World}, S w → WellFormed (control w)
  /-- What a pass may rely on when it reads a restore. -/
  created : ∀ {w : World} {r : Restore}, S w → r ∈ w.restores → r.status.phase = none →
    r.status.createdAt = none
  target : ∀ {w : World} {r : Restore}, S w → r ∈ w.restores → r.status.phase = some .migrating →
    r.spec.migrateTo.isSome = true
  patch : ∀ {w : World} {name : String} {f : RestoreStatus → RestoreStatus},
    (∀ r ∈ w.restores, r.name = name →
      r.Writes (f r.status) ∧ (f r.status).phase ≠ some .failed) →
    S w → S (w.patchRestore name f)
  delete : ∀ {w : World} (name : String), S w → S (w.deleteRestore name)
  insert : ∀ {w : World} {position : Nat} {mk : Nat → Restore},
    (mk w.nextUid).uid = w.nextUid → (mk w.nextUid).status = {} →
    (∀ r ∈ w.restores, r.name ≠ (mk w.nextUid).name) → S w → S (insertRestore position mk w)
  /-- A deletion that is requested changes no more than that. -/
  request : ∀ {w : World} (g : Restore → Restore),
    (∀ r, (g r).uid = r.uid ∧ (g r).name = r.name ∧ (g r).spec = r.spec ∧ (g r).status = r.status) →
    S w → S { w with restores := w.restores.map g }
  /-- The marker of the redaction does not matter. -/
  mark : ∀ (f : ReplicaStatus → ReplicaStatus) {w : World}, S w → S (w.patchStatus f)

/-! ## What a pass has read -/

/-- The record of a restore Job. -/
def Record.isJob : Record → Bool
  | .restoreJobCreated _ => true
  | _ => false

/-- The restore Jobs that were created. -/
def jobRecords (w : World) : List Record :=
  w.records.filter Record.isJob

/-- **The stored restore is as it was read**, as far as its lifecycle goes. -/
structure Reads (r : Restore) (w : World) : Prop where
  stored : ∃ s ∈ w.restores, s.name = r.name
  uid : ∀ s ∈ w.restores, s.name = r.name ↔ s.uid = r.uid
  same : ∀ s ∈ w.restores, s.name = r.name → s.spec = r.spec ∧ SameLife r.status s.status

/-- What holds up to the write of a phase. -/
def Guarded (S : World → Prop) (r : Restore) (w : World) : Prop := S w ∧ Reads r w

/-- **The restore was read where `S` held**, and no restore Job has been created since. -/
def Since (S : World → Prop) (r : Restore) (w : World) : Prop :=
  ∃ w₁, S w₁ ∧ r ∈ w₁.restores ∧ jobRecords w = jobRecords w₁

/-- What holds up to the write of a phase, where the pass still reads off the restore it has. -/
def Carried (S : World → Prop) (r : Restore) (w : World) : Prop := Guarded S r w ∧ Since S r w

/-- The records of the restore are as they were read. -/
def RecordedAs (r : Restore) (w : World) : Prop :=
  ∀ s ∈ w.restores, s.name = r.name → s.status.recorded = r.status.recorded

/-- What holds up to the first write of a record. -/
def Exact (S : World → Prop) (r : Restore) (w : World) : Prop := Carried S r w ∧ RecordedAs r w

/-- **An invariant of the restores' lifecycles and of their records**: it is kept by what the controllers do
    to a restore on its way, failing it apart. -/
structure Lives (S : World → Prop) : Prop where
  about : AboutRecords S
  wellFormed : ∀ {w : World}, S w → WellFormed (control w)
  created : ∀ {w : World} {r : Restore}, S w → r ∈ w.restores → r.status.phase = none →
    r.status.createdAt = none
  target : ∀ {w : World} {r : Restore}, S w → r ∈ w.restores → r.status.phase = some .migrating →
    r.spec.migrateTo.isSome = true
  patch : ∀ {w : World} {name : String} {f : RestoreStatus → RestoreStatus},
    (∀ r ∈ w.restores, r.name = name → r.Writes (f r.status) ∧
      (f r.status).recorded = r.status.recorded ∧ (f r.status).phase ≠ some .failed) →
    S w → S (w.patchRestore name f)
  mark : ∀ f : ReplicaStatus → ReplicaStatus, (∀ s, (f s).verifiedSnapshotId = s.verifiedSnapshotId) →
    ∀ {w : World}, S w → S (w.patchStatus f)
  /-- A restore that was read is reported on. -/
  reported : ∀ {w : World} {r : Restore}, S w → Since S r w →
    S (w.record (.verificationReported r (runIdFromStatus r)))

/-- **An invariant that deletions keep as well**, and the creation of a restore within the limit. -/
structure Robust (S : World → Prop) : Prop extends Lives S where
  status : ∀ (f : ReplicaStatus → ReplicaStatus) {w : World}, S w → S (w.patchStatus f)
  delete : ∀ {w : World} (name : String), S w → S (w.deleteRestore name)
  insert : ∀ {w : World} {position : Nat} {mk : Nat → Restore},
    (mk w.nextUid).uid = w.nextUid → (mk w.nextUid).status = {} →
    (∀ r ∈ w.restores, r.name ≠ (mk w.nextUid).name) →
    (liveRestores w.restores).length < maxRestoresPerReplica → S w → S (insertRestore position mk w)
  request : ∀ {w : World} (g : Restore → Restore),
    (∀ r, (g r).uid = r.uid ∧ (g r).name = r.name ∧ (g r).spec = r.spec ∧ (g r).status = r.status) →
    S w → S { w with restores := w.restores.map g }

/-- An invariant of the lifecycles alone. -/
theorem Lifelong.robust {S : World → Prop} (hS : Lifelong S) : Robust S where
  about := hS.about.records
  wellFormed := hS.wellFormed
  created := hS.created
  target := hS.target
  patch := fun hf => hS.patch fun r hr hname => ⟨(hf r hr hname).1, (hf r hr hname).2.2⟩
  mark := fun f _ => hS.mark f
  reported := fun h _ => hS.about.record _ h
  status := hS.mark
  delete := hS.delete
  insert := fun huid hstatus hname _ => hS.insert huid hstatus hname
  request := hS.request

theorem SameLife.refl (s : RestoreStatus) : SameLife s s := .of_eq rfl

theorem SameLife.trans {s t u : RestoreStatus} (h : SameLife s t) (h' : SameLife t u) : SameLife s u :=
  ⟨h'.phase.trans h.phase, h'.createdAt.trans h.createdAt,
    h'.migrationResult.trans h.migrationResult, fun hv => h'.version (h.version hv),
    fun hb => h'.built (h.built hb)⟩

theorem eq_of_name {w : World} (h : WellFormed (control w)) {r s : Restore} (hr : r ∈ w.restores)
    (hs : s ∈ w.restores) (hname : r.name = s.name) : r = s :=
  List.inj_on_of_nodup_map (wellFormed_control.mp h).1 hr hs hname

theorem eq_of_uid {w : World} (h : WellFormed (control w)) {r s : Restore} (hr : r ∈ w.restores)
    (hs : s ∈ w.restores) (huid : r.uid = s.uid) : r = s :=
  List.inj_on_of_nodup_map (wellFormed_control.mp h).2.1 hr hs huid

/-- A restore that is read off the world is the one that is stored. -/
theorem reads_of_mem {w : World} (h : WellFormed (control w)) {r : Restore} (hr : r ∈ w.restores) :
    Reads r w := by
  refine ⟨⟨r, hr, rfl⟩, ?_, ?_⟩
  · intro s hs
    exact ⟨fun hname => congrArg Restore.uid (eq_of_name h hs hr hname),
      fun huid => congrArg Restore.name (eq_of_uid h hs hr huid)⟩
  · intro s hs hname
    obtain rfl := eq_of_name h hs hr hname
    exact ⟨rfl, .refl _⟩

/-- A write to the restore leaves behind what was read, with the write. -/
theorem Reads.patch {r : Restore} {w : World} (h : Reads r w) {name : String}
    {f : RestoreStatus → RestoreStatus} {t : RestoreStatus}
    (ht : ∀ s ∈ w.restores, s.name = r.name → SameLife t (if s.name = name then f s.status else s.status)) :
    Reads { r with status := t } (w.patchRestore name f) := by
  have hmap : ∀ s ∈ w.restores,
      { s with status := if s.name = name then f s.status else s.status } ∈
        (w.patchRestore name f).restores := by
    intro s hs
    refine List.mem_map.mpr ⟨s, hs, ?_⟩
    split <;> rfl
  have hback : ∀ s ∈ (w.patchRestore name f).restores, ∃ u ∈ w.restores,
      s = { u with status := if u.name = name then f u.status else u.status } := by
    intro s hs
    obtain ⟨u, hu, rfl⟩ := List.mem_map.mp hs
    refine ⟨u, hu, ?_⟩
    split <;> rfl
  constructor
  · obtain ⟨s, hs, hname⟩ := h.stored
    exact ⟨_, hmap s hs, hname⟩
  · intro s hs
    obtain ⟨u, hu, rfl⟩ := hback s hs
    exact h.uid u hu
  · intro s hs hname
    obtain ⟨u, hu, rfl⟩ := hback s hs
    exact ⟨(h.same u hu hname).1, ht u hu hname⟩

/-- What was read of the lifecycle is not undone by a write that leaves it alone. -/
theorem Reads.write {r : Restore} {w : World} (h : Reads r w) {name : String}
    {f : RestoreStatus → RestoreStatus} (hf : ∀ s, SameLife s (f s)) : Reads r (w.patchRestore name f) := by
  refine h.patch (t := r.status) ?_
  intro s hs hname
  have hsame := (h.same s hs hname).2
  split
  · exact hsame.trans (hf s.status)
  · exact hsame

theorem Reads.frame {r : Restore} {w w' : World} (h : Reads r w) (hrestores : w'.restores = w.restores) :
    Reads r w' := by
  obtain ⟨hstored, huid, hread⟩ := h
  rw [← hrestores] at hstored huid hread
  exact ⟨hstored, huid, hread⟩

theorem AboutRecords.and {I J : World → Prop} (hI : AboutRecords I) (hJ : AboutRecords J) :
    AboutRecords fun w => I w ∧ J w where
  frame := fun hsame h => ⟨hI.frame hsame h.1, hJ.frame hsame h.2⟩
  patch := fun hf h => ⟨hI.patch hf h.1, hJ.patch hf h.2⟩

theorem AboutRecords.guarded {S : World → Prop} (hS : AboutRecords S) (r : Restore) :
    AboutRecords (Guarded S r) :=
  hS.and
    { frame := fun hsame h => h.frame hsame.restores
      patch := fun hf h => h.write fun s => (hf s).toSameLife }

theorem aboutRecords_since (S : World → Prop) (r : Restore) : AboutRecords (Since S r) where
  frame := by
    rintro w w' hsame ⟨w₁, hw₁, hr, hjobs⟩
    refine ⟨w₁, hw₁, hr, ?_⟩
    rw [← hjobs, jobRecords, hsame.records, jobRecords]
  patch := fun _ h => h

theorem aboutRecords_recordedAs (r : Restore) : AboutRecords (RecordedAs r) where
  frame := by
    intro w w' hsame h
    rw [RecordedAs, hsame.restores]
    exact h
  patch := by
    intro w name f hf h s hs hname
    rcases mem_patchRestore hs with ⟨hs, _⟩ | ⟨u, hu, _, rfl⟩
    · exact h s hs hname
    · exact (hf u.status).recorded.trans (h u hu hname)

theorem AboutRecords.carried {S : World → Prop} (hS : AboutRecords S) (r : Restore) :
    AboutRecords (Carried S r) :=
  (hS.guarded r).and (aboutRecords_since S r)

theorem AboutRecords.exact {S : World → Prop} (hS : AboutRecords S) (r : Restore) :
    AboutRecords (Exact S r) :=
  (hS.carried r).and (aboutRecords_recordedAs r)

/-- A restore that is read off the world is the one that is stored, with its records. -/
theorem exact_of_mem {S : World → Prop} {w : World} (hw : S w) (hwf : WellFormed (control w))
    {r : Restore} (hr : r ∈ w.restores) : Exact S r w := by
  refine ⟨⟨⟨hw, reads_of_mem hwf hr⟩, w, hw, hr, rfl⟩, ?_⟩
  intro s hs hname
  rw [eq_of_name hwf hs hr hname]

/-- The build of a restore keeps what its pass holds on to, where it keeps the invariant. -/
theorem AboutBuild.carried {S : World → Prop} {r : Restore} (hB : AboutBuild r S) :
    AboutBuild r (Carried S r) where
  toAboutRecords := hB.toAboutRecords.carried r
  write := fun hf h => ⟨⟨hB.write hf h.1.1, h.1.2.write fun s => (hf s).1⟩, h.2⟩
  failed := fun h => ⟨⟨hB.failed h.1.1, h.1.2.frame rfl⟩, h.2⟩
  registered := fun h => ⟨⟨hB.registered h.1.1, h.1.2.frame rfl⟩, h.2⟩

end RestoreOperator
