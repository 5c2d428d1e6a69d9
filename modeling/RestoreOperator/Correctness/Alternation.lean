import Mathlib.Data.List.Chain
import RestoreOperator.Correctness.PhaseMachine

/-!
# `Correctness.Alternation` — the snapshots an ephemeral replica verifies

An ephemeral replica tears its restore down once it is Active, and what stays of it is a marker in the status:
the snapshot that was verified.  The marker is written before the restore is deleted, and no restore is
created for the snapshot it names, or for one that a live restore has.  So the snapshot that was verified last
is not restored again before another has been, as long as the marker names it.

There is one marker, and two restores may be Active: the second to become so is the one verified last, while
the teardown takes them in the order of the list.  Where it takes the other one last, the marker is about a
snapshot that was verified earlier.
-/

namespace RestoreOperator

open Calls Calls.Prog

/-! ## The restores that became Active -/

/-- **The restores that became Active**, newest first. -/
def activated (log : List PhaseChange) : List Restore :=
  (log.filter fun c => c.phase == some .active).map PhaseChange.restore

/-- The restore that became Active last. -/
def lastActivated (w : World) : Option Restore :=
  (activated w.phaseChanges).head?

/-- **No snapshot is verified twice in a row.** -/
def Alternates (w : World) : Prop :=
  (activated w.phaseChanges).IsChain fun r s => r.spec.snapshot ≠ s.spec.snapshot

instance (w : World) : Decidable (Alternates w) :=
  inferInstanceAs (Decidable (List.IsChain _ _))

/-- **The replica is ephemeral, and nothing but the operator deletes a restore.** -/
def leftToOperator (w : World) : Event → Bool
  | .restoreDeleted _ => false
  | .deletionRequested _ => false
  | _ => w.replica.spec.ephemeral

/-- **A teardown writes over the marker**: it takes another restore than the one that became Active last,
    which is gone already. -/
def overwritesMarker (w : World) : Event → Bool
  | .replicaPass p =>
    (switchingRestore w.restores).isNone && (p.replies .patchVerified).tookEffect &&
      match verifiedRestore w.replica w.restores, lastActivated w with
      | some active, some last => active.uid != last.uid &&
          !w.restores.any fun r => r.uid == last.uid && r.inPhase .active
      | _, _ => false
  | _ => false

/-! ## The invariant -/

/-- **What the marker and the stored restores say of the restore that became Active last.** -/
structure Marked (w : World) : Prop where
  undeleted : ∀ r ∈ w.restores, r.deletionRequested = false
  /-- No two live restores have one snapshot. -/
  distinct : ∀ r ∈ w.restores, ∀ s ∈ w.restores, r.status.phase ≠ some .failed →
    s.status.phase ≠ some .failed → r.spec.snapshot = s.spec.snapshot → r.uid = s.uid
  /-- A restore that may yet become Active has another snapshot. -/
  ahead : ∀ last ∈ lastActivated w, ∀ r ∈ w.restores, r.status.phase ≠ some .active →
    r.status.phase ≠ some .failed → r.spec.snapshot ≠ last.spec.snapshot
  same : ∀ last ∈ lastActivated w, ∀ r ∈ w.restores, r.uid = last.uid →
    r.spec.snapshot = last.spec.snapshot
  /-- It is still Active, or the marker names its snapshot. -/
  kept : ∀ last ∈ lastActivated w, (∃ r ∈ w.restores, r.uid = last.uid ∧ r.status.phase = some .active) ∨
    w.replica.status.verifiedSnapshotId = some last.spec.snapshot
  alternates : Alternates w

/-- What is kept of an ephemeral replica. -/
abbrev EphemeralSound (w : World) : Prop := PhasesSound w ∧ Marked w

namespace Marked

variable {w : World}

/-- Nothing but the restores, their log and the marker matters. -/
theorem frame (h : Marked w) {w' : World} (hrestores : w'.restores = w.restores)
    (hlog : w'.phaseChanges = w.phaseChanges)
    (hmarker : w'.replica.status.verifiedSnapshotId = w.replica.status.verifiedSnapshotId) : Marked w' := by
  have hlast : lastActivated w' = lastActivated w := congrArg (fun log => (activated log).head?) hlog
  obtain ⟨hundeleted, hdistinct, hahead, hsame, hkept, halternates⟩ := h
  refine ⟨?_, ?_, ?_, ?_, ?_, ?_⟩
  · rwa [hrestores]
  · rwa [hrestores]
  · rwa [hlast, hrestores]
  · rwa [hlast, hrestores]
  · rwa [hlast, hrestores, hmarker]
  · rwa [Alternates, hlog]

/-- A change of the restores that moves none of them. -/
theorem map (h : Marked w) {g : Restore → Restore}
    (hg : ∀ r ∈ w.restores, (g r).uid = r.uid ∧ (g r).spec = r.spec ∧ (g r).status.phase = r.status.phase ∧
      (g r).deletionRequested = r.deletionRequested) :
    Marked { w with restores := w.restores.map g } where
  undeleted := by
    intro r hr
    obtain ⟨s, hs, rfl⟩ := List.mem_map.mp hr
    exact (hg s hs).2.2.2.trans (h.undeleted s hs)
  distinct := by
    intro r hr s hs hlive hlive' hsnapshot
    obtain ⟨t, ht, rfl⟩ := List.mem_map.mp hr
    obtain ⟨u, hu, rfl⟩ := List.mem_map.mp hs
    obtain ⟨htuid, htspec, htphase, -⟩ := hg t ht
    obtain ⟨huuid, huspec, huphase, -⟩ := hg u hu
    rw [htuid, huuid]
    rw [htspec, huspec] at hsnapshot
    exact h.distinct t ht u hu (htphase ▸ hlive) (huphase ▸ hlive') hsnapshot
  ahead := by
    intro last hlast r hr hactive hlive
    obtain ⟨s, hs, rfl⟩ := List.mem_map.mp hr
    obtain ⟨-, hspec, hphase, -⟩ := hg s hs
    rw [hspec]
    exact h.ahead last hlast s hs (hphase ▸ hactive) (hphase ▸ hlive)
  same := by
    intro last hlast r hr huid
    obtain ⟨s, hs, rfl⟩ := List.mem_map.mp hr
    obtain ⟨huids, hspec, -⟩ := hg s hs
    rw [hspec]
    exact h.same last hlast s hs (huids.symm.trans huid)
  kept := by
    intro last hlast
    refine (h.kept last hlast).imp_left ?_
    rintro ⟨r, hr, huid, hphase⟩
    obtain ⟨huids, -, hphases, -⟩ := hg r hr
    exact ⟨g r, List.mem_map_of_mem hr, huids.trans huid, hphases.trans hphase⟩
  alternates := h.alternates

/-- A write that moves no restore. -/
theorem patch_same (h : Marked w) {name : String} {f : RestoreStatus → RestoreStatus}
    (hf : ∀ r ∈ w.restores, r.name = name → (f r.status).phase = r.status.phase) :
    Marked (w.patchRestore name f) := by
  have hmapped := h.map (g := fun r => if r.name = name then { r with status := f r.status } else r) ?_
  · refine hmapped.frame rfl ?_ rfl
    show w.phaseChange name f ++ w.phaseChanges = w.phaseChanges
    rw [phaseChange_eq_nil hf]
    rfl
  · intro r hr
    by_cases hname : r.name = name
    · simp only [if_pos hname]
      exact ⟨trivial, trivial, hf r hr hname, trivial⟩
    · simp only [if_neg hname, and_self]

section Moved

variable {r : Restore} {status : RestoreStatus} {w' : World} (hmoves : MovesOnly r status w w')
  (hr : r ∈ w.restores) (hlive : r.status.phase ≠ some .failed)

include hmoves hr hlive

/-- Each restore was there before, and it was live if it is. -/
theorem moved_before : ∀ s ∈ w'.restores, ∃ t ∈ w.restores, t.uid = s.uid ∧ t.spec = s.spec ∧
    t.deletionRequested = s.deletionRequested ∧
    (s.status.phase ≠ some .failed → t.status.phase ≠ some .failed) := by
  intro s hs
  rcases hmoves.stored s hs with ⟨hs, _⟩ | rfl
  · exact ⟨s, hs, rfl, rfl, rfl, id⟩
  · exact ⟨r, hr, rfl, rfl, rfl, fun _ => hlive⟩

theorem moved_undeleted (h : Marked w) : ∀ s ∈ w'.restores, s.deletionRequested = false := by
  intro s hs
  obtain ⟨t, ht, -, -, hdeletion, -⟩ := moved_before hmoves hr hlive s hs
  exact hdeletion.symm.trans (h.undeleted t ht)

theorem moved_distinct (h : Marked w) : ∀ s ∈ w'.restores, ∀ t ∈ w'.restores,
    s.status.phase ≠ some .failed → t.status.phase ≠ some .failed →
    s.spec.snapshot = t.spec.snapshot → s.uid = t.uid := by
  intro s hs t ht hs' ht' hsnapshot
  obtain ⟨s₀, hs₀, huid, hspec, -, hslive⟩ := moved_before hmoves hr hlive s hs
  obtain ⟨t₀, ht₀, huid', hspec', -, htlive⟩ := moved_before hmoves hr hlive t ht
  rw [← huid, ← huid']
  rw [← hspec, ← hspec'] at hsnapshot
  exact h.distinct s₀ hs₀ t₀ ht₀ (hslive hs') (htlive ht') hsnapshot

/-- **A restore becomes Active**: it is the last one now, and its snapshot is another than the one before. -/
theorem moved_active (h : Marked w) (hphases : PhasesSound w) (hinactive : r.status.phase ≠ some .active)
    (hactive : status.phase = some .active) : Marked w' := by
  have hlast : activated w'.phaseChanges = r :: activated w.phaseChanges := by
    simp [hmoves.log, activated, hactive]
  have hself : lastActivated w' = some r := by
    rw [lastActivated, hlast]
    rfl
  refine ⟨moved_undeleted hmoves hr hlive h, moved_distinct hmoves hr hlive h, ?_, ?_, ?_, ?_⟩
  · rw [hself]
    rintro _ ⟨rfl⟩ s hs hnot hslive hsnapshot
    rcases hmoves.stored s hs with ⟨hs, hname⟩ | rfl
    · have huid := h.distinct s hs r hr hslive hlive hsnapshot
      exact hname (congrArg Restore.name (eq_of_uid hphases.wellFormed hs hr huid))
    · exact hnot hactive
  · rw [hself]
    rintro _ ⟨rfl⟩ s hs huid
    rcases hmoves.stored s hs with ⟨hs, _⟩ | rfl
    · rw [eq_of_uid hphases.wellFormed hs hr huid]
    · rfl
  · rw [hself]
    rintro _ ⟨rfl⟩
    exact .inl ⟨_, hmoves.moved, rfl, hactive⟩
  · rw [Alternates, hlast, List.isChain_cons]
    refine ⟨?_, h.alternates⟩
    intro last hhead
    exact h.ahead last hhead r hr hinactive hlive

/-- **A restore moves elsewhere**: it was not the one that became Active last. -/
theorem moved_inactive (h : Marked w) (hphases : PhasesSound w)
    (hinactive : r.status.phase ≠ some .active) (hnot : status.phase ≠ some .active) : Marked w' := by
  have hlast : activated w'.phaseChanges = activated w.phaseChanges := by
    simp [hmoves.log, activated, hnot]
  have hself : lastActivated w' = lastActivated w := by rw [lastActivated, hlast, lastActivated]
  refine ⟨moved_undeleted hmoves hr hlive h, moved_distinct hmoves hr hlive h, ?_, ?_, ?_, ?_⟩
  · rw [hself]
    intro last hhead s hs hnot hslive
    rcases hmoves.stored s hs with ⟨hs, _⟩ | rfl
    · exact h.ahead last hhead s hs hnot hslive
    · exact h.ahead last hhead r hr hinactive hlive
  · rw [hself]
    intro last hhead s hs huid
    rcases hmoves.stored s hs with ⟨hs, _⟩ | rfl
    · exact h.same last hhead s hs huid
    · exact h.same last hhead r hr huid
  · rw [hself, hmoves.marker]
    intro last hhead
    refine (h.kept last hhead).imp_left ?_
    rintro ⟨s, hs, huid, hphase⟩
    -- an Active restore is not the one that moved
    have hname : s.name ≠ r.name := by
      intro hname
      rw [eq_of_name hphases.wellFormed hs hr hname] at hphase
      exact hinactive hphase
    exact ⟨s, hmoves.others s hs hname, huid, hphase⟩
  · rw [Alternates, hlast]
    exact h.alternates

end Moved

/-- **A write the machine allows**: a restore that becomes Active has a snapshot of its own. -/
theorem patch (h : Marked w) (hphases : PhasesSound w) {name : String}
    {f : RestoreStatus → RestoreStatus}
    (hf : ∀ r ∈ w.restores, r.name = name → r.Writes (f r.status)) : Marked (w.patchRestore name f) := by
  rcases hphases.patch_cases name f with hsame | ⟨r, hr, rfl, hmoved, hmoves⟩
  · exact h.patch_same hsame
  have hallowed : (PhaseChange.mk r (f r.status).phase).Allowed := (hf r hr rfl).edge.resolve_left hmoved
  obtain ⟨hinactive, hlive⟩ := hallowed.unsettled
  by_cases hactive : (f r.status).phase = some .active
  · exact moved_active hmoves hr hlive h hphases hinactive hactive
  · exact moved_inactive hmoves hr hlive h hphases hinactive hactive

/-- **A restore is deleted**: the one that became Active last only with its marker written. -/
theorem delete (h : Marked w) {name : String}
    (hname : ∀ last ∈ lastActivated w, ∀ r ∈ w.restores, r.name = name → r.uid = last.uid →
      r.status.phase = some .active →
      w.replica.status.verifiedSnapshotId = some last.spec.snapshot) : Marked (w.deleteRestore name) where
  undeleted := fun r hr => h.undeleted r (List.mem_of_mem_filter hr)
  distinct := fun r hr s hs =>
    h.distinct r (List.mem_of_mem_filter hr) s (List.mem_of_mem_filter hs)
  ahead := fun last hlast r hr => h.ahead last hlast r (List.mem_of_mem_filter hr)
  same := fun last hlast r hr => h.same last hlast r (List.mem_of_mem_filter hr)
  kept := by
    intro last hlast
    rcases h.kept last hlast with ⟨r, hr, huid, hphase⟩ | hmarker
    · by_cases hdeleted : r.name = name
      · exact .inr (hname last hlast r hr hdeleted huid hphase)
      · exact .inl ⟨r, List.mem_filter.mpr ⟨hr, by simpa using hdeleted⟩, huid, hphase⟩
    · exact .inr hmarker
  alternates := h.alternates

/-- **A restore is created** for a snapshot that is not covered. -/
theorem insert (h : Marked w) (hphases : PhasesSound w) {position : Nat} {mk : Nat → Restore}
    (huid : (mk w.nextUid).uid = w.nextUid) (hdeletion : (mk w.nextUid).deletionRequested = false)
    (hstored : ∀ r ∈ w.restores, r.status.phase ≠ some .failed →
      r.spec.snapshot ≠ (mk w.nextUid).spec.snapshot)
    (hmarker : w.replica.status.verifiedSnapshotId ≠ some (mk w.nextUid).spec.snapshot) :
    Marked (insertRestore position mk w) := by
  have hlogged : ∀ last ∈ lastActivated w, last.uid < w.nextUid := by
    intro last hlast
    obtain ⟨c, hc, rfl⟩ := List.mem_map.mp (List.mem_of_mem_head? hlast)
    exact hphases.used c (List.mem_of_mem_filter hc)
  have hrestores := (wellFormed_control.mp hphases.wellFormed).2.2
  constructor
  · intro r hr
    rcases mem_insertRestore hr with rfl | hr
    · exact hdeletion
    · exact h.undeleted r hr
  · intro r hr s hs hlive hlive' hsnapshot
    rcases mem_insertRestore hr with rfl | hr
    · rcases mem_insertRestore hs with rfl | hs
      · rfl
      · exact absurd hsnapshot.symm (hstored s hs hlive')
    · rcases mem_insertRestore hs with rfl | hs
      · exact absurd hsnapshot (hstored r hr hlive)
      · exact h.distinct r hr s hs hlive hlive' hsnapshot
  · intro last hlast r hr hactive hlive
    rcases mem_insertRestore hr with rfl | hr
    · intro hsnapshot
      rcases h.kept last hlast with ⟨s, hs, hsuid, hphase⟩ | hverified
      · refine hstored s hs (by rw [hphase]; simp) ?_
        rw [h.same last hlast s hs hsuid, hsnapshot]
      · exact hmarker (hsnapshot ▸ hverified)
    · exact h.ahead last hlast r hr hactive hlive
  · intro last hlast r hr hsame
    rcases mem_insertRestore hr with rfl | hr
    · have hlt := hlogged last hlast
      omega
    · exact h.same last hlast r hr hsame
  · intro last hlast
    refine (h.kept last hlast).imp_left ?_
    rintro ⟨r, hr, hsame, hphase⟩
    refine ⟨r, ?_, hsame, hphase⟩
    rw [← List.take_append_drop position w.restores] at hr
    rcases List.mem_append.mp hr with hr | hr
    · exact List.mem_append.mpr (.inl hr)
    · exact List.mem_append.mpr (.inr (List.mem_cons_of_mem _ hr))
  · exact h.alternates

end Marked

/-- **The marker is kept through the lives of the restores**, deletions and creations apart. -/
theorem lives_marked : Lives EphemeralSound where
  about :=
    { frame := fun hsame h => ⟨lifelong_phasesSound.about.frame hsame.toSameRestores h.1,
        h.2.frame hsame.restores hsame.phaseChanges hsame.verified⟩
      patch := fun hf h => ⟨lifelong_phasesSound.about.patch (fun s => (hf s).toSameLife) h.1,
        h.2.patch_same fun r _ _ => (hf r.status).phase⟩ }
  wellFormed := fun h => h.1.wellFormed
  created := fun h hr => lifelong_phasesSound.created h.1 hr
  target := fun h hr => lifelong_phasesSound.target h.1 hr
  patch := by
    intro w name f hf h
    have hwrites : ∀ r ∈ w.restores, r.name = name → r.Writes (f r.status) :=
      fun r hr hname => (hf r hr hname).1
    exact ⟨h.1.patch hwrites, h.2.patch h.1 hwrites⟩
  mark := fun f hf w h => ⟨lifelong_phasesSound.mark f h.1, h.2.frame rfl rfl (hf w.replica.status)⟩
  reported := fun h _ => ⟨h.1.frame rfl rfl le_rfl, h.2.frame rfl rfl rfl⟩

theorem marked_failKeeps (ρ : Call → Reply Error) (p : RestorePass) (r : Restore) :
    FailKeeps ρ EphemeralSound p r := by
  refine lives_marked.failKeeps ?_ ?_ ρ p r
  · intro w name f hf h
    have hwrites : ∀ r ∈ w.restores, r.name = name → r.Writes (f r.status) :=
      fun r hr hname => (hf r hr hname).1
    exact ⟨h.1.patch hwrites, h.2.patch h.1 hwrites⟩
  · exact fun _ _ _ _ h => ⟨h.1.frame rfl rfl le_rfl, h.2.frame rfl rfl rfl⟩

theorem marked_startKeeps (ρ : Call → Reply Error) (p : RestorePass) (r : Restore) :
    StartKeeps ρ EphemeralSound p r := by
  refine StartKeeps.of_keeps (lives_marked.about.startRestoreJob ?_ ?_)
  · intro w h
    refine ⟨lifelong_phasesSound.about.patch (fun _ => .of_eq rfl) h.1, ?_⟩
    exact h.2.patch_same fun _ _ _ => rfl
  · exact fun _ h => ⟨h.1.frame rfl rfl (Nat.le_succ _), h.2.frame rfl rfl rfl⟩

theorem marked_buildKeeps {ρ : Call → Reply Error} {ctx : Context} {p : ReplicaPass} {replica : Replica}
    {r : Restore} : BuildKeeps ρ EphemeralSound ctx p replica r := by
  have hB : AboutBuild r EphemeralSound :=
    { toAboutRecords := lives_marked.about
      write := fun hf h => ⟨lifelong_phasesSound.about.patch (fun s => (hf s).1) h.1,
        h.2.patch_same fun r _ _ => (hf r.status).1.phase⟩
      failed := fun h => ⟨h.1.frame rfl rfl le_rfl, h.2.frame rfl rfl rfl⟩
      registered := fun h => ⟨h.1.frame rfl rfl le_rfl, h.2.frame rfl rfl rfl⟩ }
  exact hB.buildKeeps

/-! ## A pass that switches nothing -/

section Settled

variable {ctx : Context} {p : ReplicaPass} {w : World} {ρ : Call → Reply Error}

/-- **What holds up to the list of the restores**: nothing has changed but elsewhere. -/
def Unmoved (w w' : World) : Prop := EphemeralSound w' ∧ Elsewhere w w'

theorem steady_unmoved (w : World) : Steady (Unmoved w) where
  frame := fun hsame h => ⟨lives_marked.about.frame hsame h.1, h.2.trans hsame⟩

/-- **What holds after it**: the stored restores are among those of the list. -/
def Listed (w w' : World) : Prop :=
  EphemeralSound w' ∧ (∀ r ∈ w'.restores, r ∈ w.restores) ∧
    w'.replica.status.verifiedSnapshotId = w.replica.status.verifiedSnapshotId

theorem steady_listed (w : World) : Steady (Listed w) where
  frame := by
    intro w₁ w₂ hsame h
    refine ⟨lives_marked.about.frame hsame h.1, ?_, hsame.verified.trans h.2.2⟩
    rw [hsame.restores]
    exact h.2.1

theorem Unmoved.listed {w' : World} (h : Unmoved w w') : Listed w w' := by
  refine ⟨h.1, ?_, h.2.verified⟩
  rw [h.2.restores]
  exact fun _ hr => hr

/-- What holds once the marker is written for the restore that is torn down. -/
def Torn (active : Restore) (w : World) : Prop :=
  EphemeralSound w ∧ ∀ last ∈ lastActivated w, ∀ r ∈ w.restores, r.name = active.name →
    r.uid = last.uid → r.status.phase = some .active →
    w.replica.status.verifiedSnapshotId = some last.spec.snapshot

theorem steady_torn (active : Restore) : Steady (Torn active) where
  frame := by
    intro w w' hsame h
    have hlast : lastActivated w' = lastActivated w :=
      congrArg (fun log => (activated log).head?) hsame.phaseChanges
    refine ⟨lives_marked.about.frame hsame h.1, ?_⟩
    rw [hlast, hsame.restores, hsame.verified]
    exact h.2

theorem mem_of_verifiedRestore {replica : Replica} {restores : List Restore} {active : Restore}
    (h : verifiedRestore replica restores = some active) : active ∈ restores ∧
      active.status.phase = some .active := by
  unfold verifiedRestore at h
  split at h
  · split at h
    · cases h
    · rename_i found hfound
      split at h
      · cases h
      · cases h
        exact ⟨List.mem_of_find?_eq_some hfound, by simpa [Restore.inPhase] using List.find?_some hfound⟩
  · cases h

/-- **The marker is written** for the restore that became Active last, or it is not the last one and that
    one is still Active. -/
theorem Unmoved.torn {active : Restore} {w' : World} (h : Unmoved w w')
    (hverified : verifiedRestore w.replica w.restores = some active)
    (hC : ∀ last ∈ lastActivated w, active.uid ≠ last.uid →
      ∃ r ∈ w.restores, r.uid = last.uid ∧ r.status.phase = some .active) :
    Torn active ((w'.patchStatus fun s =>
      { s with
        verifiedSnapshotId := some active.spec.snapshot
        currentRestore := none
        previousRestore := none }).log (.verified active.uid)) := by
  obtain ⟨⟨hphases, hmarked⟩, hsame⟩ := h
  have hlast : lastActivated w' = lastActivated w :=
    congrArg (fun log => (activated log).head?) hsame.phaseChanges
  obtain ⟨hmem, _⟩ := mem_of_verifiedRestore hverified
  rw [← hsame.restores] at hmem
  rw [← hlast, ← hsame.restores] at hC
  have hown : ∀ last ∈ lastActivated w', active.uid = last.uid →
      some active.spec.snapshot = some last.spec.snapshot :=
    fun last hl huid => congrArg some (hmarked.same last hl active hmem huid)
  refine ⟨⟨hphases.frame rfl rfl le_rfl, hmarked.undeleted, hmarked.distinct, hmarked.ahead,
    hmarked.same, ?_, hmarked.alternates⟩, ?_⟩
  · intro last hl
    by_cases huid : active.uid = last.uid
    · exact .inr (hown last hl huid)
    · exact .inl (hC last hl huid)
  · intro last hl r hr hname huid _
    rw [eq_of_name hphases.wellFormed hr hmem hname] at huid
    exact hown last hl huid

/-- **The teardown keeps the marker**, unless it writes over that of another restore. -/
theorem leads_ephemeralTeardown {active : Restore}
    (hverified : verifiedRestore w.replica w.restores = some active)
    (hC : (ρ .patchVerified).tookEffect = true → ∀ last ∈ lastActivated w, active.uid ≠ last.uid →
      ∃ r ∈ w.restores, r.uid = last.uid ∧ r.status.phase = some .active) :
    Leads ρ (Unmoved w) EphemeralSound EphemeralSound (ephemeralTeardown w.replica w.restores) := by
  have htorn := steady_torn active
  unfold ephemeralTeardown
  rw [hverified]
  refine Leads.bind (Q := Torn active) ?_ fun _ => ?_
  · by_cases heffect : (ρ .patchVerified).tookEffect = true
    · exact Leads.call_tookEffect heffect (fun _ h => h.torn hverified (hC heffect)) fun _ h => h.1
    · exact Leads.call_refused (Bool.eq_false_iff.mpr heffect) fun _ h => h.1
  refine Leads.ends (I := Torn active) ?_ (fun _ h => h.1) fun _ h => h.1
  refine Keeps.bind (Keeps.bestEffort (Keeps.call fun w₁ h => ?_)) fun _ => ?_
  · refine ⟨⟨h.1.1.delete _, h.1.2.delete h.2⟩, ?_⟩
    exact fun last hlast r hr => h.2 last hlast r (List.mem_of_mem_filter hr)
  · exact Keeps.bind htorn.releaseRestoreSlot fun _ => Keeps.ret _

theorem yields_ephemeralTeardown {active : Restore}
    (hverified : verifiedRestore w.replica w.restores = some active) :
    Yields (fun a => a.isSome = true) (ephemeralTeardown w.replica w.restores) := by
  unfold ephemeralTeardown
  rw [hverified]
  exact Yields.bind fun _ => Yields.bind fun _ => Yields.bind fun _ => Yields.ret rfl

/-- Without an Active restore the sweep has nothing to delete. -/
theorem sweepTargets_eq_nil {replica : Replica} {restores : List Restore}
    (h : activeRestore restores = none) : sweepTargets p replica restores = [] := by
  have hnone : ∀ current, staleRestores current restores = [] := by
    intro current
    refine List.filter_eq_nil_iff.mpr fun r hr hstale => ?_
    rw [Bool.and_eq_true] at hstale
    exact List.find?_eq_none.mp h r hr hstale.1
  unfold sweepTargets
  split
  · rfl
  · split
    · exact hnone _
    · rfl

/-- A failed restore is deleted. -/
theorem keeps_cleanupFailed (hphases : PhasesSound w) :
    Keeps (Listed w) (cleanupFailed p w.restores) := by
  have hlisted := steady_listed w
  refine Keeps.each fun name hname => Keeps.bind (Keeps.bestEffort ?_) fun _ => ?_
  · exact hlisted.call fun _ => .of_eq rfl
  refine Keeps.bind (Keeps.bestEffort (Keeps.call fun w₁ h => ?_)) fun _ => Keeps.ret _
  obtain ⟨s, hs, rfl⟩ := List.mem_map.mp hname
  obtain ⟨hs, hexpired⟩ := List.mem_filter.mp hs
  rw [Bool.and_eq_true] at hexpired
  have hfailed : s.status.phase = some .failed := by simpa [Restore.inPhase] using hexpired.1
  refine ⟨⟨h.1.1.delete _, h.1.2.delete ?_⟩, fun r hr => h.2.1 r (List.mem_of_mem_filter hr), h.2.2⟩
  intro last _ r hr hsame _ hactive
  rw [eq_of_name hphases.wellFormed (h.2.1 r hr) hs hsame, hfailed] at hactive
  cases hactive

/-- A restore is created for a snapshot that the pass found uncovered. -/
theorem leads_createUncovered {replica : Replica} {snap : Snapshot}
    (hreplica : replica.status.verifiedSnapshotId = w.replica.status.verifiedSnapshotId)
    (hcovered : snapshotAlreadyCovered snap.id replica.status.verifiedSnapshotId w.restores = false) :
    Leads ρ (Listed w) EphemeralSound EphemeralSound (createRestoreForSnapshot ctx p replica snap) := by
  simp only [snapshotAlreadyCovered, Bool.or_eq_false_iff, beq_eq_false_iff_ne, List.any_eq_false,
    Bool.and_eq_true, beq_iff_eq, Bool.not_eq_true', not_and, Bool.not_eq_false] at hcovered
  obtain ⟨hmarker, hlive⟩ := hcovered
  refine leads_createRestoreForSnapshot (steady_listed w) lives_marked.about.toSteady (fun _ h => h.1)
    snap fun w' size h hfresh _ => ?_
  refine ⟨h.1.1.insert rfl rfl hfresh, h.1.2.insert h.1.1 rfl rfl ?_ ?_⟩
  · intro r hr hnot hsnapshot
    have hfailed := hlive r (h.2.1 r hr) hsnapshot
    exact hnot (by simpa [Restore.inPhase] using hfailed)
  · rw [h.2.2, ← hreplica]
    exact hmarker

/-- **What a pass does where no restore is switching.** -/
theorem leads_reconcileSettled (heph : w.replica.spec.ephemeral = true) (h : EphemeralSound w)
    (hC : ∀ active, verifiedRestore w.replica w.restores = some active →
      (ρ .patchVerified).tookEffect = true → ∀ last ∈ lastActivated w, active.uid ≠ last.uid →
        ∃ r ∈ w.restores, r.uid = last.uid ∧ r.status.phase = some .active) :
    Leads ρ (Unmoved w) EphemeralSound EphemeralSound
      (reconcileSettled ctx p w.replica w.restores) := by
  have hS := lives_marked.about.toSteady
  unfold reconcileSettled
  cases hverified : verifiedRestore w.replica w.restores with
  | some active =>
    exact Leads.returned (leads_ephemeralTeardown hverified (hC active hverified)) (fun _ h => h)
      (yields_ephemeralTeardown hverified)
  | none =>
    have hactive : activeRestore w.restores = none := by
      unfold verifiedRestore at hverified
      rw [if_pos heph] at hverified
      split at hverified
      · assumption
      · rename_i active hfound
        rw [if_neg (by simp [h.2.undeleted active (List.mem_of_find?_eq_some hfound)])] at hverified
        cases hverified
    have hnothing : ephemeralTeardown w.replica w.restores = Prog.ret none := by
      unfold ephemeralTeardown
      rw [hverified]
      rfl
    have hsweep : sweepStale p w.replica w.restores = Prog.ret () := by
      unfold sweepStale
      rw [sweepTargets_eq_nil hactive]
      rfl
    rw [hnothing, hsweep]
    refine Leads.bind (Q := Listed w) (Leads.ret (fun _ h => h.listed) fun _ h => h.1) fun returned => ?_
    cases returned with
    | some action => exact Leads.ret (fun _ h => h.1) fun _ h => h.1
    | none =>
    refine Leads.keeps_bind (Keeps.ret ()) (fun _ h => h.1) fun _ => ?_
    refine Leads.keeps_bind (keeps_cleanupFailed h.1) (fun _ h => h.1) fun _ => ?_
    refine Leads.keeps_bind (Keeps.read _ _) (fun _ h => h.1) fun job => ?_
    refine Leads.bind (leads_reconcileSnapshotList (steady_listed w) hS (fun _ h => h.1) job
      fun snap hcovered => leads_createUncovered rfl hcovered) fun returned => ?_
    refine Leads.of_keeps ?_ fun _ h => h
    cases returned with
    | some action => exact Keeps.ret _
    | none =>
      refine Keeps.bind (Keeps.when fun _ => hS.updateCondition _ _ _ _) fun _ => ?_
      exact hS.reconcileTrigger _ _ _ _ _

end Settled

/-! ## Every run -/

section Runs

variable {ctx : Context} {w : World} {e : Event}

/-- **A pass of the replica controller keeps the marker**, unless its teardown writes over it. -/
theorem Marked.reconcile {p : ReplicaPass} (heph : w.replica.spec.ephemeral = true)
    (hC : overwritesMarker w (.replicaPass p) = false) (h : EphemeralSound w) :
    EphemeralSound (reconcile ctx p p.replies w).state := by
  refine (steady_unmoved w).reconcile (fun _ h => h.1) ⟨h, Elsewhere.refl w⟩ fun restores => ?_
  refine lives_marked.reconcileRestores (fun r hr => ⟨?_, marked_buildKeeps⟩) fun hnone => ?_
  · rintro w' ⟨⟨hw', _⟩, rfl⟩
    exact exact_of_mem hw' hw'.1.wellFormed (List.mem_of_find?_eq_some hr)
  rintro w' ⟨hunmoved, hrestores⟩
  obtain rfl : restores = w.restores := hrestores.symm.trans hunmoved.2.restores
  refine leads_reconcileSettled heph h ?_ w' hunmoved
  intro active hverified heffect last hlast huid
  have hhead : lastActivated w = some last := hlast
  simp only [overwritesMarker, hnone, heffect, hverified, hhead, Option.isNone_none, Bool.true_and,
    Bool.and_eq_false_iff, bne_eq_false_iff_eq, huid, false_or, Bool.not_eq_false'] at hC
  obtain ⟨r, hr, hactive⟩ := List.any_eq_true.mp hC
  rw [Bool.and_eq_true, beq_iff_eq] at hactive
  exact ⟨r, hr, hactive.1, by simpa [Restore.inPhase] using hactive.2⟩

/-- **A step keeps the marker**, unless a teardown writes over it. -/
theorem Marked.step (hleft : leftToOperator w e = true) (hC : overwritesMarker w e = false)
    (h : EphemeralSound w) : EphemeralSound (step ctx w e) := by
  cases e with
  | replicaPass p =>
    simp only [RestoreOperator.step]
    split
    · exact h
    · exact lives_marked.about.after (Marked.reconcile hleft hC h)
  | restorePass name p =>
    simp only [RestoreOperator.step]
    split
    · exact h
    · rename_i r hr
      exact lives_marked.about.after (lives_marked.reconcileRestore (marked_failKeeps _ p r)
        (marked_startKeeps _ p r) ctx h (List.mem_of_find?_eq_some hr))
  | restoreDeleted name => cases hleft
  | deletionRequested name => cases hleft
  | _ => exact ⟨h.1.frame rfl rfl le_rfl, h.2.frame rfl rfl rfl⟩

end Runs

/-- **No snapshot is verified twice in a row** by an ephemeral replica, in any run in which no teardown writes
    over the marker of the restore that became Active last. -/
theorem activations_alternate {ctx : Context} (key : ReplicaKey) (spec : ReplicaSpec) {es : List Event}
    (hes : Meets (step ctx) (fun w e => leftToOperator w e = true ∧ overwritesMarker w e = false)
      (World.initial key spec) es) : Alternates (run ctx (World.initial key spec) es) := by
  have hinitial : EphemeralSound (World.initial key spec) := by
    refine ⟨phasesSound_initial key spec, ?_⟩
    exact ⟨(fun _ h => nomatch h), (fun _ h => nomatch h), (fun _ h => nomatch h),
      (fun _ h => nomatch h), (fun _ h => nomatch h), .nil⟩
  exact (run_invariant (fun _ _ hC h => Marked.step hC.1 hC.2 h) hinitial hes).2.alternates

/-! ## A marker that is written over -/

/-- An ephemeral replica with nothing but a schedule. -/
def verifyingSpec : ReplicaSpec := { plainSpec with ephemeral := true }

/-- Two restores are created, the second before the restore controller has seen the first; the second goes
    live first.  Both are torn down, in the order of the list, and the schedule comes round. -/
def twoActive : List Event :=
  listSnapshots 0 "s" ++
    [.replicaPass { now := 20 }, .jobReported .snapshotList { succeeded := some 1 },
      .snapshotsPosted "[t]", .replicaPass { now := 30, listPosition := 1 }] ++
    (bringUp "r-10" 40).dropLast ++ bringUp "r-30" 50 ++
    [.replicaPass { now := 60 }, .restorePass "r-10" { now := 65 }, .replicaPass { now := 70 },
      .replicaPass { now := 80 }, .replicaPass { now := 90 }]

/-- The snapshot of the first is listed again, and restored again. -/
def verifiedTwice : List Event :=
  twoActive ++ listSnapshots 7200 "s" ++ bringUp "r-7210" 7220 ++ [.replicaPass { now := 7300 }]

theorem one_active_alternates :
    Alternates (run .hourly (World.initial ⟨"ns", "r"⟩ verifyingSpec)
      (listSnapshots 0 "s" ++ bringUp "r-10" 20 ++ [.replicaPass { now := 30 }, .replicaPass { now := 40 }] ++
        listSnapshots 7200 "t" ++ bringUp "r-7210" 7220 ++ [.replicaPass { now := 7300 }])) ∧
      (activated (run .hourly (World.initial ⟨"ns", "r"⟩ verifyingSpec)
        (listSnapshots 0 "s" ++ bringUp "r-10" 20 ++
          [.replicaPass { now := 30 }, .replicaPass { now := 40 }] ++
          listSnapshots 7200 "t" ++ bringUp "r-7210" 7220 ++
          [.replicaPass { now := 7300 }])).phaseChanges).map (·.spec.snapshot) = ["t", "s"] :=
  ⟨activations_alternate ⟨"ns", "r"⟩ verifyingSpec (by decide +kernel), by decide +kernel⟩

/-- **A snapshot is verified twice in a row**: the marker is that of the restore torn down last, which was
    verified first. -/
theorem snapshot_verified_again :
    Meets (step .hourly) (fun w e => leftToOperator w e = true) (World.initial ⟨"ns", "r"⟩ verifyingSpec)
        verifiedTwice ∧
      (run .hourly (World.initial ⟨"ns", "r"⟩ verifyingSpec)
        twoActive).replica.status.verifiedSnapshotId = some "t" ∧
      (activated (run .hourly (World.initial ⟨"ns", "r"⟩ verifyingSpec)
        verifiedTwice).phaseChanges).map (·.spec.snapshot) = ["s", "s", "t"] ∧
      ¬ Alternates (run .hourly (World.initial ⟨"ns", "r"⟩ verifyingSpec) verifiedTwice) :=
  ⟨by decide +kernel, by decide +kernel, by decide +kernel, by decide +kernel⟩

end RestoreOperator
