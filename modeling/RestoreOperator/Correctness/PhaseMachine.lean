import RestoreOperator.System.Passes

/-!
# `Correctness.PhaseMachine` — the phases of a restore

Every change of a restore's phase is in the log `phaseChanges`, with the restore as it was stored when the
change was made.  The log follows the edges of one machine, in which Active and Failed have no way out, a
restore migrates at most once, and none switches that has not all it needs.

What carries this through a run is, for each restore that is stored, what its status says about the changes
the log has of it (`Follows`).
-/

namespace RestoreOperator

open Calls Calls.Prog

/-! ## The log -/

/-- The phase the log says a restore was last given. -/
def lastPhase (uid : Nat) (log : List PhaseChange) : Option RestorePhase :=
  (log.find? fun c => c.restore.uid == uid).bind PhaseChange.phase

/-- **The changes of each restore follow on one another**: each starts where the last one ended. -/
def Chained : List PhaseChange → Prop
  | [] => True
  | c :: rest => c.restore.status.phase = lastPhase c.restore.uid rest ∧ Chained rest

/-- How often a restore entered Migrating. -/
def migrations (uid : Nat) (log : List PhaseChange) : Nat :=
  log.countP fun c => c.restore.uid == uid && c.phase == some .migrating

section Log

variable {c : PhaseChange} {log : List PhaseChange} {uid : Nat}

theorem lastPhase_cons_self : lastPhase c.restore.uid (c :: log) = c.phase := by
  simp [lastPhase]

theorem lastPhase_cons_other (h : c.restore.uid ≠ uid) :
    lastPhase uid (c :: log) = lastPhase uid log := by
  simp [lastPhase, h]

theorem migrations_cons_other (h : c.restore.uid ≠ uid) :
    migrations uid (c :: log) = migrations uid log := by
  simp [migrations, h]

theorem migrations_cons_of_ne (h : c.phase ≠ some .migrating) :
    migrations uid (c :: log) = migrations uid log := by
  simp [migrations, h]

/-- A restore the log knows nothing of. -/
theorem lastPhase_of_unused (h : ∀ c ∈ log, c.restore.uid ≠ uid) : lastPhase uid log = none := by
  have hfind : log.find? (fun c => c.restore.uid == uid) = none := by
    rw [List.find?_eq_none]
    intro c hc
    simpa using h c hc
  rw [lastPhase, hfind]
  rfl

theorem migrations_of_unused (h : ∀ c ∈ log, c.restore.uid ≠ uid) : migrations uid log = 0 := by
  rw [migrations, List.countP_eq_zero]
  intro c hc
  simp [h c hc]

end Log

/-! ## What is kept -/

/-- **What a stored restore says about the log of its changes.** -/
structure Restore.Follows (log : List PhaseChange) (r : Restore) : Prop where
  recorded : r.status.phase = lastPhase r.uid log
  /-- The creation time is written with the first phase. -/
  unmarked : r.status.phase = none → r.status.createdAt = none
  target : r.status.phase = some .migrating → r.spec.migrateTo.isSome = true
  /-- A restore that has migrated has its result, unless it failed. -/
  migrated : 0 < migrations r.uid log → r.status.phase = some .migrating ∨
    r.status.phase = some .failed ∨ r.status.migrationResult.isSome = true

/-- **The log is that of the machine, and the stored restores follow it.** -/
structure PhasesSound (w : World) : Prop where
  wellFormed : WellFormed (control w)
  restores : ∀ r ∈ w.restores, r.Follows w.phaseChanges
  allowed : ∀ c ∈ w.phaseChanges, c.Allowed
  chained : Chained w.phaseChanges
  once : ∀ uid, migrations uid w.phaseChanges ≤ 1
  used : ∀ c ∈ w.phaseChanges, c.restore.uid < w.nextUid

section Follows

variable {log : List PhaseChange} {r : Restore} {s : RestoreStatus}

/-- The changes of other restores do not matter. -/
theorem Restore.Follows.cons_other (h : r.Follows log) {c : PhaseChange}
    (hother : c.restore.uid ≠ r.uid) : r.Follows (c :: log) where
  recorded := h.recorded.trans (lastPhase_cons_other hother).symm
  unmarked := h.unmarked
  target := h.target
  migrated := by
    rw [migrations_cons_other hother]
    exact h.migrated

/-- A write that leaves the phase as it is. -/
theorem Restore.Follows.same (h : r.Follows log) (hw : r.Writes s)
    (hphase : s.phase = r.status.phase) : ({ r with status := s } : Restore).Follows log where
  recorded := hphase.trans h.recorded
  unmarked := hw.marked
  target := fun hmigrating => h.target (hphase.symm.trans hmigrating)
  migrated := by
    intro hpos
    rcases h.migrated hpos with hmigrating | hfailed | hresult
    · exact .inl (hphase.trans hmigrating)
    · exact .inr (.inl (hphase.trans hfailed))
    · exact .inr (.inr (hw.kept hresult))

/-- A write of another phase. -/
theorem Restore.Follows.changed (h : r.Follows log) (hw : r.Writes s)
    (hc : (PhaseChange.mk r s.phase).Allowed) :
    ({ r with status := s } : Restore).Follows (⟨r, s.phase⟩ :: log) where
  recorded := (lastPhase_cons_self (c := ⟨r, s.phase⟩)).symm
  unmarked := hw.marked
  target := hc.migrating
  migrated := by
    intro hpos
    by_cases hmigrating : s.phase = some .migrating
    · exact .inl hmigrating
    rw [migrations_cons_of_ne hmigrating] at hpos
    have hedge := hc.edge
    rcases h.migrated hpos with hwas | hfailed | hresult
    · simp only [hwas] at hedge
      rcases isEdge_migrating hedge with hready | hfailed
      · exact .inr (.inr (hw.settled hwas hready))
      · exact .inr (.inl hfailed)
    · simp only [hfailed, not_isEdge_failed, Bool.false_eq_true] at hedge
    · exact .inr (.inr (hw.kept hresult))

/-- A restore that goes to migrate never did before. -/
theorem Restore.Follows.migrations_eq_zero (h : r.Follows log) (hw : r.Writes s)
    (hc : (PhaseChange.mk r s.phase).Allowed) (hmigrating : s.phase = some .migrating) :
    migrations r.uid log = 0 := by
  have hedge := hc.edge
  have hne : r.status.phase ≠ some .migrating := by
    intro hwas
    simp only [hwas, hmigrating] at hedge
    cases hedge
  by_contra hpos
  rcases h.migrated (Nat.pos_of_ne_zero hpos) with hwas | hfailed | hresult
  · exact hne hwas
  · simp only [hfailed, not_isEdge_failed, Bool.false_eq_true] at hedge
  · rw [hw.unmigrated hmigrating hne] at hresult
    cases hresult

end Follows

/-! ## What a world keeps -/

/-- A write that changes no phase is not logged. -/
theorem phaseChange_eq_nil {w : World} {name : String} {f : RestoreStatus → RestoreStatus}
    (h : ∀ r ∈ w.restores, r.name = name → (f r.status).phase = r.status.phase) :
    w.phaseChange name f = [] := by
  unfold World.phaseChange
  cases hfound : w.restores.find? fun r => r.name == name with
  | none => rfl
  | some r =>
    have hname : r.name = name := by simpa using List.find?_some hfound
    exact if_pos (h r (List.mem_of_find?_eq_some hfound) hname)

/-- **One restore was given another phase**, and nothing else changed. -/
structure MovesOnly (r : Restore) (status : RestoreStatus) (w w' : World) : Prop where
  stored : ∀ s ∈ w'.restores, (s ∈ w.restores ∧ s.name ≠ r.name) ∨ s = { r with status := status }
  others : ∀ s ∈ w.restores, s.name ≠ r.name → s ∈ w'.restores
  moved : { r with status := status } ∈ w'.restores
  log : w'.phaseChanges = ⟨r, status.phase⟩ :: w.phaseChanges
  marker : w'.replica.status.verifiedSnapshotId = w.replica.status.verifiedSnapshotId

namespace PhasesSound

variable {w : World}

/-- Nothing but the stored restores, their log and the supply of identities matters. -/
theorem frame (h : PhasesSound w) {w' : World} (hrestores : w'.restores = w.restores)
    (hlog : w'.phaseChanges = w.phaseChanges) (huid : w.nextUid ≤ w'.nextUid) : PhasesSound w' where
  wellFormed := h.wellFormed.of_same (congrArg (List.map Restore.slot) hrestores) huid
  restores := by
    rw [hrestores, hlog]
    exact h.restores
  allowed := hlog ▸ h.allowed
  chained := hlog ▸ h.chained
  once := hlog ▸ h.once
  used := by
    rw [hlog]
    exact fun c hc => (h.used c hc).trans_le huid

/-- What a write logs. -/
theorem phaseChange_of_mem (h : PhasesSound w) {r : Restore} (hr : r ∈ w.restores)
    (f : RestoreStatus → RestoreStatus) :
    w.phaseChange r.name f =
      if (f r.status).phase = r.status.phase then [] else [⟨r, (f r.status).phase⟩] := by
  have hfind : w.restores.find? (fun s => s.name == r.name) = some r := by
    cases hfound : w.restores.find? (fun s => s.name == r.name) with
    | none =>
      have hnot := List.find?_eq_none.mp hfound r hr
      simp at hnot
    | some s =>
      have hname : s.name = r.name := by simpa using List.find?_some hfound
      rw [eq_of_name h.wellFormed (List.mem_of_find?_eq_some hfound) hr hname]
  rw [World.phaseChange, hfind]

/-- **What a write does to the phases**: nothing, or it moves the restore of its name. -/
theorem patch_cases (h : PhasesSound w) (name : String) (f : RestoreStatus → RestoreStatus) :
    (∀ r ∈ w.restores, r.name = name → (f r.status).phase = r.status.phase) ∨
      ∃ r ∈ w.restores, r.name = name ∧ (f r.status).phase ≠ r.status.phase ∧
        MovesOnly r (f r.status) w (w.patchRestore name f) := by
  by_cases hsame : ∀ r ∈ w.restores, r.name = name → (f r.status).phase = r.status.phase
  · exact .inl hsame
  push Not at hsame
  obtain ⟨r, hr, rfl, hmoved⟩ := hsame
  refine .inr ⟨r, hr, rfl, hmoved, ?_, ?_, ?_, ?_, rfl⟩
  · intro s hs
    rcases mem_patchRestore hs with hother | ⟨t, ht, hname, rfl⟩
    · exact .inl hother
    · rw [eq_of_name h.wellFormed ht hr hname]
      exact .inr rfl
  · exact fun s hs hname => List.mem_map.mpr ⟨s, hs, if_neg hname⟩
  · exact List.mem_map.mpr ⟨r, hr, if_pos rfl⟩
  · rw [World.patchRestore, h.phaseChange_of_mem hr f, if_neg hmoved]
    rfl

/-- A write that changes no phase. -/
theorem patch_same (h : PhasesSound w) {name : String} {f : RestoreStatus → RestoreStatus}
    (hf : ∀ r ∈ w.restores, r.name = name → r.Writes (f r.status))
    (hphase : ∀ r ∈ w.restores, r.name = name → (f r.status).phase = r.status.phase) :
    PhasesSound (w.patchRestore name f) := by
  have hsame : (w.patchRestore name f).phaseChanges = w.phaseChanges := by
    rw [World.patchRestore, phaseChange_eq_nil hphase]
    rfl
  refine ⟨h.wellFormed.patchRestore name f, ?_, hsame ▸ h.allowed, hsame ▸ h.chained,
    hsame ▸ h.once, hsame ▸ h.used⟩
  intro r hr
  rw [hsame]
  rcases mem_patchRestore hr with ⟨hr, _⟩ | ⟨s, hs, hname, rfl⟩
  · exact h.restores r hr
  · exact (h.restores s hs).same (hf s hs hname) (hphase s hs hname)

/-- A restore that moves enters Migrating for the first time, if it does. -/
theorem once_moved (h : PhasesSound w) {r : Restore} (hr : r ∈ w.restores) {s : RestoreStatus}
    (hw : r.Writes s) (hc : (PhaseChange.mk r s.phase).Allowed) (uid : Nat) :
    migrations uid (⟨r, s.phase⟩ :: w.phaseChanges) ≤ 1 := by
  by_cases huid : r.uid = uid
  · by_cases hmigrating : s.phase = some .migrating
    · have hnone := (h.restores r hr).migrations_eq_zero hw hc hmigrating
      rw [← huid, migrations, List.countP_cons]
      rw [migrations] at hnone
      rw [hnone]
      split <;> omega
    · rw [migrations_cons_of_ne hmigrating]
      exact h.once uid
  · rw [migrations_cons_other huid]
    exact h.once uid

/-- **A write the machine allows keeps the log that of the machine.** -/
theorem patch (h : PhasesSound w) {name : String} {f : RestoreStatus → RestoreStatus}
    (hf : ∀ r ∈ w.restores, r.name = name → r.Writes (f r.status)) :
    PhasesSound (w.patchRestore name f) := by
  rcases h.patch_cases name f with hsame | ⟨r, hr, rfl, hmoved, hmoves⟩
  · exact h.patch_same hf hsame
  have hw := hf r hr rfl
  have hc : (PhaseChange.mk r (f r.status).phase).Allowed := hw.edge.resolve_left hmoved
  constructor
  · exact h.wellFormed.patchRestore _ f
  · intro s hs
    rw [hmoves.log]
    rcases hmoves.stored s hs with ⟨hs, hname⟩ | rfl
    · apply (h.restores s hs).cons_other
      intro huid
      exact hname (congrArg Restore.name (eq_of_uid h.wellFormed hs hr huid.symm))
    · exact (h.restores r hr).changed hw hc
  · intro c hmem
    rw [hmoves.log] at hmem
    rcases List.mem_cons.mp hmem with rfl | hmem
    · exact hc
    · exact h.allowed c hmem
  · rw [hmoves.log]
    exact ⟨(h.restores r hr).recorded, h.chained⟩
  · rw [hmoves.log]
    exact h.once_moved hr hw hc
  · intro c hmem
    rw [hmoves.log] at hmem
    rcases List.mem_cons.mp hmem with rfl | hmem
    · exact (wellFormed_control.mp h.wellFormed).2.2 r hr
    · exact h.used c hmem

theorem delete (h : PhasesSound w) (name : String) : PhasesSound (w.deleteRestore name) where
  wellFormed := by
    rw [control_deleteRestore]
    exact h.wellFormed.drop name
  restores := fun r hr => h.restores r (List.mem_of_mem_filter hr)
  allowed := h.allowed
  chained := h.chained
  once := h.once
  used := h.used

/-- A restore that is created has no changes yet. -/
theorem insert (h : PhasesSound w) {position : Nat} {mk : Nat → Restore}
    (huid : (mk w.nextUid).uid = w.nextUid) (hstatus : (mk w.nextUid).status = {})
    (hname : ∀ r ∈ w.restores, r.name ≠ (mk w.nextUid).name) :
    PhasesSound (insertRestore position mk w) where
  wellFormed := by
    rw [control_insertRestore _ _ _ huid (by rw [hstatus])]
    refine h.wellFormed.created ?_ _
    intro s hs
    obtain ⟨r, hr, rfl⟩ := List.mem_map.mp hs
    exact hname r hr
  restores := by
    intro r hr
    have hunused : ∀ c ∈ w.phaseChanges, c.restore.uid ≠ (mk w.nextUid).uid := by
      intro c hc
      rw [huid]
      exact (h.used c hc).ne
    rcases mem_insertRestore hr with rfl | hr
    · constructor
      · rw [hstatus]
        exact (lastPhase_of_unused hunused).symm
      · intro _
        rw [hstatus]
      · rw [hstatus]
        intro hmigrating
        cases hmigrating
      · intro hpos
        have hzero : migrations (mk w.nextUid).uid w.phaseChanges = 0 := migrations_of_unused hunused
        exact absurd hpos (by
          show ¬ 0 < migrations (mk w.nextUid).uid w.phaseChanges
          omega)
    · exact h.restores r hr
  allowed := h.allowed
  chained := h.chained
  once := h.once
  used := fun c hc => (h.used c hc).trans (Nat.lt_succ_self _)

end PhasesSound

/-- A write that leaves the lifecycle alone is one the machine allows. -/
theorem SameLife.writes {log : List PhaseChange} {r : Restore} {s : RestoreStatus}
    (h : SameLife r.status s) (hr : r.Follows log) : r.Writes s where
  edge := .inl h.phase
  marked := by
    rw [h.phase, h.createdAt]
    exact hr.unmarked
  unmigrated := fun hmigrating hne => absurd (h.phase.symm.trans hmigrating) hne
  settled := by
    intro hmigrating hready
    rw [h.phase, hmigrating] at hready
    cases hready
  kept := by
    rw [h.migrationResult]
    exact id
  built := h.built

/-- **The log is kept through the lives of the restores.** -/
theorem lifelong_phasesSound : Lifelong PhasesSound where
  about :=
    { frame := fun hsame h => h.frame hsame.restores hsame.phaseChanges hsame.nextUid
      patch := fun hf h => h.patch fun r hr _ => (hf r.status).writes (h.restores r hr) }
  wellFormed := fun h => h.wellFormed
  created := fun h hr => (h.restores _ hr).unmarked
  target := fun h hr => (h.restores _ hr).target
  patch := fun hf h => h.patch fun r hr hname => (hf r hr hname).1
  delete := fun name h => h.delete name
  insert := fun huid hstatus hname h => h.insert huid hstatus hname
  request := by
    intro w g hg h
    refine ⟨h.wellFormed.of_same ?_ le_rfl, ?_, h.allowed, h.chained, h.once, h.used⟩
    · simp only [control, List.map_map]
      apply List.map_congr_left
      intro r _
      obtain ⟨huid, hname, _, hstatus⟩ := hg r
      simp only [Function.comp_apply, Restore.slot, huid, hname, hstatus]
    · intro r hr
      obtain ⟨s, hs, rfl⟩ := List.mem_map.mp hr
      obtain ⟨huid, _, hspec, hstatus⟩ := hg s
      have hfollows := h.restores s hs
      exact ⟨by rw [huid, hstatus]; exact hfollows.recorded, by rw [hstatus]; exact hfollows.unmarked,
        by rw [hspec, hstatus]; exact hfollows.target, by rw [huid, hstatus]; exact hfollows.migrated⟩
  mark := fun _ _ h => h.frame rfl rfl le_rfl

theorem PhasesSound.failKeeps (ρ : Call → Reply Error) (p : RestorePass) (r : Restore) :
    FailKeeps ρ PhasesSound p r :=
  lifelong_phasesSound.failKeeps (fun hf h => h.patch hf)
    (fun _ _ _ _ h => h.frame rfl rfl le_rfl) ρ p r

/-! ## What holds beside it -/

/-- **What a world keeps beside the log of its phases**, whatever becomes of a restore. -/
structure Beside (E : World → Prop) : Prop where
  frame : ∀ {w w' : World}, Elsewhere w w' → E w → E w'
  patch : ∀ {w : World} {name : String} {f : RestoreStatus → RestoreStatus}, PhasesSound w →
    (∀ r ∈ w.restores, r.name = name →
      r.Writes (f r.status) ∧ (f r.status).recorded = r.status.recorded) → E w → E (w.patchRestore name f)
  count : ∀ (uid n : Nat) (t : Timestamp) {w : World}, E w → E (w.recordFailure uid n t)
  reported : ∀ {w : World} {r : Restore}, E w → Since (fun w => PhasesSound w ∧ E w) r w →
    E (w.record (.verificationReported r (runIdFromStatus r)))
  status : ∀ (f : ReplicaStatus → ReplicaStatus) {w : World}, E w → E (w.patchStatus f)
  delete : ∀ {w : World} (name : String), E w → E (w.deleteRestore name)
  insert : ∀ {w : World} {position : Nat} {mk : Nat → Restore}, (mk w.nextUid).uid = w.nextUid →
    (mk w.nextUid).status = {} → (liveRestores w.restores).length < maxRestoresPerReplica → E w →
    E (insertRestore position mk w)
  request : ∀ {w : World} (g : Restore → Restore),
    (∀ r, (g r).uid = r.uid ∧ (g r).name = r.name ∧ (g r).spec = r.spec ∧ (g r).status = r.status) →
    E w → E { w with restores := w.restores.map g }

theorem Beside.robust {E : World → Prop} (hE : Beside E) : Robust fun w => PhasesSound w ∧ E w where
  about :=
    { frame := fun hsame h => ⟨lifelong_phasesSound.about.frame hsame.toSameRestores h.1, hE.frame hsame h.2⟩
      patch := by
        intro w name f hf h
        refine ⟨lifelong_phasesSound.about.patch (fun s => (hf s).toSameLife) h.1, hE.patch h.1 ?_ h.2⟩
        intro r hr _
        exact ⟨(hf r.status).toSameLife.writes (h.1.restores r hr), (hf r.status).recorded⟩ }
  wellFormed := fun h => h.1.wellFormed
  created := fun h hr => lifelong_phasesSound.created h.1 hr
  target := fun h hr => lifelong_phasesSound.target h.1 hr
  patch := by
    intro w name f hf h
    refine ⟨h.1.patch fun r hr hname => (hf r hr hname).1, hE.patch h.1 ?_ h.2⟩
    exact fun r hr hname => ⟨(hf r hr hname).1, (hf r hr hname).2.1⟩
  mark := fun f _ _ h => ⟨lifelong_phasesSound.mark f h.1, hE.status f h.2⟩
  reported := fun h hsince => ⟨h.1.frame rfl rfl le_rfl, hE.reported h.2 hsince⟩
  status := fun f _ h => ⟨lifelong_phasesSound.mark f h.1, hE.status f h.2⟩
  delete := fun name h => ⟨h.1.delete name, hE.delete name h.2⟩
  insert := fun huid hstatus hname hroom h =>
    ⟨h.1.insert huid hstatus hname, hE.insert huid hstatus hroom h.2⟩
  request := fun g hg h => ⟨lifelong_phasesSound.request g hg h.1, hE.request g hg h.2⟩

theorem Beside.failKeeps {E : World → Prop} (hE : Beside E) (ρ : Call → Reply Error) (p : RestorePass)
    (r : Restore) : FailKeeps ρ (fun w => PhasesSound w ∧ E w) p r := by
  refine hE.robust.toLives.failKeeps ?_ ?_ ρ p r
  · intro w name f hf h
    exact ⟨h.1.patch fun r hr hname => (hf r hr hname).1, hE.patch h.1 hf h.2⟩
  · exact fun uid n t w h => ⟨h.1.frame rfl rfl le_rfl, hE.count uid n t h.2⟩

/-! ## Every run -/

theorem phasesSound_initial (key : ReplicaKey) (spec : ReplicaSpec) :
    PhasesSound (World.initial key spec) where
  wellFormed := wellFormed_initial key spec
  restores := fun _ hr => by cases hr
  allowed := fun _ hc => by cases hc
  chained := trivial
  once := fun _ => Nat.zero_le _
  used := fun _ hc => by cases hc

/-- No edge leads out of Active or Failed. -/
theorem PhaseChange.Allowed.unsettled {c : PhaseChange} (h : c.Allowed) :
    c.restore.status.phase ≠ some .active ∧ c.restore.status.phase ≠ some .failed := by
  have hedge := h.edge
  constructor
  · intro hactive
    rw [hactive] at hedge
    cases hedge
  · intro hfailed
    rw [hfailed] at hedge
    cases hedge

/-- **The phase of a restore only changes along the machine.**  In every run, each change of a phase is
    along an edge, never out of Active or Failed, and finds what it needs; the changes of a restore
    follow on one another, up to the phase that is stored; and a restore migrates at most once. -/
theorem phases_follow_machine {ctx : Context} (key : ReplicaKey) (spec : ReplicaSpec)
    (es : List Event) :
    (∀ c ∈ (run ctx (World.initial key spec) es).phaseChanges, c.Allowed ∧
        c.restore.status.phase ≠ some .active ∧ c.restore.status.phase ≠ some .failed) ∧
      Chained (run ctx (World.initial key spec) es).phaseChanges ∧
      (∀ r ∈ (run ctx (World.initial key spec) es).restores,
        r.status.phase = lastPhase r.uid (run ctx (World.initial key spec) es).phaseChanges) ∧
      ∀ uid, migrations uid (run ctx (World.initial key spec) es).phaseChanges ≤ 1 := by
  have hsound : PhasesSound (run ctx (World.initial key spec) es) :=
    run_invariant (C := fun _ _ => True)
      (fun _ _ _ h => lifelong_phasesSound.step ctx (fun _ h => h.frame rfl rfl le_rfl)
        (fun _ p r _ _ => PhasesSound.failKeeps _ p r) h)
      (phasesSound_initial key spec)
      (meets_of_forall (fun _ _ => trivial) _ _)
  exact ⟨fun c hc => ⟨hsound.allowed c hc, (hsound.allowed c hc).unsettled⟩, hsound.chained,
    fun r hr => (hsound.restores r hr).recorded, hsound.once⟩

/-- The changes of a restore that goes live, newest first. -/
example : (run .hourly (World.initial ⟨"ns", "r"⟩ plainSpec)
    (listSnapshots 0 "s" ++ bringUp "r-10" 20 ++ [.replicaPass { now := 30 }])).phaseChanges.map
      PhaseChange.phase =
    [some .active, some .switching, some .ready, some .restoring, some .pending] := by
  decide +kernel

end RestoreOperator
