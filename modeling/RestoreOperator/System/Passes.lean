import RestoreOperator.System.Lifecycle

/-!
# `System.Passes` — the passes keep the invariants of the lifecycles

A pass of the restore controller moves its restore at most once, a pass of the replica controller moves the
one that is switching: either starts from what it read.  Each is followed up to its write of a phase with what
it read in hand, and from there on with the invariant alone.  What a pass does that not every invariant is
kept by is left to the invariant: failing the restore, starting its Job, building its schema, and what the
replica controller does once nothing switches.
-/

namespace RestoreOperator

open Calls Calls.Prog Relation

/-- **A program that moves a restore at most once**: it starts with what was read. -/
abbrev Transits {α : Type} (ρ : Call → Reply Error) (S : World → Prop) (r : Restore) (m : Op α) : Prop :=
  Leads ρ (Guarded S r) S S m

section Transits

variable {ρ : Call → Reply Error} {S : World → Prop} {r : Restore} {α β : Type}

theorem Transits.after {m : Op α} {f : α → Op β} (hm : Keeps (Guarded S r) m)
    (hf : ∀ a, Transits ρ S r (f a)) : Transits ρ S r (m >>= f) :=
  Leads.keeps_bind hm (fun _ h => h.1) hf

theorem Transits.before {m : Op α} {f : α → Op β} (hm : Transits ρ S r m)
    (hf : ∀ a, Keeps S (f a)) : Transits ρ S r (m >>= f) :=
  Leads.bind hm fun a => Leads.of_keeps (hf a) fun _ h => h

theorem Transits.of_keeps {m : Op α} (hm : Keeps (Guarded S r) m) : Transits ρ S r m :=
  Leads.ends hm (fun _ h => h.1) fun _ h => h.1

/-- The write of a phase, and what goes with it. -/
theorem Lives.call_patch {I Q : World → Prop} (hS : Lives S) {c : Call} {f : RestoreStatus → RestoreStatus}
    {F : World → World} (hF : ∀ w, Elsewhere (w.patchRestore r.name f) (F w))
    (hf : ∀ s : Restore, s.spec = r.spec → SameLife r.status s.status →
      s.Writes (f s.status) ∧ (f s.status).recorded = s.status.recorded ∧
        (f s.status).phase ≠ some .failed) (hI : ∀ w, I w → Guarded S r w)
    (hQ : ∀ w, I w → S (F w) → Q (F w)) (hQS : ∀ w, Q w → S w) :
    Leads ρ I Q S (Prog.call c F) := by
  refine Leads.call ?_ (fun w h => (hI w h).1) hQS
  intro w h
  obtain ⟨hw, hreads⟩ := hI w h
  refine hQ w h (hS.about.frame (hF w) (hS.patch ?_ hw))
  intro s hs hname
  obtain ⟨hspec, hsame⟩ := hreads.same s hs hname
  exact hf s hspec hsame

theorem Lives.patchRestore (hS : Lives S) {c : Call} {f : RestoreStatus → RestoreStatus}
    (hf : ∀ s : Restore, s.spec = r.spec → SameLife r.status s.status →
      s.Writes (f s.status) ∧ (f s.status).recorded = s.status.recorded ∧
        (f s.status).phase ≠ some .failed) :
    Transits ρ S r (Op.patchRestore c r.name f) :=
  hS.call_patch (fun _ => .of_eq rfl) hf (fun _ h => h)
    (fun _ _ h => h) fun _ h => h

end Transits

/-! ## The restore controller -/

/-- **Failing the restore keeps the invariant.** -/
def FailKeeps (ρ : Call → Reply Error) (S : World → Prop) (p : RestorePass) (r : Restore) : Prop :=
  ∀ (before : RestorePhase) (f : RestoreStatus → RestoreStatus), r.status.phase = some before →
    isEdge (some before) (some .failed) = true → (∀ s, Aside s (f s)) →
    Transits ρ S r (failRestore p r f)

/-- The mark of a failed restore is a write the machine allows. -/
theorem Reads.writes_failed {w : World} {r : Restore} {before : RestorePhase}
    {f : RestoreStatus → RestoreStatus} (h : Reads r w) (hr : r.status.phase = some before)
    (hedge : isEdge (some before) (some .failed) = true) (hf : ∀ s, SameLife s (f s)) :
    ∀ s ∈ w.restores, s.name = r.name → s.Writes { f s.status with phase := some .failed } := by
  intro s hs hname
  refine writes_phase rfl ?_ (by simp) (by simp) (by simp) ?_ (hf s.status).built
  · rw [(h.same s hs hname).2.phase, hr]
    exact hedge
  · intro hmigrated
    exact (congrArg Option.isSome (hf s.status).migrationResult).trans hmigrated

/-- The report of a failure is about a restore that is looked up for it. -/
theorem Lives.reportFailure {S : World → Prop} (hS : Lives S) (r : Restore) :
    Keeps S (RestoreOperator.reportFailure r) := by
  refine Leads.keeps (Q := S) fun ρ => ?_
  refine Leads.bind_value
    (Q := fun found w => S w ∧ ∀ s, found = .ok s → Since S s w) ?_ fun found => ?_
  · intro w hw
    have hquiet : Keeps (fun x => x = w) (Prog.attempt (Op.getRestore .getReported r.name)) :=
      Keeps.attempt (keeps_getRestore _ _)
    have hstate := hquiet ρ w rfl
    refine ⟨?_, hstate.symm ▸ hw⟩
    intro found w' hdone
    obtain rfl : w' = w := by
      rw [hdone] at hstate
      exact hstate
    refine ⟨hw, ?_⟩
    rintro s rfl
    exact ⟨w', hw, getRestore_mem (attempt_eq_ok hdone), rfl⟩
  · refine Leads.keeps_bind (Keeps.attempt (keeps_getReplica _)) (fun _ h => h.1) fun parent => ?_
    split
    · rename_i s _
      have hI := hS.about.and (aboutRecords_since S s)
      refine (hI.report hS.about.toSteady (fun h => hS.reported h.1 h.2) ρ _ _).weaken ?_
      exact fun w h => ⟨h.1, h.2 s rfl⟩
    · exact Leads.ret (fun _ h => h.1) fun _ h => h.1

/-- **Failing a restore keeps an invariant** of which Failed is no more than another phase, and the count no
    part: it is one of the edges, and nothing after it moves a restore. -/
theorem Lives.failKeeps {S : World → Prop} (hS : Lives S)
    (hfails : ∀ {w : World} {name : String} {f : RestoreStatus → RestoreStatus},
      (∀ r ∈ w.restores, r.name = name → r.Writes (f r.status) ∧
        (f r.status).recorded = r.status.recorded) → S w → S (w.patchRestore name f))
    (hcount : ∀ (uid n : Nat) (t : Timestamp) {w : World}, S w → S (w.recordFailure uid n t))
    (ρ : Call → Reply Error) (p : RestorePass) (r : Restore) : FailKeeps ρ S p r := by
  intro before f hr hedge hf
  have hI := hS.about
  refine Transits.before (Leads.call ?_ (fun _ h => h.1) fun _ h => h) fun _ => ?_
  · rintro w ⟨hw, hreads⟩
    have hwrites := hreads.writes_failed hr hedge fun s => (hf s).toSameLife
    exact hfails (fun s hs hname => ⟨hwrites s hs hname, (hf s.status).recorded⟩) hw
  refine Keeps.bind hI.releaseRestoreSlot fun _ => Keeps.bind ?_ fun _ => ?_
  · refine Keeps.bind (Keeps.attempt (keeps_getReplica _)) fun replica => ?_
    cases replica with
    | error _ => exact Keeps.ret _
    | ok replica =>
      refine Keeps.bind (Keeps.bestEffort (Keeps.call ?_)) fun _ => Keeps.ret _
      exact fun w h => hcount _ _ _ h
  refine Keeps.bind (hI.publishEvent _) fun _ => ?_
  exact Keeps.bind (hS.reportFailure r) fun _ => Keeps.ret _

/-- What starts the Job of a restore. -/
def startRestoreJob (p : RestorePass) (r : Restore) : Op Action := do
  let replica ← Op.getReplica .getReplica
  let runId ← ensureRunId p r replica
  Op.createJob .createRestoreJob (buildRestoreJob r runId)
  reconcileRestoring.stillRunning r

/-- **Starting the Job of the restore keeps the invariant.** -/
def StartKeeps (ρ : Call → Reply Error) (S : World → Prop) (p : RestorePass) (r : Restore) : Prop :=
  Leads ρ (Exact S r) S S (startRestoreJob p r)

section Phases

variable {ρ : Call → Reply Error} {S : World → Prop} {p : RestorePass} {r : Restore}
  (hS : Lives S) (hfail : FailKeeps ρ S p r)

include hS

/-- **Phase Pending**: the restore is Pending by the time it is marked Restoring. -/
theorem transits_reconcilePending (hr : r.isPending = true)
    (hcreated : r.status.phase = none → r.status.createdAt = none) :
    Transits ρ S r (reconcilePending p r) := by
  have hphase : r.status.phase = none ∨ r.status.phase = some .pending := by
    simpa [Restore.isPending, Restore.inPhase] using hr
  -- what follows the mark, for the restore as it stands then
  have hrest : ∀ t : Restore, t.name = r.name → t.status.phase = some .pending →
      Leads ρ (Guarded S t) S S (cleanupPreviousJobs r >>= fun _ => ensureDataPvc r >>= fun _ =>
        ensureKopiaCachePvc r >>= fun _ => startRestoring r) := by
    intro t hname ht
    have hI := hS.about.guarded t
    refine Transits.after (hI.cleanupPreviousJobs r) fun _ => ?_
    refine Transits.after (hI.ensureDataPvc r) fun _ => ?_
    refine Transits.after (hI.ensureKopiaCachePvc r) fun _ => ?_
    refine Transits.before ?_ fun _ => Keeps.bind ?_ fun _ => Keeps.ret _
    · rw [← hname]
      refine hS.patchRestore fun s _ hsame => ⟨?_, rfl, by simp⟩
      refine writes_phase rfl ?_ (by simp) (by simp) (by simp) id id
      rw [hsame.phase, ht]
      rfl
    · exact hS.about.modify fun _ => .of_eq rfl
  unfold reconcilePending Prog.when
  split
  · refine Leads.bind (Q := Guarded S
      { r with status := { r.status with createdAt := some p.now, phase := some .pending } })
      (Leads.call ?_ (fun _ h => h.1) fun _ h => h.1) fun _ => hrest _ rfl rfl
    rintro w ⟨hw, hreads⟩
    constructor
    · refine hS.patch ?_ hw
      intro s hs hname
      have hsame := (hreads.same s hs hname).2
      refine ⟨?_, rfl, by simp⟩
      rcases hphase with hnone | hpending
      · refine writes_phase rfl ?_ (by simp) (by simp) (by simp) id id
        rw [hsame.phase, hnone]
        rfl
      · exact ⟨.inl (hsame.phase.trans hpending).symm, by simp, by simp, by simp, id, id⟩
    · apply hreads.patch
      intro s hs hname
      have hsame := (hreads.same s hs hname).2
      rw [if_pos hname]
      exact ⟨rfl, rfl, hsame.migrationResult, hsame.version, hsame.built⟩
  · rename_i hmarked
    refine Leads.bind (Leads.ret (fun _ h => h) fun _ h => h.1) fun _ => hrest r rfl ?_
    rcases hphase with hnone | hpending
    -- the creation time comes with the first phase
    · rw [hcreated hnone] at hmarked
      exact absurd rfl hmarked
    · exact hpending

include hfail

/-- **Phase Restoring.** -/
theorem leads_reconcileRestoring (hstart : StartKeeps ρ S p r) (hr : r.status.phase = some .restoring) :
    Leads ρ (Exact S r) S S (reconcileRestoring p r) := by
  have hI := hS.about.guarded r
  refine Leads.keeps_bind (Keeps.read _ _) (fun _ h => h.1.1.1) fun existing => ?_
  cases existing with
  | none => exact hstart
  | some job =>
    refine Leads.weaken ?_ fun _ (h : Exact S r _) => h.1.1
    dsimp only
    split
    · refine Transits.after (Keeps.attempt (Keeps.ask _ _)) fun version => ?_
      refine Transits.before (hS.patchRestore fun s _ hsame => ⟨?_, rfl, by simp⟩) fun _ => ?_
      · refine writes_phase rfl ?_ (by simp) (by simp) (by simp [hsame.phase, hr]) id id
        rw [hsame.phase, hr]
        rfl
      · exact Keeps.bind (hS.about.deleteJob _ _) fun _ => Keeps.ret _
    split
    · refine Transits.after (Keeps.bestEffort (hI.touch _)) fun _ => ?_
      exact hfail _ _ hr rfl fun _ => ⟨.of_eq rfl, rfl⟩
    · exact Transits.of_keeps (hI.stillRunning r)

theorem transits_detectVersion (hr : r.status.phase = some .ready) :
    Transits ρ S r (detectVersion p r) := by
  have hI := hS.about.guarded r
  have hdelete : Keeps (Guarded S r) (detectVersion.deleteVersionJob r) :=
    Keeps.bind (hI.deleteJob _ _) fun _ => Keeps.ret _
  refine Transits.after (Keeps.read _ _) fun existing => ?_
  cases existing with
  | none => exact Transits.of_keeps (Keeps.bind (hI.createJob fun _ => ⟨rfl, rfl⟩) fun _ => Keeps.ret _)
  | some job =>
    dsimp only
    split
    · refine Transits.after (Keeps.attempt (Keeps.ask _ _)) fun version => ?_
      refine Transits.after hdelete fun _ => ?_
      split
      · split
        · exact hfail _ _ hr rfl fun _ => ⟨.of_eq rfl, rfl⟩
        · refine Transits.of_keeps (Keeps.bind (hI.patchRestore fun _ => ?_) fun _ => Keeps.ret _)
          exact ⟨⟨rfl, rfl, rfl, fun _ => rfl, id⟩, rfl⟩
      · exact hfail _ _ hr rfl fun _ => ⟨.of_eq rfl, rfl⟩
    split
    · exact Transits.after hdelete fun _ => hfail _ _ hr rfl fun _ => ⟨.of_eq rfl, rfl⟩
    · exact Transits.of_keeps (Keeps.ret _)

theorem transits_awaitReadiness (ctx : Context) (replica : Replica)
    (hr : r.status.phase = some .ready) : Transits ρ S r (awaitReadiness ctx p r replica) := by
  have hI := hS.about.guarded r
  unfold awaitReadiness
  split
  · exact Transits.of_keeps (Keeps.ret _)
  dsimp only
  split
  · refine Transits.after (hI.consultReindex p r replica) fun verdict => ?_
    split
    · exact Transits.of_keeps (Keeps.ret _)
    · refine Transits.after (hI.modify fun _ => .of_eq rfl) fun _ => ?_
      exact hfail _ _ hr rfl fun _ => ⟨.of_eq rfl, rfl⟩
  · exact Transits.of_keeps (Keeps.ret _)

/-- **Phase Ready**: what the restore needs to migrate or to switch is what the pass has checked. -/
theorem transits_reconcileReady (ctx : Context)
    (hr : r.status.phase = some .ready) : Transits ρ S r (reconcileReady ctx p r) := by
  have hI := hS.about.guarded r
  unfold reconcileReady
  split
  · exact transits_detectVersion hS hfail hr
  rename_i hversion
  have hknown : r.status.postgresVersion.isSome = true := by
    rw [Option.isNone_iff_eq_none] at hversion
    exact Option.isSome_iff_ne_none.mpr hversion
  refine Transits.after (keeps_getReplica _) fun replica => ?_
  refine Transits.after (hI.call fun _ => .of_eq rfl) fun _ => ?_
  refine Transits.after (hI.applyRestoreDeployment replica r) fun ready => ?_
  split
  · refine Transits.after (hI.modify fun _ => .of_eq rfl) fun _ => ?_
    split
    · rename_i howed
      rw [Bool.and_eq_true, Option.isNone_iff_eq_none] at howed
      refine Transits.before (hS.patchRestore fun s hspec hsame => ⟨?_, rfl, by simp⟩) fun _ => Keeps.ret _
      refine writes_phase rfl ?_ (fun _ => ⟨?_, ?_⟩) (by simp) (by simp) id id
      · rw [hsame.phase, hr]
        rfl
      · rw [hspec]
        exact howed.1
      · exact hsame.migrationResult.trans howed.2
    · rename_i howed
      have hmigrated : r.spec.migrateTo = none ∨ r.status.migrationResult.isSome = true := by
        cases htarget : r.spec.migrateTo with
        | none => exact .inl rfl
        | some t =>
          refine .inr (Option.isSome_iff_ne_none.mpr fun hnone => ?_)
          simp [htarget, hnone] at howed
      refine Transits.before ?_ fun _ => ?_
      · refine hS.call_patch (fun _ => ⟨⟨rfl, rfl, rfl, rfl, rfl, le_rfl⟩, rfl, rfl, rfl⟩)
          (fun s hspec hsame => ⟨?_, rfl, by simp⟩) (fun _ h => h) (fun _ _ h => h) fun _ h => h
        refine writes_phase rfl ?_ (by simp) (fun _ => ⟨hsame.version hknown, ?_⟩) (by simp) id id
        · rw [hsame.phase, hr]
          rfl
        · rw [hspec, hsame.migrationResult]
          exact hmigrated
      · exact Keeps.bind hS.about.releaseRestoreSlot fun _ => Keeps.ret _
  · exact transits_awaitReadiness hS hfail ctx replica hr

/-- **Phase Migrating.** -/
theorem transits_reconcileMigrating (hr : r.status.phase = some .migrating)
    (htarget : r.spec.migrateTo.isSome = true) : Transits ρ S r (reconcileMigrating p r) := by
  have hI := hS.about.guarded r
  unfold reconcileMigrating
  split
  · rename_i hnone
    rw [hnone] at htarget
    cases htarget
  refine Transits.after (keeps_getReplica _) fun _ => Transits.after (hI.touch _) fun _ => ?_
  refine Transits.after (Keeps.attempt (hI.touch _)) fun found => ?_
  split
  · exact hfail _ _ hr rfl fun _ => ⟨.of_eq rfl, rfl⟩
  · exact Transits.of_keeps (Keeps.fail _)
  refine Transits.after (Keeps.read _ _) fun existing => ?_
  cases existing with
  | none =>
    refine Transits.of_keeps (Keeps.bind (Keeps.ask _ _) fun baseline => ?_)
    refine Keeps.bind (Keeps.when fun _ => hI.patchRestore fun _ => ⟨.of_eq rfl, rfl⟩) fun _ => ?_
    refine Keeps.bind (hI.touch _) fun _ => Keeps.bind (hI.touch _) fun _ => ?_
    exact Keeps.bind (hI.createJob fun _ => ⟨rfl, rfl⟩) fun _ => Keeps.ret _
  | some job =>
    dsimp only
    split
    · exact Transits.of_keeps (Keeps.ret _)
    refine Transits.after (Keeps.ask _ _) fun result => ?_
    refine Transits.before (hS.patchRestore fun s _ hsame => ⟨?_, rfl, by simp⟩) fun _ => Keeps.ret _
    refine writes_phase rfl ?_ (by simp) (by simp) (fun _ _ => rfl) (fun _ => rfl) id
    rw [hsame.phase, hr]
    rfl

/-- **A pass of the restore controller keeps the invariant**, where failing the restore does and starting its
    Job. -/
theorem Lives.reconcileRestore (hstart : StartKeeps ρ S p r) (ctx : Context) {w : World} (hw : S w)
    (hr : r ∈ w.restores) : S (reconcileRestore ctx p r ρ w).state := by
  have hwf := hS.wellFormed hw
  have hexact : Exact S r w := exact_of_mem hw hwf hr
  have htransits : Leads ρ (Exact S r) S S (RestoreOperator.reconcileRestore ctx p r) := by
    have hmoves : ∀ {m : Op Action}, Transits ρ S r m → Leads ρ (Exact S r) S S m :=
      fun hm => hm.weaken fun _ h => h.1.1
    unfold RestoreOperator.reconcileRestore
    split
    all_goals rename_i hphase
    · exact hmoves (transits_reconcilePending hS (by simp [Restore.isPending, hphase]) (hS.created hw hr))
    · exact hmoves (transits_reconcilePending hS (by simp [Restore.isPending, Restore.inPhase, hphase])
        (hS.created hw hr))
    · exact leads_reconcileRestoring hS hfail hstart hphase
    · exact hmoves (transits_reconcileMigrating hS hfail hphase (hS.target hw hr hphase))
    · exact hmoves (transits_reconcileReady hS hfail ctx hphase)
    · exact hmoves (Transits.of_keeps ((hS.about.guarded r).reconcileSwitching r))
    · exact hmoves (Transits.of_keeps ((hS.about.guarded r).reconcileActive r))
    · exact hmoves (Transits.of_keeps (Keeps.ret _))
  exact (htransits w hexact).2

end Phases

/-! ## The switchover -/

/-- **Building the schema of the restore keeps the invariant**, and what the pass holds on to. -/
def BuildKeeps (ρ : Call → Reply Error) (S : World → Prop) (ctx : Context) (p : ReplicaPass)
    (replica : Replica) (r : Restore) : Prop :=
  Leads ρ (Exact S r) (Carried S r) S (reconcileSchemaBuild ctx p replica r)

/-- What a pass does with the restores it listed, where none of them is switching. -/
def reconcileSettled (ctx : Context) (p : ReplicaPass) (replica : Replica) (restores : List Restore) :
    Op Action :=
  Prog.unlessReturned (ephemeralTeardown replica restores) do
    sweepStale p replica restores
    cleanupFailed p restores
    let snapshotJob ← Op.getJob .getSnapshotJob .snapshotList
    Prog.unlessReturned (reconcileSnapshotList ctx p replica restores snapshotJob) do
      clearSuspension replica
      reconcileTrigger ctx p replica restores snapshotJob

section Switchover

variable {ρ : Call → Reply Error} {S : World → Prop} {ctx : Context} {p : ReplicaPass}
  {replica : Replica} {r : Restore}

/-- A build that keeps the invariant whatever it records. -/
theorem AboutBuild.buildKeeps (hB : AboutBuild r S) : BuildKeeps ρ S ctx p replica r :=
  (Leads.of_keeps (hB.carried.reconcileSchemaBuild ctx p replica) fun _ h => h.1.1).weaken fun _ h => h.1

/-- **The switchover moves the switching restore to Active**, and no other. -/
theorem Lives.switchover (hS : Lives S) (hphase : r.status.phase = some .switching)
    (active : Option Restore) : Leads ρ (Carried S r) S S (RestoreOperator.switchover p replica r active) := by
  have hcarried := hS.about.carried r
  have hreported := hS.about.and (aboutRecords_since S r)
  refine Leads.keeps_bind (hcarried.call fun _ => .of_eq rfl) (fun _ h => h.1.1) fun _ => ?_
  refine Leads.keeps_bind (hcarried.call fun _ => .of_eq rfl) (fun _ h => h.1.1) fun _ => ?_
  refine Leads.bind (Q := fun w => S w ∧ Since S r w) ?_ fun _ => ?_
  · refine hS.call_patch (fun _ => ⟨⟨rfl, rfl, rfl, rfl, rfl, le_rfl⟩, rfl, rfl, rfl⟩) ?_ (fun _ h => h.1)
      (fun _ h hw => ⟨hw, h.2⟩) fun _ h => h.1
    intro s _ hsame
    refine ⟨writes_phase rfl ?_ (by simp) (by simp) (by simp) id id, rfl, by simp⟩
    rw [hsame.phase, hphase]
    rfl
  · exact hreported.recordSwitchover hS.about.toSteady (fun _ h => h.1) _ _ _ _ (fun h => hS.reported h.1 h.2) ρ

/-- **The block of a switching restore.** -/
theorem Lives.reconcileSwitchover (hS : Lives S) {restores : List Restore}
    (hr : switchingRestore restores = some r) (hbuild : BuildKeeps ρ S ctx p replica r) :
    Leads ρ (Exact S r) S S (RestoreOperator.reconcileSwitchover ctx p replica restores) := by
  have hphase : r.status.phase = some .switching := by
    simpa [Restore.inPhase] using List.find?_some hr
  have hexact := hS.about.exact r
  have hmark : ∀ (f : ReplicaStatus → ReplicaStatus),
      (∀ s, (f s).verifiedSnapshotId = s.verifiedSnapshotId) → ∀ {w : World}, Exact S r w →
      Exact S r (w.patchStatus f) := by
    intro f hf w h
    exact ⟨⟨⟨hS.mark f hf h.1.1.1, h.1.1.2.frame rfl⟩, h.1.2⟩, h.2⟩
  unfold RestoreOperator.reconcileSwitchover
  rw [hr]
  refine Leads.bind (hexact.switchoverGates (hS.about.carried r).toSteady (fun _ h => h.1) (fun _ h => h.1.1)
    _ _ _ _ _ (hexact.redactionGate _ _ _ hmark) hbuild) fun open_ => ?_
  split
  · exact Leads.ret (fun _ h => h.1.1) fun _ h => h.1.1
  · exact Leads.bind (hS.switchover hphase _) fun _ => Leads.ret (fun _ h => h) fun _ h => h

/-- A pass that switches a restore ends with it. -/
theorem yields_reconcileSwitchover {restores : List Restore} (hr : switchingRestore restores = some r) :
    Yields (fun a => a.isSome = true) (RestoreOperator.reconcileSwitchover ctx p replica restores) := by
  unfold RestoreOperator.reconcileSwitchover
  rw [hr]
  refine Yields.bind fun open_ => ?_
  split
  · exact Yields.ret rfl
  · exact Yields.bind fun _ => Yields.ret rfl

/-- **What a pass does with the restores it listed**: it switches one of them, or none is switching. -/
theorem Lives.reconcileRestores (hS : Lives S) {I : World → Prop} {restores : List Restore}
    (hswitching : ∀ r, switchingRestore restores = some r →
      (∀ w, I w → Exact S r w) ∧ BuildKeeps ρ S ctx p replica r)
    (hsettled : switchingRestore restores = none →
      Leads ρ I S S (reconcileSettled ctx p replica restores)) :
    Leads ρ I S S (RestoreOperator.reconcileRestores ctx p replica restores) := by
  unfold RestoreOperator.reconcileRestores
  cases hr : switchingRestore restores with
  | none =>
    have hnone : RestoreOperator.reconcileSwitchover ctx p replica restores = Prog.ret none := by
      unfold RestoreOperator.reconcileSwitchover
      rw [hr]
      rfl
    rw [hnone]
    exact hsettled hr
  | some r =>
    obtain ⟨hexact, hbuild⟩ := hswitching r hr
    refine Leads.returned ?_ (fun _ h => h) (yields_reconcileSwitchover hr)
    exact (hS.reconcileSwitchover hr hbuild).weaken hexact

/-- **A pass up to its list of the restores** leaves them alone. -/
theorem Steady.reconcile {J : World → Prop} (hJ : Steady J) (hJS : ∀ w, J w → S w) {w : World}
    (hw : J w)
    (hrest : ∀ restores, Leads ρ (fun w' => J w' ∧ w'.restores = restores) S S
      (RestoreOperator.reconcileRestores ctx p w.replica restores)) :
    S (RestoreOperator.reconcile ctx p ρ w).state := by
  have hleads : Leads ρ J S S (Prog.unlessReturned (RestoreOperator.validateCredentials p w.replica) do
      RestoreOperator.ensureObjects w.replica
      let restores ← Prog.read .listRestores fun w => w.restores
      RestoreOperator.reconcileRestores ctx p w.replica restores) := by
    refine Leads.keeps_bind (hJ.validateCredentials _ _) hJS fun returned => ?_
    cases returned with
    | some action => exact Leads.ret hJS hJS
    | none =>
      refine Leads.keeps_bind (hJ.ensureObjects _) hJS fun _ => ?_
      exact Leads.read_bind hrest hJS
  exact (hleads w hw).2

end Switchover

/-! ## The creation of a restore -/

section Creation

variable {ρ : Call → Reply Error} {I S : World → Prop} {ctx : Context} {p : ReplicaPass}
  {replica : Replica} {restores : List Restore} (hI : Steady I) (hS : Steady S)
  (hIS : ∀ w, I w → S w)

include hI hS hIS

/-- **A restore is created** within the limit, with a name of its own and without a status. -/
theorem leads_createRestoreForSnapshot (snap : Snapshot)
    (hinsert : ∀ (w : World) (size : ℚ), I w →
      (∀ r ∈ w.restores, r.name ≠ (newRestore ctx p replica snap size w.nextUid).name) →
      (liveRestores w.restores).length < maxRestoresPerReplica →
      S (insertRestore p.listPosition (newRestore ctx p replica snap size) w)) :
    Leads ρ I S S (createRestoreForSnapshot ctx p replica snap) := by
  refine Leads.read_bind (fun existing => ?_) hIS
  have hstop : ∀ {α : Type} {m : Op α}, Keeps I m →
      Leads ρ (fun w => I w ∧ w.restores = existing) S S m :=
    fun hm => (Leads.ends hm hIS hIS).weaken fun _ h => h.1
  split
  · exact hstop (Keeps.bind (hI.updateCondition _ _ _ _) fun _ => Keeps.ret _)
  rename_i hroom
  split
  · exact hstop (Keeps.fail _)
  refine Leads.get_bind fun w => ?_
  split
  · exact (hstop (Keeps.fail _)).weaken fun _ h => h.1
  rename_i hfresh
  refine Leads.bind (Q := S) (Leads.call ?_ (fun _ h => hIS _ h.1.1) fun _ h => h) fun _ => ?_
  · rintro w' ⟨⟨hw, hexisting⟩, rfl⟩
    refine hinsert w' _ hw ?_ ?_
    · intro r hr hname
      exact hfresh (List.any_eq_true.mpr ⟨r, hr, beq_iff_eq.mpr hname⟩)
    · rw [hexisting]
      omega
  · exact Leads.of_keeps (Keeps.bind (hS.updateCondition _ _ _ _) fun _ => Keeps.ret _) fun _ h => h

/-- A list of snapshots leads to a restore of a snapshot that is not covered, if to any. -/
theorem leads_handleSnapshots (raw : String)
    (hcreate : ∀ snap,
      snapshotAlreadyCovered snap.id replica.status.verifiedSnapshotId restores = false →
      Leads ρ I S S (createRestoreForSnapshot ctx p replica snap)) :
    Leads ρ I S S (handleSnapshots ctx p replica restores raw) := by
  unfold handleSnapshots
  split
  swap
  · exact Leads.ends (hI.updateCondition _ _ _ _) hIS hIS
  split
  swap
  · exact Leads.ends (hI.noSnapshotCondition _) hIS hIS
  refine Leads.keeps_bind (hI.patchStatus fun _ => rfl) hIS fun _ => ?_
  refine Leads.keeps_bind (hI.updateCondition _ _ _ _) hIS fun _ => ?_
  split
  · exact Leads.ret hIS hIS
  rename_i hcovered
  refine Leads.bind (hcreate _ (by simpa using hcovered)) fun created => ?_
  refine Leads.of_keeps ?_ fun _ h => h
  split
  · exact hS.publishEvent _
  · exact hS.publishEvent _

/-- The snapshot-list block. -/
theorem leads_reconcileSnapshotList (job : Option Job)
    (hcreate : ∀ snap,
      snapshotAlreadyCovered snap.id replica.status.verifiedSnapshotId restores = false →
      Leads ρ I S S (createRestoreForSnapshot ctx p replica snap)) :
    Leads ρ I S S (reconcileSnapshotList ctx p replica restores job) := by
  unfold reconcileSnapshotList
  split
  · exact Leads.ret hIS hIS
  unfold followSnapshotJob
  split
  · refine Leads.keeps_bind hI.takeSnapshotResult hIS fun raw => ?_
    cases raw with
    | none =>
      refine Leads.ends ?_ hIS hIS
      dsimp only
      split
      · exact Keeps.bind hI.deleteSnapshotJob fun _ => Keeps.ret _
      · exact Keeps.ret _
    | some raw =>
      refine Leads.keeps_bind hI.deleteSnapshotJob hIS fun _ => ?_
      refine Leads.bind (leads_handleSnapshots hI hS hIS raw hcreate) fun _ => ?_
      exact Leads.ret (fun _ h => h) fun _ h => h
  · refine Leads.keeps_bind (Keeps.bestEffort (hI.touch _)) hIS fun _ => ?_
    exact Leads.ends (Keeps.bind (hI.updateCondition _ _ _ _) fun _ => Keeps.ret _) hIS hIS
  · exact Leads.ret hIS hIS

end Creation

/-! ## Deletions -/

section Settled

variable {S : World → Prop} {ctx : Context} {p : ReplicaPass} {replica : Replica} (hS : Robust S)

include hS

theorem Robust.deleteRestore (c : Call) (name : String) :
    Keeps S (Prog.bestEffort (Prog.call c (World.deleteRestore name)) : Op Bool) :=
  Keeps.bestEffort (Keeps.call fun _ h => hS.delete name h)

theorem Robust.ephemeralTeardown (restores : List Restore) :
    Keeps S (RestoreOperator.ephemeralTeardown replica restores) := by
  have hI := hS.about
  unfold RestoreOperator.ephemeralTeardown
  split
  · exact Keeps.ret _
  rename_i active _
  refine Keeps.bind (Keeps.call fun w h => ?_) fun _ => ?_
  · refine hI.frame ?_ (hS.status (fun s =>
      { s with
        verifiedSnapshotId := some active.spec.snapshot
        currentRestore := none
        previousRestore := none }) h)
    exact .of_eq rfl
  refine Keeps.bind (hS.deleteRestore _ _) fun _ => ?_
  exact Keeps.bind hI.releaseRestoreSlot fun _ => Keeps.ret _

theorem Robust.sweepStale (restores : List Restore) :
    Keeps S (RestoreOperator.sweepStale p replica restores) := by
  unfold RestoreOperator.sweepStale
  dsimp only
  split
  · exact Keeps.ret _
  refine Keeps.bind (Keeps.eachAll fun name _ => Keeps.bestEffort (Keeps.call ?_)) fun _ => ?_
  · intro w h
    refine hS.about.frame ?_ (hS.delete name h)
    exact .of_eq rfl
  · exact Keeps.when fun _ => Keeps.call fun _ => hS.status _

theorem Robust.cleanupFailed (restores : List Restore) :
    Keeps S (RestoreOperator.cleanupFailed p restores) := by
  refine Keeps.each fun name _ => Keeps.bind (Keeps.bestEffort ?_) fun _ => ?_
  · exact hS.about.call fun _ => .of_eq rfl
  · exact Keeps.bind (hS.deleteRestore _ _) fun _ => Keeps.ret _

/-- What a pass does where no restore is switching. -/
theorem Robust.reconcileSettled (restores : List Restore) :
    Keeps S (RestoreOperator.reconcileSettled ctx p replica restores) := by
  have hI := hS.about.toSteady
  refine Keeps.unlessReturned (hS.ephemeralTeardown restores) ?_
  refine Keeps.bind (hS.sweepStale restores) fun _ => ?_
  refine Keeps.bind (hS.cleanupFailed restores) fun _ => Keeps.bind (Keeps.read _ _) fun job => ?_
  refine Keeps.unlessReturned (Leads.keeps (Q := S) fun ρ => ?_) ?_
  · refine leads_reconcileSnapshotList hI hI (fun _ h => h) job fun snap _ => ?_
    refine leads_createRestoreForSnapshot hI hI (fun _ h => h) snap fun w size hw hfresh hroom => ?_
    exact hS.insert rfl rfl hfresh hroom hw
  · refine Keeps.bind (Keeps.when fun _ => hI.updateCondition _ _ _ _) fun _ => ?_
    exact hI.reconcileTrigger _ _ _ _ _

/-- **A pass of the replica controller keeps the invariant**, where a build does. -/
theorem Robust.reconcile {ρ : Call → Reply Error} {w : World}
    (hbuild : ∀ r, BuildKeeps ρ S ctx p w.replica r) (hw : S w) :
    S (RestoreOperator.reconcile ctx p ρ w).state := by
  refine hS.about.reconcile (fun _ h => h) hw fun restores => ?_
  refine hS.toLives.reconcileRestores (fun r hr => ⟨?_, hbuild r⟩) fun _ => ?_
  · rintro w' ⟨hw', rfl⟩
    exact exact_of_mem hw' (hS.wellFormed hw') (List.mem_of_find?_eq_some hr)
  · refine Leads.weaken ?_ fun _ (h : S _ ∧ _) => h.1
    exact Leads.of_keeps (hS.reconcileSettled restores) fun _ h => h

end Settled

/-! ## Runs -/

theorem Steady.after {S : World → Prop} (hS : Steady S) {α : Type}
    {outcome : Outcome World Error α} (h : S outcome.state) : S (World.after outcome) := by
  cases outcome with
  | done a w => exact h
  | failed e w => exact h
  | halted w =>
    refine hS.frame (w := w) ?_ h
    exact .of_eq rfl

/-- **A step keeps the invariant**, where what a pass does to a restore and its records does. -/
theorem Robust.step {S : World → Prop} (hS : Robust S) (ctx : Context) {w : World} {e : Event}
    (hgone : e = .replicaDeleted → S w → S { w with replicaDeleted := true })
    (hspec : ∀ spec, e = .specChanged spec → S w →
      S { w with replica := { w.replica with spec := spec } })
    (hfail : ∀ name p r, e = .restorePass name p →
      w.restores.find? (fun r => r.name == name) = some r → FailKeeps p.replies S p r)
    (hstart : ∀ name p r, e = .restorePass name p →
      w.restores.find? (fun r => r.name == name) = some r → StartKeeps p.replies S p r)
    (hbuild : ∀ p r, e = .replicaPass p → BuildKeeps p.replies S ctx p w.replica r)
    (hw : S w) : S (step ctx w e) := by
  cases e with
  | replicaPass p =>
    simp only [RestoreOperator.step]
    split
    · exact hw
    · exact hS.about.after (hS.reconcile (fun r => hbuild p r rfl) hw)
  | restorePass name p =>
    simp only [RestoreOperator.step]
    split
    · exact hw
    · rename_i r hr
      have hmem := List.mem_of_find?_eq_some hr
      exact hS.about.after
        (hS.toLives.reconcileRestore (hfail name p r rfl hr) (hstart name p r rfl hr) ctx hw hmem)
  | restoreDeleted name => exact hS.delete name hw
  | replicaDeleted => exact hgone rfl hw
  | specChanged spec => exact hspec spec rfl hw
  | deletionRequested name =>
    refine hS.request _ ?_ hw
    intro r
    by_cases hname : r.name = name
    · simp only [if_pos hname, and_self]
    · simp only [if_neg hname, and_self]
  | _ =>
    refine hS.about.frame (w := w) ?_ hw
    exact .of_eq rfl

/-! ## Invariants no record matters to -/

/-- What starts the Job of a restore mints an id, if it has to, and creates the Job. -/
theorem AboutRecords.startRestoreJob {I : World → Prop} (hI : AboutRecords I) {p : RestorePass}
    {r : Restore}
    (hminted : ∀ {w : World}, I w →
      I (w.patchRestore r.name fun s => { s with runId := some p.mintedRunId.display }))
    (hcreated : ∀ {w : World} (runId : Option String), I w →
      I (w.addJob (buildRestoreJob r runId) fun _ => [])) :
    Keeps I (RestoreOperator.startRestoreJob p r) := by
  refine Keeps.bind (keeps_getReplica _) fun replica => Keeps.bind ?_ fun runId => ?_
  · unfold ensureRunId
    split
    · split
      · exact Keeps.ret _
      · exact Keeps.bind (Keeps.call fun _ => hminted) fun _ => Keeps.ret _
    · exact Keeps.ret _
  refine Keeps.bind (Keeps.bind Keeps.get fun w => ?_) fun _ => hI.stillRunning r
  split
  · exact Keeps.fail _
  · exact Keeps.call fun _ => hcreated runId

/-- An invariant that the start of a Job keeps whatever the pass has read. -/
theorem StartKeeps.of_keeps {S : World → Prop} {ρ : Call → Reply Error} {p : RestorePass} {r : Restore}
    (h : Keeps S (RestoreOperator.startRestoreJob p r)) : StartKeeps ρ S p r := by
  refine Leads.weaken ?_ fun _ (h : Exact S r _) => h.1.1.1
  exact Leads.of_keeps h fun _ h => h

/-- No record matters, and neither does the run id. -/
theorem AboutRestores.startKeeps {S : World → Prop} (hS : AboutRestores S) (ρ : Call → Reply Error)
    (p : RestorePass) (r : Restore) : StartKeeps ρ S p r := by
  refine StartKeeps.of_keeps (hS.records.startRestoreJob ?_ ?_)
  · exact fun h => hS.patch (fun _ => .of_eq rfl) h
  · intro w runId h
    refine hS.frame (w := w) ?_ h
    exact ⟨rfl, rfl, rfl, rfl, rfl, Nat.le_succ _⟩

/-- **A step keeps an invariant no record matters to**, where failing the restore of a pass does. -/
theorem Robust.step_about {S : World → Prop} (hS : Robust S) (hA : AboutRestores S) (ctx : Context)
    {w : World} {e : Event} (hgone : e = .replicaDeleted → S w → S { w with replicaDeleted := true })
    (hfail : ∀ name p r, e = .restorePass name p →
      w.restores.find? (fun r => r.name == name) = some r → FailKeeps p.replies S p r)
    (hw : S w) : S (RestoreOperator.step ctx w e) := by
  refine hS.step ctx hgone ?_ hfail ?_ ?_ hw
  · intro spec _ h
    refine hA.frame (w := w) ?_ h
    exact ⟨rfl, rfl, rfl, rfl, rfl, le_rfl⟩
  · exact fun name p r _ _ => hA.startKeeps p.replies p r
  · exact fun p r _ => (hA.build r).buildKeeps

section Lifelong

variable {S : World → Prop} (hS : Lifelong S)
include hS

/-- **A pass of the restore controller keeps the invariant**, where failing the restore does. -/
theorem Lifelong.reconcileRestore {ρ : Call → Reply Error} {p : RestorePass} {r : Restore}
    (hfail : FailKeeps ρ S p r) (ctx : Context) {w : World} (hw : S w) (hr : r ∈ w.restores) :
    S (RestoreOperator.reconcileRestore ctx p r ρ w).state :=
  hS.robust.toLives.reconcileRestore hfail (hS.about.startKeeps ρ p r) ctx hw hr

/-- **Failing a restore keeps an invariant** of which Failed is no more than another phase. -/
theorem Lifelong.failKeeps
    (hfails : ∀ {w : World} {name : String} {f : RestoreStatus → RestoreStatus},
      (∀ r ∈ w.restores, r.name = name → r.Writes (f r.status)) → S w → S (w.patchRestore name f))
    (hcount : ∀ (uid n : Nat) (t : Timestamp) {w : World}, S w → S (w.recordFailure uid n t))
    (ρ : Call → Reply Error) (p : RestorePass) (r : Restore) : FailKeeps ρ S p r :=
  hS.robust.toLives.failKeeps (fun hf => hfails fun r hr hname => (hf r hr hname).1) hcount ρ p r

/-- **A step keeps the invariant**, where failing the restore of a pass does. -/
theorem Lifelong.step (ctx : Context) {w : World} {e : Event}
    (hgone : e = .replicaDeleted → S w → S { w with replicaDeleted := true })
    (hfail : ∀ name p r, e = .restorePass name p →
      w.restores.find? (fun r => r.name == name) = some r → FailKeeps p.replies S p r)
    (hw : S w) : S (step ctx w e) :=
  hS.robust.step_about hS.about ctx hgone hfail hw

end Lifelong

end RestoreOperator
