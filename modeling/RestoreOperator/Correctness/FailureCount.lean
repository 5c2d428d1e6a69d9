import RestoreOperator.Correctness.Backoff
import RestoreOperator.Correctness.PhaseMachine
import RestoreOperator.System.Failing

/-!
# `Correctness.FailureCount` — the count of failures and the restores that failed

A restore fails in one write and is counted in another: the phase goes to the restore, and is never looked
at again; the count and the backoff go to the replica, once the replica could be read, and a failure of
either is only logged.  A restore that is stored as Failed has been counted exactly once, as long as no pass
that fails one is kept from the second write.
-/

namespace RestoreOperator

open Calls Calls.Prog Relation

/-! ## What is counted -/

/-- The entry records a failure of that restore. -/
def Entry.isFailureOf (uid : Nat) : Entry → Bool
  | .failureRecorded u _ _ => u == uid
  | _ => false

/-- How often the replica's count was incremented on account of a restore. -/
def failuresOf (uid : Nat) (w : World) : Nat :=
  (failureLog w.history).countP (Entry.isFailureOf uid)

/-- **Every restore that is stored as Failed was counted exactly once.** -/
def FailedCountedOnce (w : World) : Prop :=
  ∀ r ∈ w.restores, r.inPhase .failed = true → failuresOf r.uid w = 1

/-- **A restore that fails is counted, and the next attempt held back**: its failure is one more than the
    replica had, and the next restore is scheduled by the backoff for the new count, from the reading of the
    clock the pass took. -/
def CountsFailure (ctx : Context) (w : World) (e : Event) : Prop :=
  ∀ r ∈ w.restores, r.inPhase .failed = false →
    ∀ s ∈ (step ctx w e).restores, s.uid = r.uid → s.inPhase .failed = true →
      ∃ name p, e = .restorePass name p ∧ failures (step ctx w e) = failures w + 1 ∧
        (step ctx w e).replica.status.nextScheduledRestore =
          (failureBackoffDelay (failures w + 1)).map (p.failedAt + ·)

/-- **A failure is lost**: the pass marks its restore Failed, and does not learn that it did, or is kept
    from counting it on the replica. -/
def losesFailure (ctx : Context) (w : World) : Event → Bool
  | .restorePass name p =>
    (w.restores.find? fun r => r.name == name).any (fun r => comesToFailed ctx p r w) &&
      (p.replies .patchFailed).tookEffect &&
      !((p.replies .patchFailed).isOk && !w.replicaDeleted && (p.replies .getFailedReplica).isOk &&
        (p.replies .patchFailureCount).tookEffect)
  | _ => false

/-! ## The invariant -/

/-- **What the log says about the restores that are stored.** -/
structure Counted (w : World) : Prop where
  phases : PhasesSound w
  counted : ∀ r ∈ w.restores,
    failuresOf r.uid w = if r.status.phase = some .failed then 1 else 0
  unused : ∀ uid, w.nextUid ≤ uid → failuresOf uid w = 0

namespace Counted

variable {w : World}

theorem failuresOf_same {w' : World} (h : failureLog w'.history = failureLog w.history) (uid : Nat) :
    failuresOf uid w' = failuresOf uid w := by
  rw [failuresOf, h, failuresOf]

theorem frame (h : Counted w) {w' : World} (hsame : SameRestores w w') : Counted w' where
  phases := h.phases.frame hsame.restores hsame.phaseChanges hsame.nextUid
  counted := by
    intro r hr
    rw [hsame.restores] at hr
    rw [failuresOf_same hsame.failures]
    exact h.counted r hr
  unused := by
    intro uid huid
    rw [failuresOf_same hsame.failures]
    exact h.unused uid (hsame.nextUid.trans huid)

/-- A write that leaves the restore as failed, or not failed, as it was. -/
theorem patch (h : Counted w) {name : String} {f : RestoreStatus → RestoreStatus}
    (hw : PhasesSound (w.patchRestore name f))
    (hf : ∀ r ∈ w.restores, r.name = name →
      ((f r.status).phase = some .failed ↔ r.status.phase = some .failed)) :
    Counted (w.patchRestore name f) where
  phases := hw
  counted := by
    intro r hr
    have hsame : failuresOf r.uid (w.patchRestore name f) = failuresOf r.uid w := rfl
    rw [hsame]
    rcases mem_patchRestore hr with ⟨hr, _⟩ | ⟨s, hs, hname, rfl⟩
    · exact h.counted r hr
    · simp only [hf s hs hname]
      exact h.counted s hs
  unused := h.unused

end Counted

/-- Nothing but failing a restore makes it Failed. -/
theorem Restore.Writes.not_failed {r : Restore} {s : RestoreStatus} (h : r.Writes s)
    (hs : s.phase ≠ some .failed) : r.status.phase ≠ some .failed := by
  intro hfailed
  rcases h.edge with hsame | hallowed
  · exact hs (hsame.trans hfailed)
  · exact hallowed.unsettled.2 hfailed

/-- **The count is kept through the lives of the restores**, while the replica is there or gone. -/
theorem lifelong_counted (gone : Bool) :
    Lifelong fun w => Counted w ∧ w.replicaDeleted = gone where
  about :=
    { frame := fun hsame h => ⟨h.1.frame hsame, hsame.replicaDeleted.trans h.2⟩
      patch := by
        intro w name f hf h
        refine ⟨h.1.patch (lifelong_phasesSound.about.patch hf h.1.phases) ?_, h.2⟩
        intro r _ _
        rw [(hf r.status).phase] }
  wellFormed := fun h => h.1.phases.wellFormed
  created := fun h hr => lifelong_phasesSound.created h.1.phases hr
  target := fun h hr => lifelong_phasesSound.target h.1.phases hr
  patch := by
    intro w name f hf h
    refine ⟨h.1.patch (lifelong_phasesSound.patch hf h.1.phases) ?_, h.2⟩
    intro r hr hname
    obtain ⟨hwrites, hnot⟩ := hf r hr hname
    exact iff_of_false hnot (hwrites.not_failed hnot)
  delete := by
    intro w name h
    refine ⟨⟨h.1.phases.delete name, ?_, h.1.unused⟩, h.2⟩
    intro r hr
    exact h.1.counted r (List.mem_of_mem_filter hr)
  insert := by
    intro w position mk huid hstatus hname h
    refine ⟨⟨h.1.phases.insert huid hstatus hname, ?_, ?_⟩, h.2⟩
    · intro r hr
      rcases mem_insertRestore hr with rfl | hr
      · rw [hstatus, if_neg (by simp)]
        exact h.1.unused _ huid.ge
      · exact h.1.counted r hr
    · intro uid hle
      exact h.1.unused uid ((Nat.le_succ _).trans hle)
  request := by
    intro w g hg h
    refine ⟨⟨lifelong_phasesSound.request g hg h.1.phases, ?_, h.1.unused⟩, h.2⟩
    intro r hr
    obtain ⟨s, hs, rfl⟩ := List.mem_map.mp hr
    obtain ⟨huid, _, _, hstatus⟩ := hg s
    rw [huid, hstatus]
    exact h.1.counted s hs
  mark := fun f _ h => ⟨⟨lifelong_phasesSound.mark f h.1.phases, h.1.counted, h.1.unused⟩, h.2⟩

/-! ## Failing a restore -/

section Failing

variable {p : RestorePass} {r : Restore} {w : World} {ρ : Call → Reply Error}

/-- The count is written when the replica can be read and the write takes effect, whatever it answers. -/
theorem countFailure_state (w : World) (hgone : w.replicaDeleted = false)
    (hget : (ρ .getFailedReplica).isOk = true) (hcount : (ρ .patchFailureCount).tookEffect = true) :
    (countFailure p r ρ w).state = w.recordFailure r.uid (failures w + 1) p.failedAt := by
  have hread : Prog.attempt (Op.getReplica .getFailedReplica) ρ w = .done (.ok w.replica) w := by
    have hthere : Op.getReplica .getFailedReplica ρ w =
        (Prog.read .getFailedReplica fun w => w.replica : Op Replica) ρ w := by
      show (if w.replicaDeleted = true then (Prog.fail _ : Op Replica) else
        Prog.read .getFailedReplica fun w => w.replica) ρ w = _
      rw [hgone]
      rfl
    rw [Prog.attempt, hthere, read_of_ok hget]
  have hbind : countFailure p r ρ w =
      (Prog.bestEffort (recordFailure p r w.replica) >>= fun _ => (pure () : Op Unit)) ρ w :=
    bind_of_done hread
  have hsame : ((Prog.bestEffort (recordFailure p r w.replica) >>= fun _ => (pure () : Op Unit))
      ρ w).state = (Prog.bestEffort (recordFailure p r w.replica) ρ w).state := by
    show id _ = id _
    exact Quiet.state_bind (fun _ => Quiet.ret _) _ _
  have hstate : (Prog.bestEffort (recordFailure p r w.replica) ρ w).state =
      (recordFailure p r w.replica ρ w).state := by
    unfold Prog.bestEffort
    cases recordFailure p r w.replica ρ w <;> rfl
  rw [hbind, hsame, hstate]
  have heffect := call_state (f := World.recordFailure r.uid (failures w + 1) p.failedAt)
    (c := Call.patchFailureCount) (ρ := ρ) (s := w)
  rw [if_pos hcount] at heffect
  exact heffect

/-- **A restore that is marked and counted keeps the count.** -/
theorem Counted.failed {n : Nat} {t : Timestamp} {before : RestorePhase}
    {f : RestoreStatus → RestoreStatus} (h : Counted w) (hreads : Reads r w)
    (hr : r.status.phase = some before) (hedge : isEdge (some before) (some .failed) = true)
    (hf : ∀ s, (f s).phase = some .failed) (hw : PhasesSound (w.patchRestore r.name f)) :
    Counted ((w.patchRestore r.name f).recordFailure r.uid n t) := by
  have hnot : r.status.phase ≠ some .failed := by
    intro hfailed
    rw [← hr, hfailed, not_isEdge_failed] at hedge
    cases hedge
  have hself : failuresOf r.uid ((w.patchRestore r.name f).recordFailure r.uid n t) =
      failuresOf r.uid w + 1 :=
    List.countP_cons_of_pos (by simp [Entry.isFailureOf])
  have hother : ∀ uid, uid ≠ r.uid →
      failuresOf uid ((w.patchRestore r.name f).recordFailure r.uid n t) = failuresOf uid w :=
    fun uid huid => List.countP_cons_of_neg (by simp [Entry.isFailureOf, huid.symm])
  constructor
  · exact hw.frame rfl rfl le_rfl
  · intro s hs
    rcases mem_patchRestore hs with ⟨hs, hname⟩ | ⟨u, hu, hname, rfl⟩
    · rw [hother s.uid fun huid => hname ((hreads.uid s hs).mpr huid)]
      exact h.counted s hs
    · have huid : u.uid = r.uid := (hreads.uid u hu).mp hname
      have hzero := h.counted u hu
      rw [(hreads.same u hu hname).2.phase, if_neg hnot] at hzero
      rw [if_pos (hf u.status), huid, hself, ← huid, hzero]
  · intro uid hle
    obtain ⟨u, hu, hname⟩ := hreads.stored
    have hused : u.uid < w.nextUid := (wellFormed_control.mp h.phases.wellFormed).2.2 u hu
    rw [(hreads.uid u hu).mp hname] at hused
    have hle' : w.nextUid ≤ uid := hle
    rw [hother uid (by omega)]
    exact h.unused uid hle'

/-- **Failing a restore keeps the count**, unless the failure is lost. -/
theorem Counted.failKeeps {gone : Bool}
    (hkept : (ρ .patchFailed).tookEffect = true → (ρ .patchFailed).isOk = true ∧
      gone = false ∧ (ρ .getFailedReplica).isOk = true ∧
      (ρ .patchFailureCount).tookEffect = true) :
    FailKeeps ρ (fun w => Counted w ∧ w.replicaDeleted = gone) p r := by
  intro before f hr hedge hf
  refine Leads.of_state ?_ fun _ h => h
  rintro w ⟨⟨hw, hgone⟩, hreads⟩
  by_cases heffect : (ρ .patchFailed).tookEffect = true
  · obtain ⟨hok, rfl, hget, hcount⟩ := hkept heffect
    have hlives := (lifelong_counted false).robust.toLives
    have hpatched : PhasesSound (w.patchRestore r.name fun s => { f s with phase := some .failed }) :=
      hw.phases.patch (hreads.writes_failed hr hedge fun s => (hf s).toSameLife)
    have hrun : failRestore p r f ρ w = (Op.releaseRestoreSlot >>= fun _ => countFailure p r >>=
        fun _ => Op.publishEvent "RestoreFailed" >>= fun _ => reportFailure r >>= fun _ =>
          (pure ⟨300⟩ : Op Action)) ρ
        (w.patchRestore r.name fun s => { f s with phase := some .failed }) :=
      bind_of_done (call_of_ok hok)
    rw [hrun]
    -- the slot in the queue is given back in between
    refine Keeps.state_bind (I := fun w => Counted w ∧ w.replicaDeleted = false)
      (m := countFailure p r) (fun _ => ?_) ?_
    · refine Keeps.bind (hlives.about.publishEvent _) fun _ => ?_
      exact Keeps.bind (hlives.reportFailure r) fun _ => Keeps.ret _
    · rw [countFailure_state _ (by exact hgone) hget hcount]
      refine ⟨(hw.failed (n := failures w + 1) (t := p.failedAt) hreads hr hedge (fun _ => rfl)
        hpatched).frame ?_, hgone⟩
      exact ⟨rfl, rfl, rfl, rfl, rfl, le_rfl⟩
  · have hno : (ρ .patchFailed).isOk = false := by
      cases hreply : ρ .patchFailed with
      | ok => simp [hreply] at heffect
      | _ => rfl
    have hstops := Stops.call (f := World.patchRestore r.name fun s => { f s with phase := some .failed })
      (s := w) hno
    rw [if_neg heffect] at hstops
    have hstate : (failRestore p r f ρ w).state = w := hstops.bind.state
    rw [hstate]
    exact ⟨hw, hgone⟩

end Failing

/-! ## Every run -/

section Runs

variable {ctx : Context} {w : World} {e : Event}

/-- **A pass on a restore keeps the count**, unless it loses a failure. -/
theorem Counted.reconcileRestore {name : String} {p : RestorePass} {r : Restore}
    (hC : losesFailure ctx w (.restorePass name p) = false)
    (hr : w.restores.find? (fun r => r.name == name) = some r) (h : Counted w) :
    Counted (reconcileRestore ctx p r p.replies w).state := by
  have hlifelong := lifelong_counted w.replicaDeleted
  have hmem := List.mem_of_find?_eq_some hr
  by_cases hcomes : comesToFailed ctx p r w = true
  · simp only [losesFailure, hr, Option.any_some, hcomes, Bool.true_and, Bool.and_eq_false_iff,
      Bool.not_eq_false', Bool.and_eq_true, Bool.not_eq_true'] at hC
    refine (hlifelong.reconcileRestore (Counted.failKeeps ?_) ctx ⟨h, rfl⟩ hmem).1
    intro heffect
    rcases hC with hno | ⟨⟨⟨hok, hthere⟩, hget⟩, hcount⟩
    · exact absurd heffect (by simp [hno])
    · exact ⟨hok, hthere, hget, hcount⟩
  · -- the pass is as if the mark were refused
    rw [← reconcileRestore_refusingFailed (Bool.eq_false_iff.mpr hcomes)]
    refine (hlifelong.reconcileRestore (Counted.failKeeps ?_) ctx ⟨h, rfl⟩ hmem).1
    intro heffect
    cases heffect

theorem steady_counted : Steady Counted where
  frame := fun hsame h => h.frame hsame.toSameRestores

/-- **A step keeps the count**, unless it loses a failure. -/
theorem Counted.step (hC : losesFailure ctx w e = false) (h : Counted w) : Counted (step ctx w e) := by
  have hlifelong := lifelong_counted w.replicaDeleted
  cases e with
  | restorePass name p =>
    simp only [RestoreOperator.step]
    split
    · exact h
    · rename_i r hr
      exact steady_counted.after (h.reconcileRestore hC hr)
  | replicaDeleted => exact ⟨h.phases.frame rfl rfl le_rfl, h.counted, h.unused⟩
  | _ =>
    refine (hlifelong.step ctx ?_ ?_ ⟨h, rfl⟩).1
    · intro he
      cases he
    · intro _ _ _ he
      cases he

/-- **A failure that was logged is the one in the status**: one more than the replica had, and the next
    attempt is scheduled by its backoff. -/
def CountedUp (w₀ : World) (e : Event) (a : Control) : Prop :=
  Adds (fun entry => entry.isFailure = true →
    ∃ name p, e = .restorePass name p ∧ a.failures = failures w₀ + 1 ∧
      a.next = (failureBackoffDelay (failures w₀ + 1)).map (p.failedAt + ·)) w₀ a

theorem RestoreAct.countedUp {name : String} {p : RestorePass} {r : Restore} {a a' : Control}
    (h : RestoreAct p w r a a')
    (hfailures : a.history = w.history → a.failures = RestoreOperator.failures w)
    (ha : CountedUp w (.restorePass name p) a) : CountedUp w (.restorePass name p) a' := by
  cases h with
  | failureRecorded _ hlog =>
    refine (Adds.none hlog).cons (e := .failureRecorded r.uid (a.failures + 1) p.failedAt) ?_ rfl
    intro _
    rw [← hfailures hlog]
    exact ⟨name, p, rfl, rfl, rfl⟩
  | switching => exact ha.cons (e := .enteredSwitching r.uid) (fun h => nomatch h) rfl
  | reported => exact ha.cons (e := .reported r.uid .failure) (fun h => nomatch h) rfl
  | _ => exact ha

theorem countedUp_of_acts {a : Control} (h : ReflTransGen (Act ctx w e) (control w) a) :
    CountedUp w e a := by
  induction h with
  | refl => exact .none rfl
  | tail hreach h ih =>
    cases h with
    | replica h =>
      refine adds_of_acts ?_ ?_ (hreach.tail (.replica h))
      · intro entry hnot _ hfailure
        cases entry with
        | failureRecorded u n t => exact absurd rfl (hnot u n t)
        | _ => cases hfailure
      · intro _ j hfailure
        cases hfailure
    | restore hr h => exact h.countedUp (failures_of_acts hreach) ih
    | _ => exact ih

/-- **A restore that fails in a step was counted in it**, unless the failure is lost. -/
theorem Counted.countsFailure (hC : losesFailure ctx w e = false) (h : Counted w) :
    CountsFailure ctx w e := by
  intro r hr hnot s hs huid hfailed
  simp only [Restore.inPhase, beq_iff_eq, beq_eq_false_iff_ne] at hnot hfailed
  have hbefore : failuresOf r.uid w = 0 := by
    rw [h.counted r hr, if_neg hnot]
  have hafter : failuresOf r.uid (RestoreOperator.step ctx w e) = 1 := by
    rw [← huid, (h.step hC).counted s hs, if_pos hfailed]
  obtain ⟨new, hnew, hP⟩ := countedUp_of_acts (step_acts ctx w e)
  have hhistory : (RestoreOperator.step ctx w e).history = new ++ w.history := hnew
  -- so one of the entries that are new is a failure
  have hone : 0 < (failureLog new).countP (Entry.isFailureOf r.uid) := by
    have hsum : failuresOf r.uid (RestoreOperator.step ctx w e) =
        (failureLog new).countP (Entry.isFailureOf r.uid) + failuresOf r.uid w := by
      simp only [failuresOf, failureLog, hhistory, List.filter_append, List.countP_append]
    omega
  obtain ⟨entry, hmem, _⟩ := List.countP_pos_iff.mp hone
  obtain ⟨hnew, hfailure⟩ := List.mem_filter.mp hmem
  exact hP entry hnew hfailure

theorem Counted.failedCountedOnce (h : Counted w) : FailedCountedOnce w := by
  intro r hr hfailed
  rw [h.counted r hr, if_pos (beq_iff_eq.mp hfailed)]

end Runs

/-- **A restore that is stored as Failed was counted exactly once, and its failure backed off**, in every
    run in which no failure is lost. -/
theorem failed_restore_counted_once {ctx : Context} (key : ReplicaKey) (spec : ReplicaSpec)
    {es : List Event} (hes : Meets (step ctx) (fun w e => losesFailure ctx w e = false)
      (World.initial key spec) es) :
    FailedCountedOnce (run ctx (World.initial key spec) es) ∧
      Meets (step ctx) (CountsFailure ctx) (World.initial key spec) es := by
  have hinitial : Counted (World.initial key spec) :=
    ⟨phasesSound_initial key spec, (fun _ hr => nomatch hr), fun _ _ => rfl⟩
  refine ⟨Counted.failedCountedOnce ?_, ?_⟩
  · exact run_invariant (fun _ _ hC h => h.step hC) hinitial hes
  · exact Meets.of_invariant (I := Counted) (fun _ _ hC h => h.step hC)
      (fun _ _ hC h => h.countsFailure hC) hinitial hes

/-! ## A failure that is not counted -/

theorem failed_restore_counted :
    failuresOf 1 (run .hourly (World.initial ⟨"ns", "r"⟩ plainSpec)
        (listSnapshots 0 "a" ++ bringDown "r-10" 40)) = 1 ∧
      FailedCountedOnce (run .hourly (World.initial ⟨"ns", "r"⟩ plainSpec)
        (listSnapshots 0 "a" ++ bringDown "r-10" 40)) :=
  ⟨by decide +kernel, (failed_restore_counted_once ⟨"ns", "r"⟩ plainSpec (by decide +kernel)).1⟩

/-- The replica cannot be read when the restore fails. -/
def replicaUnread : Call → Reply Error
  | .getFailedReplica => .refused (.kube "timeout")
  | _ => .ok

/-- The Job of a restore fails, the pass that sees it is kept from counting it, and the pass that is retried
    finds the restore Failed. -/
def failedUncounted : List Event :=
  listSnapshots 0 "a" ++ (bringDown "r-10" 40).dropLast ++
    [.restorePass "r-10" { now := 40, replies := replicaUnread }, .restorePass "r-10" { now := 340 }]

/-- **A restore is Failed and was never counted**: no backoff holds the next attempt back, and the pass
    that follows lists the snapshots at once. -/
theorem failure_never_counted :
    ¬ FailedCountedOnce (run .hourly (World.initial ⟨"ns", "r"⟩ plainSpec) failedUncounted) ∧
      failures (run .hourly (World.initial ⟨"ns", "r"⟩ plainSpec) failedUncounted) = 0 ∧
      (run .hourly (World.initial ⟨"ns", "r"⟩ plainSpec)
        (failedUncounted ++ [.replicaPass { now := 341 }])).history.head? =
          some (.snapshotJobCreated 3) := by
  refine ⟨?_, by decide +kernel, by decide +kernel⟩
  intro h
  have hwrong : (run .hourly (World.initial ⟨"ns", "r"⟩ plainSpec) failedUncounted).restores.any
      (fun r => r.inPhase .failed && failuresOf r.uid
        (run .hourly (World.initial ⟨"ns", "r"⟩ plainSpec) failedUncounted) = 0) = true := by
    decide +kernel
  obtain ⟨r, hr, hfailed⟩ := List.any_eq_true.mp hwrong
  rw [Bool.and_eq_true, decide_eq_true_eq] at hfailed
  have hone := h r hr hfailed.1
  omega

end RestoreOperator
