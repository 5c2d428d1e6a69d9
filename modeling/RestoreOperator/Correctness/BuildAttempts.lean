import RestoreOperator.Correctness.PhaseMachine

/-!
# `Correctness.BuildAttempts` — the rounds of a build

A build goes round again when it could not be set up, when what it posted was lost, and when canopy did not
take it in.  Three functions count these on one field of the restore's status, each with a comparison of its
own.  Every round that came to nothing is in the records: the field is their number for as long as no result
is recorded, and the round that reaches the limit records one.
-/

namespace RestoreOperator

open Calls Calls.Prog

/-! ## What is counted -/

/-- The record of a round of the restore's build that came to nothing. -/
def Record.isRoundOf (uid : Nat) : Record → Bool
  | .buildRoundFailed u => u == uid
  | _ => false

/-- How many rounds of the restore's build came to nothing: a setup that failed, a schema that was lost, a
    registration that failed. -/
def roundsOf (uid : Nat) (w : World) : Nat :=
  w.records.countP (Record.isRoundOf uid)

/-- **The API server takes what a build writes** to the status of its restore, whatever it answers. -/
def recordsBuilds : Event → Bool
  | .replicaPass p => (p.replies .buildRecord).tookEffect && (p.replies .buildRecordAttempt).tookEffect
  | _ => true

/-- The status has the number of the rounds, and there is one left. -/
def Restore.Counts (w : World) (r : Restore) : Prop :=
  r.status.schemaBuildResult = none →
    attemptsSoFar r = roundsOf r.uid w ∧ attemptsSoFar r < buildAttempts

/-- **The rounds of every build are counted.** -/
structure Rounds (w : World) : Prop where
  counted : ∀ r ∈ w.restores, r.Counts w
  bounded : ∀ uid, (roundsOf uid w : Int) ≤ buildAttempts
  unused : ∀ uid, w.nextUid ≤ uid → roundsOf uid w = 0

theorem roundsOf_record_self (uid : Nat) (w : World) :
    roundsOf uid (w.record (.buildRoundFailed uid)) = roundsOf uid w + 1 :=
  List.countP_cons_of_pos (by simp [Record.isRoundOf])

theorem roundsOf_record_other {uid : Nat} {e : Record} (h : e.isRoundOf uid = false) (w : World) :
    roundsOf uid (w.record e) = roundsOf uid w :=
  List.countP_cons_of_neg (by simp [h])

theorem attemptsSoFar_eq {r s : Restore} (h : r.status.recorded = s.status.recorded) :
    attemptsSoFar r = attemptsSoFar s := by
  have hattempts : r.status.schemaBuildAttempts = s.status.schemaBuildAttempts :=
    congrArg (fun t => t.2.1) h
  rw [attemptsSoFar, hattempts, attemptsSoFar]

theorem schemaBuildResult_eq {s t : RestoreStatus} (h : s.recorded = t.recorded) :
    s.schemaBuildResult = t.schemaBuildResult :=
  congrArg (fun t => t.2.2) h

theorem Restore.Counts.same {w : World} {r s : Restore} (h : s.Counts w) (huid : r.uid = s.uid)
    (hrecorded : r.status.recorded = s.status.recorded) : r.Counts w := by
  intro hnone
  rw [attemptsSoFar_eq hrecorded, huid]
  exact h ((schemaBuildResult_eq hrecorded).symm.trans hnone)

namespace Rounds

variable {w w' : World}

theorem frame (h : Rounds w) (hrestores : w'.restores = w.restores)
    (hrounds : ∀ uid, roundsOf uid w' = roundsOf uid w) (huid : w.nextUid ≤ w'.nextUid) : Rounds w' where
  counted := by
    intro r hr hnone
    rw [hrestores] at hr
    rw [hrounds]
    exact h.counted r hr hnone
  bounded := by
    intro uid
    rw [hrounds]
    exact h.bounded uid
  unused := by
    intro uid hle
    rw [hrounds]
    exact h.unused uid (huid.trans hle)

/-- A change of the restores beside what their builds record. -/
theorem restores (h : Rounds w) (restores : List Restore)
    (hr : ∀ r ∈ restores, ∃ s ∈ w.restores,
      r.uid = s.uid ∧ r.status.recorded = s.status.recorded) :
    Rounds { w with restores := restores } where
  counted := by
    intro r hmem
    obtain ⟨s, hs, huid, hrecorded⟩ := hr r hmem
    exact (h.counted s hs).same huid hrecorded
  bounded := h.bounded
  unused := h.unused

end Rounds

/-- **The count is kept through the lives of the restores.** -/
theorem beside_rounds : Beside Rounds where
  frame := by
    intro w w' hsame h
    refine h.frame hsame.restores (fun uid => ?_) hsame.nextUid
    rw [roundsOf, hsame.records, roundsOf]
  patch := by
    intro w name f _ hf h
    refine (h.restores (w.patchRestore name f).restores ?_).frame rfl (fun _ => rfl) le_rfl
    intro r hr
    rcases mem_patchRestore hr with ⟨hr, _⟩ | ⟨s, hs, hname, rfl⟩
    · exact ⟨r, hr, rfl, rfl⟩
    · exact ⟨s, hs, rfl, (hf s hs hname).2⟩
  count := fun _ _ _ _ h => h.frame rfl (fun _ => rfl) le_rfl
  reported := fun h _ => h.frame rfl (fun _ => roundsOf_record_other rfl _) le_rfl
  status := fun _ _ h => h.frame rfl (fun _ => rfl) le_rfl
  delete := fun _ h => h.restores _ fun r hr => ⟨r, List.mem_of_mem_filter hr, rfl, rfl⟩
  insert := by
    intro w position mk huid hstatus _ h
    refine ⟨?_, h.bounded, fun uid hle => h.unused uid ((Nat.le_succ _).trans hle)⟩
    intro r hr
    rcases mem_insertRestore hr with rfl | hr
    · intro _
      have hzero : attemptsSoFar (mk w.nextUid) = 0 := by
        rw [attemptsSoFar, hstatus]
        rfl
      have hrounds : roundsOf (mk w.nextUid).uid w = 0 := h.unused _ huid.ge
      refine ⟨?_, by rw [hzero]; decide⟩
      show attemptsSoFar (mk w.nextUid) = roundsOf (mk w.nextUid).uid w
      rw [hzero, hrounds]
      rfl
    · exact h.counted r hr
  request := by
    intro w g hg h
    refine h.restores _ fun r hr => ?_
    obtain ⟨s, hs, rfl⟩ := List.mem_map.mp hr
    obtain ⟨huid, _, _, hstatus⟩ := hg s
    exact ⟨s, hs, huid, by rw [hstatus]⟩

/-- What is kept of the builds. -/
abbrev BuildsCounted (w : World) : Prop := PhasesSound w ∧ Rounds w

/-! ## A round of a build -/

/-- **What holds in a round** of the restore's build: every other build is counted. -/
structure OthersCounted (r : Restore) (w : World) : Prop where
  phases : PhasesSound w
  reads : Reads r w
  since : Since BuildsCounted r w
  counted : ∀ s ∈ w.restores, s.name ≠ r.name → s.Counts w
  bounded : ∀ uid, (roundsOf uid w : Int) ≤ buildAttempts
  unused : ∀ uid, w.nextUid ≤ uid → roundsOf uid w = 0

/-- **A round came to nothing**, and the status does not say so yet. -/
structure Owed (r : Restore) (w : World) : Prop extends OthersCounted r w where
  own : attemptsSoFar r + 1 = roundsOf r.uid w

theorem Carried.othersCounted {r : Restore} {w : World} (h : Carried BuildsCounted r w) :
    OthersCounted r w where
  phases := h.1.1.1
  reads := h.1.2
  since := h.2
  counted := fun s hs _ => h.1.1.2.counted s hs
  bounded := h.1.1.2.bounded
  unused := h.1.1.2.unused

/-- The round that came to nothing is one of the restore that was read. -/
theorem Exact.owed {r : Restore} {w : World} (h : Exact BuildsCounted r w)
    (hnone : r.status.schemaBuildResult = none) : Owed r (w.record (.buildRoundFailed r.uid)) := by
  obtain ⟨⟨⟨⟨hphases, hrounds⟩, hreads⟩, hsince⟩, hrecorded⟩ := h
  obtain ⟨u, hu, hname⟩ := hreads.stored
  have huid : u.uid = r.uid := (hreads.uid u hu).mp hname
  have hsame := hrecorded u hu hname
  obtain ⟨hcount, hroom⟩ := hrounds.counted u hu ((schemaBuildResult_eq hsame).trans hnone)
  rw [attemptsSoFar_eq hsame] at hcount hroom
  rw [huid] at hcount
  have hother : ∀ uid, uid ≠ r.uid →
      roundsOf uid (w.record (.buildRoundFailed r.uid)) = roundsOf uid w :=
    fun uid hne => roundsOf_record_other (by simp [Record.isRoundOf, hne.symm]) w
  refine ⟨⟨hphases.frame rfl rfl le_rfl, hreads.frame rfl, hsince, ?_, ?_, ?_⟩, ?_⟩
  · intro s hs hne hresult
    rw [hother s.uid fun h => hne ((hreads.uid s hs).mpr h)]
    exact hrounds.counted s hs hresult
  · intro uid
    by_cases hown : uid = r.uid
    · rw [hown, roundsOf_record_self]
      omega
    · rw [hother uid hown]
      exact hrounds.bounded uid
  · intro uid hle
    have hused : u.uid < w.nextUid := (wellFormed_control.mp hphases.wellFormed).2.2 u hu
    have hle' : w.nextUid ≤ uid := hle
    rw [hother uid (by omega)]
    exact hrounds.unused uid hle'
  · rw [roundsOf_record_self, hcount]
    rfl

/-- A write to the restore ends its round, where it is counted as it then stands. -/
theorem OthersCounted.patch {r : Restore} {w : World} (h : OthersCounted r w)
    {f : RestoreStatus → RestoreStatus} (hlife : ∀ s, SameLife s (f s))
    (hown : ∀ u ∈ w.restores, u.uid = r.uid → ({ u with status := f u.status } : Restore).Counts w) :
    Carried BuildsCounted r (w.patchRestore r.name f) := by
  refine ⟨⟨⟨lifelong_phasesSound.about.patch hlife h.phases, ?_, h.bounded, h.unused⟩,
    h.reads.write hlife⟩, h.since⟩
  intro s hs
  rcases mem_patchRestore hs with ⟨hs, hne⟩ | ⟨u, hu, hname, rfl⟩
  · exact h.counted s hs hne
  · exact hown u hu ((h.reads.uid u hu).mp hname)

/-- **The attempt is recorded**, as long as there is one left. -/
theorem Owed.attempted {r : Restore} {w : World} (h : Owed r w)
    (hroom : attemptsSoFar r + 1 < buildAttempts) :
    Carried BuildsCounted r
      (w.patchRestore r.name fun s => { s with schemaBuildAttempts := some (attemptsSoFar r + 1) }) := by
  refine h.patch (fun _ => .of_eq rfl) fun u _ huid _ => ⟨?_, hroom⟩
  show attemptsSoFar r + 1 = roundsOf u.uid w
  rw [huid]
  exact h.own

/-- **The result is recorded**, and no round counts any more. -/
theorem OthersCounted.settled {r : Restore} {w : World} (h : OthersCounted r w)
    (jobName : Option String) (result : SchemaBuildResult) :
    Carried BuildsCounted r (w.patchRestore r.name fun s =>
      { s with schemaBuildJob := jobName, schemaBuildResult := some result }) := by
  refine h.patch (fun _ => ⟨rfl, rfl, rfl, id, fun _ => rfl⟩) fun _ _ _ hnone => ?_
  cases hnone

/-! ## A call of the gate -/

section Call

variable {ρ : Call → Reply Error} {ctx : Context} {p : ReplicaPass} {replica : Replica} {r : Restore}
  (hrecord : (ρ .buildRecord).tookEffect = true) (hattempt : (ρ .buildRecordAttempt).tookEffect = true)
  (hnone : r.status.schemaBuildResult = none)

theorem aboutRecords_buildsCounted : AboutRecords BuildsCounted := beside_rounds.robust.about

theorem Carried.counted {w : World} (h : Carried BuildsCounted r w) : BuildsCounted w := h.1.1

theorem Exact.counted {w : World} (h : Exact BuildsCounted r w) : BuildsCounted w := h.1.1.1

include hrecord in
theorem leads_recordSchemaBuild {I : World → Prop} (hI : ∀ w, I w → OthersCounted r w)
    (jobName : Option String) (result : SchemaBuildResult) :
    Leads ρ I (Carried BuildsCounted r) BuildsCounted (recordSchemaBuild r jobName result) :=
  Leads.call_tookEffect hrecord (fun w h => (hI w h).settled jobName result) fun _ h => h.counted

include hattempt in
theorem leads_recordBuildAttempt (hroom : attemptsSoFar r + 1 < buildAttempts) :
    Leads ρ (Owed r) (Carried BuildsCounted r) BuildsCounted
      (recordBuildAttempt r (attemptsSoFar r + 1)) :=
  Leads.call_tookEffect hattempt (fun _ h => h.attempted hroom) fun _ h => h.counted

include hrecord in
theorem leads_settleFailed {I : World → Prop} (hI : ∀ w, I w → OthersCounted r w) (error : String) :
    Leads ρ I (Carried BuildsCounted r) BuildsCounted (settleFailed r error) :=
  Leads.bind (leads_recordSchemaBuild hrecord hI _ _) fun _ =>
    Leads.ret (fun _ h => h) fun _ h => h.counted

include hrecord in
/-- The result is recorded, or was before its answer was lost. -/
theorem leads_settle {I : World → Prop} (hI : ∀ w, I w → OthersCounted r w) (sql : String) (elapsed : Int)
    (registration : Option String) (registered : List String) :
    Leads ρ I (Carried BuildsCounted r) BuildsCounted
      (finishBuild.settle replica r sql elapsed registration registered) := by
  have hcarried := aboutRecords_buildsCounted.carried r
  refine Leads.bind (Q := Carried BuildsCounted r) ?_ fun recorded => ?_
  · refine Leads.of_state (fun w h => ?_) fun _ h => h.counted
    rw [attempt_state, recordSchemaBuild, Op.patchRestore, call_state, if_pos hrecord]
    exact (hI w h).settled _ _
  refine Leads.of_keeps ?_ fun _ h => h.counted
  cases recorded with
  | error err => exact Keeps.bind (hcarried.keepSchema _) fun _ => Keeps.fail _
  | ok _ => exact Keeps.bind hcarried.deleteBuildJob fun _ => Keeps.ret _

include hrecord in
theorem leads_failBuild (job : Job) :
    Leads ρ (Exact BuildsCounted r) (Carried BuildsCounted r) BuildsCounted
      (failBuild p replica r job) := by
  have hI := aboutRecords_buildsCounted.exact r
  have hcarried := aboutRecords_buildsCounted.carried r
  refine Leads.keeps_bind (Keeps.bestEffort (hI.touch _)) (fun _ h => h.counted) fun _ => ?_
  refine Leads.keeps_bind (Keeps.bestEffort (hI.touch _)) (fun _ h => h.counted) fun _ => ?_
  refine Leads.bind (leads_recordSchemaBuild hrecord (fun _ h => h.1.othersCounted) _ _) fun _ => ?_
  refine Leads.of_keeps (Keeps.bind hcarried.takeSchema fun _ => ?_) fun _ h => h.counted
  exact Keeps.bind hcarried.deleteBuildJob fun _ => Keeps.ret _

include hrecord hattempt hnone

/-- **A setup that failed** is a round. -/
theorem leads_retryOrSettle (err : Error) :
    Leads ρ (Exact BuildsCounted r) (Carried BuildsCounted r) BuildsCounted (retryOrSettle r err) := by
  refine Leads.modify_bind (Q := Owed r) (fun _ h => h.owed hnone) ?_
  split
  · exact leads_settleFailed hrecord (fun _ h => h.toOthersCounted) _
  · rename_i hroom
    refine Leads.bind (leads_recordBuildAttempt hattempt (by omega)) fun _ => ?_
    exact Leads.ret (fun _ h => h) fun _ h => h.counted

theorem leads_startBuild :
    Leads ρ (Exact BuildsCounted r) (Carried BuildsCounted r) BuildsCounted (startBuild ctx p r) := by
  have hI := aboutRecords_buildsCounted.exact r
  refine Leads.keeps_bind hI.takeSchema (fun _ h => h.counted) fun _ => ?_
  refine Leads.keeps_bind (Keeps.attempt (hI.touch _)) (fun _ h => h.counted) fun discovered => ?_
  cases discovered with
  | error err => exact leads_retryOrSettle hrecord hattempt hnone err
  | ok _ =>
  refine Leads.keeps_bind (Keeps.attempt (Keeps.when fun _ => hI.touch _)) (fun _ h => h.counted)
    fun secret => ?_
  cases secret with
  | error err => exact leads_retryOrSettle hrecord hattempt hnone err
  | ok _ =>
  refine Leads.ends ?_ (fun _ h => h.1) fun _ h => h.counted
  refine Keeps.bind Keeps.get fun w => ?_
  split
  · exact Keeps.ret _
  · exact Keeps.bind (hI.createJob fun _ => ⟨rfl, rfl⟩) fun _ => Keeps.ret _

/-- **A build Job that exited zero**: what it posted may be lost, or not be taken in. -/
theorem leads_finishBuild (job : Job) :
    Leads ρ (Exact BuildsCounted r) (Carried BuildsCounted r) BuildsCounted
      (finishBuild ctx p replica r job) := by
  have hI := aboutRecords_buildsCounted.exact r
  have hcarried := aboutRecords_buildsCounted.carried r
  have hdelete : Leads ρ (Carried BuildsCounted r) (Carried BuildsCounted r) BuildsCounted
      (deleteBuildJob >>= fun _ => (pure false : Op Bool)) :=
    Leads.of_keeps (Keeps.bind hcarried.deleteBuildJob fun _ => Keeps.ret _) fun _ h => h.counted
  refine Leads.keeps_bind hI.takeSchema (fun _ h => h.counted) fun schema => ?_
  cases schema with
  | none =>
    dsimp only
    split
    · rename_i hrebuild
      simp only [Bool.and_eq_true, decide_eq_true_eq] at hrebuild
      refine Leads.modify_bind (Q := Owed r) (fun _ h => h.owed hnone) ?_
      exact Leads.bind (leads_recordBuildAttempt hattempt hrebuild.2) fun _ => hdelete
    · exact Leads.bind (leads_recordSchemaBuild hrecord (fun _ h => h.1.othersCounted) _ _)
        fun _ => hdelete
  | some sql =>
    refine Leads.keeps_bind ?_ (fun _ h => h.counted) fun registration => ?_
    · unfold registerReportingSchema
      split
      · refine Keeps.bind (Keeps.modify fun w h => ?_) fun _ => ?_
        · obtain ⟨⟨⟨⟨hphases, hrounds⟩, hreads⟩, hsince⟩, hrecorded⟩ := h
          have hsame : Rounds (w.record (.schemaRegistered r (runIdFromStatus r))) :=
            hrounds.frame rfl (fun _ => roundsOf_record_other rfl _) le_rfl
          exact ⟨⟨⟨⟨hphases.frame rfl rfl le_rfl, hsame⟩, hreads.frame rfl⟩, hsince⟩, hrecorded⟩
        · exact Keeps.bind (Keeps.attempt (Keeps.ask _ _)) fun _ => Keeps.ret _
      · exact Keeps.ret _
    dsimp only
    split
    · refine Leads.modify_bind (Q := Owed r) (fun _ h => h.owed hnone) ?_
      split
      · rename_i hroom
        refine Leads.modify_bind (Q := Owed r) (fun w h => ?_) ?_
        · exact ⟨⟨h.phases.frame rfl rfl le_rfl, h.reads.frame rfl, h.since, h.counted, h.bounded, h.unused⟩,
            h.own⟩
        · refine Leads.bind (leads_recordBuildAttempt hattempt hroom) fun _ => ?_
          exact Leads.ret (fun _ h => h) fun _ h => h.counted
      · exact leads_settle hrecord (fun _ h => h.toOthersCounted) _ _ _ _
    · exact leads_settle hrecord (fun _ h => h.1.othersCounted) _ _ _ _
    · exact leads_settle hrecord (fun _ h => h.1.othersCounted) _ _ _ _

end Call

/-- A restore with a result is settled. -/
theorem buildToDo_settled {replica : Replica} {r : Restore}
    (h : r.status.schemaBuildResult.isSome = true) : buildToDo replica r = .settled := by
  unfold buildToDo
  rw [if_pos h]

/-- **A call of the gate keeps the count**, where the API server takes what it writes. -/
theorem rounds_buildKeeps {ρ : Call → Reply Error} {ctx : Context} {p : ReplicaPass} {replica : Replica}
    {r : Restore} (hrecord : (ρ .buildRecord).tookEffect = true)
    (hattempt : (ρ .buildRecordAttempt).tookEffect = true) :
    BuildKeeps ρ BuildsCounted ctx p replica r := by
  have hI := aboutRecords_buildsCounted.exact r
  have hstay : ∀ {m : Op Bool}, Keeps (Exact BuildsCounted r) m →
      Leads ρ (Exact BuildsCounted r) (Carried BuildsCounted r) BuildsCounted m :=
    fun hm => Leads.ends hm (fun _ h => h.1) fun _ h => h.counted
  unfold BuildKeeps reconcileSchemaBuild
  by_cases hsettled : r.status.schemaBuildResult.isSome = true
  · rw [buildToDo_settled hsettled]
    exact hstay (Keeps.bind hI.takeSchema fun _ => Keeps.ret _)
  rw [Option.not_isSome_iff_eq_none] at hsettled
  have hfailed := fun error =>
    leads_settleFailed hrecord (r := r) (I := Exact BuildsCounted r) (fun _ h => h.1.othersCounted) error
  split
  · exact hstay (Keeps.ret _)
  · exact hfailed _
  · exact hfailed _
  · exact hfailed _
  · exact hstay (Keeps.bind hI.takeSchema fun _ => Keeps.ret _)
  · exact hstay (Keeps.ret _)
  · refine Leads.keeps_bind (Keeps.read _ _) (fun _ h => h.counted) fun job => ?_
    cases job with
    | none => exact leads_startBuild hrecord hattempt hsettled
    | some job =>
      dsimp only
      split
      · exact hstay (Keeps.ret _)
      split
      · exact hstay (Keeps.ret _)
      · exact leads_finishBuild hrecord hattempt hsettled job
      · exact leads_failBuild hrecord job

/-! ## A result that is recorded -/

/-- **The result is recorded** on the restore, if it is stored. -/
def ResultRecorded (uid : Nat) (result : SchemaBuildResult) (w : World) : Prop :=
  uid < w.nextUid ∧ ∀ r ∈ w.restores, r.uid = uid → r.status.schemaBuildResult = some result

section Result

variable {uid : Nat} {result : SchemaBuildResult} {w : World}

/-- A change of the restores that leaves their results. -/
theorem ResultRecorded.restores (h : ResultRecorded uid result w) (restores : List Restore)
    (hr : ∀ r ∈ restores, r.uid = uid →
      ∃ s ∈ w.restores, s.uid = uid ∧ r.status.schemaBuildResult = s.status.schemaBuildResult) :
    ResultRecorded uid result { w with restores := restores } := by
  refine ⟨h.1, fun r hmem huid => ?_⟩
  obtain ⟨s, hs, hsame, hresult⟩ := hr r hmem huid
  exact hresult.trans (h.2 s hs hsame)

theorem ResultRecorded.patch (h : ResultRecorded uid result w) {name : String}
    {f : RestoreStatus → RestoreStatus}
    (hf : ∀ r ∈ w.restores, r.name = name → r.uid = uid →
      (f r.status).schemaBuildResult = r.status.schemaBuildResult) :
    ResultRecorded uid result (w.patchRestore name f) := by
  refine h.restores (w.patchRestore name f).restores fun r hr huid => ?_
  rcases mem_patchRestore hr with ⟨hr, _⟩ | ⟨s, hs, hname, rfl⟩
  · exact ⟨r, hr, huid, rfl⟩
  · exact ⟨s, hs, huid, hf s hs hname huid⟩

/-- **A result that is recorded is kept through the lives of the restores.** -/
theorem beside_resultRecorded : Beside (ResultRecorded uid result) where
  frame := by
    intro w w' hsame h
    refine ⟨h.1.trans_le hsame.nextUid, ?_⟩
    rw [hsame.restores]
    exact h.2
  patch := by
    intro w name f _ hf h
    exact h.patch fun s hs hname _ => schemaBuildResult_eq (hf s hs hname).2
  count := fun _ _ _ _ h => h
  reported := fun h _ => h
  status := fun _ _ h => h
  delete := fun _ h => h.restores _ fun r hr huid => ⟨r, List.mem_of_mem_filter hr, huid, rfl⟩
  insert := by
    intro w position mk hnew _ _ h
    refine ⟨h.1.trans (Nat.lt_succ_self _), fun r hr huid => ?_⟩
    rcases mem_insertRestore hr with rfl | hr
    · have hlt := h.1
      omega
    · exact h.2 r hr huid
  request := by
    intro w g hg h
    refine h.restores _ fun r hr huid => ?_
    obtain ⟨s, hs, rfl⟩ := List.mem_map.mp hr
    exact ⟨s, hs, (hg s).1.symm.trans huid, by rw [(hg s).2.2.2]⟩

/-- **A call of the gate does not write over a result**: with one it has nothing to build, and on another
    restore it writes elsewhere. -/
theorem resultRecorded_buildKeeps {ρ : Call → Reply Error} {ctx : Context} {p : ReplicaPass}
    {replica : Replica} {r : Restore} :
    BuildKeeps ρ (fun w => PhasesSound w ∧ ResultRecorded uid result w) ctx p replica r := by
  have hbeside : Beside (ResultRecorded uid result) := beside_resultRecorded
  have hrobust := hbeside.robust
  have hI := hrobust.about.exact r
  by_cases hsettled : r.status.schemaBuildResult.isSome = true
  · unfold BuildKeeps reconcileSchemaBuild
    rw [buildToDo_settled hsettled]
    refine Leads.ends ?_ (fun _ h => h.1) fun _ h => h.1.1.1
    exact Keeps.bind hI.takeSchema fun _ => Keeps.ret _
  -- the restore that is built is another one
  let Other (w : World) : Prop :=
    Carried (fun w => PhasesSound w ∧ ResultRecorded uid result w) r w ∧ r.uid ≠ uid
  have hB : AboutBuild r Other :=
    { frame := fun hsame h => ⟨(hrobust.about.carried r).frame hsame h.1, h.2⟩
      patch := fun hf h => ⟨(hrobust.about.carried r).patch hf h.1, h.2⟩
      write := by
        rintro w f hf ⟨⟨⟨⟨hphases, hresult⟩, hreads⟩, hsince⟩, hother⟩
        refine ⟨⟨⟨⟨lifelong_phasesSound.about.patch (fun s => (hf s).1) hphases, ?_⟩,
          hreads.write fun s => (hf s).1⟩, hsince⟩, hother⟩
        refine hresult.patch fun s hs hname huid => ?_
        exact absurd (((hreads.uid s hs).mp hname).symm.trans huid) hother
      failed := fun h =>
        ⟨⟨⟨⟨h.1.1.1.1.frame rfl rfl le_rfl, h.1.1.1.2⟩, h.1.1.2.frame rfl⟩, h.1.2⟩, h.2⟩
      registered := fun h =>
        ⟨⟨⟨⟨h.1.1.1.1.frame rfl rfl le_rfl, h.1.1.1.2⟩, h.1.1.2.frame rfl⟩, h.1.2⟩, h.2⟩ }
  have hkeeps := Leads.of_keeps (ρ := ρ) (hB.reconcileSchemaBuild ctx p replica) fun _ h => h.1.1.1
  refine (hkeeps.mono fun _ h => h.1).weaken ?_
  rintro w ⟨hcarried, hrecorded⟩
  refine ⟨hcarried, fun huid => hsettled ?_⟩
  obtain ⟨⟨⟨_, hresult⟩, hreads⟩, _⟩ := hcarried
  obtain ⟨s, hs, hname⟩ := hreads.stored
  have hstored := hresult.2 s hs (((hreads.uid s hs).mp hname).trans huid)
  rw [← schemaBuildResult_eq (hrecorded s hs hname), hstored]
  rfl

/-- **A recorded result stays as it is**, whatever happens. -/
theorem ResultRecorded.step {ctx : Context} {e : Event}
    (h : PhasesSound w ∧ ResultRecorded uid result w) :
    PhasesSound (step ctx w e) ∧ ResultRecorded uid result (step ctx w e) := by
  have hbeside : Beside (ResultRecorded uid result) := beside_resultRecorded
  refine hbeside.robust.step ctx ?_ ?_ ?_ ?_ ?_ h
  · exact fun _ h => ⟨h.1.frame rfl rfl le_rfl, h.2⟩
  · exact fun _ _ h => ⟨h.1.frame rfl rfl le_rfl, h.2⟩
  · exact fun _ p r _ _ => hbeside.failKeeps _ p r
  · intro _ p r _ _
    refine StartKeeps.of_keeps (hbeside.robust.about.startRestoreJob ?_ ?_)
    · rintro w₁ ⟨hphases, hresult⟩
      refine ⟨?_, hresult.patch fun _ _ _ _ => rfl⟩
      exact lifelong_phasesSound.about.patch (fun _ => .of_eq rfl) hphases
    · rintro w₁ runId ⟨hphases, hresult⟩
      exact ⟨hphases.frame rfl rfl (Nat.le_succ _), hresult.1.trans (Nat.lt_succ_self _), hresult.2⟩
  · exact fun p r _ => resultRecorded_buildKeeps

end Result

/-! ## Every run -/

/-- **A step keeps the count**, where the API server takes what a build writes. -/
theorem BuildsCounted.step {ctx : Context} {w : World} {e : Event} (hC : recordsBuilds e = true)
    (h : BuildsCounted w) : BuildsCounted (step ctx w e) := by
  refine beside_rounds.robust.step ctx ?_ ?_ ?_ ?_ ?_ h
  · exact fun _ h => ⟨h.1.frame rfl rfl le_rfl, h.2.frame rfl (fun _ => rfl) le_rfl⟩
  · exact fun _ _ h => ⟨h.1.frame rfl rfl le_rfl, h.2.frame rfl (fun _ => rfl) le_rfl⟩
  · exact fun _ p r _ _ => beside_rounds.failKeeps _ p r
  · intro _ p r _ _
    refine StartKeeps.of_keeps (aboutRecords_buildsCounted.startRestoreJob ?_ ?_)
    · rintro w₁ ⟨hphases, hrounds⟩
      refine ⟨lifelong_phasesSound.about.patch (fun _ => .of_eq rfl) hphases, ?_,
        hrounds.bounded, hrounds.unused⟩
      intro s hs
      rcases mem_patchRestore hs with ⟨hs, _⟩ | ⟨u, hu, _, rfl⟩
      · exact hrounds.counted s hs
      · exact hrounds.counted u hu
    · rintro w₁ runId ⟨hphases, hrounds⟩
      exact ⟨hphases.frame rfl rfl (Nat.le_succ _), hrounds.frame rfl
        (fun _ => roundsOf_record_other rfl w₁) (Nat.le_succ _)⟩
  · intro p r he
    subst he
    simp only [recordsBuilds, Bool.and_eq_true] at hC
    exact rounds_buildKeeps hC.1 hC.2

/-- **A build goes round no more often than it may, and its result is final.**  In every run in which the API
    server takes what a build writes to the status of its restore, no more than `buildAttempts` rounds of a
    restore's build come to nothing; and in every run, a result that is recorded stays, and the gate answers
    with it: true, without a call to the API server. -/
theorem build_rounds_bounded {ctx : Context} (key : ReplicaKey) (spec : ReplicaSpec)
    {es : List Event} (hes : ∀ e ∈ es, recordsBuilds e = true) :
    (∀ uid, (roundsOf uid (run ctx (World.initial key spec) es) : Int) ≤ buildAttempts) ∧
      ∀ r ∈ (run ctx (World.initial key spec) es).restores, ∀ result,
        r.status.schemaBuildResult = some result → ∀ (es' : List Event),
          ∀ s ∈ (run ctx (World.initial key spec) (es ++ es')).restores, s.uid = r.uid →
            s.status.schemaBuildResult = some result ∧
              ∀ ctx' p replica ρ w, reconcileSchemaBuild ctx' p replica s ρ w =
                .done true { w with schemaBuildResults := none } := by
  have hinitial : BuildsCounted (World.initial key spec) :=
    ⟨phasesSound_initial key spec, (fun _ h => nomatch h), fun _ => (by decide : (0 : Int) ≤ buildAttempts),
      fun _ _ => rfl⟩
  have hcounted : BuildsCounted (run ctx (World.initial key spec) es) :=
    run_invariant (fun _ _ hC h => BuildsCounted.step hC.2 h) hinitial
      ((meets_of_forall (C := fun _ _ => True) (fun _ _ => trivial) _ _).with_events hes)
  refine ⟨hcounted.2.bounded, ?_⟩
  intro r hr result hresult es' s hs huid
  have hwf := hcounted.1.wellFormed
  have hrecorded : ResultRecorded r.uid result (run ctx (World.initial key spec) es) := by
    refine ⟨(wellFormed_control.mp hwf).2.2 r hr, fun u hu hsame => ?_⟩
    rw [eq_of_uid hwf hu hr hsame]
    exact hresult
  have hlast : PhasesSound (runFrom (step ctx) (run ctx (World.initial key spec) es) es') ∧
      ResultRecorded r.uid result (runFrom (step ctx) (run ctx (World.initial key spec) es) es') :=
    run_invariant (C := fun _ _ => True) (I := fun w => PhasesSound w ∧ ResultRecorded r.uid result w)
      (fun _ _ _ h => ResultRecorded.step h) ⟨hcounted.1, hrecorded⟩
      (meets_of_forall (fun _ _ => trivial) _ es')
  rw [run, runFrom_append] at hs
  have hstays := hlast.2.2 s hs huid
  refine ⟨hstays, fun ctx' p replica ρ w => ?_⟩
  unfold reconcileSchemaBuild
  rw [buildToDo_settled (by rw [hstays]; rfl)]
  rfl

/-! ## A build that goes round as often as it may -/

/-- A replica whose restores migrate and have a reporting schema built. -/
def builtSpec : ReplicaSpec :=
  { canopySpec with
    migrateTo := some { version := "2", versionId := "v2" }
    builderImage := some "builder"
    rank := some "production" }

/-- A pass in which canopy does not take the schema in. -/
def unregistered (t : Timestamp) : Event :=
  .replicaPass { now := t, replies := fun c =>
    match c with
    | .buildRegister => .refused (.kube "timeout")
    | _ => .ok }

/-- The database is not found once, and the schema the build posts is not taken in four times. -/
def fiveRounds : List Event :=
  .snapshotDesired (some "s") :: listSnapshots 0 "s" ++ bringUp "r-10" 20 ++
    [.restorePass "r-10" { now := 30 }, .jobReported (.migration "r-10") { succeeded := some 1 },
      .restorePass "r-10" { now := 35 }, .restorePass "r-10" { now := 36 },
      .replicaPass { now := 40, replies := fun c =>
        match c with
        | .buildDiscover => .refused (.kube "timeout")
        | _ => .ok },
      .replicaPass { now := 41 }, .jobReported .schemaBuild { succeeded := some 1 }, .schemaPosted "sql",
      unregistered 42, unregistered 43, unregistered 44, unregistered 45]

/-- The fifth round is not recorded as an attempt: the result takes its place. -/
theorem five_rounds_bounded :
    (run .hourly (World.initial ⟨"ns", "r"⟩ builtSpec) fiveRounds).restores.map
        (fun r => (r.status.schemaBuildAttempts, r.status.schemaBuildResult.isSome)) = [(some 4, true)] ∧
      roundsOf 1 (run .hourly (World.initial ⟨"ns", "r"⟩ builtSpec) fiveRounds) = 5 ∧
      ∀ uid, (roundsOf uid (run .hourly (World.initial ⟨"ns", "r"⟩ builtSpec) fiveRounds) : Int) ≤
        buildAttempts :=
  ⟨by decide +kernel, by decide +kernel,
    (build_rounds_bounded ⟨"ns", "r"⟩ builtSpec (by decide +kernel)).1⟩

end RestoreOperator
