import RestoreOperator.Correctness.PhaseMachine

/-!
# `Correctness.RunId` — one run id for a restore

A canopy-sourced restore is a run that canopy follows by an id.  The pass that creates the restore Job mints
the id unless the status has one, writes it, and hands it to the Job; the reports on the restore read it back.
The write comes before the Job: whatever a crash leaves behind, a Job that was created has its id in the
status, and so has the Job that replaces it, and what is reported from then on.
-/

namespace RestoreOperator

open Calls Calls.Prog

/-! ## What is promised -/

/-- The restore canopy is told of, by a report on its verification or by the registration of its schema, and
    the run id it is told. -/
def Record.told : Record → Option (Restore × Option Uuid)
  | .verificationReported r id => some (r, id)
  | .schemaRegistered r id => some (r, id)
  | _ => none

/-- **What is told after a restore Job was created is told with the id of the Job.** -/
def TellsRunId (later earlier : Record) : Prop :=
  ∀ r told job, later.told = some (r, told) → earlier = .restoreJobCreated job → job.target = r.uid →
    ∃ id, told = some id ∧ job.runId = some id.display

/-- **The restore is canopy-sourced** when its Job may be created. -/
def mintsRunId (w : World) : Event → Bool
  | .restorePass _ _ => w.replica.spec.canopySource.isSome
  | _ => true

/-! ## The invariant -/

/-- **The ids of the restore Jobs are those of the restores.** -/
structure RunIds (w : World) : Prop where
  minted : ∀ job, .restoreJobCreated job ∈ w.records → ∃ id : Uuid, job.runId = some id.display
  agree : ∀ job job', .restoreJobCreated job ∈ w.records → .restoreJobCreated job' ∈ w.records →
    job.target = job'.target → job.runId = job'.runId
  stored : ∀ job, .restoreJobCreated job ∈ w.records → ∀ r ∈ w.restores, r.uid = job.target →
    r.status.runId = job.runId
  used : ∀ job, .restoreJobCreated job ∈ w.records → job.target < w.nextUid
  /-- An id that is stored without a Job was minted as well. -/
  parsed : ∀ r ∈ w.restores, ∀ text, r.status.runId = some text → ∃ id : Uuid, text = id.display
  told : w.records.Pairwise TellsRunId

namespace RunIds

variable {w w' : World}

/-- Nothing but the restores, the records and the supply of identities matters. -/
theorem frame (h : RunIds w) (hrestores : w'.restores = w.restores) (hrecords : w'.records = w.records)
    (huid : w.nextUid ≤ w'.nextUid) : RunIds w' where
  minted := hrecords ▸ h.minted
  agree := hrecords ▸ h.agree
  stored := by
    rw [hrecords, hrestores]
    exact h.stored
  used := by
    rw [hrecords]
    exact fun job hjob => (h.used job hjob).trans_le huid
  parsed := hrestores ▸ h.parsed
  told := hrecords ▸ h.told

/-- A change of the restores that leaves none without its id. -/
theorem restores (h : RunIds w) (restores : List Restore)
    (hr : ∀ r ∈ restores, ∃ s ∈ w.restores, r.uid = s.uid ∧ r.status.runId = s.status.runId) :
    RunIds { w with restores := restores } where
  minted := h.minted
  agree := h.agree
  stored := by
    intro job hjob r hmem htarget
    obtain ⟨s, hs, huid, hrun⟩ := hr r hmem
    exact hrun.trans (h.stored job hjob s hs (huid.symm.trans htarget))
  used := h.used
  parsed := by
    intro r hmem id hid
    obtain ⟨s, hs, -, hrun⟩ := hr r hmem
    exact h.parsed s hs id (hrun.symm.trans hid)
  told := h.told

/-- A write that leaves the id alone. -/
theorem patch (h : RunIds w) {name : String} {f : RestoreStatus → RestoreStatus}
    (hf : ∀ r ∈ w.restores, r.name = name → (f r.status).runId = r.status.runId) :
    RunIds (w.patchRestore name f) := by
  refine (h.restores (w.patchRestore name f).restores ?_).frame rfl rfl le_rfl
  intro r hr
  rcases mem_patchRestore hr with ⟨hr, _⟩ | ⟨s, hs, hname, rfl⟩
  · exact ⟨r, hr, rfl, rfl⟩
  · exact ⟨s, hs, rfl, hf s hs hname⟩

/-- **An id is minted** for a restore that has no Job yet. -/
theorem mint (h : RunIds w) {r : Restore} {id : Uuid} (hreads : Reads r w)
    (hnone : ∀ job, .restoreJobCreated job ∈ w.records → job.target ≠ r.uid) :
    RunIds (w.patchRestore r.name fun s => { s with runId := some id.display }) where
  minted := h.minted
  agree := h.agree
  stored := by
    intro job hjob s hs htarget
    rcases mem_patchRestore hs with ⟨hs, _⟩ | ⟨u, hu, hname, rfl⟩
    · exact h.stored job hjob s hs htarget
    · exact absurd (htarget.symm.trans ((hreads.uid u hu).mp hname)) (hnone job hjob)
  used := h.used
  parsed := by
    intro s hs id' hsome
    rcases mem_patchRestore hs with ⟨hs, _⟩ | ⟨u, hu, hname, rfl⟩
    · exact h.parsed s hs id' hsome
    · cases hsome
      exact ⟨id, rfl⟩
  told := h.told

/-- A record that creates no Job. -/
theorem record (h : RunIds w) {e : Record} (he : e.isJob = false)
    (htold : ∀ earlier ∈ w.records, TellsRunId e earlier) : RunIds (w.record e) := by
  have hold : ∀ {job}, .restoreJobCreated job ∈ (w.record e).records →
      .restoreJobCreated job ∈ w.records := by
    intro job hjob
    rcases List.mem_cons.mp hjob with rfl | hjob
    · cases he
    · exact hjob
  refine ⟨fun job hjob => h.minted job (hold hjob), ?_, ?_, fun job hjob => h.used job (hold hjob),
    h.parsed, List.pairwise_cons.mpr ⟨htold, h.told⟩⟩
  · exact fun job job' hjob hjob' => h.agree job job' (hold hjob) (hold hjob')
  · exact fun job hjob => h.stored job (hold hjob)

end RunIds

/-- The restore Jobs of a world are those of another, where their records are. -/
theorem mem_jobRecords {w : World} {job : Job} :
    .restoreJobCreated job ∈ jobRecords w ↔ .restoreJobCreated job ∈ w.records := by
  simp [jobRecords, Record.isJob]

/-- **What is told from a restore that was read is told with the id of its Jobs**, where no Job has been
    created since. -/
theorem RunIds.tells {S : World → Prop} (hS : ∀ w, S w → RunIds w) {w : World}
    {r : Restore} (hsince : Since S r w) {e : Record} (he : e.told = some (r, runIdFromStatus r)) :
    ∀ earlier ∈ w.records, TellsRunId e earlier := by
  obtain ⟨w₁, hw₁, hr, hjobs⟩ := hsince
  rintro earlier hearlier s told job htold rfl htarget
  obtain ⟨rfl, rfl⟩ := Prod.mk.inj (Option.some.inj (he.symm.trans htold))
  have hjob : .restoreJobCreated job ∈ w₁.records := by
    rw [← mem_jobRecords, ← hjobs, mem_jobRecords]
    exact hearlier
  obtain ⟨id, hid⟩ := (hS w₁ hw₁).minted job hjob
  have hrun : r.status.runId = some id.display :=
    ((hS w₁ hw₁).stored job hjob r hr htarget.symm).trans hid
  refine ⟨id, ?_, hid⟩
  rw [runIdFromStatus, hrun, Option.bind_some, Uuid.parse_display]

/-- What is kept, where the replica is canopy-sourced or not. -/
def CanopyRunIds (sourced : Bool) (w : World) : Prop :=
  RunIds w ∧ w.replica.spec.canopySource.isSome = sourced

theorem beside_runIds (sourced : Bool) : Beside (CanopyRunIds sourced) where
  frame := by
    intro w w' hsame h
    refine ⟨h.1.frame hsame.restores hsame.records hsame.nextUid, ?_⟩
    rw [hsame.spec]
    exact h.2
  patch := by
    intro w name f _ hf h
    refine ⟨h.1.patch fun r hr hname => ?_, h.2⟩
    exact congrArg Prod.fst (hf r hr hname).2
  count := fun _ _ _ _ h => ⟨h.1.frame rfl rfl le_rfl, h.2⟩
  reported := fun h hsince => ⟨h.1.record rfl (RunIds.tells (fun _ h => h.2.1) hsince rfl), h.2⟩
  status := fun _ _ h => ⟨h.1.frame rfl rfl le_rfl, h.2⟩
  delete := fun _ h =>
    ⟨h.1.restores _ fun r hr => ⟨r, List.mem_of_mem_filter hr, rfl, rfl⟩, h.2⟩
  insert := by
    intro w position mk huid hstatus _ h
    obtain ⟨h, hsourced⟩ := h
    refine ⟨⟨h.minted, h.agree, ?_, fun job hjob => (h.used job hjob).trans (Nat.lt_succ_self _), ?_,
      h.told⟩, hsourced⟩
    · intro job hjob r hr htarget
      rcases mem_insertRestore hr with rfl | hr
      -- no Job was made for it yet
      · have hlt := h.used job hjob
        rw [huid] at htarget
        omega
      · exact h.stored job hjob r hr htarget
    · intro r hr id hid
      rcases mem_insertRestore hr with rfl | hr
      · rw [hstatus] at hid
        cases hid
      · exact h.parsed r hr id hid
  request := by
    intro w g hg h
    refine ⟨h.1.restores _ fun r hr => ?_, h.2⟩
    obtain ⟨s, hs, rfl⟩ := List.mem_map.mp hr
    obtain ⟨huid, _, _, hstatus⟩ := hg s
    exact ⟨s, hs, huid, by rw [hstatus]⟩

/-! ## The creation of the Job -/

section Start

variable {ρ : Call → Reply Error} {p : RestorePass} {r : Restore}

/-- What is kept of a replica that is canopy-sourced. -/
abbrev Sourced (w : World) : Prop := PhasesSound w ∧ CanopyRunIds true w

/-- **The restore has its id**, and every Job that was made for it has the same. -/
structure HasRunId (r : Restore) (runId : Option String) (w : World) : Prop where
  minted : ∃ id : Uuid, runId = some id.display
  stored : ∀ s ∈ w.restores, s.uid = r.uid → s.status.runId = runId
  jobs : ∀ job, .restoreJobCreated job ∈ w.records → job.target = r.uid → job.runId = runId
  used : r.uid < w.nextUid

/-- The Jobs of a restore that is stored as it was read have the id that was read. -/
theorem Exact.job_runId {w : World} (h : Exact Sourced r w) {job : Job}
    (hjob : .restoreJobCreated job ∈ w.records) (htarget : job.target = r.uid) :
    r.status.runId = job.runId := by
  obtain ⟨⟨⟨⟨_, hruns, _⟩, hreads⟩, _⟩, hrecorded⟩ := h
  obtain ⟨s, hs, hname⟩ := hreads.stored
  have huid : s.uid = job.target := ((hreads.uid s hs).mp hname).trans htarget.symm
  have hsame : s.status.runId = r.status.runId := congrArg Prod.fst (hrecorded s hs hname)
  exact hsame.symm.trans (hruns.stored job hjob s hs huid)

/-- **The id is written before it is used.** -/
theorem leads_ensureRunId {replica : Replica} (hsourced : replica.spec.canopySource.isSome = true) :
    ∀ w, Exact Sourced r w →
      (∀ runId w', ensureRunId p r replica ρ w = .done runId w' →
        Sourced w' ∧ HasRunId r runId w') ∧ Sourced (ensureRunId p r replica ρ w).state := by
  intro w h
  have hjobs : ∀ job, .restoreJobCreated job ∈ w.records → job.target = r.uid → r.status.runId = job.runId :=
    fun _ hjob htarget => h.job_runId hjob htarget
  obtain ⟨⟨⟨hw, hreads⟩, _⟩, hrecorded⟩ := h
  obtain ⟨hphases, hruns, hcanopy⟩ := hw
  have hused : r.uid < w.nextUid := by
    obtain ⟨s, hs, hname⟩ := hreads.stored
    rw [← (hreads.uid s hs).mp hname]
    exact (wellFormed_control.mp hphases.wellFormed).2.2 s hs
  have hstored : ∀ s ∈ w.restores, s.uid = r.uid → s.status.runId = r.status.runId :=
    fun s hs huid => congrArg Prod.fst (hrecorded s hs ((hreads.uid s hs).mpr huid))
  unfold ensureRunId
  rw [if_pos hsourced]
  cases hid : r.status.runId with
  | some id =>
    refine ⟨?_, hphases, hruns, hcanopy⟩
    intro runId w' hdone
    cases hdone
    obtain ⟨s, hs, hname⟩ := hreads.stored
    have hrun := hstored s hs ((hreads.uid s hs).mp hname)
    obtain ⟨u, rfl⟩ := hruns.parsed s hs id (hrun.trans hid)
    refine ⟨⟨hphases, hruns, hcanopy⟩, ⟨u, rfl⟩, ?_, ?_, hused⟩
    · exact fun s hs huid => (hstored s hs huid).trans hid
    · exact fun job hjob htarget => (hjobs job hjob htarget).symm.trans hid
  | none =>
    -- without an id the restore has no Job yet
    have hnone : ∀ job, .restoreJobCreated job ∈ w.records → job.target ≠ r.uid := by
      intro job hjob htarget
      obtain ⟨id, hsome⟩ := hruns.minted job hjob
      have hrun := hjobs job hjob htarget
      rw [hid, hsome] at hrun
      cases hrun
    have hwritten : Sourced
        (w.patchRestore r.name fun s => { s with runId := some p.mintedRunId.display }) := by
      refine ⟨?_, hruns.mint hreads hnone, hcanopy⟩
      exact lifelong_phasesSound.about.patch (fun _ => .of_eq rfl) hphases
    constructor
    · intro runId w' hdone
      obtain ⟨_, w₁, hpatch, hreturn⟩ := bind_eq_done hdone
      obtain rfl := call_eq_done hpatch
      cases hreturn
      refine ⟨hwritten, ⟨_, rfl⟩, ?_, ?_, hused⟩
      · intro s hs huid
        rcases mem_patchRestore hs with ⟨hs, hname⟩ | ⟨u, hu, hname, rfl⟩
        · exact absurd ((hreads.uid s hs).mpr huid) hname
        · rfl
      · exact fun job hjob htarget => absurd htarget (hnone job hjob)
    · refine Keeps.state_bind (fun _ => Keeps.ret _) ?_
      rw [Op.patchRestore, call_state]
      split
      · exact hwritten
      · exact ⟨hphases, hruns, hcanopy⟩

/-- **The Job is created with the id of its restore.** -/
theorem HasRunId.addJob {runId : Option String} {w : World} (hid : HasRunId r runId w)
    (h : RunIds w) : RunIds (w.addJob (buildRestoreJob r runId) fun _ => []) := by
  have hcases : ∀ {job}, .restoreJobCreated job ∈
      (w.addJob (buildRestoreJob r runId) fun _ => []).records →
      (job.target = r.uid ∧ job.runId = runId) ∨ .restoreJobCreated job ∈ w.records := by
    intro job hjob
    rcases List.mem_cons.mp hjob with hnew | hold
    · cases hnew
      exact .inl ⟨rfl, rfl⟩
    · exact .inr hold
  constructor
  · intro job hjob
    rcases hcases hjob with ⟨_, hrun⟩ | hold
    · exact hrun ▸ hid.minted
    · exact h.minted job hold
  · intro job job' hjob hjob' htarget
    rcases hcases hjob with ⟨hown, hrun⟩ | hold
    · rcases hcases hjob' with ⟨_, hrun'⟩ | hold'
      · exact hrun.trans hrun'.symm
      · exact hrun.trans (hid.jobs job' hold' (htarget.symm.trans hown)).symm
    · rcases hcases hjob' with ⟨hown', hrun'⟩ | hold'
      · exact (hid.jobs job hold (htarget.trans hown')).trans hrun'.symm
      · exact h.agree job job' hold hold' htarget
  · intro job hjob s hs htarget
    rcases hcases hjob with ⟨hown, hrun⟩ | hold
    · exact (hid.stored s hs (htarget.trans hown)).trans hrun.symm
    · exact h.stored job hold s hs htarget
  · intro job hjob
    rcases hcases hjob with ⟨hown, _⟩ | hold
    · rw [hown]
      exact hid.used.trans (Nat.lt_succ_self _)
    · exact (h.used job hold).trans (Nat.lt_succ_self _)
  · exact h.parsed
  · refine List.pairwise_cons.mpr ⟨?_, h.told⟩
    rintro earlier _ s told job htold
    cases htold

/-- **Starting the Job of a restore keeps the ids.** -/
theorem runIds_startKeeps : StartKeeps ρ Sourced p r := by
  have hrobust := (beside_runIds true).robust
  refine Leads.bind_value
    (Q := fun replica w => Exact Sourced r w ∧ replica.spec.canopySource.isSome = true)
    ?_ fun replica => ?_
  · intro w h
    refine ⟨?_, keeps_getReplica _ ρ w h.1.1.1⟩
    intro replica w' hdone
    obtain ⟨rfl, rfl⟩ := getReplica_eq_done hdone
    exact ⟨h, h.1.1.1.2.2⟩
  refine Leads.bind_value (Q := fun runId w => Sourced w ∧ HasRunId r runId w)
    (fun w h => leads_ensureRunId h.2 w h.1) fun runId => ?_
  refine Leads.bind (Q := Sourced) ?_ fun _ =>
    Leads.of_keeps (hrobust.about.stillRunning r) fun _ h => h
  refine Leads.get_bind fun w => ?_
  split
  · exact Leads.ends (Keeps.fail _) (fun _ h => h.1.1) fun _ h => h.1.1
  refine Leads.call ?_ (fun _ h => h.1.1) fun _ h => h
  rintro w' ⟨⟨⟨hphases, hruns, hcanopy⟩, hid⟩, -⟩
  exact ⟨hphases.frame rfl rfl (Nat.le_succ _), hid.addJob hruns, hcanopy⟩

end Start

/-! ## The registration of the schema -/

/-- **A build keeps the ids**: what it registers is told with the id that was read. -/
theorem runIds_buildKeeps {ctx : Context} {sourced : Bool} {ρ : Call → Reply Error} {p : ReplicaPass}
    {replica : Replica} {r : Restore} :
    BuildKeeps ρ (fun w => PhasesSound w ∧ CanopyRunIds sourced w) ctx p replica r := by
  have hrobust := (beside_runIds sourced).robust
  have hB : AboutBuild r (Carried (fun w => PhasesSound w ∧ CanopyRunIds sourced w) r) :=
    { toAboutRecords := hrobust.about.carried r
      write := by
        rintro w f hf ⟨⟨⟨hphases, hruns, hcanopy⟩, hreads⟩, hsince⟩
        refine ⟨⟨⟨?_, hruns.patch fun s _ _ => (hf s.status).2, hcanopy⟩, ?_⟩, hsince⟩
        · exact lifelong_phasesSound.about.patch (fun s => (hf s).1) hphases
        · exact hreads.write fun s => (hf s).1
      failed := by
        rintro w ⟨⟨⟨hphases, hruns, hcanopy⟩, hreads⟩, hsince⟩
        refine ⟨⟨⟨hphases.frame rfl rfl le_rfl, hruns.record rfl ?_, hcanopy⟩, hreads.frame rfl⟩, hsince⟩
        intro earlier _ s told job htold
        cases htold
      registered := by
        rintro w ⟨⟨⟨hphases, hruns, hcanopy⟩, hreads⟩, hsince⟩
        refine ⟨⟨⟨hphases.frame rfl rfl le_rfl, hruns.record rfl ?_, hcanopy⟩, hreads.frame rfl⟩, hsince⟩
        exact RunIds.tells (fun _ h => h.2.1) hsince rfl }
  refine Leads.weaken ?_ fun _ (h : Exact _ r _) => h.1
  exact Leads.of_keeps (hB.reconcileSchemaBuild ctx p replica) fun _ h => h.1.1

/-! ## Every run -/

section Runs

variable {ctx : Context} {w : World} {e : Event}

/-- **A step keeps the ids**, where a restore Job is only created for a canopy-sourced replica. -/
theorem RunIds.step (hC : mintsRunId w e = true) (h : PhasesSound w ∧ RunIds w) :
    PhasesSound (step ctx w e) ∧ RunIds (step ctx w e) := by
  by_cases hspec : ∃ spec, e = .specChanged spec
  · obtain ⟨spec, rfl⟩ := hspec
    exact ⟨h.1.frame rfl rfl le_rfl, h.2.frame rfl rfl le_rfl⟩
  have hbeside := beside_runIds w.replica.spec.canopySource.isSome
  have hstep := hbeside.robust.step ctx (w := w) (e := e)
    (fun _ h => ⟨h.1.frame rfl rfl le_rfl, h.2.1.frame rfl rfl le_rfl, h.2.2⟩)
    (fun spec he _ => absurd ⟨spec, he⟩ hspec) (fun _ p r _ _ => hbeside.failKeeps _ p r)
    (fun name p r he _ => ?_) (fun p r _ => runIds_buildKeeps) ⟨h.1, h.2, rfl⟩
  · exact ⟨hstep.1, hstep.2.1⟩
  · subst he
    have hsourced : w.replica.spec.canopySource.isSome = true := hC
    rw [hsourced]
    exact runIds_startKeeps

/-- The records only grow. -/
theorem beside_records (old : List Record) : Beside fun w => old <:+ w.records where
  frame := by
    intro w w' hsame h
    rw [hsame.records]
    exact h
  patch := fun _ _ h => h
  count := fun _ _ _ _ h => h
  reported := fun h _ => h.trans (List.suffix_cons _ _)
  status := fun _ _ h => h
  delete := fun _ h => h
  insert := fun _ _ _ h => h
  request := fun _ _ h => h

/-- **What was recorded stays recorded.** -/
theorem records_step (h : PhasesSound w) : w.records <:+ (step ctx w e).records := by
  have hbeside := beside_records w.records
  have hrobust := hbeside.robust
  refine (hrobust.step ctx (w := w) (e := e) ?_ ?_ ?_ ?_ ?_ ⟨h, List.suffix_rfl⟩).2
  · exact fun _ h => ⟨h.1.frame rfl rfl le_rfl, h.2⟩
  · exact fun _ _ h => ⟨h.1.frame rfl rfl le_rfl, h.2⟩
  · exact fun _ p r _ _ => hbeside.failKeeps _ p r
  · intro _ p r _ _
    refine StartKeeps.of_keeps (hrobust.about.startRestoreJob ?_ ?_)
    · exact fun h => ⟨lifelong_phasesSound.about.patch (fun _ => .of_eq rfl) h.1, h.2⟩
    · intro w₁ runId h
      exact ⟨h.1.frame rfl rfl (Nat.le_succ _), h.2.trans (List.suffix_append _ _)⟩
  · intro p r _
    have hB : AboutBuild r fun x => PhasesSound x ∧ w.records <:+ x.records :=
      { toAboutRecords := hrobust.about
        write := fun hf h => ⟨lifelong_phasesSound.about.patch (fun s => (hf s).1) h.1, h.2⟩
        failed := fun h => ⟨h.1.frame rfl rfl le_rfl, h.2.trans (List.suffix_cons _ _)⟩
        registered := fun h => ⟨h.1.frame rfl rfl le_rfl, h.2.trans (List.suffix_cons _ _)⟩ }
    exact hB.buildKeeps

end Runs

/-- **A restore has one run id.**  In every run whose restore Jobs are created for a canopy-sourced replica,
    all the Jobs ever created for a restore carry one id; from its Job on, the restore that is stored has it
    in its status; and what canopy is told of the restore after its Job was created is told with it. -/
theorem restore_has_one_run_id {ctx : Context} (key : ReplicaKey) (spec : ReplicaSpec)
    {es es' : List Event}
    (hes : Meets (step ctx) (fun w e => mintsRunId w e = true) (World.initial key spec) (es ++ es')) :
    (∀ job job', .restoreJobCreated job ∈ (run ctx (World.initial key spec) (es ++ es')).records →
        .restoreJobCreated job' ∈ (run ctx (World.initial key spec) (es ++ es')).records →
        job.target = job'.target →
          ∃ id : Uuid, job.runId = some id.display ∧ job'.runId = some id.display) ∧
      (∀ job, .restoreJobCreated job ∈ (run ctx (World.initial key spec) es).records →
        ∀ r ∈ (run ctx (World.initial key spec) (es ++ es')).restores, r.uid = job.target →
          r.status.runId = job.runId) ∧
      (run ctx (World.initial key spec) (es ++ es')).records.Pairwise TellsRunId := by
  have hinitial : PhasesSound (World.initial key spec) ∧ RunIds (World.initial key spec) := by
    refine ⟨phasesSound_initial key spec, ?_⟩
    exact ⟨(fun _ h => nomatch h), (fun _ _ h => nomatch h), (fun _ h => nomatch h),
      (fun _ h => nomatch h), (fun _ h => nomatch h), .nil⟩
  have hkept : ∀ w e, mintsRunId w e = true → PhasesSound w ∧ RunIds w →
      PhasesSound (step ctx w e) ∧ RunIds (step ctx w e) := fun _ _ hC h => RunIds.step hC h
  obtain ⟨hfirst, hrest⟩ := meets_append.mp hes
  have hmiddle := run_invariant hkept hinitial hfirst
  obtain ⟨_, hruns⟩ := run_invariant hkept hinitial hes
  -- the records of the first part are still there
  have hgrown : (run ctx (World.initial key spec) es).records <:+
      (run ctx (World.initial key spec) (es ++ es')).records := by
    have hlast := run_invariant
      (I := fun w => (PhasesSound w ∧ RunIds w) ∧
        (run ctx (World.initial key spec) es).records <:+ w.records)
      (fun w e hC h => ⟨hkept w e hC h.1, h.2.trans (records_step h.1.1)⟩)
      ⟨hmiddle, List.suffix_rfl⟩ hrest
    rw [← runFrom_append] at hlast
    exact hlast.2
  refine ⟨?_, ?_, hruns.told⟩
  · intro job job' hjob hjob' htarget
    obtain ⟨id, hid⟩ := hruns.minted job hjob
    exact ⟨id, hid, (hruns.agree job job' hjob hjob' htarget).symm.trans hid⟩
  · exact fun job hjob => hruns.stored job (hgrown.subset hjob)

/-! ## A Job that is created again -/

/-- The operator crashes before its restore Job is created; the next pass creates it. -/
def crashedStart : List Event :=
  .snapshotDesired (some "s") :: listSnapshots 0 "s" ++
    [.restorePass "r-10" { now := 20 },
      .restorePass "r-10" { now := 25, mintedRunId := ⟨Vector.replicate 16 10⟩, replies := fun c =>
        match c with
        | .createRestoreJob => .cut
        | _ => .ok },
      .restorePass "r-10" { now := 30, mintedRunId := ⟨Vector.replicate 16 11⟩ }]

/-- The restore Job goes away and is created again, and the restore goes live. -/
def recreatedJob : List Event :=
  [.jobRemoved (.restore "r-10"), .restorePass "r-10" { now := 35, mintedRunId := ⟨Vector.replicate 16 12⟩ },
    .jobReported (.restore "r-10") { succeeded := some 1 },
    .restorePass "r-10" { now := 40, postgresVersion := some "16" }, .restorePass "r-10" { now := 45 },
    .deploymentReported "r-10" 1, .restorePass "r-10" { now := 50 }, .replicaPass { now := 60 }]

theorem recreated_job_has_run_id :
    (jobRecords (run .hourly (World.initial ⟨"ns", "r"⟩ canopySpec)
        (crashedStart ++ recreatedJob))).length = 2 ∧
      (run .hourly (World.initial ⟨"ns", "r"⟩ canopySpec)
        (crashedStart ++ recreatedJob)).records.Pairwise TellsRunId :=
  ⟨by decide +kernel, (restore_has_one_run_id ⟨"ns", "r"⟩ canopySpec (by decide +kernel)).2.2⟩

end RestoreOperator
