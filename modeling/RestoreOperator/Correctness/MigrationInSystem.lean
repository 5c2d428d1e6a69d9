import RestoreOperator.Calls.InStep
import RestoreOperator.Correctness.MigrationTest
import RestoreOperator.System.Acts

/-!
# `Correctness.MigrationInSystem` — a migration test within the system

The phase Migrating is modelled twice: among the phases of a restore, where each helper is one call with its
answer, and as a test of its own, with the databases it runs against.  The second refines the first: whatever a
test does, the system can do with its restore and its Job, so what the results about the system promise holds of
tests too.
-/

namespace RestoreOperator

open Calls

namespace MigrationTest

/-! ## What the system shows of a test -/

section Shows

variable (timeText : Int → String)

/-- The status of a restore tells how its test stands.  A time is told by its text. -/
structure StatusShows (status : RestoreStatus) (t : Test) : Prop where
  phase : status.phase = some t.phase
  baseline : status.migrationBaseline = t.baseline.map timeText
  jobPhase : status.migrationJob.map (·.phase) = t.jobPhase
  result : status.migrationResult = t.result

/-- The Job of the restore counts what the Job of the test does. -/
def JobShows : Option Job → Option MigrationJob → Prop
  | none, none => True
  | some job, some testJob =>
    jobCounts job = (testJob.succeeded, testJob.failed) ∧ (testJob.isEnded = false → classifyJob job = .active)
  | _, _ => False

theorem JobShows.eq_none {job : Option Job} (h : JobShows job none) : job = none := by
  cases job with
  | none => rfl
  | some job => exact h.elim

/-- **The system shows a test** of the restore of a name: in its status and in its Job. -/
structure Shows (name : String) (target : Option MigrationTarget) (t : Test) (w : World) : Prop where
  here : w.replicaDeleted = false
  restore : ∃ r, w.restores.find? (fun r => r.name == name) = some r ∧ r.spec.migrateTo = target ∧
    StatusShows timeText r.status t
  job : JobShows (w.job (.migration name)) t.job

end Shows

variable {timeText : Int → String} {name : String} {target : Option MigrationTarget} {w : World} {t : Test}

/-- Nothing but the restores, their Jobs and the replica's being there matters. -/
theorem Shows.congr {w' : World} (h : Shows timeText name target t w) (hdeleted : w'.replicaDeleted = w.replicaDeleted)
    (hrestores : w'.restores = w.restores) (hjobs : w'.jobs = w.jobs) : Shows timeText name target t w' := by
  obtain ⟨hhere, hrestore, hjob⟩ := h
  refine ⟨hdeleted.trans hhere, hrestores ▸ hrestore, ?_⟩
  unfold World.job at hjob ⊢
  rw [hjobs]
  exact hjob

/-- Of a test nothing but its status and its Job is shown. -/
theorem Shows.congr_test {t' : Test} (h : Shows timeText name target t w) (hphase : t'.phase = t.phase)
    (hbaseline : t'.baseline = t.baseline) (hjobPhase : t'.jobPhase = t.jobPhase) (hresult : t'.result = t.result)
    (hjob : ∀ job, JobShows job t.job → JobShows job t'.job) : Shows timeText name target t' w := by
  obtain ⟨hhere, ⟨r, hr, htarget, hshows⟩, hjobs⟩ := h
  refine ⟨hhere, ⟨r, hr, htarget, ?_⟩, hjob _ hjobs⟩
  exact ⟨hphase ▸ hshows.phase, hbaseline ▸ hshows.baseline, hjobPhase ▸ hshows.jobPhase, hresult ▸ hshows.result⟩

/-- A write to the status of the restore, and what it means for the test. -/
theorem Shows.patchRestore {t' : Test} {f : RestoreStatus → RestoreStatus} (h : Shows timeText name target t w)
    (hf : ∀ status, StatusShows timeText status t → StatusShows timeText (f status) t') (hjob : t'.job = t.job) :
    Shows timeText name target t' (w.patchRestore name f) := by
  obtain ⟨hhere, ⟨r, hr, htarget, hshows⟩, hjobs⟩ := h
  refine ⟨hhere, ⟨{ r with status := f r.status }, ?_, htarget, hf _ hshows⟩, hjob ▸ hjobs⟩
  have hfound : (w.patchRestore name f).restores.find? (fun r => r.name == name) =
      (w.restores.find? fun r => r.name == name).map fun r => { r with status := f r.status } := by
    apply find?_map_at
    intro _ hname
    exact hname
  rw [hfound, hr]
  rfl

/-- The Job of a test starts. -/
theorem Shows.addJob {dbname : String} {r : Restore} (h : Shows timeText name target t w) (hnone : t.job = none)
    (hname : r.name = name) :
    Shows timeText name target { t with job := some { database := dbname } }
      (w.addJob (buildMigrationJob r) fun _ => []) := by
  obtain ⟨hhere, ⟨r', hr', htarget, hshows⟩, hjob⟩ := h
  refine ⟨hhere, ⟨r', hr', htarget, ⟨hshows.phase, hshows.baseline, hshows.jobPhase, hshows.result⟩⟩, ?_⟩
  have hfree : w.job (.migration name) = none := by
    rw [hnone] at hjob
    exact hjob.eq_none
  have hjobs : (w.addJob (buildMigrationJob r) fun _ => []).job (.migration name) =
      some (buildMigrationJob r w.nextUid) := by
    rw [job_addJob, hfree]
    exact if_pos (hname ▸ rfl)
  rw [hjobs]
  exact ⟨rfl, fun _ => rfl⟩

/-! ## A pass -/

section Pass

variable (text : LogText) (timeText : Int → String) (p : MigratingPass) (t : Test)

/-- The database the test is about. -/
def testDatabase : String := (applicationDatabase (databaseSizes t.databases)).getD ""

/-- The newest batch there is before the Job starts. -/
def latestBatch : Option Int := (t.database (testDatabase t)).bind (·.latestBatchAt)

/-- The test, once the newest batch is its baseline. -/
def withBaseline : Test := if (latestBatch t).isSome then { t with baseline := latestBatch t } else t

/-- What is told of an error is that there was one. -/
def anError : Error := .kube ""

/-- What the pass reads of its Job. -/
def resultRead : Outcome Test MigratingError MigrationResult :=
  readResult text p (testDatabase t) (t.job.any (·.failed != 0)) p.replies t

/-- How the calls of the system's pass end, where those of the test's pass end as they do. -/
def systemReplies : Call → Reply Error
  | .patchUnmigrated => (p.replies .patchUnmigrated).told anError
  | .getReplica => (p.replies .getReplica).told anError
  | .migratingCredentials => (p.replies .credentials).told anError
  | .migratingDiscover =>
    if (p.replies .sizes).isOk && (applicationDatabase (databaseSizes t.databases)).isNone then
      .refused .noApplicationDatabase
    else (p.replies .sizes).told anError
  | .patchFailed => (p.replies .patchFailed).told anError
  | .getMigrationJob => (p.replies .getJob).told anError
  | .latestBatch =>
    (query .latestBatch (testDatabase t) (fun d => some d.latestBatchAt) p.replies t).told anError
  | .patchBaseline => (p.replies .patchBaseline).told anError
  | .dropPreMigrateSchemas =>
    (dropPreMigrateSchemas p (testDatabase t) p.replies (withBaseline t)).told anError
  | .runPreMigrateSql => (runPreMigrateSql p (testDatabase t) p.replies t).told anError
  | .createMigrationJob => (p.replies .createJob).told anError
  | .readMigrationResult => (resultRead text p t).told anError
  | .patchMigrated => (p.replies .patchMigrated).told anError
  | _ => .ok

/-- **The system's pass** over the restore of a test. -/
def systemPass : RestorePass where
  replies := systemReplies text p t
  now := 0
  latestBatch := (latestBatch t).map timeText
  migrationResult :=
    match resultRead text p t with
    | .done result _ => result
    | _ => { totalElapsedSeconds := 0 }

end Pass

section Tracks

variable {text : LogText} {p : MigratingPass} {r : Restore}

/-- The test is at a state, and the system shows it. -/
def At (timeText : Int → String) (name : String) (target : Option MigrationTarget) (t : Test) (t' : Test)
    (w : World) : Prop :=
  t' = t ∧ Shows timeText name target t w

theorem At.shows {t' : Test} (h : At timeText name target t t' w) : Shows timeText name target t' w := by
  obtain ⟨rfl, hshows⟩ := h
  exact hshows

theorem touch_eq_ask (c : Call) : Op.touch c = Prog.ask c () := by
  funext ρ w
  unfold Op.touch Prog.ask Prog.call Prog.read
  cases ρ c <;> rfl

variable {ρ : MigratingCall → Reply MigratingError} {ρ' : Call → Reply Error}

/-- Asking goes with asking. -/
theorem ask_inStep {c : MigratingCall} {c' : Call} (htold : ρ' c' = (ρ c).told anError) :
    Prog.InStep ρ ρ' (At timeText name target t) (fun _ _ => At timeText name target t)
      (Shows timeText name target) (Prog.ask c ()) (Op.touch c') := by
  rw [touch_eq_ask]
  exact Prog.InStep.read (by rw [htold, Reply.isOk_told]) (fun _ _ h => h) fun _ _ h => h.shows

/-- The replica is there to be read. -/
theorem getReplica_inStep (htold : ρ' .getReplica = (ρ .getReplica).told anError) :
    Prog.InStep ρ ρ' (At timeText name target t) (fun _ _ => At timeText name target t)
      (Shows timeText name target) (Prog.ask .getReplica ()) (Op.getReplica .getReplica) := by
  have hread : Prog.InStep ρ ρ' (At timeText name target t) (fun _ _ => At timeText name target t)
      (Shows timeText name target) (Prog.ask .getReplica ()) (Prog.read .getReplica fun w => w.replica : Op Replica) :=
    Prog.InStep.read (by rw [htold, Reply.isOk_told]) (fun _ _ h => h) fun _ _ h => h.shows
  refine hread.congr ?_
  intro t' w h
  show (if w.replicaDeleted then Prog.fail (Error.kube "NotFound")
    else Prog.read Call.getReplica fun w => w.replica : Op Replica) ρ' w = _
  rw [h.2.here]
  rfl

/-- A write to the status goes with one that means the same. -/
theorem patch_inStep {c : MigratingCall} {c' : Call} {f : Test → Test} {f' : RestoreStatus → RestoreStatus}
    (htold : ρ' c' = (ρ c).told anError)
    (hf : ∀ status, StatusShows timeText status t → StatusShows timeText (f' status) (f t)) (hjob : (f t).job = t.job) :
    Prog.InStep ρ ρ' (At timeText name target t) (fun _ _ => At timeText name target (f t))
      (Shows timeText name target) (Prog.call c f) (Op.patchRestore c' name f') := by
  refine Prog.InStep.call (by rw [htold, Reply.isOk_told]) (by rw [htold, Reply.tookEffect_told]) ?_
    (fun _ _ h => h.shows) fun _ _ h => h.shows
  rintro t' w ⟨rfl, hshows⟩
  exact ⟨rfl, hshows.patchRestore hf hjob⟩

/-- The pass starts its Job. -/
theorem createJob_inStep {dbname : String} (hname : r.name = name)
    (htold : ρ' .createMigrationJob = (ρ .createJob).told anError) :
    Prog.InStep ρ ρ' (fun t' w => Shows timeText name target t' w ∧ t'.job = none)
      (fun _ _ => Shows timeText name target) (Shows timeText name target)
      (Prog.call .createJob fun t => { t with job := some { database := dbname } })
      (Op.createJob .createMigrationJob (buildMigrationJob r)) := by
  have hcall : Prog.InStep ρ ρ' (fun t' w => Shows timeText name target t' w ∧ t'.job = none)
      (fun _ _ => Shows timeText name target) (Shows timeText name target)
      (Prog.call .createJob fun t => { t with job := some { database := dbname } })
      (Prog.call .createMigrationJob (World.addJob (buildMigrationJob r) fun _ => []) : Op Unit) :=
    Prog.InStep.call (by rw [htold, Reply.isOk_told]) (by rw [htold, Reply.tookEffect_told])
      (fun _ _ h => h.1.addJob h.2 hname) (fun _ _ h => h.1) fun _ _ h => h
  refine hcall.congr ?_
  rintro t' w ⟨hshows, hnone⟩
  have hjob := hshows.job
  rw [hnone] at hjob
  exact createJob_of_none (by rw [key_buildMigrationJob, hname]; exact hjob.eq_none) ρ'

/-- What does not touch the status or the Job of a test keeps what is shown. -/
theorem keeps_shows_dropPreMigrateSchemas (dbname : String) (w : World) :
    Prog.Keeps (fun t' => Shows timeText name target t' w ∧ t'.job = none) (dropPreMigrateSchemas p dbname) := by
  refine Prog.Keeps.when fun _ => Prog.Keeps.bind (keeps_query _ _ _) fun present => ?_
  refine Prog.Keeps.when fun _ => Prog.Keeps.bind (Prog.Keeps.ask _ _) fun _ => ?_
  exact Prog.Keeps.each fun schema _ => Prog.Keeps.call fun t' h =>
    ⟨h.1.congr_test rfl rfl rfl rfl fun _ h => h, h.2⟩

theorem keeps_shows_runPreMigrateSql (dbname : String) (w : World) :
    Prog.Keeps (fun t' => Shows timeText name target t' w ∧ t'.job = none) (runPreMigrateSql p dbname) := by
  unfold runPreMigrateSql
  cases p.preMigrateSql with
  | none => exact Prog.Keeps.ret ()
  | some sql => exact Prog.Keeps.call fun t' h =>
    ⟨h.1.congr_test rfl rfl rfl rfl fun _ h => h, h.2⟩

/-- How the SQL ends does not depend on what it finds. -/
theorem told_runPreMigrateSql (dbname : String) (t t' : Test) :
    (runPreMigrateSql p dbname ρ t).told anError = (runPreMigrateSql p dbname ρ t').told anError := by
  unfold runPreMigrateSql
  cases p.preMigrateSql with
  | none => rfl
  | some sql =>
    show (Prog.call _ _ ρ t).told anError = (Prog.call _ _ ρ t').told anError
    unfold Prog.call
    cases ρ .preMigrateSql <;> rfl

variable (text timeText p t)

/-- The rest of the system's pass once no Job was found. -/
theorem startJob_tracks (hname : r.name = name) (hnone : t.job = none) :
    Prog.Tracks p.replies (systemReplies text p t) (At timeText name target t) (Shows timeText name target)
      (startJob p (testDatabase t))
      (do
        let baseline ← Prog.ask .latestBatch (systemPass text timeText p t).latestBatch
        Prog.when baseline.isSome
          (Op.patchRestore .patchBaseline r.name fun s => { s with migrationBaseline := baseline })
        Op.touch .dropPreMigrateSchemas
        Op.touch .runPreMigrateSql
        Op.createJob .createMigrationJob (buildMigrationJob r)
        return ⟨15⟩ : Op Action) := by
  subst hname
  refine Prog.Tracks.bind_told (K := At timeText r.name target t)
    (F := fun latest baseline => latest = latestBatch t ∧ baseline = latest.map timeText) ?_ ?_
  · refine Prog.InStep.asked (e := anError) ?_ ?_ fun t' w h => (keeps_query (I := (Shows timeText r.name target · w))
      _ _ _ p.replies t' h.shows)
    · rintro t' w ⟨rfl, -⟩
      rfl
    · rintro t' w ⟨rfl, hshows⟩ latest t'' hdone
      obtain ⟨rfl, d, hd, hlatest⟩ := query_tells hdone
      have heq : latest = latestBatch t'' := by
        unfold latestBatch
        rw [hd]
        exact (Option.some.inj hlatest).symm
      exact ⟨⟨rfl, hshows⟩, heq, by rw [heq]; rfl⟩
  rintro _ _ ⟨rfl, rfl⟩
  refine Prog.Tracks.bind (Q := fun _ _ => At timeText r.name target (withBaseline t)) ?_ fun _ _ => ?_
  · refine Prog.InStep.when (Option.isSome_map ..) (fun hsome => ?_) ?_
    · have hafter : withBaseline t = { t with baseline := latestBatch t } := if_pos hsome
      rw [hafter]
      exact patch_inStep (t := t) (f := fun t' => { t' with baseline := latestBatch t }) rfl
        (fun _ hstatus => ⟨hstatus.phase, rfl, hstatus.jobPhase, hstatus.result⟩) rfl
    · intro hsome t' w h
      rw [show withBaseline t = t from if_neg (by rw [hsome]; exact Bool.false_ne_true)]
      exact h
  have hfree : (withBaseline t).job = none := by
    unfold withBaseline
    split <;> exact hnone
  -- from here on the Job, which is not there, is all that is still to be known of the test
  refine Prog.Tracks.bind (Q := fun _ _ t' w => Shows timeText r.name target t' w ∧ t'.job = none) ?_ fun _ _ => ?_
  · rw [touch_eq_ask]
    refine Prog.InStep.silent (e := anError) (keeps_shows_dropPreMigrateSchemas (testDatabase t)) ?_ ?_
      fun _ _ h => h.1
    · rintro t' w ⟨rfl, -⟩
      rfl
    · rintro t' w ⟨rfl, hshows⟩
      exact ⟨hshows, hfree⟩
  refine Prog.Tracks.bind (Q := fun _ _ t' w => Shows timeText r.name target t' w ∧ t'.job = none) ?_ fun _ _ => ?_
  · rw [touch_eq_ask]
    exact Prog.InStep.silent (e := anError) (keeps_shows_runPreMigrateSql (testDatabase t))
      (fun _ _ _ => told_runPreMigrateSql _ _ _) (fun _ _ h => h) fun _ _ h => h.1
  exact ((createJob_inStep rfl rfl).tracks fun _ _ _ _ h => h).then_keeps fun _ _ => Prog.Keeps.ret _

/-- The rest of the system's pass once its Job was found to have ended. -/
theorem recordResult_tracks (hname : r.name = name) {testJob : MigrationJob} (hjob : t.job = some testJob)
    {job : Job} (hcounts : jobCounts job = (testJob.succeeded, testJob.failed)) :
    Prog.Tracks p.replies (systemReplies text p t) (At timeText name target t) (Shows timeText name target)
      (recordResult text p (testDatabase t) testJob)
      (do
        let result ← Prog.ask .readMigrationResult (systemPass text timeText p t).migrationResult
        Op.patchRestore .patchMigrated r.name fun s =>
          { s with
            phase := some .ready
            migrationJob := some
              { name := r.name ++ "-migrate"
                phase := if (jobCounts job).2 > 0 then "Failed" else "Succeeded" }
            migrationResult := some result }
        return ⟨1⟩ : Op Action) := by
  subst hname
  have hread : resultRead text p t =
      readResult text p (testDatabase t) (testJob.failed != 0) p.replies t := by
    unfold resultRead
    rw [hjob]
    rfl
  refine Prog.Tracks.bind_told (K := At timeText r.name target t) (F := fun result result' => result' = result) ?_ ?_
  · refine Prog.InStep.asked (e := anError) ?_ ?_ fun t' w h => (keeps_readResult
      (I := (Shows timeText r.name target · w)) _ _ _ p.replies t' h.shows)
    · rintro t' w ⟨rfl, -⟩
      rw [← hread]
      rfl
    · rintro t' w ⟨rfl, hshows⟩ result t'' hdone
      have hsame := keeps_readResult (I := (· = t')) (p := p) text (testDatabase t') (testJob.failed != 0)
        p.replies t' rfl
      rw [hdone] at hsame
      refine ⟨⟨hsame, hsame ▸ hshows⟩, ?_⟩
      unfold systemPass
      rw [hread, hdone]
  rintro result _ rfl
  have hphase : (if (jobCounts job).2 > 0 then "Failed" else "Succeeded") =
      if testJob.failed ≠ 0 then "Failed" else "Succeeded" := by
    rw [hcounts]
    simp [Nat.pos_iff_ne_zero]
  exact Prog.Tracks.then_keeps (Prog.InStep.tracks (patch_inStep (t := t) rfl
    (fun _ hstatus => ⟨rfl, hstatus.baseline, congrArg some hphase, rfl⟩) rfl) fun _ _ _ _ h => h.shows)
    fun _ _ => Prog.Keeps.ret _

/-- What a restore's failing comes to besides its phase is not shown. -/
theorem failRestore_tracks (hname : r.name = name) (q : RestorePass) :
    Prog.Tracks p.replies (systemReplies text p t) (At timeText name target t) (Shows timeText name target)
      (Prog.call .patchFailed fun t => { t with phase := .failed }) (failRestore q r id) := by
  subst hname
  have hreplica (c : Call) (t' : Test) : Prog.Keeps (Shows timeText r.name target t') (Op.getReplica c) := by
    refine Prog.Keeps.bind Prog.Keeps.get fun w => ?_
    split
    · exact Prog.Keeps.fail _
    · exact Prog.Keeps.read _ _
  have htouch (c : Call) (t' : Test) : Prog.Keeps (Shows timeText r.name target t') (Op.touch c) :=
    Prog.Keeps.call fun _ h => h
  refine Prog.Tracks.then_keeps (Prog.InStep.tracks (patch_inStep (t := t) rfl
    (fun _ hstatus => ⟨rfl, hstatus.baseline, hstatus.jobPhase, hstatus.result⟩) rfl) fun _ _ _ _ h => h.shows)
    fun t' _ => ?_
  refine Prog.Keeps.bind (Prog.Keeps.modify fun _ h => h.congr rfl rfl rfl) fun _ => ?_
  refine Prog.Keeps.bind ?_ fun _ => Prog.Keeps.bind ?_ fun _ => Prog.Keeps.bind ?_ fun _ => Prog.Keeps.ret _
  · refine Prog.Keeps.bind (Prog.Keeps.attempt (hreplica _ t')) fun replica => ?_
    cases replica with
    | error e => exact Prog.Keeps.ret ()
    | ok replica =>
      exact Prog.Keeps.bind (Prog.Keeps.bestEffort (Prog.Keeps.call fun _ h => h.congr rfl rfl rfl))
        fun _ => Prog.Keeps.ret ()
  · exact Prog.Keeps.bind (Prog.Keeps.bestEffort (htouch _ t')) fun _ => Prog.Keeps.ret ()
  · refine Prog.Keeps.bind (Prog.Keeps.attempt (Prog.Keeps.bind (Prog.Keeps.read _ _) fun found => ?_))
      fun found => Prog.Keeps.bind (Prog.Keeps.attempt (hreplica _ t')) fun parent => ?_
    · cases found with
      | none => exact Prog.Keeps.fail _
      | some restore => exact Prog.Keeps.ret _
    · split
      · refine Prog.Keeps.bind (Prog.Keeps.modify fun _ h => h.congr rfl rfl rfl) fun _ => ?_
        exact Prog.Keeps.bind (Prog.Keeps.bestEffort (htouch _ t')) fun _ => Prog.Keeps.ret ()
      · exact Prog.Keeps.ret ()

/-- Looking for the database, as the system's pass does, ends as the test's look at the sizes tells. -/
theorem discover_of_not_ok (hsizes : (p.replies .sizes).isOk = false) (w : World) :
    Prog.attempt (Op.touch .migratingDiscover) (systemReplies text p t) w = .done (.error anError) w ∨
      Prog.attempt (Op.touch .migratingDiscover) (systemReplies text p t) w = .halted w := by
  have hreply : systemReplies text p t .migratingDiscover = (p.replies .sizes).told anError := by
    unfold systemReplies
    rw [hsizes]
    rfl
  unfold Prog.attempt Op.touch Prog.call
  rw [hreply]
  cases hr : p.replies .sizes with
  | ok =>
    rw [hr] at hsizes
    cases hsizes
  | refused e => exact .inl rfl
  | lost e => exact .inl rfl
  | cut => exact .inr rfl
  | cutAfter => exact .inr rfl

theorem discover_of_none (hsizes : (p.replies .sizes).isOk = true)
    (happ : applicationDatabase (databaseSizes t.databases) = none) (w : World) :
    Prog.attempt (Op.touch .migratingDiscover) (systemReplies text p t) w =
      .done (.error .noApplicationDatabase) w := by
  unfold Prog.attempt Op.touch Prog.call systemReplies
  rw [hsizes, happ]
  rfl

theorem discover_of_some (hsizes : (p.replies .sizes).isOk = true) {dbname : String}
    (happ : applicationDatabase (databaseSizes t.databases) = some dbname) (w : World) :
    Prog.attempt (Op.touch .migratingDiscover) (systemReplies text p t) w = .done (.ok ()) w := by
  have hok : (systemReplies text p t .migratingDiscover).isOk = true := by
    unfold systemReplies
    rw [happ]
    simpa using hsizes
  unfold Prog.attempt Op.touch
  rw [Prog.call_of_ok hok]
  rfl

/-- **Every pass over a test is a pass of the system**: what it leaves of the test is shown. -/
theorem reconcileMigrating_tracks (hname : r.name = name) (htarget : r.spec.migrateTo = target)
    (hp : p.target = target) :
    Prog.Tracks p.replies (systemReplies text p t) (At timeText name target t) (Shows timeText name target)
      (reconcileMigrating text p) (RestoreOperator.reconcileMigrating (systemPass text timeText p t) r) := by
  subst hname
  unfold reconcileMigrating RestoreOperator.reconcileMigrating
  rw [hp, htarget]
  cases target with
  | none =>
    exact Prog.Tracks.then_keeps (Prog.InStep.tracks (patch_inStep (t := t) rfl
      (fun _ hstatus => ⟨rfl, hstatus.baseline, hstatus.jobPhase, hstatus.result⟩) rfl)
      fun _ _ _ _ h => h.shows) fun _ _ => Prog.Keeps.ret _
  | some version =>
    refine Prog.Tracks.bind (getReplica_inStep rfl) fun _ _ => Prog.Tracks.bind (ask_inStep rfl) fun _ _ => ?_
    rintro t' w ⟨rfl, hshows⟩
    have hat : At timeText r.name (some version) t' t' w := ⟨rfl, hshows⟩
    cases hsizes : (p.replies .sizes).isOk with
    | false =>
      rw [(Prog.Stops.read hsizes).bind.state]
      rcases discover_of_not_ok t' text p hsizes w with hfound | hfound
      · rw [Prog.bind_of_done hfound]
        exact hshows
      · rw [Prog.Stops.state (Prog.Stops.bind (.inr hfound))]
        exact hshows
    | true =>
      rw [Prog.bind_of_done (Prog.read_of_ok hsizes)]
      cases happ : applicationDatabase (databaseSizes t'.databases) with
      | none =>
        rw [Prog.bind_of_done (discover_of_none t' text p hsizes happ w)]
        exact failRestore_tracks _ _ _ _ rfl _ t' w hat
      | some dbname =>
        have hdbname : testDatabase t' = dbname := by
          unfold testDatabase
          rw [happ]
          rfl
        rw [Prog.bind_of_done (discover_of_some t' text p hsizes happ w)]
        subst hdbname
        refine (?_ : Prog.Tracks p.replies (systemReplies text p t') (At timeText r.name (some version) t')
          (Shows timeText r.name (some version)) _ _) t' w hat
        refine Prog.Tracks.bind_told (K := At timeText r.name (some version) t')
          (F := fun testJob job => testJob = t'.job ∧ JobShows job testJob) ?_ ?_
        · refine Prog.InStep.read (Reply.isOk_told _ _) ?_ fun _ _ h => h.shows
          rintro t'' w' ⟨rfl, hshows⟩
          exact ⟨⟨rfl, hshows⟩, rfl, hshows.job⟩
        rintro testJob job ⟨htest, hjob⟩
        cases testJob with
        | none =>
          obtain rfl := hjob.eq_none
          exact startJob_tracks _ _ _ _ rfl htest.symm
        | some testJob =>
          cases job with
          | none => exact hjob.elim
          | some job =>
            obtain ⟨hcounts, -⟩ := hjob
            cases hended : testJob.isEnded with
            | false =>
              have hnone : testJob.succeeded = 0 ∧ testJob.failed = 0 := by
                simpa [MigrationJob.isEnded] using hended
              dsimp only
              rw [hcounts, hended, if_pos hnone]
              exact fun t'' w' h => h.shows
            | true =>
              have hsome : ¬(testJob.succeeded = 0 ∧ testJob.failed = 0) := by
                rintro ⟨hsucceeded, hfailed⟩
                simp [MigrationJob.isEnded, hsucceeded, hfailed] at hended
              dsimp only
              rw [hended, if_neg (hcounts ▸ hsome)]
              exact recordResult_tracks _ _ _ _ rfl htest.symm hcounts

end Tracks

/-! ## Runs -/

section Runs

variable {text : LogText} {ctx : Context}

/-- A pass is one over a restore that is Migrating, with the target of the restore. -/
def Migrates (target : Option MigrationTarget) (t : Test) : TestEvent → Prop
  | .pass p => t.phase = .migrating ∧ p.target = target
  | _ => True

/-- What Kubernetes reports of a Job that has ended. -/
def endReport (failed : Bool) : JobReport := if failed then { failed := some 1 } else { succeeded := some 1 }

theorem reconcileRestore_of_migrating {q : RestorePass} {r : Restore} (h : r.status.phase = some .migrating) :
    reconcileRestore ctx q r = RestoreOperator.reconcileMigrating q r := by
  unfold reconcileRestore
  rw [h]

theorem Shows.after {α : Type} {outcome : Outcome World Error α} (h : Shows timeText name target t outcome.state) :
    Shows timeText name target t (World.after outcome) := by
  cases outcome with
  | done a w => exact h
  | failed e w => exact h
  | halted w => exact h.congr rfl rfl rfl

/-- A pass over a test is one step of the system. -/
theorem Shows.pass (ctx : Context) (h : Shows timeText name target t w) (hphase : t.phase = .migrating)
    {p : MigratingPass} (hp : p.target = target) :
    Shows timeText name target (step text t (.pass p))
      (RestoreOperator.step ctx w (.restorePass name (systemPass text timeText p t))) := by
  obtain ⟨r, hr, htarget, hstatus⟩ := h.restore
  have hname : r.name = name := by simpa using List.find?_some hr
  have hmigrating : r.status.phase = some .migrating := hstatus.phase.trans (congrArg some hphase)
  have hpass := reconcileMigrating_tracks timeText t text p hname htarget hp t w ⟨rfl, h⟩
  unfold RestoreOperator.step
  dsimp only
  rw [hr]
  dsimp only
  rw [reconcileRestore_of_migrating hmigrating]
  exact Shows.after hpass

/-- The Job of a test ends. -/
theorem Shows.ended (h : Shows timeText name target t w) {testJob : MigrationJob} (hjob : t.job = some testJob)
    (hrunning : testJob.isEnded = false) (failed : Bool) :
    Shows timeText name target
      { t with job := some (if failed then { testJob with failed := 1 } else { testJob with succeeded := 1 }) }
      (w.reportJob (.migration name) (endReport failed)) := by
  obtain ⟨hhere, ⟨r, hr, htarget, hstatus⟩, hjobs⟩ := h
  refine ⟨hhere, ⟨r, hr, htarget, ⟨hstatus.phase, hstatus.baseline, hstatus.jobPhase, hstatus.result⟩⟩, ?_⟩
  rw [hjob] at hjobs
  rw [job_reportJob]
  cases hfound : w.job (.migration name) with
  | none =>
    rw [hfound] at hjobs
    exact hjobs.elim
  | some job =>
    rw [hfound] at hjobs
    obtain ⟨-, hactive⟩ := hjobs
    have hkey : job.key = .migration name := by
      unfold World.job at hfound
      simpa using List.find?_some hfound
    have hnone : testJob.succeeded = 0 ∧ testJob.failed = 0 := by
      simpa [MigrationJob.isEnded] using hrunning
    rw [Option.map_some, if_pos ⟨hkey, hactive hrunning⟩]
    cases failed with
    | true => exact ⟨by simp [jobCounts, endReport, hnone], by simp [MigrationJob.isEnded]⟩
    | false => exact ⟨by simp [jobCounts, endReport, hnone], by simp [MigrationJob.isEnded]⟩

/-- **What happens to a test can happen in the system**, in at most one step. -/
theorem Shows.step (ctx : Context) (h : Shows timeText name target t w) {e : TestEvent} (he : Migrates target t e) :
    ∃ es, Shows timeText name target (step text t e) (run ctx w es) := by
  cases e with
  | pass p => exact ⟨[.restorePass name (systemPass text timeText p t)], h.pass ctx he.1 he.2⟩
  | wrote b =>
    refine ⟨[], ?_⟩
    dsimp only [MigrationTest.step]
    split
    · rename_i testJob hjob
      split
      · exact h
      · refine h.congr_test rfl rfl rfl rfl fun job hshows => ?_
        rw [hjob] at hshows
        cases job with
        | none => exact hshows
        | some job => exact hshows
    · exact h
  | ended failed =>
    dsimp only [MigrationTest.step]
    split
    · rename_i testJob hjob
      cases hrunning : testJob.isEnded with
      | true => exact ⟨[], h⟩
      | false => exact ⟨[.jobReported (.migration name) (endReport failed)], h.ended hjob hrunning failed⟩
    · exact ⟨[], h⟩
  | deleted =>
    refine ⟨[.jobRemoved (.migration name)], ?_⟩
    obtain ⟨hhere, ⟨r, hr, htarget, hstatus⟩, -⟩ := h
    refine ⟨hhere, ⟨r, hr, htarget, ⟨hstatus.phase, hstatus.baseline, hstatus.jobPhase, hstatus.result⟩⟩, ?_⟩
    show JobShows ((w.deleteJob (.migration name)).job (.migration name)) none
    rw [job_deleteJob, if_pos rfl]
    trivial
  | resized name' size => exact ⟨[], h.congr_test rfl rfl rfl rfl fun _ h => h⟩

/-- **Every run of a test is one of the system**: its passes are passes over the restore, its Job is the
    restore's Job, and the status of the restore tells how the test stands. -/
theorem test_in_system (ctx : Context) (text : LogText) (h : Shows timeText name target t w) (es : List TestEvent)
    (hes : Meets (step text) (Migrates target) t es) :
    ∃ es', Shows timeText name target (runFrom (step text) t es) (run ctx w es') := by
  induction es generalizing t w with
  | nil => exact ⟨[], h⟩
  | cons e es ih =>
    obtain ⟨he, hrest⟩ := hes
    obtain ⟨first, hfirst⟩ := h.step ctx he
    obtain ⟨rest, hrest⟩ := ih hfirst hrest
    refine ⟨first ++ rest, ?_⟩
    unfold run
    rw [runFrom_append]
    exact hrest

end Runs

end MigrationTest

end RestoreOperator
