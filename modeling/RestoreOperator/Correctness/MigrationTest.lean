import RestoreOperator.Calls.Keeps
import RestoreOperator.Calls.Loops
import RestoreOperator.Calls.Runs
import RestoreOperator.Correctness.LogTail
import RestoreOperator.Restore.MigrationTest

/-!
# `Correctness.MigrationTest` — what a migration test reports

The table a test is judged by holds the source's upgrades too, and the pass that starts the Job may be cut off
anywhere and come again.  What a pass can do is said once, by cases; that the report is of the Job's own work
follows from it.
-/

namespace RestoreOperator

open Calls

namespace MigrationTest

/-! ## Databases -/

theorem Test.database_updateDatabase {f : Database → Database} (hf : ∀ d, (f d).name = d.name) (t : Test)
    (name other : String) :
    (t.updateDatabase name f).database other =
      (t.database other).map fun d => if other = name then f d else d := by
  unfold Test.updateDatabase Test.database
  rw [List.find?_map]
  have hsame : ((fun d : Database => decide (d.name = other)) ∘ fun d => if d.name = name then f d else d) =
      fun d => decide (d.name = other) := by
    funext d
    dsimp only [Function.comp]
    split
    · rw [hf]
    · rfl
  rw [hsame]
  refine Option.map_congr fun d hd => ?_
  have hname : d.name = other := by simpa using List.find?_some hd
  rw [hname]

/-- **A database gets no batches** before its migration. -/
structure Trims (d d' : Database) : Prop where
  name : d'.name = d.name
  rows : d'.rows ⊆ d.rows

theorem trims_dropSchema (schema : String) (d : Database) : Trims d (d.dropSchema schema) where
  name := rfl
  rows := by
    unfold Database.rows Database.dropSchema
    dsimp only
    split
    · exact List.nil_subset _
    · exact List.Subset.refl _

/-! ## The rows a Job is judged by -/

/-- **The rows are the restored ones and the Job's**, and the restored ones come before the baseline. -/
def Accounts (baseline : Option Int) (wrote : List Batch) (d : Database) : Prop :=
  ∃ restored, d.rows = restored ++ wrote ∧ ∀ b ∈ restored, ∃ at_, baseline = some at_ ∧ b.loggedAt ≤ at_

theorem accounts_latestBatchAt (d : Database) : Accounts d.latestBatchAt [] d := by
  refine ⟨d.rows, (List.append_nil _).symm, fun b hb => ?_⟩
  have hmem : b.loggedAt ∈ d.rows.map (·.loggedAt) := List.mem_map_of_mem hb
  unfold Database.latestBatchAt
  cases hmax : (d.rows.map (·.loggedAt)).max? with
  | none =>
    rw [List.max?_eq_none_iff.mp hmax] at hmem
    cases hmem
  | some at_ => exact ⟨at_, rfl, (List.max?_eq_some_iff.mp hmax).2 _ hmem⟩

theorem Accounts.trims {baseline : Option Int} {d d' : Database} (h : Accounts baseline [] d)
    (htrims : Trims d d') : Accounts baseline [] d' := by
  obtain ⟨restored, hrows, hbefore⟩ := h
  rw [List.append_nil] at hrows
  exact ⟨d'.rows, (List.append_nil _).symm, fun b hb => hbefore b (hrows ▸ htrims.rows hb)⟩

theorem Accounts.record {baseline : Option Int} {wrote : List Batch} {d : Database}
    (h : Accounts baseline wrote d) (b : Batch) : Accounts baseline (wrote ++ [b]) (d.record b) := by
  obtain ⟨restored, hrows, hbefore⟩ := h
  refine ⟨restored, ?_, hbefore⟩
  show d.rows ++ [b] = restored ++ (wrote ++ [b])
  rw [hrows, List.append_assoc]

/-- The migrations upwards among the batches of a Job. -/
def upwards (wrote : List Batch) : List Batch := wrote.filter fun b => b.direction == "up"

/-- **No restored row is taken for a new one.** -/
theorem Accounts.newBatches {baseline : Option Int} {wrote : List Batch} {d : Database}
    (h : Accounts baseline wrote d) :
    d.newBatches baseline = (upwards wrote).filter fun b => baseline.all (· < b.loggedAt) := by
  obtain ⟨restored, hrows, hbefore⟩ := h
  unfold Database.newBatches upwards
  rw [hrows, List.filter_append, List.filter_filter]
  have hnone : (restored.filter fun b => b.direction == "up" && baseline.all (· < b.loggedAt)) = [] := by
    refine List.filter_eq_nil_iff.mpr fun b hb hnew => ?_
    obtain ⟨at_, rfl, hle⟩ := hbefore b hb
    simp only [Option.all_some, Bool.and_eq_true, decide_eq_true_eq] at hnew
    omega
  rw [hnone, List.nil_append]
  exact List.filter_congr fun b _ => Bool.and_comm _ _

theorem newBatch_mem {baseline : Option Int} {d : Database} {b : Batch} (h : d.newBatch baseline = some b) :
    b ∈ d.newBatches baseline ∧ ∀ other ∈ d.newBatches baseline, other.loggedAt ≤ b.loggedAt := by
  unfold Database.newBatch at h
  have hsorted : ((d.newBatches baseline).mergeSort fun a b => decide (b.loggedAt ≤ a.loggedAt)).Pairwise
      fun a b => decide (b.loggedAt ≤ a.loggedAt) = true :=
    List.pairwise_mergeSort (fun a b c hab hbc => by simp only [decide_eq_true_eq] at hab hbc ⊢; omega)
      (fun a b => by simp only [Bool.or_eq_true, decide_eq_true_eq]; omega) (d.newBatches baseline)
  have hmem : ∀ other, other ∈ (d.newBatches baseline).mergeSort
      (fun a b => decide (b.loggedAt ≤ a.loggedAt)) ↔ other ∈ d.newBatches baseline :=
    fun other => List.mem_mergeSort
  cases hlist : (d.newBatches baseline).mergeSort fun a b => decide (b.loggedAt ≤ a.loggedAt) with
  | nil =>
    rw [hlist] at h
    cases h
  | cons first rest =>
    rw [hlist] at h hsorted hmem
    obtain rfl := Option.some.inj h
    refine ⟨(hmem first).mp List.mem_cons_self, fun other hother => ?_⟩
    rcases List.mem_cons.mp ((hmem other).mpr hother) with rfl | hrest
    · exact le_refl _
    · simpa using (List.pairwise_cons.mp hsorted).1 other hrest

/-- **The newest batch is the Job's**, or none is. -/
theorem Accounts.newBatch {baseline : Option Int} {wrote : List Batch} {d : Database}
    (h : Accounts baseline wrote d) {b : Batch} (hb : d.newBatch baseline = some b) : b ∈ upwards wrote := by
  have hmem := (newBatch_mem hb).1
  rw [h.newBatches] at hmem
  exact List.mem_of_mem_filter hmem

/-- Under a clock that moves on, it is the last the Job recorded. -/
theorem Accounts.newBatch_eq {baseline : Option Int} {wrote : List Batch} {d : Database}
    (h : Accounts baseline wrote d) (hclock : wrote.Pairwise fun a b => a.loggedAt < b.loggedAt)
    (hafter : ∀ b ∈ wrote, ∀ at_, baseline = some at_ → at_ < b.loggedAt) :
    d.newBatch baseline = (upwards wrote).getLast? := by
  have hall : d.newBatches baseline = upwards wrote := by
    rw [h.newBatches]
    refine List.filter_eq_self.mpr fun b hb => ?_
    rw [Option.all_eq_true]
    exact fun at_ hat => decide_eq_true (hafter b (List.mem_of_mem_filter hb) at_ hat)
  cases hnew : d.newBatch baseline with
  | none =>
    unfold Database.newBatch at hnew
    rw [List.head?_eq_none_iff] at hnew
    have hlength : ((d.newBatches baseline).mergeSort fun a b => decide (b.loggedAt ≤ a.loggedAt)).length =
        (d.newBatches baseline).length := List.length_mergeSort _
    rw [hnew, hall] at hlength
    rw [List.length_eq_zero_iff.mp hlength.symm]
    rfl
  | some b =>
    obtain ⟨hmem, hnewest⟩ := newBatch_mem hnew
    rw [hall] at hmem hnewest
    obtain ⟨earlier, last, hlast⟩ := List.eq_nil_or_concat (upwards wrote) |>.resolve_left
      (List.ne_nil_of_mem hmem)
    have hpairwise : (upwards wrote).Pairwise fun a b => a.loggedAt < b.loggedAt := hclock.filter _
    rw [List.concat_eq_append] at hlast
    rw [hlast, List.getLast?_concat]
    rw [hlast] at hmem hnewest hpairwise
    rcases List.mem_append.mp hmem with hb | hb
    · have hlt := (List.pairwise_append.mp hpairwise).2.2 b hb last (List.mem_singleton_self last)
      have hle := hnewest last (List.mem_append_right _ (List.mem_singleton_self last))
      omega
    · rw [List.mem_singleton.mp hb]

/-! ## What a pass can do -/

/-- Preparing a database leaves what is known of the Jobs, and there is none yet. -/
structure Prepares (t t' : Test) : Prop where
  result : t'.result = t.result
  written : t'.written = t.written
  job : t'.job = none

/-- **What a result says**: what the rows after the baseline came to. -/
def Tells (t : Test) (p : MigratingPass) (dbname : String) (job : MigrationJob) (r : MigrationResult) : Prop :=
  ∃ d, t.database dbname = some d ∧ d.batches.isSome = true ∧
    { r with error := none } = resultOf (d.newBatch p.baseline) d.size (job.failed != 0)

/-- **What a pass can leave behind.** -/
inductive PassLeaves (p : MigratingPass) (t : Test) : Test → Prop where
  | same (phase : RestorePhase) : PassLeaves p t { t with phase := phase }
  | prepared {t' : Test} (hjob : t.job = none) (h : Prepares t t') : PassLeaves p t t'
  | started {t' : Test} {dbname : String} (hjob : t.job = none) (h : Prepares t t')
      (hrows : ∀ d, t'.database dbname = some d → Accounts t'.baseline [] d) :
      PassLeaves p t { t' with job := some { database := dbname } }
  | recorded {dbname jobPhase : String} {job : MigrationJob} {r : MigrationResult} (hjob : t.job = some job)
      (hended : job.isEnded = true) (hdbname : applicationDatabase (databaseSizes t.databases) = some dbname)
      (htells : Tells t p dbname job r) :
      PassLeaves p t { t with phase := .ready, jobPhase := some jobPhase, result := some r }

section Pass

variable {p : MigratingPass} {t : Test} {ρ : MigratingCall → Reply MigratingError}

/-- The SQL of the replica records no batch. -/
def SqlTrims (p : MigratingPass) : Prop := ∀ sql, p.preMigrateSql = some sql → ∀ d, Trims d (sql d)

theorem Prepares.refl (hjob : t.job = none) : Prepares t t := ⟨rfl, rfl, hjob⟩

/-- Ready for the Job: the rows there are come before the baseline. -/
def Poised (t : Test) (dbname : String) (t' : Test) : Prop :=
  Prepares t t' ∧ ∀ d, t'.database dbname = some d → Accounts t'.baseline [] d

theorem Poised.update {dbname : String} {t' : Test} (h : Poised t dbname t') {f : Database → Database}
    (hf : ∀ d, Trims d (f d)) (name : String) : Poised t dbname (t'.updateDatabase name f) := by
  refine ⟨{ h.1 with }, fun d' hd' => ?_⟩
  rw [Test.database_updateDatabase fun d => (hf d).name] at hd'
  obtain ⟨d, hd, rfl⟩ := Option.map_eq_some_iff.mp hd'
  split
  · exact (h.2 d hd).trims (hf d)
  · exact h.2 d hd

/-- A query tells what the database tells, and changes nothing. -/
theorem query_tells {α : Type} {c : MigratingCall} {name : String} {f : Database → Option α} {a : α}
    {t t' : Test} (h : query c name f ρ t = .done a t') :
    t' = t ∧ ∃ d, t.database name = some d ∧ f d = some a := by
  unfold query at h
  obtain ⟨found, t₁, hread, hrest⟩ := Prog.bind_eq_done h
  obtain ⟨rfl, rfl⟩ := Prog.read_eq_done hread
  cases hfound : (t₁.database name).bind f with
  | none =>
    rw [hfound] at hrest
    cases hrest
  | some b =>
    rw [hfound] at hrest
    cases hrest
    obtain ⟨d, hd, hb⟩ := Option.bind_eq_some_iff.mp hfound
    exact ⟨rfl, d, hd, hb⟩

theorem keeps_query {α : Type} {I : Test → Prop} (c : MigratingCall) (name : String)
    (f : Database → Option α) : Prog.Keeps I (query c name f) := by
  refine Prog.Keeps.bind (Prog.Keeps.read _ _) fun found => ?_
  cases found with
  | none => exact Prog.Keeps.fail _
  | some a => exact Prog.Keeps.ret a

theorem keeps_dropPreMigrateSchemas (dbname : String) :
    Prog.Keeps (Poised t dbname) (dropPreMigrateSchemas p dbname) := by
  refine Prog.Keeps.when fun _ => Prog.Keeps.bind (keeps_query _ _ _) fun present => ?_
  refine Prog.Keeps.when fun _ => Prog.Keeps.bind (Prog.Keeps.ask _ _) fun _ => ?_
  exact Prog.Keeps.each fun schema _ =>
    Prog.Keeps.call fun t' h => h.update (trims_dropSchema schema) dbname

theorem keeps_runPreMigrateSql (hsql : SqlTrims p) (dbname : String) :
    Prog.Keeps (Poised t dbname) (runPreMigrateSql p dbname) := by
  unfold runPreMigrateSql
  cases hp : p.preMigrateSql with
  | none => exact Prog.Keeps.ret ()
  | some sql => exact Prog.Keeps.call fun t' h => h.update (hsql sql hp) dbname

/-- **The Job starts over a baseline**, or not at all. -/
theorem startJob_leaves (hsql : SqlTrims p) (hjob : t.job = none) (dbname : String) :
    Prog.Leads ρ (· = t) (PassLeaves p t) (PassLeaves p t) (startJob p dbname) := by
  have hstops : ∀ t', Poised t dbname t' → PassLeaves p t t' := fun t' h => .prepared hjob h.1
  have hself := Prepares.refl hjob
  have hstart : ∀ t', t' = t → PassLeaves p t t' := by
    rintro t' rfl
    exact .prepared hjob hself
  refine Prog.Leads.bind_value (Q := fun latest t' => t' = t ∧
    ∃ d, t.database dbname = some d ∧ d.latestBatchAt = latest) ?_ fun latest => ?_
  · rintro t' rfl
    refine ⟨fun latest t'' hdone => ?_, hstart _ (keeps_query (I := (· = t')) _ _ _ ρ t' rfl)⟩
    obtain ⟨rfl, d, hd, hlatest⟩ := query_tells hdone
    exact ⟨rfl, d, hd, Option.some.inj hlatest⟩
  refine Prog.Leads.bind (Q := Poised t dbname) (Prog.Leads.when (fun hsome => ?_) ?_ hstops) fun _ => ?_
  · refine Prog.Leads.call ?_ (fun t' h => hstart t' h.1) hstops
    rintro t' ⟨rfl, d, hd, rfl⟩
    refine ⟨{ hself with }, fun d' hd' => ?_⟩
    obtain rfl := Option.some.inj (hd.symm.trans hd')
    exact accounts_latestBatchAt d
  · rintro hnone t' ⟨rfl, d, hd, hlatest⟩
    refine ⟨hself, fun d' hd' => ?_⟩
    obtain rfl := Option.some.inj (hd.symm.trans hd')
    -- without a batch there is nothing to tell apart
    have hempty : latest = none := by simpa using hnone
    have hrows : d.rows = [] := by
      have hmax := hlatest.trans hempty
      exact List.map_eq_nil_iff.mp (List.max?_eq_none_iff.mp hmax)
    exact ⟨[], by rw [hrows]; rfl, fun _ h => nomatch h⟩
  refine Prog.Leads.keeps_bind (keeps_dropPreMigrateSchemas dbname) hstops fun _ => ?_
  refine Prog.Leads.keeps_bind (keeps_runPreMigrateSql hsql dbname) hstops fun _ => ?_
  exact Prog.Leads.call (fun t' h => .started hjob h.1 h.2) hstops fun _ h => h

theorem keeps_failedLog {I : Test → Prop} (text : LogText) (jobFailed : Bool) :
    Prog.Keeps I (failedLog text p jobFailed) := by
  unfold failedLog
  split
  · exact Prog.Keeps.ret _
  · split
    · exact Prog.Keeps.ret _
    · exact Prog.Keeps.fail _

theorem keeps_readResult {I : Test → Prop} (text : LogText) (dbname : String) (jobFailed : Bool) :
    Prog.Keeps I (readResult text p dbname jobFailed) := by
  refine Prog.Keeps.bind (keeps_failedLog text jobFailed) fun log => Prog.Keeps.bind (keeps_query _ _ _)
    fun size => Prog.Keeps.bind (keeps_query _ _ _) fun row => ?_
  split
  · split
    · exact Prog.Keeps.ret _
    · exact Prog.Keeps.fail _
  · exact Prog.Keeps.ret _

/-- **A result tells what was read.** -/
theorem readResult_tells {text : LogText} {dbname : String} {job : MigrationJob} {r : MigrationResult} {t' : Test}
    (h : readResult text p dbname (job.failed != 0) ρ t = .done r t') : Tells t p dbname job r := by
  obtain ⟨log, t₁, hlog, h₁⟩ := Prog.bind_eq_done h
  have hsame := keeps_failedLog (I := (· = t)) (p := p) text (job.failed != 0) ρ t rfl
  rw [hlog] at hsame
  obtain rfl : t₁ = t := hsame
  obtain ⟨size, t₂, hsize, h₂⟩ := Prog.bind_eq_done h₁
  obtain ⟨rfl, d, hd, hreadSize⟩ := query_tells hsize
  obtain ⟨row, t₃, hrow, h₃⟩ := Prog.bind_eq_done h₂
  obtain ⟨rfl, d', hd', hreadRow⟩ := query_tells hrow
  obtain rfl := Option.some.inj (hd.symm.trans hd')
  obtain ⟨batches, hbatches, rfl⟩ := Option.map_eq_some_iff.mp hreadRow
  obtain rfl := Option.some.inj hreadSize
  refine ⟨d, hd, by rw [hbatches]; rfl, ?_⟩
  have herror (row : Option Batch) : { resultOf row d.size (job.failed != 0) with error := none } =
      resultOf row d.size (job.failed != 0) := by
    cases row <;> rfl
  by_cases hfailed : (job.failed != 0) = true
  · rw [if_pos hfailed] at h₃
    cases hcause : migrationError ((d.newBatch p.baseline).bind (·.stats)) log with
    | none =>
      rw [hcause] at h₃
      cases h₃
    | some error =>
      rw [hcause] at h₃
      cases h₃
      exact herror _
  · rw [if_neg hfailed] at h₃
    cases h₃
    exact herror _

/-- **The cases of a pass.** -/
theorem pass_leaves (text : LogText) {t : Test} (hsql : t.job = none → SqlTrims p) :
    PassLeaves p t (reconcileMigrating text p ρ t).state := by
  have hself : ∀ t', t' = t → PassLeaves p t t' := by
    rintro t' rfl
    exact .same t'.phase
  have hphase (c : MigratingCall) (phase : RestorePhase) :
      Prog.Leads ρ (· = t) (PassLeaves p t) (PassLeaves p t)
        (Prog.call c fun t => { t with phase := phase } : MigratingOp Unit) := by
    refine Prog.Leads.call ?_ hself fun _ h => h
    rintro t' rfl
    exact .same phase
  suffices hleads : Prog.Leads ρ (· = t) (PassLeaves p t) (PassLeaves p t) (reconcileMigrating text p) from
    (hleads t rfl).2
  unfold reconcileMigrating
  split
  · exact hphase _ _
  refine Prog.Leads.keeps_bind (Prog.Keeps.ask _ _) hself fun _ => ?_
  refine Prog.Leads.keeps_bind (Prog.Keeps.ask _ _) hself fun _ => ?_
  refine Prog.Leads.read_bind (fun sizes => ?_) hself
  cases hdbname : applicationDatabase sizes with
  | none => exact (hphase _ _).weaken fun _ h => h.1
  | some dbname =>
  refine Prog.Leads.read_bind (fun existing => ?_) fun _ h => hself _ h.1
  cases existing with
  | none =>
    intro t' h
    obtain ⟨⟨rfl, _⟩, hjob⟩ := h
    exact startJob_leaves (hsql hjob) hjob dbname t' rfl
  | some job =>
    intro t' h
    obtain ⟨⟨rfl, rfl⟩, hjob⟩ := h
    refine Prog.Leads.when (I := (· = t')) (fun hended => ?_) (fun _ => hself) (fun _ h => h) t' rfl
    refine Prog.Leads.bind_value (Q := fun r t => t = t' ∧ Tells t' p dbname job r) ?_ fun r => ?_
    · rintro t rfl
      have hkeeps := keeps_readResult (I := (· = t)) (p := p) text dbname (job.failed != 0) ρ t rfl
      refine ⟨fun r t'' hdone => ?_, hself _ hkeeps⟩
      rw [hdone] at hkeeps
      exact ⟨hkeeps, readResult_tells hdone⟩
    · refine Prog.Leads.call ?_ (fun _ h => hself _ h.1) fun _ h => h
      rintro t ⟨rfl, htells⟩
      exact .recorded hjob hended hdbname htells

end Pass

/-! ## Whose work a result is -/

/-- **What every step of a run has to respect.**  A pass knows the baseline that is recorded, the largest
    database is still the one the Job was started for, and the SQL before a migration writes no batches. -/
def Attributable (t : Test) : TestEvent → Prop
  | .pass p =>
    SqlTrims p ∧ ∀ job, t.job = some job →
      p.baseline = t.baseline ∧ applicationDatabase (databaseSizes t.databases) = some job.database
  | _ => True

/-- The result is of a batch among these, or of none. -/
def OwnWork (written : List Batch) (r : MigrationResult) : Prop :=
  ∃ row size jobFailed, (∀ b, row = some b → b ∈ upwards written) ∧
    { r with error := none } = resultOf row size jobFailed

theorem OwnWork.mono {written written' : List Batch} {r : MigrationResult} (h : OwnWork written r)
    (hsub : written ⊆ written') : OwnWork written' r := by
  obtain ⟨row, size, jobFailed, hrow, hr⟩ := h
  refine ⟨row, size, jobFailed, fun b hb => ?_, hr⟩
  obtain ⟨hmem, hup⟩ := List.mem_filter.mp (hrow b hb)
  exact List.mem_filter.mpr ⟨hsub hmem, hup⟩

/-- **The invariant of a test**: the rows of the Job's database are accounted for, and so is the result. -/
structure Attributed (t : Test) : Prop where
  rows : ∀ job, t.job = some job → ∀ d, t.database job.database = some d → Accounts t.baseline job.wrote d
  wrote : ∀ job, t.job = some job → job.wrote ⊆ t.written
  result : ∀ r, t.result = some r → OwnWork t.written r

section Runs

variable {text : LogText} {t : Test}

theorem attributed_start (hjob : t.job = none) (hresult : t.result = none) : Attributed t where
  rows job h := by
    rw [hjob] at h
    cases h
  wrote job h := by
    rw [hjob] at h
    cases h
  result r h := by
    rw [hresult] at h
    cases h

theorem Accounts.resize {baseline : Option Int} {wrote : List Batch} {d : Database}
    (h : Accounts baseline wrote d) (size : Nat) : Accounts baseline wrote { d with size := size } := h

/-- What a pass tells of the Job's own database is of the Job's work. -/
theorem Attributed.tells (h : Attributed t) {p : MigratingPass} {job : MigrationJob} {r : MigrationResult}
    (hjob : t.job = some job) (hbaseline : p.baseline = t.baseline)
    (htells : Tells t p job.database job r) : OwnWork t.written r := by
  obtain ⟨d, hd, _, hr⟩ := htells
  have hrows := h.rows job hjob d hd
  refine ⟨_, _, _, fun b hb => ?_, hr⟩
  rw [hbaseline] at hb
  obtain ⟨hmem, hup⟩ := List.mem_filter.mp (hrows.newBatch hb)
  exact List.mem_filter.mpr ⟨h.wrote job hjob hmem, hup⟩

theorem Attributed.pass (h : Attributed t) {p : MigratingPass} (hp : Attributable t (.pass p)) :
    Attributed (step text t (.pass p)) := by
  obtain ⟨hsql, hknown⟩ := hp
  have hleaves : PassLeaves p t (step text t (.pass p)) := pass_leaves text fun _ => hsql
  generalize step text t (.pass p) = t' at hleaves ⊢
  cases hleaves with
  | same phase => exact { h with }
  | prepared hjob hprepares =>
    refine ⟨fun job hsome => ?_, fun job hsome => ?_, ?_⟩
    · rw [hprepares.job] at hsome
      cases hsome
    · rw [hprepares.job] at hsome
      cases hsome
    · rw [hprepares.result, hprepares.written]
      exact h.result
  | started hjob hprepares hrows =>
    refine ⟨fun job hsome => ?_, fun job hsome => ?_, ?_⟩
    · obtain rfl := Option.some.inj hsome
      exact hrows
    · obtain rfl := Option.some.inj hsome
      exact List.nil_subset _
    · show ∀ r, _ = some r → _
      rw [hprepares.result, hprepares.written]
      exact h.result
  | recorded hjob hended hdbname htells =>
    obtain ⟨hbaseline, happ⟩ := hknown _ hjob
    obtain rfl := Option.some.inj (hdbname.symm.trans happ)
    have hown := h.tells hjob hbaseline htells
    refine { h with result := fun r hr => ?_ }
    obtain rfl := Option.some.inj hr
    exact hown

/-- **Every event keeps it.** -/
theorem Attributed.step (h : Attributed t) {e : TestEvent} (he : Attributable t e) :
    Attributed (step text t e) := by
  cases e with
  | pass p => exact h.pass he
  | wrote b =>
    dsimp only [MigrationTest.step]
    split
    · rename_i job hjob
      split
      · exact h
      · have hsub : t.written ⊆ t.written ++ [b] := List.subset_append_left _ _
        refine ⟨fun job' hsome d hd => ?_, fun job' hsome => ?_, fun r hr => (h.result r hr).mono hsub⟩
        · obtain rfl := Option.some.inj hsome
          have hd' : (t.updateDatabase job.database (Database.record b)).database job.database = some d := hd
          rw [Test.database_updateDatabase (f := Database.record b) fun _ => rfl] at hd'
          obtain ⟨d, hfound, rfl⟩ := Option.map_eq_some_iff.mp hd'
          rw [if_pos rfl]
          exact (h.rows job hjob d hfound).record b
        · obtain rfl := Option.some.inj hsome
          exact List.append_subset.mpr ⟨List.Subset.trans (h.wrote job hjob) hsub,
            List.subset_append_right _ _⟩
    · exact h
  | ended failed =>
    dsimp only [MigrationTest.step]
    split
    · rename_i job hjob
      split
      · exact h
      · refine ⟨fun job' hsome => ?_, fun job' hsome => ?_, h.result⟩
        · obtain rfl := Option.some.inj hsome
          cases failed <;> exact h.rows job hjob
        · obtain rfl := Option.some.inj hsome
          cases failed <;> exact h.wrote job hjob
    · exact h
  | deleted =>
    refine ⟨fun job hsome => ?_, fun job hsome => ?_, h.result⟩
    · cases hsome
    · cases hsome
  | resized name size =>
    refine ⟨fun job hjob d hd => ?_, h.wrote, h.result⟩
    have hd' : (t.updateDatabase name fun d => { d with size := size }).database job.database = some d := hd
    rw [Test.database_updateDatabase (f := fun d => { d with size := size }) fun _ => rfl] at hd'
    obtain ⟨d, hfound, rfl⟩ := Option.map_eq_some_iff.mp hd'
    split
    · exact (h.rows job hjob d hfound).resize size
    · exact h.rows job hjob d hfound

/-- **A result is of the work of the restore's own Jobs**: in every state of a run, whatever passes are cut off
    or come again, and whatever the source's own upgrades left in the table. -/
theorem result_of_own_jobs (hjob : t.job = none) (hresult : t.result = none) {es : List TestEvent}
    (hes : Meets (step text) Attributable t es) :
    Always (step text) (fun t => ∀ r, t.result = some r → OwnWork t.written r) t es :=
  Always.of_invariant (fun _ _ he h => h.step he) (fun _ h => h.result) (attributed_start hjob hresult) hes

/-- A batch that migrated one table. -/
def patientsBatch (loggedAt : Int) : Batch :=
  { loggedAt := loggedAt, direction := "up", migrations := ["1-patients.js"], durationMs := some 4000, stats := none }

/-- A restore of a database that was upgraded once before. -/
def upgradedTest : Test :=
  { databases :=
      [{ name := "app", size := 1, schemas := ["public", "reporting"], batches := some [patientsBatch 10] }] }

/-- A pass all of whose calls succeed. -/
def upgradePass : MigratingPass :=
  { target := some ⟨"2.1.0", "v"⟩, preMigrateDropSchemas := some ["public", "reporting"], replies := fun _ => .ok }

/-- **A test of an upgrade**, from the pass that starts its Job to the one that records its result. -/
def upgradeEvents : List TestEvent :=
  [.pass upgradePass, .wrote (patientsBatch 20), .ended false, .pass { upgradePass with baseline := some 10 }]

/-- A log without escapes, and passwords that need no encoding. -/
def plainText : LogText where
  strip := id
  utf8PercentEncode s _ := s

/-- The Job of the upgrade when it has ended. -/
def upgradeJob : MigrationJob := { database := "app", succeeded := 1, wrote := [patientsBatch 20] }

theorem upgradeEvents_attributable : Meets (step plainText) Attributable upgradedTest upgradeEvents := by
  have hsql : SqlTrims upgradePass := fun _ h => nomatch h
  refine ⟨⟨hsql, fun _ h => nomatch h⟩, trivial, trivial, ⟨hsql, fun job hjob => ?_⟩, trivial⟩
  have hupgrade : (runFrom (step plainText) upgradedTest (upgradeEvents.take 3)).job = some upgradeJob := by
    with_unfolding_all rfl
  obtain rfl := Option.some.inj (hupgrade.symm.trans hjob)
  exact ⟨by decide +kernel, by decide +kernel⟩

theorem upgrade_result_of_own_jobs :
    Always (step plainText) (fun t => ∀ r, t.result = some r → OwnWork t.written r) upgradedTest
      upgradeEvents :=
  result_of_own_jobs rfl rfl upgradeEvents_attributable

/-- The clock moves on: what a Job records comes after the baseline and after what it recorded before. -/
def Clocked (t : Test) : TestEvent → Prop
  | .wrote b =>
    ∀ job, t.job = some job →
      (∀ earlier ∈ job.wrote, earlier.loggedAt < b.loggedAt) ∧
        ∀ at_, t.baseline = some at_ → at_ < b.loggedAt
  | _ => True

/-- **The batches of a Job are in order**, and after the baseline. -/
structure InOrder (t : Test) : Prop where
  ascending : ∀ job, t.job = some job → job.wrote.Pairwise fun a b => a.loggedAt < b.loggedAt
  after : ∀ job, t.job = some job → ∀ b ∈ job.wrote, ∀ at_, t.baseline = some at_ → at_ < b.loggedAt

theorem inOrder_start (hjob : t.job = none) : InOrder t where
  ascending job h := by
    rw [hjob] at h
    cases h
  after job h := by
    rw [hjob] at h
    cases h

theorem InOrder.step (h : InOrder t) {e : TestEvent} (he : Attributable t e) (hclock : Clocked t e) :
    InOrder (step text t e) := by
  cases e with
  | pass p =>
    have hleaves : PassLeaves p t (MigrationTest.step text t (.pass p)) := pass_leaves text fun _ => he.1
    generalize MigrationTest.step text t (.pass p) = t' at hleaves ⊢
    cases hleaves with
    | same phase => exact { h with }
    | prepared hjob hprepares => exact inOrder_start hprepares.job
    | started hjob hprepares hrows =>
      refine ⟨fun job hsome => ?_, fun job hsome b hb => ?_⟩
      · obtain rfl := Option.some.inj hsome
        exact List.Pairwise.nil
      · obtain rfl := Option.some.inj hsome
        cases hb
    | recorded hjob hended hdbname htells => exact { h with }
  | wrote b =>
    dsimp only [MigrationTest.step]
    split
    · rename_i job hjob
      obtain ⟨hlater, hafter⟩ := hclock job hjob
      split
      · exact h
      · refine ⟨fun job' hsome => ?_, fun job' hsome b' hb' => ?_⟩
        · obtain rfl := Option.some.inj hsome
          refine List.pairwise_append.mpr ⟨h.ascending job hjob, List.pairwise_singleton _ _, ?_⟩
          intro earlier hearlier last hlast
          rw [List.mem_singleton.mp hlast]
          exact hlater earlier hearlier
        · obtain rfl := Option.some.inj hsome
          rcases List.mem_append.mp hb' with hb' | hb'
          · exact h.after job hjob b' hb'
          · rw [List.mem_singleton.mp hb']
            exact hafter
    · exact h
  | ended failed =>
    dsimp only [MigrationTest.step]
    split
    · rename_i job hjob
      split
      · exact h
      · refine ⟨fun job' hsome => ?_, fun job' hsome => ?_⟩
        · obtain rfl := Option.some.inj hsome
          cases failed <;> exact h.ascending job hjob
        · obtain rfl := Option.some.inj hsome
          cases failed <;> exact h.after job hjob
    · exact h
  | deleted => exact inOrder_start rfl
  | resized name size => exact ⟨h.ascending, h.after⟩

/-- **A report of the Job**: of the last batch that it recorded upwards, if any, and of how it ended. -/
def ReportsJob (t : Test) (r : MigrationResult) : Prop :=
  ∃ job d, t.job = some job ∧ job.isEnded = true ∧ t.database job.database = some d ∧
    { r with error := none } = resultOf (upwards job.wrote).getLast? d.size (job.failed != 0)

/-- **Every result a run comes to reports the Job it was recorded for**, exactly. -/
theorem first_result_reports (hjob : t.job = none) {es : List TestEvent}
    (hresult : t.result = none) (hes : Meets (step text) (fun t e => Attributable t e ∧ Clocked t e) t es) :
    Meets (step text) (fun t e => t.result = none → ∀ r, (step text t e).result = some r → ReportsJob t r)
      t es := by
  refine Meets.of_invariant (I := fun t => Attributed t ∧ InOrder t) ?_ ?_
    ⟨attributed_start hjob hresult, inOrder_start hjob⟩ hes
  · rintro t e ⟨he, hclock⟩ ⟨h, horder⟩
    exact ⟨h.step he, horder.step he hclock⟩
  · rintro t e ⟨he, _⟩ ⟨h, horder⟩ hnone r hr
    have hsame (hkept : (step text t e).result = t.result) : ReportsJob t r := by
      rw [hkept, hnone] at hr
      cases hr
    cases e with
    | pass p =>
      obtain ⟨hsql, hknown⟩ := he
      have hleaves : PassLeaves p t (step text t (.pass p)) := pass_leaves text fun _ => hsql
      generalize step text t (.pass p) = t' at hleaves hr hsame
      cases hleaves with
      | same phase => exact hsame rfl
      | prepared hjob hprepares => exact hsame hprepares.result
      | started hjob hprepares hrows => exact hsame hprepares.result
      | recorded hjob hended hdbname htells =>
        rename_i job _
        obtain ⟨hbaseline, happ⟩ := hknown job hjob
        obtain rfl := Option.some.inj (hdbname.symm.trans happ)
        obtain rfl := Option.some.inj hr
        obtain ⟨d, hd, _, htold⟩ := htells
        refine ⟨job, d, hjob, hended, hd, ?_⟩
        rw [htold, hbaseline, (h.rows job hjob d hd).newBatch_eq (horder.ascending job hjob)
          (horder.after job hjob)]
    | wrote b =>
      refine hsame ?_
      dsimp only [step]
      split
      · split <;> rfl
      · rfl
    | ended failed =>
      refine hsame ?_
      dsimp only [step]
      split
      · split <;> rfl
      · rfl
    | deleted => exact hsame rfl
    | resized name size => exact hsame rfl

theorem upgrade_first_result_reports :
    Meets (step plainText) (fun t e => t.result = none →
      ∀ r, (step plainText t e).result = some r → ReportsJob t r) upgradedTest upgradeEvents := by
  have hsql : SqlTrims upgradePass := fun _ h => nomatch h
  refine first_result_reports rfl rfl ⟨⟨⟨hsql, fun _ h => nomatch h⟩, trivial⟩, ⟨trivial, fun job hjob => ?_⟩,
    ⟨trivial, trivial⟩, ⟨upgradeEvents_attributable.2.2.2.1, trivial⟩, trivial⟩
  have hupgrade : (step plainText upgradedTest (.pass upgradePass)).job = some { database := "app" } := by
    with_unfolding_all rfl
  have hbaseline : (step plainText upgradedTest (.pass upgradePass)).baseline = some 10 := by
    with_unfolding_all rfl
  obtain rfl := Option.some.inj (hupgrade.symm.trans hjob)
  refine ⟨fun _ h => (nomatch h), fun at_ hat => ?_⟩
  obtain rfl := Option.some.inj (hbaseline.symm.trans hat)
  decide

end Runs

/-! ## Which tests come to their end -/

section Ends

variable {text : LogText} {p : MigratingPass} {t : Test} {ρ : MigratingCall → Reply MigratingError}

/-- The cause of a failure is never cut inside a character. -/
theorem migrationError_isSome (stats : Option Value) (log : Option String) :
    ∃ error, migrationError stats log = some error := by
  unfold migrationError
  dsimp only
  by_cases hline : ((stats.bind (·.get "error")).map errorLine).getD "" ≠ ""
  · exact ⟨_, if_pos hline⟩
  · rw [if_neg hline]
    cases log with
    | none => exact ⟨_, rfl⟩
    | some log =>
      obtain ⟨headline, kept, _, _, _, htail⟩ := logTail_shape log
      dsimp only
      rw [htail]
      exact ⟨_, rfl⟩

theorem query_ends {α : Type} {c : MigratingCall} {name : String} {f : Database → Option α} {a : α}
    {d : Database} (hc : ρ c = .ok) (hd : t.database name = some d) (ha : f d = some a) :
    query c name f ρ t = .done a t := by
  show Prog.andThen (Prog.read c fun t => (t.database name).bind f) _ ρ t = _
  have hread : (t.database name).bind f = some a := by rw [hd, Option.bind_some, ha]
  unfold Prog.andThen Prog.read
  rw [hc]
  dsimp only
  rw [hread]
  rfl

theorem failedLog_ends (text : LogText) (jobFailed : Bool) :
    ∃ log, failedLog text p jobFailed ρ t = .done log t := by
  unfold failedLog
  cases (if jobFailed then p.log else none) with
  | none => exact ⟨none, rfl⟩
  | some log =>
    obtain ⟨masked, hmasked⟩ := redact_isSome text log [p.password]
    dsimp only
    rw [hmasked]
    exact ⟨some masked, rfl⟩

/-- **A result can be read where there is a table.** -/
theorem readResult_ends {dbname : String} {d : Database} (hok : ∀ c, ρ c = .ok)
    (hd : t.database dbname = some d) (htable : d.batches.isSome = true) (jobFailed : Bool) :
    ∃ r, readResult text p dbname jobFailed ρ t = .done r t := by
  obtain ⟨batches, hbatches⟩ := Option.isSome_iff_exists.mp htable
  obtain ⟨log, hlog⟩ := failedLog_ends (p := p) (ρ := ρ) (t := t) text jobFailed
  have hsize := query_ends (f := fun d => some (d.size : Int)) (hok .size) hd rfl
  have hrow := query_ends (f := fun d => d.batches.map fun _ => d.newBatch p.baseline) (hok .newBatch) hd
    (by rw [hbatches]; rfl)
  obtain ⟨error, herror⟩ := migrationError_isSome ((d.newBatch p.baseline).bind (·.stats)) log
  unfold readResult
  rw [Prog.bind_of_done hlog, Prog.bind_of_done hsize, Prog.bind_of_done hrow]
  by_cases hfailed : jobFailed = true
  · rw [if_pos hfailed, herror]
    exact ⟨_, rfl⟩
  · rw [if_neg hfailed]
    exact ⟨_, rfl⟩

/-- **A pass that gets through records the result** of a Job that has ended, if there is a table. -/
theorem pass_records {job : MigrationJob} {d : Database} (htarget : p.target.isSome = true)
    (hok : ∀ c, p.replies c = .ok) (hjob : t.job = some job) (hended : job.isEnded = true)
    (happ : applicationDatabase (databaseSizes t.databases) = some job.database)
    (hd : t.database job.database = some d) (htable : d.batches.isSome = true) :
    (step text t (.pass p)).result.isSome = true := by
  obtain ⟨target, htarget⟩ := Option.isSome_iff_exists.mp htarget
  obtain ⟨r, hr⟩ : ∃ r, readResult text p job.database (job.failed != 0) p.replies t = .done r t :=
    readResult_ends hok hd htable (job.failed != 0)
  have hask {c : MigratingCall} : Prog.ask c () p.replies t = .done () t := Prog.ask_of_ok (by rw [hok]; rfl)
  have hread {α : Type} {c : MigratingCall} {g : Test → α} : Prog.read c g p.replies t = .done (g t) t := by
    unfold Prog.read
    rw [hok]
  have hrecord : (recordResult text p job.database job p.replies t).state.result = some r := by
    unfold recordResult
    rw [Prog.bind_of_done hr, Prog.call_of_ok (by rw [hok]; rfl)]
    rfl
  show (reconcileMigrating text p p.replies t).state.result.isSome = true
  unfold reconcileMigrating
  rw [htarget]
  dsimp only
  rw [Prog.bind_of_done hask, Prog.bind_of_done hask, Prog.bind_of_done hread, happ]
  dsimp only
  rw [Prog.bind_of_done hread, hjob]
  dsimp only
  rw [hended]
  show (recordResult text p job.database job p.replies t).state.result.isSome = true
  rw [hrecord]
  rfl

/-- What passes over a Job that has ended leave: it is there, and a result is there only with a table. -/
structure Ended (endedJob : MigrationJob) (restored : List Database) (t : Test) : Prop where
  job : t.job = some endedJob
  databases : t.databases = restored
  result : t.result.isSome = true → ∃ d, restored.find? (·.name = endedJob.database) = some d ∧ d.batches.isSome = true

theorem Ended.pass {job : MigrationJob} {databases : List Database} (h : Ended job databases t)
    (happ : applicationDatabase (databaseSizes databases) = some job.database) (p : MigratingPass) :
    Ended job databases (step text t (.pass p)) ∧
      (t.result.isSome = true → (step text t (.pass p)).result.isSome = true) := by
  have hleaves : PassLeaves p t (step text t (.pass p)) := by
    refine pass_leaves text fun hnone => ?_
    rw [h.job] at hnone
    cases hnone
  generalize step text t (.pass p) = t' at hleaves ⊢
  cases hleaves with
  | same phase => exact ⟨⟨h.job, h.databases, h.result⟩, id⟩
  | prepared hjob =>
    rw [h.job] at hjob
    cases hjob
  | started hjob =>
    rw [h.job] at hjob
    cases hjob
  | recorded hjob hended hdbname htells =>
    rw [h.databases, happ] at hdbname
    obtain rfl := Option.some.inj hdbname
    refine ⟨⟨h.job, h.databases, fun _ => ?_⟩, fun _ => rfl⟩
    obtain ⟨d, hd, htable, _⟩ := htells
    unfold Test.database at hd
    rw [h.databases] at hd
    exact ⟨d, hd, htable⟩

/-- **A test whose Job has ended comes to a result exactly when its database has the table**: without it no
    pass ever records one, whatever its calls answer, and with it a pass that gets through does. -/
theorem recorded_iff_table {job : MigrationJob} (hjob : t.job = some job) (hended : job.isEnded = true)
    (happ : applicationDatabase (databaseSizes t.databases) = some job.database) (hnone : t.result = none)
    (ps : List MigratingPass) :
    ((runFrom (step text) t (ps.map .pass)).result.isSome = true →
        ∃ d, t.database job.database = some d ∧ d.batches.isSome = true) ∧
      ((∃ p ∈ ps, p.target.isSome = true ∧ ∀ c, p.replies c = .ok) →
        (∃ d, t.database job.database = some d ∧ d.batches.isSome = true) →
          (runFrom (step text) t (ps.map .pass)).result.isSome = true) := by
  have hstart : Ended job t.databases t := by
    refine ⟨hjob, rfl, fun hsome => ?_⟩
    rw [hnone] at hsome
    cases hsome
  have hrun : ∀ (ps : List MigratingPass) (t' : Test), Ended job t.databases t' →
      Ended job t.databases (runFrom (step text) t' (ps.map .pass)) ∧
        (t'.result.isSome = true → (runFrom (step text) t' (ps.map .pass)).result.isSome = true) := by
    intro ps
    induction ps with
    | nil => exact fun t' h => ⟨h, id⟩
    | cons p rest ih =>
      intro t' h
      have hstep : Ended job t.databases (step text t' (.pass p)) ∧
          (t'.result.isSome = true → (step text t' (.pass p)).result.isSome = true) := h.pass happ p
      obtain ⟨hpass, hkeeps⟩ := hstep
      obtain ⟨hlast, hkeepsRest⟩ := ih _ hpass
      exact ⟨hlast, fun hsome => hkeepsRest (hkeeps hsome)⟩
  constructor
  · exact (hrun ps t hstart).1.result
  · rintro ⟨p, hp, htarget, hok⟩ ⟨d, hd, htable⟩
    obtain ⟨before, after, rfl⟩ := List.append_of_mem hp
    have hbefore := (hrun before t hstart).1
    rw [List.map_append, runFrom_append, List.map_cons, runFrom_cons]
    generalize runFrom (step text) t (before.map .pass) = t' at hbefore ⊢
    have hd' : t'.database job.database = some d := by
      unfold Test.database at hd ⊢
      rw [hbefore.databases]
      exact hd
    have happ' : applicationDatabase (databaseSizes t'.databases) = some job.database := by
      rw [hbefore.databases, happ]
    refine (hrun after _ (hbefore.pass happ p).1).2 ?_
    exact pass_records htarget hok hbefore.job hended happ' hd' htable

/-- The upgrade, when its Job has ended. -/
def endedUpgrade : Test := { upgradedTest with baseline := some 10, job := some upgradeJob }

theorem endedUpgrade_recorded :
    (runFrom (step plainText) endedUpgrade ([upgradePass].map .pass)).result.isSome = true :=
  (recorded_iff_table rfl rfl (by decide +kernel) rfl [upgradePass]).2
    ⟨upgradePass, List.mem_singleton_self _, rfl, fun _ => rfl⟩ ⟨_, rfl, rfl⟩

end Ends

/-! ## What a Job starts from -/

section Schemas

variable {p : MigratingPass} {dbname : String} {ρ : MigratingCall → Reply MigratingError}

/-- There is no Job, and of the schemas that are to be dropped only these may be left in the database. -/
def LeftToDrop (p : MigratingPass) (dbname : String) (rest : List String) (t : Test) : Prop :=
  t.job = none ∧ ∀ d, t.database dbname = some d → ∀ schema ∈ d.schemas,
    schema ∈ p.preMigrateDropSchemas.getD [] → isDroppableSchema schema = true → schema ∈ rest

theorem LeftToDrop.update {rest rest' : List String} {t : Test} (h : LeftToDrop p dbname rest t)
    {f : Database → Database} (hname : ∀ d, (f d).name = d.name)
    (hf : ∀ d schema, schema ∈ (f d).schemas → schema ∈ d.schemas ∧ (schema ∈ rest → schema ∈ rest')) :
    LeftToDrop p dbname rest' (t.updateDatabase dbname f) := by
  refine ⟨h.1, fun d' hd' schema hschema hnamed hdroppable => ?_⟩
  rw [Test.database_updateDatabase hname, Option.map_eq_some_iff] at hd'
  obtain ⟨d, hd, rfl⟩ := hd'
  rw [if_pos rfl] at hschema
  obtain ⟨hmem, hrest⟩ := hf d schema hschema
  exact hrest (h.2 d hd schema hmem hnamed hdroppable)

/-- **The loop drops what it is given**, or the pass ends. -/
theorem dropAll_leads (rest : List String) :
    Prog.Leads ρ (LeftToDrop p dbname rest) (LeftToDrop p dbname []) (·.job = none)
      (Prog.each rest fun schema =>
        Prog.call (.dropSchema schema) (Test.updateDatabase dbname (Database.dropSchema schema))) := by
  induction rest with
  | nil => exact Prog.Leads.ret (fun _ h => h) fun _ h => h.1
  | cons schema rest ih =>
    refine Prog.Leads.bind (Q := LeftToDrop p dbname rest) ?_ fun _ => ih
    refine Prog.Leads.call (fun t h => ?_) (fun _ h => h.1) fun _ h => h.1
    refine h.update (fun _ => rfl) fun d other hother => ?_
    obtain ⟨hmem, hne⟩ := List.mem_filter.mp hother
    refine ⟨hmem, fun hrest => ?_⟩
    exact (List.mem_cons.mp hrest).resolve_left (by simpa using hne)

theorem dropPreMigrateSchemas_leads :
    Prog.Leads ρ (·.job = none) (LeftToDrop p dbname []) (·.job = none) (dropPreMigrateSchemas p dbname) := by
  have hdroppable {schema : String} (hnamed : schema ∈ p.preMigrateDropSchemas.getD [])
      (h : isDroppableSchema schema = true) :
      schema ∈ (p.preMigrateDropSchemas.getD []).filter isDroppableSchema := List.mem_filter.mpr ⟨hnamed, h⟩
  refine Prog.Leads.when (fun _ => ?_) (fun hempty t hjob => ?_) fun _ h => h.1
  · refine Prog.Leads.bind_value (Q := fun present t => LeftToDrop p dbname present t) ?_ fun present => ?_
    · intro t hjob
      refine ⟨fun present t' hdone => ?_, keeps_query (I := (·.job = none)) _ _ _ ρ t hjob⟩
      obtain ⟨rfl, d, hd, hpresent⟩ := query_tells hdone
      refine ⟨hjob, fun d' hd' schema hschema hnamed h => ?_⟩
      obtain rfl := Option.some.inj (hd.symm.trans hd')
      rw [← Option.some.inj hpresent]
      exact List.mem_filter.mpr ⟨hdroppable hnamed h, by simpa using hschema⟩
    · refine Prog.Leads.when (fun _ => ?_) (fun hempty t h => ?_) fun _ h => h.1
      · exact Prog.Leads.keeps_bind (Prog.Keeps.ask _ _) (fun _ h => h.1) fun _ => dropAll_leads present
      · obtain rfl : present = [] := by simpa using hempty
        exact h
  · refine ⟨hjob, fun d _ schema _ hnamed h => ?_⟩
    have hnone : (p.preMigrateDropSchemas.getD []).filter isDroppableSchema = [] := by simpa using hempty
    exact hnone ▸ hdroppable hnamed h

/-- Where there is a Job, it is for this database, and none of the schemas that were to go is in it. -/
def StartsClear (p : MigratingPass) (t : Test) : Prop :=
  ∀ job, t.job = some job → ∀ d, t.database job.database = some d → ∀ schema ∈ d.schemas,
    schema ∈ p.preMigrateDropSchemas.getD [] → isDroppableSchema schema = false

theorem startsClear_none {t : Test} (hjob : t.job = none) : StartsClear p t := by
  intro job hsome
  rw [hjob] at hsome
  cases hsome

theorem startJob_clear
    (hsql : ∀ sql, p.preMigrateSql = some sql → ∀ d, (sql d).name = d.name ∧ (sql d).schemas ⊆ d.schemas) :
    Prog.Leads ρ (·.job = none) (StartsClear p) (StartsClear p) (startJob p dbname) := by
  have hnone : ∀ t : Test, t.job = none → StartsClear p t := fun _ => startsClear_none
  refine Prog.Leads.keeps_bind (keeps_query _ _ _) hnone fun latest => ?_
  refine Prog.Leads.keeps_bind (Prog.Keeps.when fun _ => Prog.Keeps.call fun _ h => h) hnone fun _ => ?_
  refine Prog.Leads.bind (Q := LeftToDrop p dbname []) (fun t hjob => ?_) fun _ => ?_
  · have hleads : Prog.Leads ρ (·.job = none) (LeftToDrop p dbname []) (·.job = none)
        (dropPreMigrateSchemas p dbname) := dropPreMigrateSchemas_leads
    obtain ⟨hdone, hstop⟩ := hleads t hjob
    exact ⟨hdone, hnone _ hstop⟩
  refine Prog.Leads.keeps_bind ?_ (fun _ h => hnone _ h.1) fun _ => ?_
  · unfold runPreMigrateSql
    cases hp : p.preMigrateSql with
    | none => exact Prog.Keeps.ret ()
    | some sql =>
      refine Prog.Keeps.call fun t h => h.update (fun d => (hsql sql hp d).1) fun d schema hschema => ?_
      exact ⟨(hsql sql hp d).2 hschema, id⟩
  · refine Prog.Leads.call (fun t h job hsome d hd schema hschema hnamed => ?_) (fun _ h => hnone _ h.1)
      fun _ h => h
    obtain rfl := Option.some.inj hsome
    by_contra hdroppable
    exact nomatch h.2 d hd schema hschema hnamed (by simpa using hdroppable)

/-- **No Job starts over a schema that was to be dropped first**, wherever its pass is cut off. -/
theorem job_starts_clear (text : LogText) {t : Test} (hjob : t.job = none)
    (hsql : ∀ sql, p.preMigrateSql = some sql → ∀ d, (sql d).name = d.name ∧ (sql d).schemas ⊆ d.schemas) :
    StartsClear p (step text t (.pass p)) := by
  have hclear {c : MigratingCall} {phase : RestorePhase} :
      Prog.Leads p.replies (·.job = none) (StartsClear p) (StartsClear p)
        (Prog.call c fun t => { t with phase := phase } : MigratingOp Unit) :=
    Prog.Leads.call (fun _ h => startsClear_none h) (fun _ h => startsClear_none h) fun _ h => h
  have hnone : ∀ t : Test, t.job = none → StartsClear p t := fun _ => startsClear_none
  suffices hleads : Prog.Leads p.replies (·.job = none) (StartsClear p) (StartsClear p)
      (reconcileMigrating text p) from (hleads t hjob).2
  unfold reconcileMigrating
  split
  · exact hclear
  refine Prog.Leads.keeps_bind (Prog.Keeps.ask _ _) hnone fun _ => ?_
  refine Prog.Leads.keeps_bind (Prog.Keeps.ask _ _) hnone fun _ => ?_
  refine Prog.Leads.keeps_bind (Prog.Keeps.read _ _) hnone fun sizes => ?_
  cases applicationDatabase sizes with
  | none => exact hclear
  | some dbname =>
    refine Prog.Leads.read_bind (fun existing => ?_) hnone
    cases existing with
    | none => exact (startJob_clear hsql).weaken fun _ h => h.1
    | some job =>
      rintro t ⟨hjob, hsome⟩
      rw [hjob] at hsome
      cases hsome

theorem upgrade_job_starts_clear : StartsClear upgradePass (step plainText upgradedTest (.pass upgradePass)) :=
  job_starts_clear plainText rfl fun _ h => nomatch h

/-! ## What becomes of the databases -/

/-- The schemas a pass may drop: those that are named, and not reserved. -/
def toDrop (p : MigratingPass) : List String := (p.preMigrateDropSchemas.getD []).filter isDroppableSchema

/-- Several schemas go, one after the other. -/
def dropAll (schemas : List String) (d : Database) : Database :=
  schemas.foldl (fun d schema => d.dropSchema schema) d

/-- **The database a Job starts from**: the schemas that may be dropped and are there have gone, and then the
    SQL of the replica has run. -/
def prepared (p : MigratingPass) (d : Database) : Database :=
  (p.preMigrateSql.getD id) (dropAll ((toDrop p).filter (· ∈ d.schemas)) d)

theorem mem_dropAll {schemas : List String} {d : Database} {schema : String} :
    schema ∈ (dropAll schemas d).schemas ↔ schema ∈ d.schemas ∧ schema ∉ schemas := by
  induction schemas generalizing d with
  | nil => simp [dropAll]
  | cons first rest ih =>
    have hfirst : schema ∈ (d.dropSchema first).schemas ↔ schema ∈ d.schemas ∧ schema ≠ first := by
      simp [Database.dropSchema]
    have hrest : schema ∈ (dropAll rest (d.dropSchema first)).schemas ↔ _ := ih
    show schema ∈ (dropAll rest (d.dropSchema first)).schemas ↔ _
    rw [hrest, hfirst, List.mem_cons, not_or, and_assoc]

/-- There is no Job, and of the databases the named one has changed by `f`. -/
def ChangedBy (t : Test) (dbname : String) (f : Database → Database) (t' : Test) : Prop :=
  t'.job = none ∧ ∀ name, t'.database name = (t.database name).map fun d => if name = dbname then f d else d

theorem ChangedBy.refl {t : Test} (hjob : t.job = none) : ChangedBy t dbname id t := by
  refine ⟨hjob, fun name => ?_⟩
  simp

theorem ChangedBy.update {t t' : Test} {f g : Database → Database} (h : ChangedBy t dbname f t')
    (hg : ∀ d, (g d).name = d.name) : ChangedBy t dbname (g ∘ f) (t'.updateDatabase dbname g) := by
  refine ⟨h.1, fun name => ?_⟩
  rw [Test.database_updateDatabase hg, h.2 name, Option.map_map]
  refine Option.map_congr fun d _ => ?_
  by_cases hname : name = dbname
  · simp only [Function.comp_apply, if_pos hname]
  · simp only [Function.comp_apply, if_neg hname]

/-- **Where a pass that starts no Job can stop**: it has dropped some of the schemas, or is done preparing. -/
def StopsAt (p : MigratingPass) (t : Test) (dbname : String) (t' : Test) : Prop :=
  (∃ schemas ⊆ toDrop p, ChangedBy t dbname (dropAll schemas) t') ∨ ChangedBy t dbname (prepared p) t'

/-- **The loop drops what it is given**, and nothing else wherever it stops. -/
theorem dropEach_leads {t : Test} (rest done : List String) (hdone : done ⊆ toDrop p)
    (hrest : rest ⊆ toDrop p) :
    Prog.Leads ρ (ChangedBy t dbname (dropAll done)) (ChangedBy t dbname (dropAll (done ++ rest)))
      (StopsAt p t dbname)
      (Prog.each rest fun schema =>
        Prog.call (.dropSchema schema) (Test.updateDatabase dbname (Database.dropSchema schema))) := by
  induction rest generalizing done with
  | nil =>
    rw [List.append_nil]
    exact Prog.Leads.ret (fun _ h => h) fun _ h => .inl ⟨done, hdone, h⟩
  | cons schema rest ih =>
    obtain ⟨hschema, hrest⟩ := List.cons_subset.mp hrest
    have hmore : done ++ [schema] ⊆ toDrop p :=
      List.append_subset.mpr ⟨hdone, List.cons_subset.mpr ⟨hschema, List.nil_subset _⟩⟩
    have hdrop : dropAll (done ++ [schema]) = Database.dropSchema schema ∘ dropAll done := by
      funext d
      exact List.foldl_append
    refine Prog.Leads.bind (Q := ChangedBy t dbname (dropAll (done ++ [schema]))) ?_ fun _ => ?_
    · refine Prog.Leads.call (fun t' h => ?_) (fun _ h => .inl ⟨done, hdone, h⟩)
        fun _ h => .inl ⟨_, hmore, h⟩
      rw [hdrop]
      exact h.update fun _ => rfl
    · have hlast := ih (done ++ [schema]) hmore hrest
      rwa [List.append_assoc] at hlast

/-- The databases as they are before the SQL runs. -/
def Dropped (p : MigratingPass) (t : Test) (dbname : String) : Test → Prop :=
  ChangedBy t dbname fun d => dropAll ((toDrop p).filter (· ∈ d.schemas)) d

theorem ChangedBy.stops {t t' : Test} (h : ChangedBy t dbname id t') : StopsAt p t dbname t' :=
  .inl ⟨[], List.nil_subset _, h⟩

theorem ChangedBy.database_eq {t t' : Test} (h : ChangedBy t dbname id t') (name : String) :
    t'.database name = t.database name := by
  rw [h.2 name]
  simp

/-- Two changes that come to the same on the database there is. -/
theorem ChangedBy.congr {t t' : Test} {f g : Database → Database} (h : ChangedBy t dbname f t')
    (hfg : ∀ d, t.database dbname = some d → f d = g d) : ChangedBy t dbname g t' := by
  refine ⟨h.1, fun name => ?_⟩
  rw [h.2 name]
  refine Option.map_congr fun d hd => ?_
  by_cases hname : name = dbname
  · subst hname
    rw [if_pos rfl, if_pos rfl, hfg d hd]
  · rw [if_neg hname, if_neg hname]

theorem Dropped.stops {t t' : Test} (h : Dropped p t dbname t') : StopsAt p t dbname t' := by
  cases hd : t.database dbname with
  | none =>
    refine ChangedBy.stops (h.congr fun d hsome => ?_)
    rw [hd] at hsome
    cases hsome
  | some d =>
    refine .inl ⟨(toDrop p).filter (· ∈ d.schemas), fun _ hmem => List.mem_of_mem_filter hmem, ?_⟩
    refine h.congr fun d' hd' => ?_
    rw [Option.some.inj (hd.symm.trans hd')]

/-- Nothing of what is named is there. -/
theorem Dropped.of_none {t t' : Test} (h : ChangedBy t dbname id t')
    (hnone : ∀ d, t.database dbname = some d → (toDrop p).filter (· ∈ d.schemas) = []) :
    Dropped p t dbname t' := by
  refine h.congr fun d hd => ?_
  show d = dropAll ((toDrop p).filter (· ∈ d.schemas)) d
  rw [hnone d hd]
  rfl

/-- **What is asked for is dropped**, or the pass ends. -/
theorem dropPreMigrateSchemas_prepares {t : Test} :
    Prog.Leads ρ (ChangedBy t dbname id) (Dropped p t dbname) (StopsAt p t dbname)
      (dropPreMigrateSchemas p dbname) := by
  refine Prog.Leads.when (fun _ => ?_) (fun hempty t' h => ?_) fun _ h => h.stops
  · refine Prog.Leads.bind_value (Q := fun present t' => ChangedBy t dbname id t' ∧
      ∃ d, t.database dbname = some d ∧ (toDrop p).filter (· ∈ d.schemas) = present) ?_ fun present => ?_
    · intro t' h
      refine ⟨fun present t'' hdone => ?_, (keeps_query _ _ _ ρ t' h).stops⟩
      obtain ⟨rfl, d, hd, hpresent⟩ := query_tells hdone
      rw [h.database_eq] at hd
      exact ⟨h, d, hd, Option.some.inj hpresent⟩
    refine Prog.Leads.when (fun _ => ?_) (fun hempty t' h => ?_) fun _ h => h.stops
    · refine Prog.Leads.keeps_bind (Prog.Keeps.ask _ _) (fun _ h => h.1.stops) fun _ => ?_
      rintro t' ⟨h, d, hd, rfl⟩
      obtain ⟨hdone, hstop⟩ := dropEach_leads ((toDrop p).filter (· ∈ d.schemas)) []
        (List.nil_subset _) (fun _ hmem => List.mem_of_mem_filter hmem) t' h
      refine ⟨fun a t'' hend => (hdone a t'' hend).congr fun d' hd' => ?_, hstop⟩
      rw [Option.some.inj (hd.symm.trans hd')]
      rfl
    · obtain ⟨h, d, hd, hpresent⟩ := h
      refine .of_none h fun d' hd' => ?_
      rw [← Option.some.inj (hd.symm.trans hd'), hpresent]
      simpa using hempty
  · refine .of_none h fun d _ => ?_
    have hnone : toDrop p = [] := by simpa [toDrop] using hempty
    rw [hnone]
    rfl

/-- **What a pass over a restore without a Job leaves** of the database it found. -/
def Starts (p : MigratingPass) (t : Test) (dbname : String) (t' : Test) : Prop :=
  StopsAt p t dbname t' ∨ ∃ t'' job, ChangedBy t dbname (prepared p) t'' ∧ job.database = dbname ∧
    t' = { t'' with job := some job }

theorem startJob_starts {t : Test} (hjob : t.job = none)
    (hname : ∀ sql, p.preMigrateSql = some sql → ∀ d, (sql d).name = d.name) :
    Prog.Leads ρ (· = t) (Starts p t dbname) (Starts p t dbname) (startJob p dbname) := by
  refine Prog.Leads.weaken (I := ChangedBy t dbname id) ?_ ?_
  swap
  · rintro _ rfl
    exact .refl hjob
  refine Prog.Leads.keeps_bind (keeps_query _ _ _) (fun _ h => .inl h.stops) fun latest => ?_
  refine Prog.Leads.keeps_bind (Prog.Keeps.when fun _ => Prog.Keeps.call fun _ h => h)
    (fun _ h => .inl h.stops) fun _ => ?_
  refine Prog.Leads.bind (Q := Dropped p t dbname) (fun t' h => ?_) fun _ => ?_
  · obtain ⟨hdone, hstop⟩ := dropPreMigrateSchemas_prepares (ρ := ρ) (p := p) t' h
    exact ⟨hdone, .inl hstop⟩
  refine Prog.Leads.bind (Q := ChangedBy t dbname (prepared p)) ?_ fun _ => ?_
  · unfold runPreMigrateSql
    cases hp : p.preMigrateSql with
    | none =>
      have hsame : ∀ t', Dropped p t dbname t' → ChangedBy t dbname (prepared p) t' := by
        refine fun t' h => h.congr fun d _ => ?_
        rw [prepared, hp]
        rfl
      exact Prog.Leads.ret hsame fun _ h => .inl h.stops
    | some sql =>
      refine Prog.Leads.call (fun t' h => ?_) (fun _ h => .inl h.stops) fun _ h => .inl (.inr h)
      refine (h.update (hname sql hp)).congr fun d _ => ?_
      rw [prepared, hp]
      rfl
  · refine Prog.Leads.call (fun t' h => ?_) (fun _ h => .inl (.inr h)) fun _ h => h
    exact .inr ⟨t', _, h, rfl, rfl⟩

/-- Wherever the pass stops, it has changed one database, and without SQL it has only dropped of it what was
    named. -/
theorem Starts.changes {t t' : Test} (h : Starts p t dbname t') :
    ∃ f : Database → Database,
      (∀ name, t'.database name = (t.database name).map fun d => if name = dbname then f d else d) ∧
        (p.preMigrateSql = none → ∀ d, ∃ schemas ⊆ toDrop p, f d = dropAll schemas d) := by
  have hprepared : p.preMigrateSql = none → ∀ d, ∃ schemas ⊆ toDrop p, prepared p d = dropAll schemas d := by
    intro hnone d
    refine ⟨(toDrop p).filter (· ∈ d.schemas), fun _ hmem => List.mem_of_mem_filter hmem, ?_⟩
    rw [prepared, hnone]
    rfl
  rcases h with (⟨schemas, hsub, h⟩ | h) | ⟨t'', job, h, _, rfl⟩
  · exact ⟨_, h.2, fun _ _ => ⟨schemas, hsub, rfl⟩⟩
  · exact ⟨_, h.2, hprepared⟩
  · exact ⟨_, h.2, hprepared⟩

/-- Where a Job was started, its database was prepared. -/
theorem Starts.database_of_job {t t' : Test} (h : Starts p t dbname t') {job : MigrationJob}
    (hsome : t'.job = some job) :
    job.database = dbname ∧ t'.database dbname = (t.database dbname).map (prepared p) := by
  rcases h with (⟨_, _, h⟩ | h) | ⟨t'', job', h, hdbname, rfl⟩
  · rw [h.1] at hsome
    cases hsome
  · rw [h.1] at hsome
    cases hsome
  · obtain rfl := Option.some.inj hsome
    refine ⟨hdbname, (h.2 dbname).trans ?_⟩
    exact Option.map_congr fun d _ => if_pos rfl

/-- A pass finds no application database and changes none, or it comes to start a Job. -/
def StartsFrom (p : MigratingPass) (t t' : Test) : Prop :=
  (t'.job = none ∧ ∀ name, t'.database name = t.database name) ∨
    ∃ dbname, applicationDatabase (databaseSizes t.databases) = some dbname ∧ Starts p t dbname t'

theorem pass_starts (text : LogText) {t : Test} (hjob : t.job = none)
    (hname : ∀ sql, p.preMigrateSql = some sql → ∀ d, (sql d).name = d.name) :
    StartsFrom p t (step text t (.pass p)) := by
  have hself : ∀ t', t' = t → StartsFrom p t t' := by
    rintro _ rfl
    exact .inl ⟨hjob, fun _ => rfl⟩
  have hphase {c : MigratingCall} {phase : RestorePhase} :
      Prog.Leads p.replies (· = t) (StartsFrom p t) (StartsFrom p t)
        (Prog.call c fun t => { t with phase := phase } : MigratingOp Unit) := by
    refine Prog.Leads.call ?_ hself fun _ h => h
    rintro _ rfl
    exact .inl ⟨hjob, fun _ => rfl⟩
  suffices hleads : Prog.Leads p.replies (· = t) (StartsFrom p t) (StartsFrom p t)
      (reconcileMigrating text p) from (hleads t rfl).2
  unfold reconcileMigrating
  split
  · exact hphase
  refine Prog.Leads.keeps_bind (Prog.Keeps.ask _ _) hself fun _ => ?_
  refine Prog.Leads.keeps_bind (Prog.Keeps.ask _ _) hself fun _ => ?_
  refine Prog.Leads.read_bind (fun sizes => ?_) hself
  cases hdbname : applicationDatabase sizes with
  | none => exact hphase.weaken fun _ h => h.1
  | some dbname =>
    refine Prog.Leads.read_bind (fun existing => ?_) fun _ h => hself _ h.1
    rintro t ⟨⟨rfl, rfl⟩, hexisting⟩
    rw [hjob] at hexisting
    subst hexisting
    have hstarts : Prog.Leads p.replies _ (Starts p t dbname) _ (startJob p dbname) :=
      startJob_starts hjob hname
    exact ⟨fun a t' h => .inr ⟨dbname, hdbname, (hstarts t rfl).1 a t' h⟩,
      .inr ⟨dbname, hdbname, (hstarts t rfl).2⟩⟩

/-- **A Job starts from its database less what was to be dropped**, put through the SQL of the replica, and
    every other database is as it was.  Wherever its pass is cut off, only what was named and is not reserved
    is gone, as far as no SQL ran. -/
theorem job_starts_prepared (text : LogText) {t : Test} (hjob : t.job = none)
    (hname : ∀ sql, p.preMigrateSql = some sql → ∀ d, (sql d).name = d.name) :
    (∀ job, (step text t (.pass p)).job = some job →
        applicationDatabase (databaseSizes t.databases) = some job.database ∧
          (step text t (.pass p)).database job.database =
            (t.database job.database).map (prepared p)) ∧
      (∀ name, applicationDatabase (databaseSizes t.databases) ≠ some name →
        (step text t (.pass p)).database name = t.database name) ∧
      (p.preMigrateSql = none → ∀ name d, t.database name = some d →
        ∃ d', (step text t (.pass p)).database name = some d' ∧
          ∀ schema ∈ d.schemas, schema ∉ toDrop p → schema ∈ d'.schemas) := by
  have hstarts : StartsFrom p t (step text t (.pass p)) := pass_starts text hjob hname
  generalize step text t (.pass p) = t' at hstarts ⊢
  rcases hstarts with ⟨hnone, hsame⟩ | ⟨dbname, hdbname, hstarts⟩
  · refine ⟨fun job hsome => ?_, fun name _ => hsame name, fun _ name d hd => ?_⟩
    · rw [hnone] at hsome
      cases hsome
    · exact ⟨d, (hsame name).trans hd, fun _ hmem _ => hmem⟩
  obtain ⟨f, hf, hdropped⟩ := hstarts.changes
  refine ⟨fun job hsome => ?_, fun name hother => ?_, fun hnone name d hd => ?_⟩
  · obtain ⟨rfl, hprepared⟩ := hstarts.database_of_job hsome
    exact ⟨hdbname, hprepared⟩
  · have hne : name ≠ dbname := fun heq => hother (heq ▸ hdbname)
    rw [hf name]
    simp [hne]
  · refine ⟨if name = dbname then f d else d, by rw [hf name, hd, Option.map_some], fun schema hmem hspared => ?_⟩
    split
    · obtain ⟨schemas, hsub, hfd⟩ := hdropped hnone d
      rw [hfd]
      exact mem_dropAll.mpr ⟨hmem, fun hin => hspared (hsub hin)⟩
    · exact hmem

/-- The upgrade is tried without `reporting`, and with `public`. -/
theorem upgrade_job_starts_prepared :
    (step plainText upgradedTest (.pass upgradePass)).database "app" =
      (upgradedTest.database "app").map (prepared upgradePass) :=
  ((job_starts_prepared (p := upgradePass) plainText rfl (fun _ h => nomatch h)).1
    { database := "app" } (by with_unfolding_all rfl)).2

end Schemas

end MigrationTest

end RestoreOperator
