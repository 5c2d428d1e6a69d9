import RestoreOperator.Calls.Mailbox
import RestoreOperator.System.Acts
import RestoreOperator.System.MigrationMail

/-!
# `Correctness.JobCallbacks` — whose payload is taken

The Jobs that list snapshots and that copy schemas post what they have to say to the operator, which keeps
it in memory under the replica's name until a pass sees the Job done.  A Job that fails, or is deleted or
given up on, may have posted all the same; nothing clears what it posted, and the next Job of that name is
taken at its word.

A payload is the Job's own as long as a Job that is created finds none waiting, and no pod of an earlier
Job posts while another has its name.  The snapshot lists are followed through whole runs of the replica;
for the schema migration the passes of its gate are, for any restores.
-/

namespace RestoreOperator

open Calls Calls.Prog Relation

/-! ## Payloads and their senders -/

/-- **A world in which a payload has a sender**: the Job whose pod posted it. -/
structure Posted where
  world : World
  postedBy : Option Nat := none

namespace Posted

/-- The world changes, and what waits in it is what waited before, if anything. -/
def after (store : World → Option String) (s : Posted) (w : World) : Posted :=
  { world := w, postedBy := if (store w).isSome then s.postedBy else none }

/-- The store, held by the Job that has the name. -/
def mailbox (k : JobKey) (s : Posted) : Mailbox Nat :=
  { holder := (s.world.job k).map Job.uid, sender := s.postedBy }

/-- **What waits was posted by the Job that is there**, if one is. -/
structure Sound (k : JobKey) (store : World → Option String) (s : Posted) : Prop where
  own : (s.mailbox k).Own
  posted : s.postedBy.isSome = (store s.world).isSome

variable {k : JobKey} {store : World → Option String} {s : Posted}

/-- A step that posts nothing: the store is as it was or empty, and where it is not empty the Job is the
    one that was there or none. -/
theorem Sound.after (h : s.Sound k store) {w : World}
    (hstore : store w = none ∨ store w = store s.world)
    (hjob : (w.job k).map Job.uid = (s.world.job k).map Job.uid ∨ w.job k = none ∨ store w = none) :
    (s.after store w).Sound k store := by
  have hsender : ∀ j, (s.after store w).postedBy = some j → s.postedBy = some j := by
    intro j hj
    simp only [Posted.after] at hj
    split at hj
    · exact hj
    · cases hj
  constructor
  · rcases hjob with hsame | hnone | hempty
    · exact h.own.of_kept (fun i hi => hsame.symm.trans hi) hsender
    · exact Mailbox.own_of_unheld (congrArg (Option.map Job.uid) hnone)
    · have hunsent : (s.after store w).postedBy = none := by
        simp only [Posted.after, hempty]
        rfl
      exact Mailbox.own_of_empty hunsent
  · simp only [Posted.after]
    rcases hstore with hnone | hsame
    · rw [hnone]
      rfl
    · rw [hsame]
      split
      · exact h.posted
      · rename_i hnone
        rw [Bool.eq_false_iff.mpr hnone]
        rfl

/-- A pod posts while no other Job has the name. -/
theorem Sound.of_post {w : World} {job : Nat} (hjob : w.job k = s.world.job k)
    (hstore : (store w).isSome = true)
    (hown : (s.world.job k).any (fun j => j.uid ≠ job) = false) :
    ({ world := w, postedBy := some job } : Posted).Sound k store where
  own := by
    have hholder : ∀ i, (s.mailbox k).holder = some i → job = i := by
      intro i hi
      obtain ⟨j, hj, rfl⟩ := Option.map_eq_some_iff.mp hi
      simp only [hj, Option.any_some, decide_eq_false_iff_not, ne_eq, not_not] at hown
      exact hown.symm
    have hmove := (Mailbox.Move.posted job hholder).own
    simpa only [mailbox, hjob] using hmove
  posted := hstore.symm

/-- The payload that waits is that of the Job. -/
theorem Sound.sender (h : s.Sound k store) {job : Job} (hjob : s.world.job k = some job)
    (hwaiting : (store s.world).isSome = true) : s.postedBy = some job.uid := by
  obtain ⟨j, hj⟩ := Option.isSome_iff_exists.mp (h.posted.trans hwaiting)
  rw [hj, h.own job.uid j (by simp [mailbox, hjob]) hj]

end Posted

/-! ## The list of snapshots, in runs of the replica -/

/-- **What can happen around the lists of a replica.** -/
inductive ListEvent where
  /-- A pod of that Job posts a list. -/
  | posted (job : Nat) (body : String)
  | other (e : Event)

/-- The event is a post, which a pod has to make. -/
def Event.postsSnapshots : Event → Bool
  | .snapshotsPosted _ => true
  | _ => false

/-- **One step.**  Pods are of Jobs that were created. -/
def listStep (ctx : Context) (s : Posted) : ListEvent → Posted
  | .posted job body =>
    if .snapshotJobCreated job ∈ s.world.history then
      { world := step ctx s.world (.snapshotsPosted body), postedBy := some job }
    else s
  | .other e =>
    if e.postsSnapshots then s
    else s.after World.snapshotResults (step ctx s.world e)

/-- The pass takes the list that is waiting. -/
def takesList (ctx : Context) (p : ReplicaPass) (w : World) : Bool :=
  !w.replicaDeleted && w.snapshotResults.isSome &&
    (reconcile ctx p p.replies w).state.snapshotResults.isNone

/-- **The list a pass takes was posted by the Job it sees Succeeded.** -/
def TakesOwnList (ctx : Context) (s : Posted) : ListEvent → Prop
  | .other (.replicaPass p) =>
    takesList ctx p s.world = true →
      ∃ job, s.world.job .snapshotList = some job ∧ classifyJob job = .succeeded ∧
        s.postedBy = some job.uid
  | _ => True

/-- **A list goes astray**: it is waiting when a Job is created, or posted by a pod of an earlier Job. -/
def straysList (s : Posted) : ListEvent → Bool
  | .posted job _ =>
    .snapshotJobCreated job ∈ s.world.history &&
      (s.world.job .snapshotList).any fun j => j.uid ≠ job
  | .other e => isAdmitted s.world e && s.world.snapshotResults.isSome

section Lists

variable {ctx : Context} {w : World} {e : Event}

/-- What an event leaves of the snapshot-list Job and of the list. -/
structure ListPassed (w : World) (a : Control) : Prop where
  results : a.results = none ∨ a.results = w.snapshotResults
  job : a.snapshotJob.map Job.uid = (w.job .snapshotList).map Job.uid ∨ a.snapshotJob = none ∨
    a.results = none

/-- An act that leaves both alone. -/
theorem ListPassed.of_same {a a' : Control} (h : ListPassed w a) (hresults : a'.results = a.results)
    (hjob : a'.snapshotJob = a.snapshotJob) : ListPassed w a' :=
  ⟨hresults ▸ h.results, by rw [hresults, hjob]; exact h.job⟩

/-- An act that empties the store. -/
theorem ListPassed.of_empty {a' : Control} (hresults : a'.results = none) : ListPassed w a' :=
  ⟨.inl hresults, .inr (.inr hresults)⟩

/-- An act that deletes a Job. -/
theorem ListPassed.dropJob {a : Control} (h : ListPassed w a) (k : JobKey) :
    ListPassed w (a.dropJob k) := by
  by_cases hk : k = .snapshotList
  · exact ⟨h.results, .inr (.inl (if_pos hk))⟩
  · refine h.of_same rfl ?_
    simp only [Control.dropJob, if_neg hk]

theorem ReplicaAct.listPassed {p : ReplicaPass} {a a' : Control} (h : ReplicaAct ctx p w a a')
    (hC : isAdmitted w (.replicaPass p) = true → w.snapshotResults = none) (ha : ListPassed w a) :
    ListPassed w a' := by
  cases h with
  | snapshotsTaken => exact .of_empty rfl
  | snapshotJobDeleted => exact ha.dropJob _
  | migrationJobDeleted => exact ha.dropJob _
  | snapshotJobCreated htrigger hshould hjob _ hstart hwaiting =>
    -- the replica was let in, so nothing was waiting
    refine .of_empty (hwaiting.trans (hC ?_))
    simp [isAdmitted, htrigger, hshould, hjob, hstart]
  | _ => exact ha.of_same rfl rfl

theorem Act.listPassed {a a' : Control} (h : Act ctx w e a a') (hpost : e.postsSnapshots = false)
    (hC : isAdmitted w e = true → w.snapshotResults = none) (ha : ListPassed w a) :
    ListPassed w a' := by
  cases h with
  | replica h => exact h.listPassed hC ha
  | restore _ h =>
    cases h with
    | jobDropped k => exact ha.dropJob k
    | _ => exact ha.of_same rfl rfl
  | forgotten => exact .of_empty rfl
  | jobReported k report =>
    refine ⟨ha.results, ?_⟩
    have huid : ∀ j : Job, (if j.key = k ∧ classifyJob j = .active then
        { j with report := some report } else j).uid = j.uid := by
      intro j
      split <;> rfl
    rcases ha.job with hsame | hnone | hempty
    · refine .inl ?_
      rw [← hsame, Option.map_map]
      congr 1
      funext j
      exact huid j
    · exact .inr (.inl (by simp only [hnone, Option.map_none]))
    · exact .inr (.inr hempty)
  | jobRemoved k => exact ha.dropJob k
  | snapshotsPosted => cases hpost
  | _ => exact ha.of_same rfl rfl

/-- A step that posts nothing leaves the list with its Job. -/
theorem step_listPassed (hpost : e.postsSnapshots = false)
    (hC : isAdmitted w e = true → w.snapshotResults = none) :
    ListPassed w (control (step ctx w e)) := by
  have hreach := step_acts ctx w e
  generalize control (step ctx w e) = a at hreach
  induction hreach with
  | refl => exact ⟨.inr rfl, .inl rfl⟩
  | tail _ hact ih => exact hact.listPassed hpost hC ih

/-- **A pass that takes the list saw its Job Succeeded.** -/
theorem takesList_succeeded {p : ReplicaPass} (h : takesList ctx p w = true) :
    ∃ job, w.job .snapshotList = some job ∧ classifyJob job = .succeeded := by
  simp only [takesList, Bool.and_eq_true, Option.isNone_iff_eq_none] at h
  obtain ⟨⟨_, hwaiting⟩, htaken⟩ := h
  have hreach := (reconcile_moves ctx p w).reaches
  have hgone : (control (reconcile ctx p p.replies w).state).results = none := htaken
  generalize control (reconcile ctx p p.replies w).state = a at hreach hgone
  -- the acts leave the list alone, up to the one that takes it
  have hcases : a.results = w.snapshotResults ∨
      ∃ job, w.job .snapshotList = some job ∧ classifyJob job = .succeeded := by
    clear hgone
    induction hreach with
    | refl => exact .inl rfl
    | tail _ hact ih =>
      cases hact with
      | snapshotsTaken hjob hsucceeded => exact .inr ⟨_, hjob, hsucceeded⟩
      | _ => exact ih
  rcases hcases with hsame | hfound
  · rw [hsame] at hgone
    simp [hgone] at hwaiting
  · exact hfound

/-- **A step keeps the list with its Job**, unless a list goes astray. -/
theorem listStep_sound {s : Posted} {e : ListEvent} (hC : straysList s e = false)
    (h : s.Sound .snapshotList World.snapshotResults) :
    (listStep ctx s e).Sound .snapshotList World.snapshotResults := by
  cases e with
  | posted job body =>
    simp only [listStep]
    split
    · rename_i hcreated
      refine .of_post (s := s) rfl rfl ?_
      simpa only [straysList, hcreated, decide_true, Bool.true_and] using hC
    · exact h
  | other e =>
    simp only [listStep]
    split
    · exact h
    · rename_i hpost
      have hadmitted : isAdmitted s.world e = true → s.world.snapshotResults = none := by
        intro hadmitted
        simpa [straysList, hadmitted] using hC
      have hpassed : ListPassed s.world (control (RestoreOperator.step ctx s.world e)) :=
        step_listPassed (Bool.eq_false_iff.mpr hpost) hadmitted
      exact h.after hpassed.results hpassed.job

/-- A pass takes its own Job's list. -/
theorem Posted.Sound.takesOwnList {s : Posted} (h : s.Sound .snapshotList World.snapshotResults)
    (e : ListEvent) : TakesOwnList ctx s e := by
  cases e with
  | posted => trivial
  | other e =>
    cases e with
    | replicaPass p =>
      intro htakes
      obtain ⟨job, hjob, hsucceeded⟩ := takesList_succeeded htakes
      simp only [takesList, Bool.and_eq_true] at htakes
      exact ⟨job, hjob, hsucceeded, h.sender hjob htakes.1.2⟩
    | _ => trivial

end Lists

/-! ## The result of a schema migration -/

/-- **What can happen around the migrations of a replica.** -/
inductive MigrationEvent where
  /-- A pod of that Job posts its result. -/
  | posted (job : Nat) (body : String)
  /-- A pass of the gate, from one restore to another. -/
  | migrationPass (replica : Replica) (newRestore : Restore) (oldRestore : Option Restore)
      (p : ReplicaPass)
  | jobReported (report : JobReport)
  | jobRemoved
  | restart

/-- **One step.** -/
def migrationStep (ctx : Context) (s : Posted) : MigrationEvent → Posted
  | .posted job body =>
    if s.world.history.any (fun e => match e with
        | .migrationJobCreated uid _ => uid == job
        | _ => false) then
      { world := { s.world with schemaMigrationResults := some body }, postedBy := some job }
    else s
  | .migrationPass replica newRestore oldRestore p =>
    s.after World.schemaMigrationResults
      (World.after (reconcileSchemaMigration ctx p replica newRestore oldRestore p.replies s.world))
  | .jobReported report =>
    s.after World.schemaMigrationResults (s.world.reportJob .schemaMigration report)
  | .jobRemoved => s.after World.schemaMigrationResults (s.world.deleteJob .schemaMigration)
  | .restart => s.after World.schemaMigrationResults s.world.restart

/-- The pass takes the result that is waiting. -/
def takesResult (ctx : Context) (replica : Replica) (newRestore : Restore)
    (oldRestore : Option Restore) (p : ReplicaPass) (w : World) : Bool :=
  w.schemaMigrationResults.isSome &&
    (reconcileSchemaMigration ctx p replica newRestore oldRestore p.replies
      w).state.schemaMigrationResults.isNone

/-- **The result a pass takes was posted by the Job it sees finished.** -/
def TakesOwnResult (ctx : Context) (s : Posted) : MigrationEvent → Prop
  | .migrationPass replica newRestore oldRestore p =>
    takesResult ctx replica newRestore oldRestore p s.world = true →
      ∃ job, s.world.job .schemaMigration = some job ∧ classifyJob job ≠ .active ∧
        s.postedBy = some job.uid
  | _ => True

/-- **A result goes astray**: it is waiting when a Job is created, or posted by a pod of an earlier Job. -/
def straysResult (s : Posted) : MigrationEvent → Bool
  | .posted job _ => (s.world.job .schemaMigration).any fun j => j.uid ≠ job
  | .migrationPass replica _ oldRestore p =>
    comesToCopy replica oldRestore p s.world && s.world.schemaMigrationResults.isSome
  | _ => false

section Migrations

variable {ctx : Context} {replica : Replica} {newRestore : Restore} {oldRestore : Option Restore}
  {p : ReplicaPass} {w₀ : World}

/-- **A pass that takes a result saw its Job finished.** -/
theorem takesResult_finished {w : World}
    (h : takesResult ctx replica newRestore oldRestore p w = true) :
    ∃ job, w.job .schemaMigration = some job ∧ classifyJob job ≠ .active := by
  simp only [takesResult, Bool.and_eq_true, Option.isNone_iff_eq_none] at h
  obtain ⟨hwaiting, htaken⟩ := h
  have hcopies : Copies replica newRestore oldRestore p w
      (reconcileSchemaMigration ctx p replica newRestore oldRestore) (fun _ _ => True) w :=
    reconcileSchemaMigration_copies ctx w
  have hreach := hcopies.reaches
  have hgone : (migrationMail
      (reconcileSchemaMigration ctx p replica newRestore oldRestore p.replies w).state).2 = none := htaken
  generalize migrationMail
    (reconcileSchemaMigration ctx p replica newRestore oldRestore p.replies w).state = a
    at hreach hgone
  have hcases : a.2 = w.schemaMigrationResults ∨
      ∃ job, w.job .schemaMigration = some job ∧ classifyJob job ≠ .active := by
    clear hgone
    induction hreach with
    | refl => exact .inl rfl
    | tail _ hact ih =>
      cases hact with
      | taken hjob hdone => exact .inr ⟨_, hjob, hdone⟩
      | deleted => exact ih
      | created => exact ih
  rcases hcases with hsame | hfound
  · rw [hsame] at hgone
    simp [hgone] at hwaiting
  · exact hfound

/-- **A step keeps the result with its Job**, unless a result goes astray. -/
theorem migrationStep_sound {s : Posted} {e : MigrationEvent} (hC : straysResult s e = false)
    (h : s.Sound .schemaMigration World.schemaMigrationResults) :
    (migrationStep ctx s e).Sound .schemaMigration World.schemaMigrationResults := by
  cases e with
  | posted job body =>
    simp only [migrationStep]
    split
    · exact .of_post (s := s) rfl rfl hC
    · exact h
  | migrationPass replica newRestore oldRestore p =>
    have hnone : comesToCopy replica oldRestore p s.world = true →
        s.world.schemaMigrationResults = none := by
      intro hcopy
      simpa [straysResult, hcopy] using hC
    have hcopies : Copies replica newRestore oldRestore p s.world
        (reconcileSchemaMigration ctx p replica newRestore oldRestore) (fun _ _ => True) s.world :=
      reconcileSchemaMigration_copies ctx s.world
    have hpassed := ResultPassed.of_reaches hnone hcopies.reaches
    simp only [migrationStep]
    cases hout : reconcileSchemaMigration ctx p replica newRestore oldRestore p.replies s.world with
    | done b w =>
      rw [hout] at hpassed
      exact h.after hpassed.result hpassed.job
    | failed err w =>
      rw [hout] at hpassed
      exact h.after hpassed.result hpassed.job
    | halted w => exact h.after (.inl rfl) (.inr (.inr rfl))
  | jobReported report =>
    refine h.after (.inr rfl) (.inl ?_)
    rw [job_reportJob, Option.map_map]
    congr 1
    funext j
    simp only [Function.comp_apply]
    split <;> rfl
  | jobRemoved =>
    refine h.after (.inr rfl) (.inr (.inl ?_))
    rw [job_deleteJob, if_pos rfl]
  | restart => exact h.after (.inl rfl) (.inr (.inr rfl))

/-- A pass takes its own Job's result. -/
theorem Posted.Sound.takesOwnResult {s : Posted}
    (h : s.Sound .schemaMigration World.schemaMigrationResults) (e : MigrationEvent) :
    TakesOwnResult ctx s e := by
  cases e with
  | migrationPass replica newRestore oldRestore p =>
    intro htakes
    obtain ⟨job, hjob, hdone⟩ := takesResult_finished htakes
    simp only [takesResult, Bool.and_eq_true] at htakes
    exact ⟨job, hjob, hdone, h.sender hjob htakes.1⟩
  | _ => trivial

end Migrations

/-! ## Every run -/

theorem Posted.sound_initial (k : JobKey) (store : World → Option String) (key : ReplicaKey)
    (spec : ReplicaSpec) (hstore : store (World.initial key spec) = none) :
    Posted.Sound k store { world := World.initial key spec } where
  own := Mailbox.own_of_unheld rfl
  posted := by
    rw [hstore]
    rfl

/-- **What a pass takes when it sees a Job finished was posted by a pod of that Job**: the list of
    snapshots in every run of the replica in which no list goes astray, and the result of a schema
    migration in every run of its Jobs in which no result does. -/
theorem taken_payload_is_own {ctx : Context} (key : ReplicaKey) (spec : ReplicaSpec) :
    (∀ es, Meets (listStep ctx) (fun s e => straysList s e = false)
        { world := World.initial key spec } es →
      Meets (listStep ctx) (TakesOwnList ctx) { world := World.initial key spec } es) ∧
    ∀ es, Meets (migrationStep ctx) (fun s e => straysResult s e = false)
        { world := World.initial key spec } es →
      Meets (migrationStep ctx) (TakesOwnResult ctx) { world := World.initial key spec } es := by
  constructor
  · intro es hes
    exact Meets.of_invariant (I := Posted.Sound .snapshotList World.snapshotResults)
      (fun _ _ hC h => listStep_sound hC h) (fun _ e _ h => h.takesOwnList e)
      (Posted.sound_initial _ _ key spec rfl) hes
  · intro es hes
    exact Meets.of_invariant (I := Posted.Sound .schemaMigration World.schemaMigrationResults)
      (fun _ _ hC h => migrationStep_sound hC h) (fun _ e _ h => h.takesOwnResult e)
      (Posted.sound_initial _ _ key spec rfl) hes

/-! ## Two Jobs of one name -/

/-- A Job lists the snapshots, posts them and fails; it is removed, and another takes its place. -/
def listOfTheFailed : List ListEvent :=
  [.other (.replicaPass { now := 0 }), .posted 0 "[a]",
    .other (.jobReported .snapshotList { failed := some 3 }), .other (.replicaPass { now := 10 }),
    .other (.jobRemoved .snapshotList), .other (.replicaPass { now := 100 }),
    .other (.jobReported .snapshotList { succeeded := some 1 })]

/-- A replica that carries a schema over. -/
def carryingReplica : Replica :=
  { name := "r", spec := { plainSpec with readOnly := false, persistentSchemas := some ["reporting"] } }

/-- A pass of the gate from the first restore to the second. -/
def copyPass (t : Timestamp) : MigrationEvent :=
  .migrationPass carryingReplica (plainRestore 2 "r-2" "s" {}) (some (plainRestore 1 "r-1" "s" {}))
    { now := t, sourceSchemas := ["reporting"] }

/-- A Job copies the schemas, posts that some failed and is removed; another takes its place. -/
def resultOfTheRemoved : List MigrationEvent :=
  [copyPass 0, .posted 0 "partial: one table", .jobRemoved, copyPass 100,
    .jobReported { succeeded := some 1 }]

/-- **The payload of an earlier Job is taken for that of the Job that succeeded.** -/
theorem payload_of_earlier_job_taken :
    (¬ Meets (listStep .hourly) (TakesOwnList .hourly) { world := World.initial ⟨"ns", "r"⟩ plainSpec }
        (listOfTheFailed ++ [.other (.replicaPass { now := 110 })]) ∧
      (runFrom (listStep .hourly) { world := World.initial ⟨"ns", "r"⟩ plainSpec }
        (listOfTheFailed ++ [.other (.replicaPass { now := 110 })])).world.restores.map
          (·.spec.snapshot) = ["a"]) ∧
    ¬ Meets (migrationStep .hourly) (TakesOwnResult .hourly)
        { world := World.initial ⟨"ns", "r"⟩ carryingReplica.spec }
        (resultOfTheRemoved ++ [copyPass 110]) := by
  refine ⟨⟨?_, by decide +kernel⟩, ?_⟩
  · intro h
    have hlast := (meets_append.mp h).2.1
    obtain ⟨job, hjob, _, hsender⟩ := hlast (by decide +kernel)
    -- the Job that is there is the second, and the list is of the first
    have huid : (some job).map Job.uid = some 1 := by
      rw [← hjob]
      decide +kernel
    have hposted : (runFrom (listStep .hourly) { world := World.initial ⟨"ns", "r"⟩ plainSpec }
        listOfTheFailed).postedBy = some 0 := by decide +kernel
    have hsame : some 0 = some 1 := hposted.symm.trans (hsender.trans huid)
    cases hsame
  · intro h
    have hlast := (meets_append.mp h).2.1
    obtain ⟨job, hjob, _, hsender⟩ := hlast (by decide +kernel)
    have huid : (some job).map Job.uid = some 1 := by
      rw [← hjob]
      decide +kernel
    have hposted : (runFrom (migrationStep .hourly)
        { world := World.initial ⟨"ns", "r"⟩ carryingReplica.spec } resultOfTheRemoved).postedBy =
        some 0 := by decide +kernel
    have hsame : some 0 = some 1 := hposted.symm.trans (hsender.trans huid)
    cases hsame

/-- Jobs whose payloads are taken before the next is created. -/
def listOfTheSucceeded : List ListEvent :=
  [.other (.replicaPass { now := 0 }), .posted 0 "[a]",
    .other (.jobReported .snapshotList { succeeded := some 1 }), .other (.replicaPass { now := 10 })]

def resultOfTheSucceeded : List MigrationEvent :=
  [copyPass 0, .posted 0 "complete", .jobReported { succeeded := some 1 }, copyPass 10]

theorem payload_of_the_job_taken :
    takesList .hourly { now := 10 } (runFrom (listStep .hourly)
        { world := World.initial ⟨"ns", "r"⟩ plainSpec } (listOfTheSucceeded.take 3)).world = true ∧
      Meets (listStep .hourly) (TakesOwnList .hourly) { world := World.initial ⟨"ns", "r"⟩ plainSpec }
        listOfTheSucceeded ∧
      Meets (migrationStep .hourly) (TakesOwnResult .hourly)
        { world := World.initial ⟨"ns", "r"⟩ carryingReplica.spec } resultOfTheSucceeded :=
  ⟨by decide +kernel,
    (taken_payload_is_own ⟨"ns", "r"⟩ plainSpec).1 listOfTheSucceeded (by decide +kernel),
    (taken_payload_is_own ⟨"ns", "r"⟩ carryingReplica.spec).2 resultOfTheSucceeded (by decide +kernel)⟩

end RestoreOperator
