import RestoreOperator.Calls.Mailbox
import RestoreOperator.System.Acts
import RestoreOperator.System.BuildMail

/-!
# `Correctness.SchemaCallback` — whose schema is registered

A build posts its schema by a request that names the replica and carries the token of its Job.  The
request is checked against the Job of the replica when it arrives, and its body is stored when it has been
read; a pass of the gate that sees the Job Succeeded takes what is stored and registers it with canopy.
Job, store and token are all found by the replica, so nothing ties any of them to the restore the pass is
for, or the body to the Job that is there when it is stored.

What is registered for a restore comes from a build of that restore as long as no pass meets the finished
build of another, no body is stored under the Job of another build than it was checked against, and no
body comes between the clearing of the store and the creation of the Job.
-/

namespace RestoreOperator

open Calls Calls.Prog Relation

/-! ## Requests and passes -/

/-- Change the Job of the given key. -/
def World.patchJob (k : JobKey) (f : Job → Job) (w : World) : World :=
  { w with jobs := w.jobs.map fun j => if j.key = k then f j else j }

/-- The Job of a key after it was changed. -/
theorem job_patchJob {k : JobKey} {f : Job → Job} (hkey : ∀ j, (f j).key = j.key) (w : World) :
    (w.patchJob k f).job k = (w.job k).map f := by
  unfold World.job World.patchJob
  exact find?_map_at (fun j hk => (hkey j).trans hk) w.jobs

/-- **The builds of a replica**, with what the requests and the Jobs were. -/
structure BuildState where
  world : World
  /-- The token of the request that stored the schema in the operator's memory. -/
  storedBy : Option String := none
  /-- The tokens of the requests that were let in and whose body has not been stored yet. -/
  verified : List String := []
  /-- The token and the restore of every build Job that was created. -/
  created : List (String × Nat) := []
  /-- A pass has cleared the store and not created its Job yet. -/
  starting : Option Restore := none

/-- **What can happen around the builds of a replica.**  A pass may come for any restore, since restores
    are deleted and replaced. -/
inductive BuildEvent where
  /-- A request arrives, and is let in if it carries the token of the Job that is there. -/
  | tokenVerified (token : String)
  /-- The body of a request that was let in is stored. -/
  | bodyStored (token sql : String)
  | receiptRecorded (bytes : Int)
  /-- A pass of the gate. -/
  | buildPass (replica : Replica) (r : Restore) (p : ReplicaPass)
  /-- A pass that finds no Job clears the store; its second half comes later. -/
  | buildCleared (replica : Replica) (r : Restore) (p : ReplicaPass)
  | buildStarted (p : ReplicaPass)
  | jobReported (report : JobReport)
  | jobDeletionRequested
  /-- The Job is gone: deleted by a pass, by another restore, by its TTL or by hand. -/
  | jobRemoved
  /-- What nobody came back for is dropped. -/
  | schemaSwept
  | restart

/-- **The schema a pass registers for a restore**: the one that is stored, when the Job has succeeded. -/
def registersSchema (ctx : Context) (replica : Replica) (r : Restore) (p : ReplicaPass) (w : World) :
    Option String :=
  if (p.replies .buildGetJob).isOk then schemaToRegister ctx replica r w else none

/-- What is registered is what is stored, and a Job is there. -/
theorem registersSchema_some {ctx : Context} {replica : Replica} {r : Restore} {p : ReplicaPass}
    {w : World} {sql : String} (h : registersSchema ctx replica r p w = some sql) :
    ∃ j, w.job .schemaBuild = some j ∧ w.schemaBuildResults = some sql := by
  unfold registersSchema schemaToRegister at h
  split at h
  · split at h
    · rename_i hreads
      simp only [Bool.and_eq_true, Option.any_eq_true] at hreads
      obtain ⟨_, j, hj, _⟩ := hreads
      exact ⟨j, hj, h⟩
    · cases h
  · cases h

namespace BuildState

/-- The state after a pass, with what the pass did to the store and to the Job.  Requests do not survive
    the operator. -/
def pass (s : BuildState) (outcome : Outcome World Error Bool) : BuildState :=
  { world := World.after outcome
    storedBy := if (World.after outcome).schemaBuildResults.isSome then s.storedBy else none
    verified := if outcome.isHalted then [] else s.verified
    created :=
      match s.world.job .schemaBuild, (World.after outcome).job .schemaBuild with
      | none, some j => (j.token.getD "", j.target) :: s.created
      | _, _ => s.created }

/-- **One step.** -/
def step (ctx : Context) (s : BuildState) : BuildEvent → BuildState
  | .tokenVerified token =>
    if ((s.world.job .schemaBuild).bind Job.token) = some token then
      { s with verified := token :: s.verified }
    else s
  | .bodyStored token sql =>
    if token ∈ s.verified then
      { s with
        world := { s.world with schemaBuildResults := some sql }
        storedBy := some token
        verified := s.verified.erase token }
    else s
  | .receiptRecorded bytes =>
    { s with world := s.world.patchJob .schemaBuild fun j => { j with receipt := some bytes } }
  | .buildPass replica r p =>
    if s.starting.isSome then s
    else s.pass (reconcileSchemaBuild ctx p replica r p.replies s.world)
  | .buildCleared replica r p =>
    if s.starting.isNone && hasBuildToDo replica r && (p.replies .buildGetJob).isOk &&
        (s.world.job .schemaBuild).isNone then
      { s with
        world := { s.world with schemaBuildResults := none }
        storedBy := none
        starting := some r }
    else s
  | .buildStarted p =>
    match s.starting with
    | none => s
    | some r => s.pass (startBuildCleared ctx p r p.replies s.world)
  | .jobReported report => { s with world := s.world.reportJob .schemaBuild report }
  | .jobDeletionRequested =>
    { s with world := s.world.patchJob .schemaBuild fun j => { j with deletionRequested := true } }
  | .jobRemoved => { s with world := s.world.deleteJob .schemaBuild }
  | .schemaSwept => { s with world := { s.world with schemaBuildResults := none }, storedBy := none }
  | .restart => { s with world := s.world.restart, storedBy := none, verified := [], starting := none }

/-- **What is registered for a restore was stored by a request of a build of that restore.** -/
def RegistersOwn (ctx : Context) (s : BuildState) : BuildEvent → Prop
  | .buildPass replica r p =>
    s.starting = none → ∀ sql, registersSchema ctx replica r p s.world = some sql →
      ∃ token, s.storedBy = some token ∧ (token, r.uid) ∈ s.created
  | _ => True

/-- **Builds cross**: a pass registers while the Job it finds is the build of another restore, a body is
    stored while the Job is not the one it was checked against, or it is there when a Job is created. -/
def crosses (ctx : Context) (s : BuildState) : BuildEvent → Bool
  | .buildPass replica r p =>
    (registersSchema ctx replica r p s.world).isSome &&
      (s.world.job .schemaBuild).any fun j => j.target ≠ r.uid
  | .bodyStored token _ =>
    token ∈ s.verified && (s.world.job .schemaBuild).any fun j => j.token ≠ some token
  | .buildStarted _ => s.starting.isSome && s.world.schemaBuildResults.isSome
  | _ => false

end BuildState

/-! ## What holds between the requests and the passes -/

namespace BuildState

variable {ctx : Context} {s : BuildState}

/-- The store, held by the Job that is there. -/
def mailbox (s : BuildState) : Mailbox String :=
  { holder := (s.world.job .schemaBuild).bind Job.token, sender := s.storedBy }

/-- **What holds as long as builds do not cross.** -/
structure Sound (s : BuildState) : Prop where
  own : s.mailbox.Own
  created : ∀ j, s.world.job .schemaBuild = some j →
    ∃ token, j.token = some token ∧ (token, j.target) ∈ s.created
  stored : s.storedBy.isSome = s.world.schemaBuildResults.isSome
  idle : s.starting.isSome = true → s.world.job .schemaBuild = none

/-- A change of the Job that leaves its token and its restore alone. -/
theorem Sound.of_job (h : s.Sound) {w' : World} {f : Job → Job} (htoken : ∀ j, (f j).token = j.token)
    (htarget : ∀ j, (f j).target = j.target)
    (hjob : w'.job .schemaBuild = (s.world.job .schemaBuild).map f)
    (hstore : w'.schemaBuildResults = s.world.schemaBuildResults) :
    ({ s with world := w' } : BuildState).Sound where
  own := by
    have hbind : (w'.job .schemaBuild).bind Job.token = (s.world.job .schemaBuild).bind Job.token := by
      rw [hjob]
      cases s.world.job .schemaBuild with
      | none => rfl
      | some job => exact htoken job
    exact h.own.of_kept (fun i hi => hbind.symm.trans hi) fun _ hj => hj
  created := by
    intro j hj
    obtain ⟨job, hsome, rfl⟩ := Option.map_eq_some_iff.mp (hjob.symm.trans hj)
    obtain ⟨token, htok, hmem⟩ := h.created job hsome
    exact ⟨token, (htoken job).trans htok, (htarget job).symm ▸ hmem⟩
  stored := by
    show s.storedBy.isSome = w'.schemaBuildResults.isSome
    rw [hstore]
    exact h.stored
  idle := by
    intro hstarting
    rw [hjob, h.idle hstarting]
    rfl

/-- **A pass keeps it**, or the half of a pass that creates the Job. -/
theorem Sound.pass {p : ReplicaPass} {r : Restore} {outcome : Outcome World Error Bool} (h : s.Sound)
    (hpassed : BuildPassed p r s.world (buildMail (World.after outcome))) : (s.pass outcome).Sound := by
  obtain ⟨hstore, hjob⟩ := hpassed
  have hsender : ∀ token, (s.pass outcome).storedBy = some token → s.storedBy = some token := by
    intro token hstored
    simp only [BuildState.pass] at hstored
    split at hstored
    · exact hstored
    · cases hstored
  have hstored : (s.pass outcome).storedBy.isSome =
      (World.after outcome).schemaBuildResults.isSome := by
    simp only [BuildState.pass]
    rcases hstore with hnone | hsame
    · rw [show (World.after outcome).schemaBuildResults = none from hnone]
      rfl
    · rw [show (World.after outcome).schemaBuildResults = s.world.schemaBuildResults from hsame]
      split
      · rename_i hsome
        rw [h.stored]
      · rename_i hnone
        rw [Bool.eq_false_iff.mpr hnone]
        rfl
  have hidle : (s.pass outcome).starting.isSome = true →
      (s.pass outcome).world.job .schemaBuild = none := by
    intro hstarting
    cases hstarting
  rcases hjob with hnone | ⟨j, hwas, hsame⟩ | ⟨hnone, hempty, uid, hnew⟩
  · have hgone : (World.after outcome).job .schemaBuild = none := hnone
    refine ⟨?_, ?_, hstored, hidle⟩
    · exact Mailbox.own_of_unheld (congrArg (Option.bind · Job.token) hgone)
    · intro j hj
      exact absurd (hgone.symm.trans hj) (by simp)
  · have hkept : (World.after outcome).job .schemaBuild = some j := hsame
    refine ⟨?_, ?_, hstored, hidle⟩
    · have hholder : (s.pass outcome).mailbox.holder = s.mailbox.holder := by
        simp only [mailbox, BuildState.pass, hkept, hwas]
      exact h.own.of_kept (fun i hi => hholder.symm.trans hi) hsender
    · intro j' hj
      obtain rfl : j = j' := Option.some.inj (hkept.symm.trans hj)
      simpa only [BuildState.pass, hwas] using h.created j hwas
  · have hmade : (World.after outcome).job .schemaBuild = some (schemaBuildJob p r uid) := hnew
    have hstore' : (World.after outcome).schemaBuildResults = none := hempty
    refine ⟨?_, ?_, hstored, hidle⟩
    · -- the new Job finds the store empty
      have hsent : (s.pass outcome).storedBy = none := by
        simp only [BuildState.pass, hstore']
        rfl
      exact Mailbox.own_of_empty hsent
    · intro j hj
      obtain rfl : schemaBuildJob p r uid = j := Option.some.inj (hmade.symm.trans hj)
      refine ⟨p.buildToken, rfl, ?_⟩
      simp only [BuildState.pass, hnone, hmade]
      exact List.mem_cons_self

/-- A body is stored under the Job it was checked against, or under none. -/
theorem Sound.bodyStored (h : s.Sound) (token sql : String)
    (hC : s.crosses ctx (.bodyStored token sql) = false) : (s.step ctx (.bodyStored token sql)).Sound := by
  simp only [step]
  split
  · rename_i hverified
    have hown : ∀ i, s.mailbox.holder = some i → token = i := by
      intro i hholder
      obtain ⟨j, hj, htoken⟩ := Option.bind_eq_some_iff.mp hholder
      simp only [crosses, hverified, decide_true, Bool.true_and, hj, Option.any_some,
        decide_eq_false_iff_not, ne_eq, not_not, htoken, Option.some.injEq] at hC
      exact hC.symm
    exact ⟨(Mailbox.Move.posted (m := s.mailbox) token hown).own, h.created, rfl, h.idle⟩
  · exact h

/-- The store is emptied. -/
theorem Sound.emptied (h : s.Sound) {verified : List String} {starting : Option Restore} {w : World}
    (hjob : w.job .schemaBuild = s.world.job .schemaBuild) (hstore : w.schemaBuildResults = none)
    (hidle : starting.isSome = true → s.world.job .schemaBuild = none) :
    ({ s with world := w, storedBy := none, verified := verified, starting := starting } :
      BuildState).Sound where
  own := Mailbox.own_of_empty rfl
  created := by
    intro j hj
    exact h.created j (hjob.symm.trans hj)
  stored := by
    show false = w.schemaBuildResults.isSome
    rw [hstore]
    rfl
  idle := by
    intro hstarting
    exact hjob.trans (hidle hstarting)

/-- **A step keeps it**, unless builds cross. -/
theorem Sound.step {e : BuildEvent} (hC : s.crosses ctx e = false) (h : s.Sound) :
    (s.step ctx e).Sound := by
  cases e with
  | tokenVerified token =>
    simp only [BuildState.step]
    split
    · exact ⟨h.own, h.created, h.stored, h.idle⟩
    · exact h
  | bodyStored token sql => exact h.bodyStored token sql hC
  | receiptRecorded bytes =>
    refine h.of_job (f := fun j => { j with receipt := some bytes }) (fun _ => rfl) (fun _ => rfl)
      (job_patchJob ?_ s.world) rfl
    intro j
    rfl
  | buildPass replica r p =>
    simp only [BuildState.step]
    split
    · exact h
    · exact h.pass (BuildPassed.of_reaches
        (reconcileSchemaBuild_builds (p := p) (r := r) ctx replica s.world).reaches).after
  | buildCleared replica r p =>
    simp only [BuildState.step]
    split
    · rename_i hguard
      simp only [Bool.and_eq_true, Option.isNone_iff_eq_none] at hguard
      exact h.emptied rfl rfl fun _ => hguard.2
    · exact h
  | buildStarted p =>
    simp only [BuildState.step]
    cases hstarting : s.starting with
    | none => exact h
    | some r =>
      have hempty : s.world.schemaBuildResults = none := by
        simpa [crosses, hstarting] using hC
      have hjob : s.world.job .schemaBuild = none := h.idle (by rw [hstarting]; rfl)
      have hbuilds : Builds p r s.world (startBuildCleared ctx p r) (fun _ _ => True) s.world :=
        startBuildCleared_builds hjob hempty
      exact h.pass (BuildPassed.of_reaches hbuilds.reaches).after
  | jobReported report =>
    refine h.of_job (f := fun j => if j.key = .schemaBuild ∧ classifyJob j = .active then
      { j with report := some report } else j) ?_ ?_ (job_reportJob _ _ _ _) rfl
    · intro j
      split <;> rfl
    · intro j
      split <;> rfl
  | jobDeletionRequested =>
    refine h.of_job (f := fun j => { j with deletionRequested := true }) (fun _ => rfl) (fun _ => rfl)
      (job_patchJob ?_ s.world) rfl
    intro j
    rfl
  | jobRemoved =>
    have hgone : (s.world.deleteJob .schemaBuild).job .schemaBuild = none := by
      rw [job_deleteJob, if_pos rfl]
    refine ⟨?_, ?_, h.stored, fun _ => hgone⟩
    · exact Mailbox.own_of_unheld (congrArg (Option.bind · Job.token) hgone)
    · intro j hj
      exact absurd (hgone.symm.trans hj) (by simp)
  | schemaSwept => exact h.emptied rfl rfl h.idle
  | restart =>
    refine h.emptied rfl rfl ?_
    intro hstarting
    cases hstarting

/-- **A pass registers what a build of its restore posted**, unless builds cross. -/
theorem Sound.registersOwn {e : BuildEvent} (hC : s.crosses ctx e = false) (h : s.Sound) :
    s.RegistersOwn ctx e := by
  cases e with
  | buildPass replica r p =>
    intro _ sql hsql
    have hsome : (registersSchema ctx replica r p s.world).isSome = true := by rw [hsql]; rfl
    obtain ⟨j, hj, hresults⟩ := registersSchema_some hsql
    obtain ⟨token, htoken, hcreated⟩ := h.created j hj
    have htarget : j.target = r.uid := by
      simpa [crosses, hsome, hj] using hC
    have hstored : s.storedBy.isSome = true := by rw [h.stored, hresults]; rfl
    obtain ⟨sender, hsender⟩ := Option.isSome_iff_exists.mp hstored
    obtain rfl : sender = token := by
      refine h.own token sender ?_ hsender
      simp only [mailbox, hj, Option.bind_some, htoken]
    exact ⟨sender, hsender, htarget ▸ hcreated⟩
  | _ => trivial

end BuildState

/-! ## Every interleaving -/

/-- **Whatever is registered for a restore was stored by a request whose token is that of a build Job of
    that restore**, in every interleaving in which builds do not cross. -/
theorem registered_schema_is_own {ctx : Context} (key : ReplicaKey) (spec : ReplicaSpec)
    (es : List BuildEvent)
    (hes : Meets (BuildState.step ctx) (fun s e => s.crosses ctx e = false)
      { world := World.initial key spec } es) :
    Meets (BuildState.step ctx) (fun s e => s.RegistersOwn ctx e)
      { world := World.initial key spec } es := by
  have hsound : BuildState.Sound { world := World.initial key spec } := by
    refine ⟨Mailbox.own_of_unheld rfl, ?_, rfl, ?_⟩
    · intro j hj
      cases hj
    · intro hstarting
      cases hstarting
  exact Meets.of_invariant (I := BuildState.Sound) (fun _ _ hC h => h.step hC)
    (fun _ _ hC h => h.registersOwn hC) hsound hes

/-! ## Two restores and one Job -/

/-- A replica whose restores have a reporting schema built. -/
def buildingReplica : Replica :=
  { name := "r"
    spec :=
      { plainSpec with
        kopiaSecretRef := none
        canopySource := some { group := "11111111-1111-1111-1111-111111111111", type := "full" } } }

/-- A restore that has migrated, and has a schema to be built. -/
def migratedRestore (uid : Nat) (name : String) : Restore :=
  { plainRestore uid name "s" { migrationResult := some { totalElapsedSeconds := 1 } } with
    spec :=
      { (plainRestore uid name "s" {}).spec with
        builderImage := some "builder"
        migrateTo := some { version := "2", versionId := "v2" }
        rank := some "production" } }

/-- A build of the first restore delivers its schema, and succeeds. -/
def buildOfTheFirst : List BuildEvent :=
  [.buildPass buildingReplica (migratedRestore 1 "r-1") { now := 0, buildToken := "t-1" },
    .tokenVerified "t-1", .bodyStored "t-1" "the schema of r-1", .receiptRecorded 17,
    .jobReported { succeeded := some 1 }]

/-- The first restore is replaced by the second before a pass comes back for it. -/
def replacedBeforeRegistered : List BuildEvent :=
  buildOfTheFirst ++ [.buildPass buildingReplica (migratedRestore 2 "r-2") { now := 60 }]

/-- **The schema built against the first restore is registered for the second.** -/
theorem schema_of_another_restore_registered :
    ¬ Meets (BuildState.step .hourly) (fun s e => s.RegistersOwn .hourly e)
        { world := World.initial ⟨"ns", "r"⟩ buildingReplica.spec } replacedBeforeRegistered ∧
      registersSchema .hourly buildingReplica (migratedRestore 2 "r-2") { now := 60 }
        (runFrom (BuildState.step .hourly)
          { world := World.initial ⟨"ns", "r"⟩ buildingReplica.spec } buildOfTheFirst).world =
        some "the schema of r-1" ∧
      (runFrom (BuildState.step .hourly)
        { world := World.initial ⟨"ns", "r"⟩ buildingReplica.spec } buildOfTheFirst).created =
        [("t-1", 1)] := by
  have hcreated : (runFrom (BuildState.step .hourly)
      { world := World.initial ⟨"ns", "r"⟩ buildingReplica.spec } buildOfTheFirst).created =
      [("t-1", 1)] := by decide +kernel
  have hregisters : registersSchema .hourly buildingReplica (migratedRestore 2 "r-2") { now := 60 }
      (runFrom (BuildState.step .hourly)
        { world := World.initial ⟨"ns", "r"⟩ buildingReplica.spec } buildOfTheFirst).world =
      some "the schema of r-1" := by decide +kernel
  refine ⟨?_, hregisters, hcreated⟩
  intro h
  have hlast := (meets_append.mp h).2.1
  obtain ⟨token, _, hmem⟩ := hlast (by decide +kernel) _ hregisters
  rw [hcreated] at hmem
  simp [migratedRestore, plainRestore] at hmem

/-- The pass that comes back is for the restore the build was for. -/
def registeredForTheFirst : List BuildEvent :=
  buildOfTheFirst ++ [.buildPass buildingReplica (migratedRestore 1 "r-1") { now := 60 }]

theorem schema_of_the_restore_registered :
    registersSchema .hourly buildingReplica (migratedRestore 1 "r-1") { now := 60 }
        (runFrom (BuildState.step .hourly)
          { world := World.initial ⟨"ns", "r"⟩ buildingReplica.spec } buildOfTheFirst).world =
        some "the schema of r-1" ∧
      Meets (BuildState.step .hourly) (fun s e => s.RegistersOwn .hourly e)
        { world := World.initial ⟨"ns", "r"⟩ buildingReplica.spec } registeredForTheFirst :=
  ⟨by decide +kernel, registered_schema_is_own _ _ registeredForTheFirst (by decide +kernel)⟩

end RestoreOperator
