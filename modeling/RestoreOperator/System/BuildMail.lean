import RestoreOperator.System.Events
import RestoreOperator.System.Observed

/-!
# `System.BuildMail` — what a pass of the build gate does to its Job and to the store

A pass takes what is stored, puts it back, deletes the build Job or creates it, and does nothing else to
either.  It creates a Job only where it found none and has emptied the store; it calls canopy only when it
found a schema to register.
-/

namespace RestoreOperator

open Calls Calls.Prog Relation

/-! ## Starting in two halves -/

/-- The second half of `startBuild`, after the store has been cleared. -/
def startBuildCleared (ctx : Context) (p : ReplicaPass) (restore : Restore) : Op Bool := do
  let discovered ← Prog.attempt (Op.touch .buildDiscover)
  match discovered with
  | .error err => retryOrSettle restore err
  | .ok _ => do
    let secret ← Prog.attempt (Prog.when ctx.builderPullSecret.isSome (Op.touch .buildPullSecret))
    match secret with
    | .error err => retryOrSettle restore err
    | .ok _ => do
      let w ← Prog.get
      if (w.job .schemaBuild).isSome then return false
      else do
        Op.createJob .buildCreateJob fun uid =>
          { key := .schemaBuild, uid := uid, backoffLimit := some 0, token := some p.buildToken
            target := restore.uid }
        return false

/-- **The two halves** of starting a build. -/
theorem startBuild_halves (ctx : Context) (p : ReplicaPass) (restore : Restore) :
    startBuild ctx p restore = takeSchema >>= fun _ => startBuildCleared ctx p restore := rfl

/-! ## What a pass does to the Job and to the store -/

/-- The build Job and the schema that is stored. -/
def buildMail (w : World) : Option Job × Option String :=
  (w.job .schemaBuild, w.schemaBuildResults)

/-- The Job of a build. -/
def schemaBuildJob (p : ReplicaPass) (r : Restore) (uid : Nat) : Job :=
  { key := .schemaBuild, uid := uid, backoffLimit := some 0, token := some p.buildToken
    target := r.uid }

/-- **What a pass may do** to the build Job and to the store, starting in `w₀`. -/
inductive BuildAct (p : ReplicaPass) (r : Restore) (w₀ : World) :
    Option Job × Option String → Option Job × Option String → Prop where
  | taken {a : Option Job × Option String} : BuildAct p r w₀ a (a.1, none)
  /-- What was taken is put back. -/
  | kept {a : Option Job × Option String} (hjob : (w₀.job .schemaBuild).isSome = true) :
      BuildAct p r w₀ a (a.1, w₀.schemaBuildResults)
  | deleted {a : Option Job × Option String} : BuildAct p r w₀ a (none, a.2)
  /-- A Job is created, with nothing in the store. -/
  | created {a : Option Job × Option String} (uid : Nat) (hjob : w₀.job .schemaBuild = none)
      (hstore : a.2 = none) : BuildAct p r w₀ a (some (schemaBuildJob p r uid), a.2)

section Pass

variable {ctx : Context} {p : ReplicaPass} {r : Restore} {w₀ : World} {replica : Replica}

/-- A piece of a pass that is such acts. -/
def Builds {α : Type} (p : ReplicaPass) (r : Restore) (w₀ : World) (m : Op α)
    (Q : α → World → Prop) (w : World) : Prop :=
  Along buildMail (BuildAct p r w₀) p.replies m Q (fun _ _ => True) w

theorem besideBuilds_buildMail : BesideBuilds buildMail where
  patch := fun _ _ => rfl
  record := fun _ _ => rfl

/-- A quiet piece, of which nothing is remembered. -/
theorem Builds.of_quiet {α : Type} {m : Op α} (hm : Quiet buildMail m) (w : World) :
    Builds p r w₀ m (fun _ w' => buildMail w' = buildMail w) w :=
  (Along.of_quiet hm).mono (fun _ _ h => h) fun _ _ _ => trivial

/-- A quiet piece at the end. -/
theorem Builds.ends {α : Type} {m : Op α} (hm : Quiet buildMail m) (w : World) :
    Builds p r w₀ m (fun _ _ => True) w :=
  (Builds.of_quiet hm w).mono (fun _ _ _ => trivial) fun _ _ h => h

theorem takeSchema_builds (w : World) :
    Builds p r w₀ takeSchema
      (fun schema w' => schema = w.schemaBuildResults ∧ buildMail w' = ((buildMail w).1, none)) w := by
  apply Along.get_bind
  exact Along.bind (Q := fun _ w' => buildMail w' = ((buildMail w).1, none))
    (Along.modify (.single .taken) rfl) fun _ _ h => Along.ret ⟨rfl, h⟩

theorem deleteBuildJob_builds (w : World) : Builds p r w₀ deleteBuildJob (fun _ _ => True) w := by
  refine Along.bind (Q := fun _ _ => True) (Along.bestEffort_call ?_ trivial trivial)
    fun _ _ _ => Along.ret trivial
  have hmail : buildMail (w.deleteJob .schemaBuild) = (none, (buildMail w).2) := by
    unfold buildMail
    rw [job_deleteJob, if_pos rfl]
    rfl
  rw [hmail]
  exact .single .deleted

theorem keepSchema_builds {sql : String} (hjob : (w₀.job .schemaBuild).isSome = true)
    (hsql : w₀.schemaBuildResults = some sql) (w : World) :
    Builds p r w₀ (keepSchema sql) (fun _ _ => True) w := by
  refine Along.modify ?_ trivial
  show ReflTransGen _ _ ((buildMail w).1, some sql)
  rw [← hsql]
  exact .single (.kept hjob)

/-- The second half of starting a build: a Job is created, or nothing happens. -/
theorem startBuildCleared_builds {w : World} (hjob : w₀.job .schemaBuild = none)
    (hstore : w.schemaBuildResults = none) :
    Builds p r w₀ (startBuildCleared ctx p r) (fun _ _ => True) w := by
  apply Along.bind (Builds.of_quiet (Quiet.attempt (quiet_touch _)) w)
  intro discovered w₁ h₁
  cases discovered with
  | error err =>
    exact Builds.ends (besideBuilds_buildMail.retryOrSettle _ _) w₁
  | ok u =>
  apply Along.bind (Builds.of_quiet (Quiet.attempt (Quiet.when (quiet_touch _))) w₁)
  intro secret w₂ h₂
  cases secret with
  | error err =>
    exact Builds.ends (besideBuilds_buildMail.retryOrSettle _ _) w₂
  | ok u' =>
  apply Along.get_bind
  split
  · exact Along.ret trivial
  refine Along.bind (Q := fun _ _ => True) ?_ fun _ _ _ => Along.ret trivial
  refine createJob_along (fun _ => trivial) fun hfree => ?_
  have hnone : w₂.job .schemaBuild = none := hfree
  refine Along.call ?_ (fun _ => trivial) (fun _ _ => trivial) fun _ _ => trivial
  have hmail : buildMail (w₂.addJob (schemaBuildJob p r) fun _ => []) =
      (some (schemaBuildJob p r w₂.nextUid), (buildMail w₂).2) := by
    unfold buildMail
    rw [job_addJob, hnone]
    rfl
  have hsame : (buildMail w₂).2 = none := (congrArg Prod.snd (h₂.trans h₁)).trans hstore
  show ReflTransGen _ _ (buildMail (w₂.addJob (schemaBuildJob p r) fun _ => []))
  rw [hmail]
  exact .single (.created _ hjob hsame)

theorem startBuild_builds {w : World} (hjob : w₀.job .schemaBuild = none) :
    Builds p r w₀ (startBuild ctx p r) (fun _ _ => True) w := by
  rw [startBuild_halves]
  apply Along.bind (takeSchema_builds w)
  intro _ w₁ h₁
  exact startBuildCleared_builds hjob (congrArg Prod.snd h₁.2)

theorem settle_builds {sql : String} {elapsed : Int} {registration : Option String}
    {registered : List String} (hjob : (w₀.job .schemaBuild).isSome = true)
    (hsql : w₀.schemaBuildResults = some sql) (w : World) :
    Builds p r w₀ (finishBuild.settle replica r sql elapsed registration registered)
      (fun _ _ => True) w := by
  apply Along.bind (Builds.of_quiet (Quiet.attempt (besideBuilds_buildMail.recordSchemaBuild _ _ _)) w)
  intro recorded w₁ _
  cases recorded with
  | error err =>
    exact Along.bind (keepSchema_builds hjob hsql w₁) fun _ _ _ => Along.fail trivial
  | ok u => exact Along.bind (deleteBuildJob_builds w₁) fun _ _ _ => Along.ret trivial

theorem finishBuild_builds {w : World} {job : Job} (hjob : (w₀.job .schemaBuild).isSome = true)
    (hstore : w.schemaBuildResults = w₀.schemaBuildResults) :
    Builds p r w₀ (finishBuild ctx p replica r job) (fun _ _ => True) w := by
  apply Along.bind (takeSchema_builds w)
  intro schema w₁ h₁
  cases schema with
  | none =>
    dsimp only
    split
    · apply Along.bind (Builds.of_quiet (besideBuilds_buildMail.failRound _) w₁)
      intro _ w₂ _
      apply Along.bind (Builds.of_quiet (besideBuilds_buildMail.recordBuildAttempt _ _) w₂)
      intro _ w₃ _
      exact Along.bind (deleteBuildJob_builds w₃) fun _ _ _ => Along.ret trivial
    · apply Along.bind (Builds.of_quiet (besideBuilds_buildMail.recordSchemaBuild _ _ _) w₁)
      intro _ w₂ _
      exact Along.bind (deleteBuildJob_builds w₂) fun _ _ _ => Along.ret trivial
  | some sql =>
    have hsql : w₀.schemaBuildResults = some sql := hstore.symm.trans h₁.1.symm
    apply Along.bind (Builds.of_quiet (besideBuilds_buildMail.registerReportingSchema _ _ _) w₁)
    intro registration w₂ _
    dsimp only
    split
    · apply Along.bind (Builds.of_quiet (besideBuilds_buildMail.failRound _) w₂)
      intro _ w₃ _
      split
      · apply Along.bind (keepSchema_builds hjob hsql w₃)
        intro _ w₄ _
        exact Along.bind (Builds.of_quiet (besideBuilds_buildMail.recordBuildAttempt _ _) w₄)
          fun _ _ _ => Along.ret trivial
      · exact settle_builds hjob hsql w₃
    · exact settle_builds hjob hsql w₂
    · exact settle_builds hjob hsql w₂

theorem failBuild_builds (w : World) (job : Job) :
    Builds p r w₀ (failBuild p replica r job) (fun _ _ => True) w := by
  apply Along.bind (Builds.of_quiet (Quiet.bestEffort (quiet_touch _)) w)
  intro _ w₁ _
  apply Along.bind (Builds.of_quiet (Quiet.bestEffort (quiet_touch _)) w₁)
  intro _ w₂ _
  apply Along.bind (Builds.of_quiet (besideBuilds_buildMail.recordSchemaBuild _ _ _) w₂)
  intro _ w₃ _
  apply Along.bind (takeSchema_builds w₃)
  intro _ w₄ _
  exact Along.bind (deleteBuildJob_builds w₄) fun _ _ _ => Along.ret trivial

/-- **A pass of the gate is such acts.** -/
theorem reconcileSchemaBuild_builds (ctx : Context) (replica : Replica) (w : World) :
    Builds p r w (reconcileSchemaBuild ctx p replica r) (fun _ _ => True) w := by
  have hsettle : ∀ error, Builds p r w (settleFailed r error) (fun _ _ => True) w :=
    fun error => Builds.ends (besideBuilds_buildMail.settleFailed _ _) w
  unfold reconcileSchemaBuild
  split
  · exact Along.ret trivial
  · exact hsettle _
  · exact hsettle _
  · exact hsettle _
  · exact Along.bind (takeSchema_builds w) fun _ _ _ => Along.ret trivial
  · exact Along.ret trivial
  · refine Along.read_bind (fun _ => trivial) ?_
    cases hjob : w.job .schemaBuild with
    | none => exact startBuild_builds hjob
    | some job =>
      dsimp only
      split
      · exact Along.ret trivial
      · split
        · exact Along.ret trivial
        · exact finishBuild_builds (by rw [hjob]; rfl) rfl
        · exact failBuild_builds w job

/-- **What a pass leaves of the Job and of the store.** -/
structure BuildPassed (p : ReplicaPass) (r : Restore) (w₀ : World) (a : Option Job × Option String) :
    Prop where
  store : a.2 = none ∨ a.2 = w₀.schemaBuildResults
  job : a.1 = none ∨ (∃ j, w₀.job .schemaBuild = some j ∧ a.1 = some j) ∨
    (w₀.job .schemaBuild = none ∧ a.2 = none ∧ ∃ uid, a.1 = some (schemaBuildJob p r uid))

theorem BuildPassed.of_reaches {a : Option Job × Option String}
    (h : ReflTransGen (BuildAct p r w₀) (buildMail w₀) a) : BuildPassed p r w₀ a := by
  induction h with
  | refl =>
    cases hjob : w₀.job .schemaBuild with
    | none => exact ⟨.inr rfl, .inl hjob⟩
    | some j => exact ⟨.inr rfl, .inr (.inl ⟨j, hjob, hjob⟩)⟩
  | tail _ hact ih =>
    cases hact with
    | taken =>
      refine ⟨.inl rfl, ih.job.imp_right (Or.imp_right ?_)⟩
      rintro ⟨hnone, _, hnew⟩
      exact ⟨hnone, rfl, hnew⟩
    | kept hjob =>
      refine ⟨.inr rfl, ih.job.imp_right (Or.imp_right ?_)⟩
      rintro ⟨hnone, _, _⟩
      simp [hnone] at hjob
    | deleted => exact ⟨ih.store, .inl rfl⟩
    | created uid hjob hstore => exact ⟨.inl hstore, .inr (.inr ⟨hjob, hstore, uid, rfl⟩)⟩

/-- A pass that is cut loses the store as well. -/
theorem BuildPassed.after {outcome : Outcome World Error Bool}
    (h : BuildPassed p r w₀ (buildMail outcome.state)) :
    BuildPassed p r w₀ (buildMail (World.after outcome)) := by
  cases outcome with
  | done b w => exact h
  | failed e w => exact h
  | halted w =>
    refine ⟨.inl rfl, h.job.imp_right (Or.imp_right ?_)⟩
    rintro ⟨hnone, _, hnew⟩
    exact ⟨hnone, rfl, hnew⟩

end Pass

/-! ## Where a schema is registered -/

/-- There is a build to do for the restore. -/
def hasBuildToDo (replica : Replica) (r : Restore) : Bool :=
  match buildToDo replica r with
  | .build _ _ _ _ => true
  | _ => false

/-- The schema that is registered for a restore, by a pass that gets to read the Job. -/
def schemaToRegister (ctx : Context) (replica : Replica) (r : Restore) (w : World) : Option String :=
  if hasBuildToDo replica r && ctx.canopy &&
      (w.job .schemaBuild).any (fun j => !j.deletionRequested && classifyJob j = .succeeded) then
    w.schemaBuildResults
  else none

section Register

variable {ctx : Context} {p : ReplicaPass} {r : Restore} {replica : Replica} {w : World}
  {ρ : Call → Reply Error}

theorem avoids_recordBuildAttempt (attempts : Int) :
    Avoids ρ .buildRegister (recordBuildAttempt r attempts) w :=
  Avoids.call _ (by simp)

theorem avoids_settleFailed (error : String) : Avoids ρ .buildRegister (settleFailed r error) w :=
  Avoids.bind (Avoids.call _ (by simp)) fun _ _ _ => Avoids.ret _

theorem avoids_deleteBuildJob : Avoids ρ .buildRegister deleteBuildJob w :=
  Avoids.bind (Avoids.bestEffort (Avoids.call _ (by simp))) fun _ _ _ => Avoids.ret _

theorem avoids_retryOrSettle (err : Error) : Avoids ρ .buildRegister (retryOrSettle r err) w := by
  refine Avoids.bind (Avoids.modify _) fun _ _ _ => ?_
  split
  · exact avoids_settleFailed _
  · exact Avoids.bind (avoids_recordBuildAttempt _) fun _ _ _ => Avoids.ret _

theorem avoids_startBuild : Avoids ρ .buildRegister (startBuild ctx p r) w := by
  refine Avoids.bind (fun _ _ => rfl) fun _ w₁ _ => ?_
  refine Avoids.bind (Avoids.attempt (avoids_touch (by simp))) fun discovered w₂ _ => ?_
  cases discovered with
  | error err => exact avoids_retryOrSettle err
  | ok u =>
  refine Avoids.bind (Avoids.attempt (Avoids.when fun _ => avoids_touch (by simp)))
    fun secret w₃ _ => ?_
  cases secret with
  | error err => exact avoids_retryOrSettle err
  | ok u' =>
  refine Avoids.bind Avoids.get fun w₄ w₅ _ => ?_
  split
  · exact Avoids.ret _
  · exact Avoids.bind (avoids_createJob (by simp)) fun _ _ _ => Avoids.ret _

theorem avoids_failBuild (job : Job) : Avoids ρ .buildRegister (failBuild p replica r job) w := by
  refine Avoids.bind (Avoids.bestEffort (avoids_touch (by simp))) fun _ _ _ => ?_
  refine Avoids.bind (Avoids.bestEffort (avoids_touch (by simp))) fun _ _ _ => ?_
  refine Avoids.bind (Avoids.call _ (by simp)) fun _ _ _ => ?_
  refine Avoids.bind (fun _ _ => rfl) fun _ _ _ => ?_
  exact Avoids.bind avoids_deleteBuildJob fun _ _ _ => Avoids.ret _

/-- Without a schema or without canopy, a finished build registers nothing. -/
theorem avoids_finishBuild {job : Job} (h : ctx.canopy = false ∨ w.schemaBuildResults = none) :
    Avoids ρ .buildRegister (finishBuild ctx p replica r job) w := by
  have hsettle : ∀ {sql elapsed registration registered} {w' : World},
      Avoids ρ .buildRegister (finishBuild.settle replica r sql elapsed registration registered) w' := by
    intro sql elapsed registration registered w'
    refine Avoids.bind (Avoids.attempt (Avoids.call _ (by simp))) fun recorded _ _ => ?_
    cases recorded with
    | error err => exact Avoids.bind (Avoids.modify _) fun _ _ _ => Avoids.fail _
    | ok u => exact Avoids.bind avoids_deleteBuildJob fun _ _ _ => Avoids.ret _
  refine Avoids.bind (fun _ _ => rfl) fun schema w₁ htaken => ?_
  cases schema with
  | none =>
    dsimp only
    split
    · refine Avoids.bind (Avoids.modify _) fun _ _ _ => ?_
      refine Avoids.bind (avoids_recordBuildAttempt _) fun _ _ _ => ?_
      exact Avoids.bind avoids_deleteBuildJob fun _ _ _ => Avoids.ret _
    · refine Avoids.bind (Avoids.call _ (by simp)) fun _ _ _ => ?_
      exact Avoids.bind avoids_deleteBuildJob fun _ _ _ => Avoids.ret _
  | some sql =>
    rcases h with hcanopy | hnone
    · refine Avoids.bind ?_ fun registration w₂ hregistration => ?_
      · unfold registerReportingSchema
        rw [hcanopy]
        exact Avoids.ret _
      · have hnothing : registration = none := by
          unfold registerReportingSchema at hregistration
          rw [hcanopy] at hregistration
          cases hregistration
          rfl
        rw [hnothing]
        exact hsettle
    · -- there is nothing to take
      have htook : w.schemaBuildResults = some sql := (Outcome.done.inj htaken).1
      rw [hnone] at htook
      cases htook

/-- **A pass that has no schema to register does not call canopy**: how canopy would answer makes no
    difference. -/
theorem avoids_register (h : schemaToRegister ctx replica r w = none) :
    Avoids ρ .buildRegister (reconcileSchemaBuild ctx p replica r) w := by
  unfold reconcileSchemaBuild
  split
  · exact Avoids.ret _
  · exact avoids_settleFailed _
  · exact avoids_settleFailed _
  · exact avoids_settleFailed _
  · exact Avoids.bind (fun _ _ => rfl) fun _ _ _ => Avoids.ret _
  · exact Avoids.ret _
  · rename_i image target group rank hbuild
    refine Avoids.bind (Avoids.read _ (by simp)) fun job w' hread => ?_
    have hjob : job = w.job .schemaBuild ∧ w' = w := by
      unfold Op.getJob Prog.read at hread
      cases hr : ρ .buildGetJob <;> rw [hr] at hread <;> cases hread
      exact ⟨rfl, rfl⟩
    obtain ⟨hjob, rfl⟩ := hjob
    cases job with
    | none => exact avoids_startBuild
    | some job =>
      dsimp only
      split
      · exact Avoids.ret _
      · rename_i hdeleting
        cases hstate : classifyJob job with
        | active => exact Avoids.ret _
        | succeeded =>
          apply avoids_finishBuild
          cases hcanopy : ctx.canopy with
          | false => exact .inl rfl
          | true =>
            refine .inr ?_
            simpa [schemaToRegister, hasBuildToDo, hbuild, hcanopy, ← hjob, hstate, hdeleting] using h
        | failed => exact avoids_failBuild job

end Register

end RestoreOperator
