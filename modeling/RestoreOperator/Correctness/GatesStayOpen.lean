import RestoreOperator.Correctness.Migration
import RestoreOperator.Correctness.PhaseMachine
import RestoreOperator.System.GateCalls

/-!
# `Correctness.GatesStayOpen` — gates that have let a restore through

The gates of a switchover run in sequence, and a later gate that defers, or any write that fails, brings the
next pass back to the first one.  Redaction and build know again what they have done: by the marker on the
replica, which nothing clears while a restore is Switching, and by the result on the restore.  The migration
knows only the marker Complete: after one that was partial, or was given up, it starts over, and clears the
restore of the schemas again.
-/

namespace RestoreOperator

open Calls Calls.Prog Relation

/-! ## What was let through -/

/-- **A world whose gates have let restores through.** -/
structure Gated where
  world : World
  passed : List (Gate × Nat) := []

/-- What the gates let through in a step. -/
def letThrough (ctx : Context) (w : World) : Event → List (Gate × Nat)
  | .replicaPass p =>
    if w.replicaDeleted then []
    else ((gateCalls ctx p w).filter fun c => c.opens ctx p).map fun c => (c.gate, c.restore.uid)
  | _ => []

/-- **One step.** -/
def gatedStep (ctx : Context) (s : Gated) (e : Event) : Gated :=
  { world := step ctx s.world e, passed := letThrough ctx s.world e ++ s.passed }

/-- **The gate lets the restore through and does no more**: no Job is created, and no schemas are dropped. -/
def GateCall.StaysOpen (ctx : Context) (p : ReplicaPass) (c : GateCall) : Prop :=
  (∃ w', c.program ctx p p.replies c.world = .done true w' ∧ ∀ job ∈ w'.jobs, job ∈ c.world.jobs) ∧
    Avoids p.replies .migrationDropSchemas (c.program ctx p) c.world

/-- **Every gate that has let a restore through lets it through again.** -/
def StayOpen (ctx : Context) (s : Gated) : Event → Prop
  | .replicaPass p => s.world.replicaDeleted = false →
      ∀ c ∈ gateCalls ctx p s.world, (c.gate, c.restore.uid) ∈ s.passed → c.StaysOpen ctx p
  | _ => True

/-- The gate finds the Job that has succeeded still there, and gets to say so. -/
def seesSucceeded (p : ReplicaPass) (w : World) : Bool :=
  (p.replies .migrationGetJob).isOk &&
    ((w.job .schemaMigration).any fun job => classifyJob job = .succeeded) &&
    (!isPartialCallback w.schemaMigrationResults ||
      (p.replies (.publishEvent "SchemaMigrationPartial")).survived) &&
    (p.replies .migrationPatchPhase).isOk && (p.replies .migrationDeleteJob).survived

/-- **The migration does not know that it is done**: with nothing to carry over it cannot say so, and
    otherwise the marker is not Complete, and the Job gone or not to be seen. -/
def GateCall.startsOver (p : ReplicaPass) (c : GateCall) : Bool :=
  c.active.isSome &&
    if c.replica.spec.persistentSchemas = some [] then !(p.replies .migrationPatchPhase).isOk
    else c.replica.status.schemaMigrationPhase ≠ some .complete && !seesSucceeded p c.world

/-- **A gate is found shut again**: the pass comes to the migration of a restore that was let through, and it
    does not know that it is done. -/
def reopens (ctx : Context) (s : Gated) : Event → Bool
  | .replicaPass p => !s.world.replicaDeleted && (gateCalls ctx p s.world).any fun c =>
      c.gate = .migration && (.migration, c.restore.uid) ∈ s.passed && c.startsOver p
  | _ => false

/-! ## The gates once they are settled -/

/-- The restore has nothing left to build. -/
def NothingToBuild (r : Restore) : Prop :=
  r.status.schemaBuildResult.isSome = true ∨ r.spec.builderImage = none ∨ r.spec.migrateTo = none

section Settled

variable {ctx : Context} {p : ReplicaPass} {c : GateCall} {ρ : Call → Reply Error} {w : World}

/-- Redaction goes by its marker. -/
theorem redaction_staysOpen (hgate : c.gate = .redaction)
    (hdone : c.replica.status.redactionPhase.any RedactionPhase.isDone = true) : c.StaysOpen ctx p := by
  have hprogram : c.program ctx p = Prog.ret true := by
    unfold GateCall.program reconcileRedactionStep
    rw [hgate]
    exact if_pos hdone
  unfold GateCall.StaysOpen
  rw [hprogram]
  exact ⟨⟨c.world, rfl, fun _ h => h⟩, Avoids.ret _⟩

/-- Nothing to build is what the build gate finds. -/
theorem NothingToBuild.buildToDo {r : Restore} {replica : Replica} (h : NothingToBuild r) :
    buildToDo replica r = .settled ∨ buildToDo replica r = .noImage ∨
      buildToDo replica r = .noTarget := by
  unfold RestoreOperator.buildToDo
  split
  · exact .inl rfl
  rename_i hunbuilt
  rcases h with hbuilt | himage | htarget
  · exact absurd hbuilt hunbuilt
  · rw [himage]
    exact .inr (.inl rfl)
  · rw [htarget]
    cases r.spec.builderImage with
    | none => exact .inr (.inl rfl)
    | some image => exact .inr (.inr rfl)

theorem build_staysOpen (hgate : c.gate = .build) (h : NothingToBuild c.restore) :
    c.StaysOpen ctx p := by
  have hprogram : c.program ctx p = reconcileSchemaBuild ctx p c.replica c.restore := by
    unfold GateCall.program
    rw [hgate]
  unfold GateCall.StaysOpen
  rw [hprogram]
  unfold reconcileSchemaBuild
  have htodo : buildToDo c.replica c.restore = .settled ∨ buildToDo c.replica c.restore = .noImage ∨
      buildToDo c.replica c.restore = .noTarget := h.buildToDo
  rcases htodo with hsettled | himage | htarget
  · rw [hsettled]
    refine ⟨⟨{ c.world with schemaBuildResults := none }, rfl, fun _ h => h⟩, ?_⟩
    exact Avoids.bind (fun _ _ => rfl) fun _ _ _ => Avoids.ret _
  · rw [himage]
    exact ⟨⟨c.world, rfl, fun _ h => h⟩, Avoids.ret _⟩
  · rw [htarget]
    exact ⟨⟨c.world, rfl, fun _ h => h⟩, Avoids.ret _⟩

theorem finishBuild_defers {replica : Replica} {r : Restore} {job : Job} :
    Yields (· = false) (finishBuild ctx p replica r job) := by
  have hsettle : ∀ sql elapsed registration registered, Yields (· = false)
      (finishBuild.settle replica r sql elapsed registration registered) := by
    intro sql elapsed registration registered
    refine Yields.bind fun recorded => ?_
    cases recorded with
    | error err => exact Yields.bind fun _ => Yields.fail _
    | ok _ => exact Yields.bind fun _ => Yields.ret rfl
  refine Yields.bind fun schema => ?_
  cases schema with
  | none =>
    dsimp only
    split
    · exact Yields.bind fun _ => Yields.bind fun _ => Yields.bind fun _ => Yields.ret rfl
    · exact Yields.bind fun _ => Yields.bind fun _ => Yields.ret rfl
  | some sql =>
    refine Yields.bind fun registration => ?_
    dsimp only
    split
    · refine Yields.bind fun _ => ?_
      split
      · exact Yields.bind fun _ => Yields.bind fun _ => Yields.ret rfl
      · exact hsettle _ _ _ _
    · exact hsettle _ _ _ _
    · exact hsettle _ _ _ _

/-- With something to build the gate defers, whatever becomes of the build. -/
theorem reconcileSchemaBuild_defers {replica : Replica} {r : Restore} (h : ¬ NothingToBuild r) :
    Yields (· = false) (reconcileSchemaBuild ctx p replica r) := by
  have hsettle : ∀ error, Yields (· = false) (settleFailed r error) := fun _ =>
    Yields.bind fun _ => Yields.ret rfl
  have hretry : ∀ err, Yields (· = false) (retryOrSettle r err) := by
    intro err
    refine Yields.bind fun _ => ?_
    split
    · exact hsettle _
    · exact Yields.bind fun _ => Yields.ret rfl
  simp only [NothingToBuild, not_or, Bool.not_eq_true, Option.isSome_eq_false_iff] at h
  obtain ⟨hunbuilt, himage, htarget⟩ := h
  have hunsettled : ∀ {b}, buildToDo replica r = b →
      b ≠ .settled ∧ b ≠ .noImage ∧ b ≠ .noTarget := by
    intro b hb
    obtain ⟨image, himage⟩ := Option.ne_none_iff_exists'.mp himage
    obtain ⟨target, htarget⟩ := Option.ne_none_iff_exists'.mp htarget
    rw [← hb]
    unfold buildToDo
    rw [if_neg (by simpa using hunbuilt), himage, htarget]
    dsimp only
    split
    · simp
    split
    · simp
    split
    · simp
    split <;> simp
  unfold reconcileSchemaBuild
  split
  all_goals rename_i hbuild
  · exact absurd rfl (hunsettled hbuild).2.2
  · exact hsettle _
  · exact hsettle _
  · exact hsettle _
  · exact absurd rfl (hunsettled hbuild).1
  · exact absurd rfl (hunsettled hbuild).2.1
  refine Yields.bind fun job => ?_
  cases job with
  | none =>
    refine Yields.bind fun _ => Yields.bind fun discovered => ?_
    cases discovered with
    | error err => exact hretry err
    | ok _ =>
    refine Yields.bind fun secret => ?_
    cases secret with
    | error err => exact hretry err
    | ok _ =>
    refine Yields.bind fun w => ?_
    split
    · exact Yields.ret rfl
    · exact Yields.bind fun _ => Yields.ret rfl
  | some job =>
    dsimp only
    split
    · exact Yields.ret rfl
    split
    · exact Yields.ret rfl
    · exact finishBuild_defers
    · refine Yields.bind fun _ => Yields.bind fun _ => Yields.bind fun _ => ?_
      exact Yields.bind fun _ => Yields.bind fun _ => Yields.ret rfl

/-- **Only a restore with nothing to build is let through by the build gate.** -/
theorem nothingToBuild_of_opens (hgate : c.gate = .build) (h : c.opens ctx p = true) :
    NothingToBuild c.restore := by
  by_contra hbuild
  have hdefers : Yields (· = false) (reconcileSchemaBuild ctx p c.replica c.restore) :=
    reconcileSchemaBuild_defers hbuild
  unfold GateCall.opens GateCall.program at h
  rw [hgate] at h
  dsimp only at h
  split at h
  · rename_i w' hrun
    cases hdefers _ _ _ _ hrun
  · cases h

/-- A best-effort call the pass survives is done. -/
theorem bestEffort_of_survived {c : Call} {f : World → World} (hf : ∀ job ∈ (f w).jobs, job ∈ w.jobs)
    (h : (ρ c).survived = true) :
    ∃ b w', Prog.bestEffort (Prog.call c f) ρ w = .done b w' ∧ ∀ job ∈ w'.jobs, job ∈ w.jobs := by
  unfold Prog.bestEffort Prog.call
  cases hr : ρ c with
  | ok => exact ⟨true, f w, rfl, hf⟩
  | refused e => exact ⟨false, w, rfl, fun _ h => h⟩
  | lost e => exact ⟨false, f w, rfl, hf⟩
  | cut => simp [hr, Reply.survived] at h
  | cutAfter => simp [hr, Reply.survived] at h

/-- **The Job that has succeeded is followed to the end again**: the marker is written once more. -/
theorem followMigrationJob_staysOpen {replica : Replica} {r : Restore} {job : Job}
    (hsucceeded : classifyJob job = .succeeded)
    (hpublished : isPartialCallback w.schemaMigrationResults = true →
      (ρ (.publishEvent "SchemaMigrationPartial")).survived = true)
    (hpatched : (ρ .migrationPatchPhase).isOk = true)
    (hdeleted : (ρ .migrationDeleteJob).survived = true) :
    ∃ w', followMigrationJob ctx p replica r job ρ w = .done true w' ∧ ∀ j ∈ w'.jobs, j ∈ w.jobs := by
  have hpublish : ∀ w₁ : World, ∃ w₂ : World,
      Prog.when (isPartialCallback w.schemaMigrationResults) (Op.publishEvent "SchemaMigrationPartial")
        ρ w₁ = .done () w₂ ∧ ∀ j ∈ w₂.jobs, j ∈ w₁.jobs := by
    intro w₁
    by_cases hpart : isPartialCallback w.schemaMigrationResults = true
    · obtain ⟨b, w₂, hrun, hjobs⟩ := bestEffort_of_survived (f := id) (w := w₁) (fun _ h => h)
        (hpublished hpart)
      rw [hpart]
      exact ⟨w₂, bind_of_done hrun, hjobs⟩
    · rw [Bool.not_eq_true] at hpart
      rw [hpart]
      exact ⟨w₁, rfl, fun _ h => h⟩
  obtain ⟨w₂, hpublish, hjobs⟩ := hpublish
    { w.log (.migrationJobSucceeded job.uid) with schemaMigrationResults := none }
  obtain ⟨b, w₃, hdelete, hkept⟩ := bestEffort_of_survived (f := World.deleteJob .schemaMigration)
    (w := w₂.patchStatus fun s =>
      { s with
        schemaMigrationJob := none
        schemaMigrationPhase :=
          some (if isPartialCallback w.schemaMigrationResults then .partly else .complete) })
    (fun _ hj => List.mem_of_mem_filter hj) hdeleted
  refine ⟨w₃, ?_, fun j hj => hjobs j (hkept j hj)⟩
  unfold followMigrationJob
  rw [hsucceeded]
  apply (bind_of_done (m := Prog.modify _) rfl).trans
  apply (bind_of_done (m := takeMigrationResult) rfl).trans
  apply (bind_of_done hpublish).trans
  apply (bind_of_done (call_of_ok hpatched)).trans
  exact bind_of_done hdelete

/-- **The migration goes by the marker Complete**, or by the Job it finds. -/
theorem migration_staysOpen (hgate : c.gate = .migration)
    (hschemas : c.replica.spec.persistentSchemas.isSome = true) (h : c.startsOver p = false) :
    c.StaysOpen ctx p := by
  have hprogram : c.program ctx p =
      reconcileSchemaMigration ctx p c.replica c.restore c.active := by
    unfold GateCall.program
    rw [hgate]
  obtain ⟨schemas, hschemas⟩ := Option.isSome_iff_exists.mp hschemas
  unfold GateCall.StaysOpen
  rw [hprogram]
  unfold reconcileSchemaMigration
  rw [hschemas]
  unfold GateCall.startsOver at h
  cases hactive : c.active with
  | none => exact ⟨⟨c.world, rfl, fun _ h => h⟩, Avoids.ret _⟩
  | some old =>
    rw [hactive, Option.isSome_some, Bool.true_and] at h
    dsimp only
    by_cases hempty : schemas = []
    · rw [if_pos hempty]
      rw [hschemas, hempty, if_pos rfl, Bool.not_eq_false'] at h
      refine ⟨⟨_, bind_of_done (call_of_ok h), fun _ h => h⟩, ?_⟩
      exact Avoids.bind (Avoids.call _ (by simp)) fun _ _ _ => Avoids.ret _
    rw [if_neg hempty]
    by_cases hcomplete : c.replica.status.schemaMigrationPhase = some .complete
    · rw [if_pos hcomplete]
      exact ⟨⟨c.world, rfl, fun _ h => h⟩, Avoids.ret _⟩
    rw [if_neg hcomplete]
    have hsees : seesSucceeded p c.world = true := by
      simpa [hschemas, hempty, hcomplete] using h
    simp only [seesSucceeded, Bool.and_eq_true, Bool.or_eq_true, Bool.not_eq_true'] at hsees
    obtain ⟨⟨⟨⟨hget, hjob⟩, hpublished⟩, hpatched⟩, hdeleted⟩ := hsees
    obtain ⟨job, hjob, hsucceeded⟩ := (Option.any_eq_true _ _).mp hjob
    have hread : Op.getJob .migrationGetJob .schemaMigration p.replies c.world =
        .done (some job) c.world := by
      rw [← hjob]
      exact read_of_ok hget
    have hsucceeded := of_decide_eq_true hsucceeded
    constructor
    · have hpublishes : isPartialCallback c.world.schemaMigrationResults = true →
          (p.replies (.publishEvent "SchemaMigrationPartial")).survived = true :=
        fun hpart => hpublished.resolve_left (by simp [hpart])
      obtain ⟨w', hrun, hjobs⟩ := followMigrationJob_staysOpen hsucceeded hpublishes hpatched hdeleted
      exact ⟨w', (bind_of_done hread).trans hrun, hjobs⟩
    · refine Avoids.bind (Avoids.read _ (by simp)) fun found w₁ hfound => ?_
      obtain ⟨rfl, rfl⟩ := Outcome.done.inj (hread.symm.trans hfound)
      dsimp only
      unfold followMigrationJob
      rw [hsucceeded]
      refine Avoids.bind (Avoids.modify _) fun _ _ _ => Avoids.bind (fun _ _ => rfl) fun callback _ _ => ?_
      refine Avoids.bind (Avoids.when fun _ => ?_) fun _ _ _ => ?_
      · exact Avoids.bind (Avoids.bestEffort (avoids_touch (by simp))) fun _ _ _ => Avoids.ret _
      refine Avoids.bind (Avoids.call _ (by simp)) fun _ _ _ => ?_
      exact Avoids.bind (Avoids.bestEffort (Avoids.call _ (by simp))) fun _ _ _ => Avoids.ret _

end Settled

/-! ## The restores that were let through -/

/-- **What is true of a restore that gates have let through**: it is Switching or Active, those in `left` are
    not Switching any more, and the build gate found nothing to build. -/
def LetThrough (passed : List (Gate × Nat)) (left : Nat → Prop) (r : Restore) : Prop :=
  ∀ g, (g, r.uid) ∈ passed →
    (r.status.phase = some .switching ∨ r.status.phase = some .active) ∧
      (left r.uid → r.status.phase ≠ some .switching) ∧ (g = .build → NothingToBuild r)

/-- Switching leads to Active, and Active nowhere. -/
theorem LetThrough.writes {passed : List (Gate × Nat)} {left : Nat → Prop} {r : Restore}
    {s : RestoreStatus} (h : LetThrough passed left r) (hs : r.Writes s) :
    LetThrough passed left { r with status := s } := by
  intro g hg
  obtain ⟨hphase, hleft, hbuild⟩ := h g hg
  have hsame : s.phase = r.status.phase ∨ s.phase = some .active := by
    rcases hs.edge with hsame | hallowed
    · exact .inl hsame
    · refine .inr ?_
      have hedge : isEdge r.status.phase s.phase = true := hallowed.edge
      rcases hphase with hphase | hphase
      · rw [hphase] at hedge
        cases hto : s.phase with
        | none => simp [hto, isEdge] at hedge
        | some ph =>
          cases ph with
          | active => rfl
          | _ => simp [hto, isEdge] at hedge
      · exact absurd hphase hallowed.unsettled.1
  refine ⟨?_, ?_, ?_⟩
  · show s.phase = _ ∨ s.phase = _
    rcases hsame with hsame | hactive
    · rw [hsame]
      exact hphase
    · exact .inr hactive
  · intro hl
    show s.phase ≠ _
    rcases hsame with hsame | hactive
    · rw [hsame]
      exact hleft hl
    · simp [hactive]
  · intro hg
    rcases hbuild hg with hbuilt | himage | htarget
    · exact .inl (hs.built hbuilt)
    · exact .inr (.inl himage)
    · exact .inr (.inr htarget)

/-- **The restores that gates have let through are what they were.** -/
structure Through (passed : List (Gate × Nat)) (left : Nat → Prop) (w : World) : Prop where
  phases : PhasesSound w
  restores : ∀ r ∈ w.restores, LetThrough passed left r
  used : ∀ g uid, (g, uid) ∈ passed → uid < w.nextUid

namespace Through

variable {passed : List (Gate × Nat)} {left : Nat → Prop} {w : World}

theorem frame (h : Through passed left w) {w' : World} (hrestores : w'.restores = w.restores)
    (hlog : w'.phaseChanges = w.phaseChanges) (huid : w.nextUid ≤ w'.nextUid) :
    Through passed left w' where
  phases := h.phases.frame hrestores hlog huid
  restores := by
    rw [hrestores]
    exact h.restores
  used := fun g uid hg => (h.used g uid hg).trans_le huid

theorem patch (h : Through passed left w) {name : String} {f : RestoreStatus → RestoreStatus}
    (hf : ∀ r ∈ w.restores, r.name = name → r.Writes (f r.status)) :
    Through passed left (w.patchRestore name f) where
  phases := h.phases.patch hf
  restores := by
    intro r hr
    rcases mem_patchRestore hr with ⟨hr, _⟩ | ⟨s, hs, hname, rfl⟩
    · exact h.restores r hr
    · exact (h.restores s hs).writes (hf s hs hname)
  used := h.used

end Through

/-- **What was let through is kept through the lives of the restores.** -/
theorem lifelong_through (passed : List (Gate × Nat)) (left : Nat → Prop) :
    Lifelong (Through passed left) where
  about :=
    { frame := fun hsame h => h.frame hsame.restores hsame.phaseChanges hsame.nextUid
      patch := fun hf h => h.patch fun r hr _ => (hf r.status).writes (h.phases.restores r hr) }
  wellFormed := fun h => h.phases.wellFormed
  created := fun h hr => lifelong_phasesSound.created h.phases hr
  target := fun h hr => lifelong_phasesSound.target h.phases hr
  patch := fun hf h => h.patch fun r hr hname => (hf r hr hname).1
  delete := by
    intro w name h
    exact ⟨h.phases.delete name, fun r hr => h.restores r (List.mem_of_mem_filter hr), h.used⟩
  insert := by
    intro w position mk huid hstatus hname h
    refine ⟨h.phases.insert huid hstatus hname, ?_, fun g uid hg => (h.used g uid hg).trans_le (Nat.le_succ _)⟩
    intro r hr
    rcases mem_insertRestore hr with rfl | hr
    · -- no gate has seen it
      intro g hg
      exact absurd (huid ▸ h.used g _ hg) (lt_irrefl _)
    · exact h.restores r hr
  request := by
    intro w g hg h
    refine ⟨lifelong_phasesSound.request g hg h.phases, ?_, h.used⟩
    intro r hr
    obtain ⟨s, hs, rfl⟩ := List.mem_map.mp hr
    obtain ⟨huid, _, hspec, hstatus⟩ := hg s
    unfold LetThrough NothingToBuild
    rw [huid, hspec, hstatus]
    exact h.restores s hs
  mark := fun _ _ h => h.frame rfl rfl le_rfl

theorem Through.step {passed : List (Gate × Nat)} {left : Nat → Prop} {w : World}
    (h : Through passed left w) (ctx : Context) (e : Event) : Through passed left (step ctx w e) := by
  have hlifelong := lifelong_through passed left
  refine hlifelong.step ctx (fun _ h => h.frame rfl rfl le_rfl) (fun _ p r _ _ => ?_) h
  exact hlifelong.failKeeps (fun hf h => h.patch hf) (fun _ _ _ _ h => h.frame rfl rfl le_rfl) _ p r

/-! ## The marker of the redaction -/

section Marker

variable {ctx : Context} {p : ReplicaPass} {w : World} {ρ : Call → Reply Error}

/-- The replica says that its redaction is done. -/
def MarkerDone (w : World) : Prop := (control w).redactionDone = true

theorem aboutMarker : AboutRestores MarkerDone where
  frame := by
    intro w w' hsame h
    have hdone : w.replica.status.redactionPhase.any RedactionPhase.isDone = true := h
    rw [← hsame.redaction] at hdone
    exact hdone
  patch := fun _ h => h

/-- No build writes the marker. -/
theorem leads_schemaBuild {replica : Replica} {r : Restore} :
    Leads ρ MarkerDone MarkerDone MarkerDone (reconcileSchemaBuild ctx p replica r) :=
  Leads.of_keeps ((aboutMarker.build r).reconcileSchemaBuild ctx p replica) fun _ h => h

/-- With the marker done the redaction gate writes none. -/
theorem keeps_redactionGate {replica : Replica} {r : Restore}
    (hdone : replica.status.redactionPhase.any RedactionPhase.isDone = true) :
    Keeps MarkerDone (redactionGate p replica r) := by
  unfold redactionGate reconcileRedactionStep
  rw [if_pos hdone]
  split
  · exact Keeps.ret _
  · exact Keeps.ret _

theorem keeps_switchover {replica : Replica} {r : Restore} {active : Option Restore} (open_ : Bool) :
    Keeps MarkerDone (if !open_ then (return some ⟨30⟩ : Op (Option Action))
      else do
        let action ← switchover p replica r active
        return some action) := by
  split
  · exact Keeps.ret _
  refine Keeps.bind ?_ fun _ => Keeps.ret _
  refine Keeps.bind (Keeps.call fun _ h => h) fun _ => Keeps.bind (Keeps.call fun _ h => h) fun _ => ?_
  refine Keeps.bind (Keeps.call fun _ h => h) fun _ => Leads.keeps (Q := MarkerDone) fun ρ => ?_
  exact aboutMarker.records.recordSwitchover aboutMarker.records.toSteady (fun _ h => h) _ _ _ _
    (aboutMarker.record _) ρ

/-- What holds up to the list of the restores. -/
def SwitchingMarked (w : World) : Prop :=
  MarkerDone w ∧ ∃ r ∈ w.restores, r.inPhase .switching = true

theorem aboutSwitchingMarked : AboutRestores SwitchingMarked where
  frame := by
    intro w w' hsame h
    refine ⟨aboutMarker.frame hsame h.1, ?_⟩
    rw [hsame.restores]
    exact h.2
  patch := by
    intro w name f hf h
    obtain ⟨hdone, r, hr, hphase⟩ := h
    refine ⟨hdone, _, List.mem_map_of_mem hr, ?_⟩
    split
    · simpa only [Restore.inPhase, (hf r.status).phase] using hphase
    · exact hphase

/-- **A marker that is done stays done in a pass that finds a restore Switching.** -/
theorem MarkerDone.reconcile {r : Restore} (h : MarkerDone w)
    (hr : switchingRestore w.restores = some r) : MarkerDone (reconcile ctx p ρ w).state := by
  have hlist : Leads ρ SwitchingMarked MarkerDone MarkerDone (do
      let restores ← (Prog.read .listRestores fun w => w.restores : Op (List Restore))
      reconcileRestores ctx p w.replica restores) := by
    refine Leads.read_bind (fun restores => Leads.of_state ?_ fun _ h => h) fun _ h => h.1
    rintro w' ⟨⟨hdone, s, hs, hphase⟩, rfl⟩
    have hsome : (switchingRestore w'.restores).isSome = true := List.find?_isSome.mpr ⟨s, hs, hphase⟩
    obtain ⟨t, ht⟩ := Option.isSome_iff_exists.mp hsome
    rw [reconcileRestores_state ht]
    unfold reconcileSwitchover
    rw [ht]
    refine Keeps.bind ?_ keeps_switchover ρ w' hdone
    refine Leads.keeps (Q := MarkerDone) fun ρ => ?_
    exact aboutMarker.records.switchoverGates aboutMarker.records.toSteady (fun _ h => h) (fun _ h => h)
      _ _ _ _ _ (keeps_redactionGate h) leads_schemaBuild
  have hpass : Leads ρ SwitchingMarked MarkerDone MarkerDone
      (Prog.unlessReturned (validateCredentials p w.replica) (do
        ensureObjects w.replica
        let restores ← (Prog.read .listRestores fun w => w.restores : Op (List Restore))
        reconcileRestores ctx p w.replica restores)) := by
    refine Leads.keeps_bind (aboutSwitchingMarked.records.validateCredentials _ _) (fun _ h => h.1) ?_
    intro returned
    cases returned with
    | some action => exact Leads.ret (fun _ h => h.1) fun _ h => h.1
    | none =>
      refine Leads.keeps_bind (aboutSwitchingMarked.records.ensureObjects _) (fun _ h => h.1) ?_
      exact fun _ => hlist
  have hphase : r.inPhase .switching = true := by
    simpa using List.find?_some hr
  exact (hpass w ⟨h, r, List.mem_of_find?_eq_some hr, hphase⟩).2

/-- A redaction that lets a restore through is marked done. -/
theorem markerDone_of_opens {replica : Replica} {r : Restore} {w' : World}
    (h : reconcileRedactionStep p replica r ρ w = .done true w') :
    replica.status.redactionPhase.any RedactionPhase.isDone = true ∨ MarkerDone w' := by
  unfold reconcileRedactionStep at h
  split at h
  · rename_i hdone
    exact .inl hdone
  refine .inr ?_
  obtain ⟨_, w₁, _, hrest⟩ := bind_eq_done h
  obtain ⟨result, w₂, _, hrest⟩ := bind_eq_done hrest
  cases result with
  | error e =>
    obtain ⟨_, w₃, _, hrest⟩ := bind_eq_done hrest
    obtain ⟨_, w₄, _, hreturn⟩ := bind_eq_done hrest
    cases hreturn
  | ok outcome =>
    obtain ⟨version, outcome⟩ := outcome
    obtain ⟨_, w₃, hpatch, hreturn⟩ := bind_eq_done hrest
    obtain rfl := call_eq_done hpatch
    obtain ⟨_, rfl⟩ := Outcome.done.inj hreturn
    show (some outcome.phase).any RedactionPhase.isDone = true
    unfold RedactionOutcome.phase
    split <;> rfl

/-- **A pass whose redaction lets its restore through leaves the marker done.** -/
theorem markerDone_of_call {c : GateCall} (hc : c ∈ gateCalls ctx p w) (hgate : c.gate = .redaction)
    (hopens : c.opens ctx p = true) : MarkerDone (reconcile ctx p p.replies w).state := by
  obtain ⟨hreplica, hr, _, hredaction, _⟩ := called_of_mem hc
  obtain ⟨hsome, hread⟩ := hredaction hgate
  unfold GateCall.opens GateCall.program at hopens
  rw [hgate, hreplica] at hopens
  dsimp only at hopens
  split at hopens
  swap
  · cases hopens
  rename_i w₂ hrun
  rcases markerDone_of_opens hrun with hdone | hdone
  · exact MarkerDone.reconcile hdone hr
  rw [reconcile_of_read hread, reconcileRestores_state hr]
  unfold reconcileSwitchover
  rw [hr]
  apply Keeps.state_bind keeps_switchover
  have hgate : redactionGate p w.replica c.restore p.replies c.world = .done true w₂ := by
    unfold redactionGate
    rw [if_pos hsome]
    exact hrun
  have hgates : switchoverGates ctx p w.replica c.restore (activeRestore w.restores) p.replies c.world =
      _ := bind_of_done hgate
  rw [hgates]
  exact (aboutMarker.records.laterGates aboutMarker.records.toSteady (fun _ h => h) (fun _ h => h) _ _ _ _ _
    leads_schemaBuild w₂ hdone).2

/-- The marker is written by the passes of the replica controller alone. -/
theorem redaction_of_acts {e : Event} {a : Control} (he : ∀ p, e ≠ .replicaPass p)
    (h : ReflTransGen (Act ctx w e) (control w) a) : a.redaction = (control w).redaction := by
  induction h with
  | refl => rfl
  | tail _ h ih =>
    refine Eq.trans ?_ ih
    cases h with
    | @replica _ _ p => exact absurd rfl (he p)
    | restore _ h => cases h <;> rfl
    | _ => rfl

/-- **A marker that is done stays done while a restore is Switching**, whatever happens. -/
theorem MarkerDone.step {e : Event} {r : Restore} (h : MarkerDone w)
    (hr : switchingRestore w.restores = some r) : MarkerDone (step ctx w e) := by
  by_cases he : ∃ p, e = .replicaPass p
  · obtain ⟨p, rfl⟩ := he
    simp only [RestoreOperator.step]
    split
    · exact h
    · exact aboutMarker.records.after (h.reconcile hr)
  · have hsame := redaction_of_acts (fun p hp => he ⟨p, hp⟩) (step_acts ctx w e)
    unfold MarkerDone Control.redactionDone at h ⊢
    rw [hsame]
    exact h

end Marker

/-! ## Every run -/

namespace Gated

variable {ctx : Context} {s : Gated} {e : Event}

/-- **What the gates have let through is recorded**: on the restores, and for the redaction on the replica. -/
structure Sound (s : Gated) : Prop where
  through : Through s.passed (fun _ => False) s.world
  marked : ∀ r ∈ s.world.restores, (.redaction, r.uid) ∈ s.passed →
    r.status.phase = some .switching → MarkerDone s.world

/-- What is let through is the restore that is Switching, by a gate it was called for. -/
theorem of_mem_letThrough {w : World} {g : Gate} {uid : Nat} (h : (g, uid) ∈ letThrough ctx w e) :
    ∃ p c, e = .replicaPass p ∧ w.replicaDeleted = false ∧ c ∈ gateCalls ctx p w ∧
      c.opens ctx p = true ∧ c.gate = g ∧ c.restore.uid = uid ∧
      switchingRestore w.restores = some c.restore := by
  unfold letThrough at h
  split at h
  · rename_i p
    split at h
    · cases h
    · rename_i hthere
      obtain ⟨c, hc, hsame⟩ := List.mem_map.mp h
      obtain ⟨hcall, hopens⟩ := List.mem_filter.mp hc
      obtain ⟨hgate, huid⟩ := Prod.mk.inj hsame
      exact ⟨p, c, rfl, Bool.not_eq_true _ ▸ hthere, hcall, hopens, hgate, huid,
        (called_of_mem hcall).restore⟩
  · cases h

/-- Before the step, what it lets through is as it will be. -/
theorem Sound.ahead (h : s.Sound) (e : Event) :
    Through (letThrough ctx s.world e ++ s.passed)
      (fun uid => ∀ r ∈ s.world.restores, r.uid = uid → r.status.phase ≠ some .switching) s.world where
  phases := h.through.phases
  restores := by
    intro r hr g hg
    rcases List.mem_append.mp hg with hnew | hold
    · obtain ⟨p, c, _, _, _, hopens, rfl, huid, hswitching⟩ := of_mem_letThrough hnew
      obtain rfl := eq_of_uid h.through.phases.wellFormed (List.mem_of_find?_eq_some hswitching) hr huid
      have hphase : c.restore.status.phase = some .switching := by
        simpa [Restore.inPhase] using List.find?_some hswitching
      exact ⟨.inl hphase, fun hleft => hleft c.restore hr rfl,
        fun hgate => nothingToBuild_of_opens hgate hopens⟩
    · obtain ⟨hphase, _, hbuild⟩ := h.through.restores r hr g hold
      exact ⟨hphase, fun hleft => hleft r hr rfl, hbuild⟩
  used := by
    intro g uid hg
    rcases List.mem_append.mp hg with hnew | hold
    · obtain ⟨p, c, _, _, _, _, _, rfl, hswitching⟩ := of_mem_letThrough hnew
      exact (wellFormed_control.mp h.through.phases.wellFormed).2.2 _
        (List.mem_of_find?_eq_some hswitching)
    · exact h.through.used g uid hold

/-- **A step records what its gates let through.** -/
theorem Sound.step (h : s.Sound) (e : Event) : (gatedStep ctx s e).Sound := by
  have hbefore : Through (letThrough ctx s.world e ++ s.passed) _ s.world := h.ahead e
  have hahead := hbefore.step ctx e
  refine ⟨⟨hahead.phases, ?_, hahead.used⟩, ?_⟩
  · intro r hr g hg
    obtain ⟨hphase, _, hbuild⟩ := hahead.restores r hr g hg
    exact ⟨hphase, False.elim, hbuild⟩
  intro r hr hg hphase
  -- a restore that is Switching now was Switching before
  obtain ⟨t, ht, huid, hwas⟩ : ∃ t ∈ s.world.restores, t.uid = r.uid ∧
      t.status.phase = some .switching := by
    by_contra hnone
    refine (hahead.restores r hr _ hg).2.1 ?_ hphase
    intro t ht huid hwas
    exact hnone ⟨t, ht, huid, hwas⟩
  rcases List.mem_append.mp hg with hnew | hold
  · obtain ⟨p, c, rfl, hthere, hcall, hopens, hgate, _, _⟩ := of_mem_letThrough hnew
    show MarkerDone (RestoreOperator.step ctx s.world (.replicaPass p))
    simp only [RestoreOperator.step, hthere]
    exact aboutMarker.records.after (markerDone_of_call hcall hgate hopens)
  · have hsome : (switchingRestore s.world.restores).isSome = true :=
      List.find?_isSome.mpr ⟨t, ht, by simpa [Restore.inPhase] using hwas⟩
    obtain ⟨u, hu⟩ := Option.isSome_iff_exists.mp hsome
    exact (h.marked t ht (huid ▸ hold) hwas).step hu

/-- **The gates that have let a restore through let it through again**, unless its migration does not know
    that it is done. -/
theorem Sound.stayOpen (hC : reopens ctx s e = false) (h : s.Sound) : StayOpen ctx s e := by
  cases e with
  | replicaPass p =>
    intro hthere c hc hpassed
    obtain ⟨hreplica, hswitching, _, _, hschemas⟩ := called_of_mem hc
    have hmem := List.mem_of_find?_eq_some hswitching
    cases hgate : c.gate with
    | redaction =>
      apply redaction_staysOpen hgate
      rw [hreplica]
      apply h.marked c.restore hmem (hgate ▸ hpassed)
      simpa [Restore.inPhase] using List.find?_some hswitching
    | migration =>
      apply migration_staysOpen hgate (hreplica ▸ hschemas hgate)
      rw [hgate] at hpassed
      simp only [reopens, hthere, Bool.not_false, Bool.true_and, List.any_eq_false] at hC
      simpa [hgate, hpassed] using hC c hc
    | build =>
      apply build_staysOpen hgate
      exact (h.through.restores c.restore hmem .build (hgate ▸ hpassed)).2.2 rfl
  | _ => trivial

end Gated

/-- **A gate that has let a restore through lets it through again and does no more**, in every run in which no
    migration that let its restore through is called again without knowing that it is done. -/
theorem gates_stay_open {ctx : Context} (key : ReplicaKey) (spec : ReplicaSpec) {es : List Event}
    (hes : Meets (gatedStep ctx) (fun s e => reopens ctx s e = false)
      { world := World.initial key spec } es) :
    Meets (gatedStep ctx) (StayOpen ctx) { world := World.initial key spec } es := by
  have hinitial : Gated.Sound { world := World.initial key spec } := by
    refine ⟨⟨phasesSound_initial key spec, ?_, ?_⟩, ?_⟩
    · intro r hr
      cases hr
    · intro g uid hg
      cases hg
    · intro r hr
      cases hr
  exact Meets.of_invariant (I := Gated.Sound) (fun _ e _ h => h.step e) (fun _ _ hC h => h.stayOpen hC)
    hinitial hes

/-! ## A migration that was partial -/

/-- The pod of the restore cannot be labelled. -/
def podUnmarked : Call → Reply Error
  | .markPodReady => .refused (.kube "timeout")
  | _ => .ok

/-- A second restore is migrated and let through by every gate, and the switchover fails at its first
    write. -/
def switchoverFailed (result : String) : List Event :=
  listSnapshots 0 "a" ++ bringUp "r-10" 20 ++ [.replicaPass { now := 30 }] ++
    listSnapshots 4000 "b" ++ bringUp "r-4010" 4020 ++
    [.replicaPass { now := 4030, sourceSchemas := ["reports"] },
      .jobReported .schemaMigration { succeeded := some 1 }, .migrationPosted result,
      .replicaPass { now := 4050, replies := podUnmarked }]

/-- The pass that comes back finds the schemas on the source, and on the restore they were copied to. -/
def nextPass : ReplicaPass :=
  { now := 4060, sourceSchemas := ["reports"], targetSchemas := ["reports"] }

theorem complete_migration_stays_open :
    (gateCalls .hourly nextPass (runFrom (gatedStep .hourly)
        { world := World.initial ⟨"ns", "r"⟩ persistentSpec } (switchoverFailed "done")).world).map
      GateCall.gate = [.migration, .build] ∧
    Meets (gatedStep .hourly) (StayOpen .hourly) { world := World.initial ⟨"ns", "r"⟩ persistentSpec }
      (switchoverFailed "done" ++ [.replicaPass nextPass]) :=
  ⟨by decide +kernel, gates_stay_open ⟨"ns", "r"⟩ persistentSpec (by decide +kernel)⟩

/-- **A migration that was partial is done over**: the gate that let the restore through holds it back again,
    behind a second Job. -/
theorem partial_migration_starts_over :
    ¬ Meets (gatedStep .hourly) (StayOpen .hourly) { world := World.initial ⟨"ns", "r"⟩ persistentSpec }
        (switchoverFailed "partial: one view" ++ [.replicaPass nextPass]) ∧
      (run .hourly (World.initial ⟨"ns", "r"⟩ persistentSpec)
        (switchoverFailed "partial: one view" ++ [.replicaPass nextPass])).history.take 3 =
          [.migrationJobCreated 7 4, .migrationJobSucceeded 6, .migrationJobCreated 6 4] := by
  refine ⟨?_, by decide +kernel⟩
  intro h
  have hlast := (meets_append.mp h).2.1 (by decide +kernel)
  have hshut : (gateCalls .hourly nextPass (runFrom (gatedStep .hourly)
      { world := World.initial ⟨"ns", "r"⟩ persistentSpec } (switchoverFailed "partial: one view")).world).any
      (fun c => (c.gate, c.restore.uid) ∈ (runFrom (gatedStep .hourly)
        { world := World.initial ⟨"ns", "r"⟩ persistentSpec } (switchoverFailed "partial: one view")).passed &&
        !c.opens .hourly nextPass) = true := by decide +kernel
  obtain ⟨c, hc, hshut⟩ := List.any_eq_true.mp hshut
  simp only [Bool.and_eq_true, decide_eq_true_eq, Bool.not_eq_true'] at hshut
  obtain ⟨⟨w', hrun, _⟩, _⟩ := hlast c hc hshut.1
  have hopens : c.opens .hourly nextPass = true := by
    unfold GateCall.opens
    rw [hrun]
  rw [hshut.2] at hopens
  cases hopens

end RestoreOperator
