import RestoreOperator.System.ReplicaPass
import RestoreOperator.System.RestorePass

/-!
# `System.Acts` — every step of a run is acts

What the abstract state becomes under an event is reached by acts of that event (`step_acts`), so an
invariant of a run has to be checked once for each act.  The first such invariant is the one all
others lean on: names and identities tell the restores apart.
-/

namespace RestoreOperator

open Calls Relation

/-! ## Steps -/

theorem control_restart (w : World) :
    control w.restart = { control w with queue := {}, results := none } := rfl

theorem job_reportJob (k : JobKey) (report : JobReport) (w : World) (k' : JobKey) :
    (w.reportJob k report).job k' = (w.job k').map fun j =>
      if j.key = k ∧ classifyJob j = .active then { j with report := some report } else j := by
  unfold World.job World.reportJob
  apply find?_map_of_key
  intro j
  split <;> rfl

theorem control_reportJob (k : JobKey) (report : JobReport) (w : World) :
    control (w.reportJob k report) =
      { control w with snapshotJob := (control w).snapshotJob.map fun j =>
          if j.key = k ∧ classifyJob j = .active then { j with report := some report } else j } := by
  simp only [control, job_reportJob, Option.map_map]
  congr 1
  congr 1
  funext j
  by_cases h : j.key = k ∧ classifyJob j = .active
  · simp only [Function.comp_apply, if_pos h]
  · simp only [Function.comp_apply, if_neg h]

/-- A program whose end is an event: what it leaves behind is reached, and if it was cut the
    operator's memory goes. -/
theorem after_acts {α : Type} {ctx : Context} {w : World} {e : Event}
    {outcome : Outcome World Error α}
    (hreach : ReflTransGen (Act ctx w e) (control w) (control outcome.state))
    (hends : outcome.isHalted = true → endsOperator ctx w e = true) :
    ReflTransGen (Act ctx w e) (control w) (control (World.after outcome)) := by
  cases outcome with
  | done a w' => exact hreach
  | failed err w' => exact hreach
  | halted w' =>
    apply hreach.tail
    show Act ctx w e (control w') (control w'.restart)
    rw [control_restart]
    exact .forgotten (hends rfl)

/-- **Every step is acts.** -/
theorem step_acts (ctx : Context) (w : World) (e : Event) :
    ReflTransGen (Act ctx w e) (control w) (control (step ctx w e)) := by
  cases e with
  | replicaPass p =>
    cases hdeleted : w.replicaDeleted with
    | true =>
      have hstep : step ctx w (.replicaPass p) = w := by simp only [step, hdeleted, if_true]
      rw [hstep]
    | false =>
      have hstep : step ctx w (.replicaPass p) = World.after (reconcile ctx p p.replies w) := by
        simp [step, hdeleted]
      rw [hstep]
      refine after_acts ?_ fun h => by simp [endsOperator, hdeleted, h]
      exact ReflTransGen.mono (fun _ _ h => Act.replica h) _ _ (reconcile_moves ctx p w).reaches
  | restorePass name p =>
    cases hr : w.restores.find? (fun r => r.name == name) with
    | none =>
      have hstep : step ctx w (.restorePass name p) = w := by simp only [step, hr]
      rw [hstep]
    | some r =>
      have hstep : step ctx w (.restorePass name p) =
          World.after (reconcileRestore ctx p r p.replies w) := by simp only [step, hr]
      rw [hstep]
      refine after_acts ?_ fun h => by simp only [endsOperator, hr, h]
      exact ReflTransGen.mono (fun _ _ h => Act.restore hr h) _ _
        (reconcileRestore_drives ctx p r w).reaches
  | restart => exact .single (.forgotten rfl)
  | jobReported k report =>
    show ReflTransGen _ _ (control (w.reportJob k report))
    rw [control_reportJob]
    exact .single (.jobReported k report)
  | jobRemoved k =>
    show ReflTransGen _ _ (control (w.deleteJob k))
    rw [control_deleteJob]
    exact .single (.jobRemoved k)
  | snapshotsPosted body => exact .single (.snapshotsPosted body)
  | migrationPosted body => exact .refl
  | schemaPosted sql => exact .refl
  | restoreDeleted name =>
    show ReflTransGen _ _ (control (w.deleteRestore name))
    rw [control_deleteRestore]
    exact .single (.restoreDeleted name)
  | deletionRequested name =>
    have hslots : (control (step ctx w (.deletionRequested name))).slots = (control w).slots := by
      simp only [control, step, List.map_map]
      apply List.map_congr_left
      intro r _
      by_cases h : r.name = name <;> simp [h, Restore.slot]
    have hsame : control (step ctx w (.deletionRequested name)) =
        { control w with slots := (control (step ctx w (.deletionRequested name))).slots } := rfl
    rw [hsame, hslots]
  | replicaDeleted => exact .refl
  | snapshotDesired id => exact .refl
  | specChanged spec => exact .refl
  | limitChanged max => exact .single (.limitChanged max)
  | podsChanged pods => exact .refl
  | deploymentReported name ready => exact .refl
  | deploymentRemoved name => exact .refl
  | queueChanged queue => exact .single (.queueChanged queue)

/-- **The rule for invariants of the abstract state**: what every act preserves, in a run whose steps
    meet a condition, holds at its end. -/
theorem run_keeps {ctx : Context} {C : World → Event → Prop} {I : Control → Prop}
    (hact : ∀ w e a a', C w e → I (control w) → ReflTransGen (Act ctx w e) (control w) a → I a →
      Act ctx w e a a' → I a') {w : World} {es : List Event} (h : I (control w)) (hes : Meets (step ctx) C w es) :
    I (control (run ctx w es)) :=
  invariant_of_acts (R := Act ctx) (step_acts ctx) hact h hes

end RestoreOperator
