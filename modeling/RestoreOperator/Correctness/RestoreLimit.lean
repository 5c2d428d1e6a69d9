import RestoreOperator.Correctness.PhaseMachine

/-!
# `Correctness.RestoreLimit` — how many restores a replica may have

The operator lists the restores of the replica again before it creates one, and counts those that have not
failed.  That one check bounds the live restores for good: every other write of a phase leaves a failed
restore failed, and the rest is deletions.
-/

namespace RestoreOperator

open Calls Calls.Prog

/-- **The replica has no more live restores than it may.** -/
def WithinLimit (w : World) : Prop :=
  (liveRestores w.restores).length ≤ maxRestoresPerReplica

/-- A change of the restores that revives none of them. -/
theorem liveRestores_map_le {restores : List Restore} {g : Restore → Restore}
    (hg : ∀ r ∈ restores, r.inPhase .failed = true → (g r).inPhase .failed = true) :
    (liveRestores (restores.map g)).length ≤ (liveRestores restores).length := by
  simp only [liveRestores, ← List.countP_eq_length_filter, List.countP_map]
  apply List.countP_mono_left
  intro r hr hlive
  simp only [Function.comp_apply, Bool.not_eq_true'] at hlive ⊢
  by_contra hfailed
  have hstill := hg r hr (Bool.not_eq_false _ ▸ hfailed)
  rw [hlive] at hstill
  cases hstill

/-- Failed leads nowhere. -/
theorem Restore.Writes.inPhase_failed {r : Restore} {s : RestoreStatus} (h : r.Writes s)
    (hfailed : r.inPhase .failed = true) : ({ r with status := s } : Restore).inPhase .failed = true := by
  simp only [Restore.inPhase, beq_iff_eq] at hfailed ⊢
  rcases h.edge with hsame | hallowed
  · exact hsame.trans hfailed
  · exact absurd hfailed hallowed.unsettled.2

/-- One restore more. -/
theorem liveRestores_insert_le (position : Nat) (mk : Nat → Restore) (w : World) :
    (liveRestores (insertRestore position mk w).restores).length ≤
      (liveRestores w.restores).length + 1 := by
  have hsplit : (liveRestores w.restores).length =
      (liveRestores (w.restores.take position)).length +
        (liveRestores (w.restores.drop position)).length := by
    rw [← List.length_append]
    simp only [liveRestores]
    rw [← List.filter_append, List.take_append_drop]
  simp only [insertRestore, liveRestores, List.filter_append, List.length_append] at hsplit ⊢
  rw [List.filter_cons]
  split
  · rw [List.length_cons]
    omega
  · omega

/-- **The limit is kept through the lives of the restores.** -/
theorem beside_withinLimit : Beside WithinLimit where
  frame := by
    intro w w' hsame h
    rw [WithinLimit, hsame.restores]
    exact h
  patch := by
    intro w name f _ hf h
    refine (liveRestores_map_le fun r hr hfailed => ?_).trans h
    split
    · rename_i hname
      exact (hf r hr hname).1.inPhase_failed hfailed
    · exact hfailed
  count := fun _ _ _ _ h => h
  reported := fun h _ => h
  status := fun _ _ h => h
  delete := by
    intro w name h
    exact ((List.filter_sublist.filter _).length_le).trans h
  insert := by
    intro w position mk _ _ hroom _
    have hmore := liveRestores_insert_le position mk w
    unfold WithinLimit
    omega
  request := by
    intro w g hg h
    refine (liveRestores_map_le fun r _ hfailed => ?_).trans h
    rw [Restore.inPhase, (hg r).2.2.2]
    exact hfailed

/-- No record matters to the limit. -/
theorem aboutRestores_withinLimit : AboutRestores fun w => PhasesSound w ∧ WithinLimit w where
  frame := by
    intro w w' hsame h
    refine ⟨lifelong_phasesSound.about.frame hsame h.1, ?_⟩
    rw [WithinLimit, hsame.restores]
    exact h.2
  patch := by
    intro w name f hf h
    refine ⟨lifelong_phasesSound.about.patch hf h.1, (liveRestores_map_le fun r _ hfailed => ?_).trans h.2⟩
    split
    · simpa only [Restore.inPhase, (hf r.status).phase] using hfailed
    · exact hfailed

/-- **A replica never has more live restores than it may**, whatever their phases, in any run. -/
theorem live_restores_within_limit {ctx : Context} (key : ReplicaKey) (spec : ReplicaSpec)
    (es : List Event) : WithinLimit (run ctx (World.initial key spec) es) := by
  have hkept : ∀ w e, PhasesSound w ∧ WithinLimit w →
      PhasesSound (step ctx w e) ∧ WithinLimit (step ctx w e) := by
    intro w e h
    refine beside_withinLimit.robust.step_about aboutRestores_withinLimit ctx ?_ ?_ h
    · exact fun _ h => ⟨h.1.frame rfl rfl le_rfl, h.2⟩
    · exact fun _ p r _ _ => beside_withinLimit.failKeeps _ p r
  have hinitial : PhasesSound (World.initial key spec) ∧ WithinLimit (World.initial key spec) :=
    ⟨phasesSound_initial key spec, Nat.zero_le _⟩
  exact (run_invariant (C := fun _ _ => True) (fun w e _ => hkept w e) hinitial
    (meets_of_forall (fun _ _ => trivial) _ _)).2

end RestoreOperator
