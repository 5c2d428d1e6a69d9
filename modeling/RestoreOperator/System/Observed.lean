import RestoreOperator.Calls.Avoids
import RestoreOperator.System.Control

/-!
# `System.Observed` — what the operations on a world do to its abstract state

One equation for each operation, and the pieces of a reconcile that the abstract state does not see.
-/

namespace RestoreOperator

open Calls Calls.Prog

/-! ## Lookups -/

section Lookup

variable {α β : Type} [BEq β] {key : α → β} {f : α → α} {k : β}

/-- A key is found again after a change that leaves the keys alone. -/
theorem find?_map_of_key (hkey : ∀ a, key (f a) = key a) (xs : List α) :
    (xs.map f).find? (fun a => key a == k) = (xs.find? fun a => key a == k).map f := by
  have hsame : ((fun a => key a == k) ∘ f) = fun a => key a == k := by
    funext a
    rw [Function.comp_apply, hkey]
  rw [List.find?_map, hsame]

/-- What has the key is changed, and keeps it. -/
theorem find?_map_at [LawfulBEq β] [DecidableEq β] (hkey : ∀ a, key a = k → key (f a) = k) (xs : List α) :
    (xs.map fun a => if key a = k then f a else a).find? (fun a => key a == k) =
      (xs.find? fun a => key a == k).map f := by
  rw [find?_map_of_key]
  · cases ha : xs.find? fun a => key a == k with
    | none => rfl
    | some a =>
      have hk : key a = k := beq_iff_eq.mp (List.find?_some (p := fun a => key a == k) ha)
      rw [Option.map_some, if_pos hk, Option.map_some]
  · intro a
    split
    · rename_i hk
      rw [hkey a hk, hk]
    · rfl

end Lookup

/-! ## Operations on the world -/

@[simp] theorem control_log (e : Entry) (w : World) : control (w.log e) = (control w).log e := rfl

theorem control_applyDeployment (d : Deployment) (w : World) :
    control (w.applyDeployment d) = control w := by
  unfold World.applyDeployment
  split <;> rfl

/-- A patch that leaves the phase alone is not seen. -/
theorem control_patchRestore_quiet {name : String} {f : RestoreStatus → RestoreStatus}
    (hf : ∀ s, (f s).phase = s.phase) (w : World) : control (w.patchRestore name f) = control w := by
  have hslot : ∀ r ∈ w.restores,
      (if r.name = name then { r with status := f r.status } else r).slot = r.slot := by
    intro r _
    split
    · simp [Restore.slot, hf]
    · rfl
  simp only [control, World.patchRestore, World.job, List.map_map]
  congr 1
  exact List.map_congr_left hslot

/-- A patch of the phase moves the restore to it. -/
theorem control_patchRestore_phase {name : String} {f : RestoreStatus → RestoreStatus}
    (ph : RestorePhase) (hf : ∀ s, (f s).phase = some ph) (w : World) :
    control (w.patchRestore name f) = (control w).setPhase name ph := by
  have hslot : ∀ r ∈ w.restores,
      (if r.name = name then { r with status := f r.status } else r).slot =
        if r.slot.name = name then { r.slot with phase := some ph } else r.slot := by
    intro r _
    by_cases h : r.name = name
    · simp [Restore.slot, hf, h]
    · simp [Restore.slot, h]
  simp only [control, World.patchRestore, World.job, Control.setPhase, List.map_map]
  congr 1
  exact List.map_congr_left hslot

theorem control_deleteRestore (name : String) (w : World) :
    control (w.deleteRestore name) = (control w).drop name := by
  simp only [control, World.deleteRestore, World.job, Control.drop, List.filter_map]
  rfl

theorem job_deleteJob (k k' : JobKey) (w : World) :
    (w.deleteJob k).job k' = if k = k' then none else w.job k' := by
  unfold World.job World.deleteJob
  rw [List.find?_filter]
  by_cases h : k = k'
  · subst h
    rw [if_pos rfl, List.find?_eq_none]
    intro j _
    by_cases hj : j.key = k <;> simp [hj]
  · rw [if_neg h]
    congr 1
    funext j
    by_cases hj : j.key = k'
    · simp [hj, Ne.symm h]
    · simp [hj]

theorem control_deleteJob (k : JobKey) (w : World) :
    control (w.deleteJob k) = (control w).dropJob k := by
  simp only [control, Control.dropJob, job_deleteJob]
  congr 1
  split <;> rfl

/-- The Job of a key after a Job was created. -/
theorem job_addJob (mk : Nat → Job) (entries : Nat → List Entry) (k : JobKey) (w : World) :
    (w.addJob mk entries).job k =
      match w.job k with
      | some j => some j
      | none => if (mk w.nextUid).key = k then some (mk w.nextUid) else none := by
  unfold World.job World.addJob
  rw [List.find?_append]
  cases w.jobs.find? (fun j => j.key == k) with
  | some j => rfl
  | none => by_cases h : (mk w.nextUid).key = k <;> simp [h]

/-- A Job of another kind only takes an identity. -/
theorem control_addJob_other {mk : Nat → Job} {w : World}
    (hm : (mk w.nextUid).key ≠ .schemaMigration) (hs : (mk w.nextUid).key ≠ .snapshotList) :
    control (w.addJob mk fun _ => []) = { control w with nextUid := w.nextUid + 1 } := by
  simp only [control, job_addJob, if_neg hm, if_neg hs]
  cases w.job .schemaMigration <;> cases w.job .snapshotList <;> rfl

/-- Where no Job has the name, creating one is a call. -/
theorem createJob_of_none {c : Call} {mk : Nat → Job} {entries : Nat → List Entry} {w : World}
    (hnone : w.job (mk w.nextUid).key = none) (ρ : Call → Reply Error) :
    Op.createJob c mk entries ρ w = Prog.call c (World.addJob mk entries) ρ w := by
  show (if (w.job (mk w.nextUid).key).isSome = true then (Prog.fail _ : Op Unit)
    else Prog.call c (World.addJob mk entries)) ρ w = _
  rw [if_neg (by simp [hnone])]

/-- Nothing but the supply of identities changed. -/
def OnlyUids (a a' : Control) : Prop := ∃ n, a' = { a with nextUid := n }

theorem OnlyUids.of_eq {a a' : Control} (h : a' = a) : OnlyUids a a' := ⟨a.nextUid, by rw [h]⟩

theorem dropJob_other {k : JobKey} {a : Control} (hm : k ≠ .schemaMigration)
    (hs : k ≠ .snapshotList) : a.dropJob k = a := by
  simp only [Control.dropJob, if_neg hm, if_neg hs]

/-- **A Job is created where no other has its name**, or the creation fails. -/
theorem createJob_along {τ : Type} {abs : World → τ} {R : τ → τ → Prop} {ρ : Call → Reply Error}
    {w : World} {c : Call} {mk : Nat → Job} {entries : Nat → List Entry} {Q : Unit → World → Prop}
    {E : Error → World → Prop} (hE : ∀ e, E e w)
    (hcall : w.job (mk w.nextUid).key = none →
      Along abs R ρ (Prog.call c (World.addJob mk entries)) Q E w) :
    Along abs R ρ (Op.createJob c mk entries) Q E w := by
  apply Along.get_bind
  split
  · exact Along.fail (hE _)
  · rename_i hfree
    exact hcall (by simpa using hfree)

/-- Creating a Job of another kind only takes an identity. -/
theorem createOtherJob_along {R : Control → Control → Prop} {ρ : Call → Reply Error} {w : World}
    {c : Call} {mk : Nat → Job} (hR : ∀ a : Control, R a { a with nextUid := a.nextUid + 1 })
    (hm : ∀ uid, (mk uid).key ≠ .schemaMigration) (hs : ∀ uid, (mk uid).key ≠ .snapshotList) :
    Along control R ρ (Op.createJob c mk) (fun _ w' => OnlyUids (control w) (control w'))
      (fun _ w' => OnlyUids (control w) (control w')) w := by
  have hadd := control_addJob_other (w := w) (hm w.nextUid) (hs w.nextUid)
  refine createJob_along (fun _ => .of_eq rfl) fun _ => ?_
  refine Along.call ?_ (fun _ => ⟨_, hadd⟩) (fun _ _ => .of_eq rfl) fun _ _ => ⟨_, hadd⟩
  rw [hadd]
  exact .single (hR _)

/-! ## Pieces that are not seen -/

/-- A call that changes nothing is not seen through any abstraction. -/
theorem quiet_touch {τ : Type} {abs : World → τ} (c : Call) : Quiet abs (Op.touch c) :=
  Quiet.call fun _ => rfl

theorem quiet_publishEvent (reason : String) : Quiet control (Op.publishEvent reason) :=
  Quiet.bind (Quiet.bestEffort (quiet_touch _)) fun _ => Quiet.ret _

theorem quiet_patchRestore {c : Call} {name : String} {f : RestoreStatus → RestoreStatus}
    (hf : ∀ s, (f s).phase = s.phase) : Quiet control (Op.patchRestore c name f) :=
  Quiet.call fun w => control_patchRestore_quiet hf w

theorem quiet_updateCondition (type status reason message : String) :
    Quiet control (Op.updateCondition type status reason message) :=
  Quiet.bind (Quiet.read _ _) fun _ => Quiet.call fun _ => rfl

theorem quiet_getReplica {τ : Type} {abs : World → τ} (c : Call) : Quiet abs (Op.getReplica c) := by
  apply Quiet.bind Quiet.get
  intro w
  split
  · exact Quiet.fail _
  · exact Quiet.read _ _

theorem quiet_getRestore {τ : Type} {abs : World → τ} (c : Call) (name : String) :
    Quiet abs (Op.getRestore c name) := by
  apply Quiet.bind (Quiet.read _ _)
  intro found
  cases found with
  | some r => exact Quiet.ret _
  | none => exact Quiet.fail _

theorem quiet_markPodReadyForTraffic (name : String) :
    Quiet control (markPodReadyForTraffic name) :=
  Quiet.call fun _ => rfl

/-! ## What a build records -/

/-- **A reading of the world that does not see what a build records.** -/
structure BesideBuilds {τ : Type} (abs : World → τ) : Prop where
  patch : ∀ {name : String} {f : RestoreStatus → RestoreStatus}, (∀ s, (f s).phase = s.phase) →
    ∀ w : World, abs (w.patchRestore name f) = abs w
  record : ∀ (e : Record) (w : World), abs (w.record e) = abs w

theorem besideBuilds_control : BesideBuilds control where
  patch := control_patchRestore_quiet
  record := fun _ _ => rfl

namespace BesideBuilds

variable {τ : Type} {abs : World → τ} (h : BesideBuilds abs) (restore : Restore)
include h

theorem recordSchemaBuild (job : Option String) (result : SchemaBuildResult) :
    Quiet abs (RestoreOperator.recordSchemaBuild restore job result) :=
  Quiet.call (h.patch fun _ => rfl)

theorem recordBuildAttempt (attempts : Int) :
    Quiet abs (RestoreOperator.recordBuildAttempt restore attempts) :=
  Quiet.call (h.patch fun _ => rfl)

theorem settleFailed (error : String) : Quiet abs (RestoreOperator.settleFailed restore error) :=
  Quiet.bind (h.recordSchemaBuild _ _ _) fun _ => Quiet.ret _

theorem failRound : Quiet abs (RestoreOperator.failRound restore) :=
  Quiet.modify (h.record _)

theorem retryOrSettle (err : Error) : Quiet abs (RestoreOperator.retryOrSettle restore err) := by
  apply Quiet.bind (h.failRound _)
  intro _
  split
  · exact h.settleFailed _ _
  · exact Quiet.bind (h.recordBuildAttempt _ _) fun _ => Quiet.ret _

theorem registerReportingSchema (ctx : Context) (p : ReplicaPass) :
    Quiet abs (RestoreOperator.registerReportingSchema ctx p restore) := by
  unfold RestoreOperator.registerReportingSchema
  split
  · refine Quiet.bind (Quiet.modify (h.record _)) fun _ => ?_
    exact Quiet.bind (Quiet.attempt (Quiet.ask _ _)) fun _ => Quiet.ret _
  · exact Quiet.ret _

end BesideBuilds

/-! ## Calls that are not made -/

section Avoids

variable {ρ : Call → Reply Error} {c c' : Call} {w : World}

theorem avoids_touch (h : c' ≠ c) : Avoids ρ c (Op.touch c') w :=
  Avoids.call _ h

theorem avoids_createJob {mk : Nat → Job} {entries : Nat → List Entry} (h : c' ≠ c) :
    Avoids ρ c (Op.createJob c' mk entries) w := by
  refine Avoids.bind Avoids.get fun u w' _ => ?_
  split
  · exact Avoids.fail _
  · exact Avoids.call _ h

theorem avoids_getReplica (h : c' ≠ c) : Avoids ρ c (Op.getReplica c') w := by
  refine Avoids.bind Avoids.get fun u w' _ => ?_
  split
  · exact Avoids.fail _
  · exact Avoids.read _ h

end Avoids

end RestoreOperator
