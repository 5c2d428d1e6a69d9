import RestoreOperator.Calls.Log
import RestoreOperator.System.Invariants

/-!
# `Correctness.Migration` — every switchover has its own schema migration

`status.schemaMigrationPhase` and the migration Job both live on the replica, under names that do not
tell which restore they belong to.  A switchover with a predecessor is preceded by a migration of its
own as long as neither is left over from an earlier cycle when a restore enters Switching.
-/

namespace RestoreOperator

open Calls Relation

variable {ctx : Context} {w₀ : World}

/-- **The migration in force is another restore's**: a restore enters Switching while the migration of
    an earlier one is still recorded as complete or its Job still exists, or while another one is
    switching. -/
def migrationMarkerStale (w : World) (e : Event) : Bool :=
  entersSwitching w e &&
    (w.replica.status.schemaMigrationPhase == some .complete || (w.job .schemaMigration).isSome ||
      (switchingRestore w.restores).isSome)

/-- **The replica has persistent schemas** to carry over. -/
def hasPersistentSchemas (w : World) : Bool :=
  w.replica.spec.persistentSchemas.any fun schemas => !schemas.isEmpty

/-- What the log holds since the restore entered Switching. -/
def SinceSwitching (u : Nat) (P : List Entry → Prop) (log : List Entry) : Prop :=
  ∃ since before, log = since ++ .enteredSwitching u :: before ∧ P since

/-- **The migration of a restore is settled**: a Job that targets it was created and came to its end,
    or the source has none of the schemas. -/
def Migrated (u : Nat) (since : List Entry) : Prop :=
  (∃ job, .migrationJobCreated job u ∈ since ∧
    (.migrationJobSucceeded job ∈ since ∨ .migrationJobTimedOut job ∈ since)) ∨
  .schemasMissing u ∈ since

theorem SinceSwitching.mono {u : Nat} {P P' : List Entry → Prop} {log log' : List Entry}
    (h : SinceSwitching u P log) (hlog : log <:+ log')
    (hP : ∀ since later, log' = later ++ log → P since → P' (later ++ since)) :
    SinceSwitching u P' log' := by
  obtain ⟨since, before, rfl, hsince⟩ := h
  obtain ⟨later, rfl⟩ := hlog
  exact ⟨later ++ since, before, by rw [List.append_assoc], hP since later rfl hsince⟩

theorem Migrated.append {u : Nat} {since : List Entry} (h : Migrated u since) (later : List Entry) :
    Migrated u (later ++ since) := by
  rcases h with ⟨job, hcreated, hended⟩ | hmissing
  · exact .inl ⟨job, List.mem_append_right _ hcreated,
      hended.imp (List.mem_append_right _) (List.mem_append_right _)⟩
  · exact .inr (List.mem_append_right _ hmissing)

/-- What the log says of a switchover with a predecessor: its restore was migrated before. -/
def MigratedFirst (e : Entry) (past : List Entry) : Prop :=
  ∀ u, e = .activated u true → SinceSwitching u (Migrated u) past

/-- **The invariant**: at most one restore is switching, and the Job and the marker in force are its
    own. -/
structure MigrationOwned (a : Control) : Prop where
  wellFormed : WellFormed a
  unique : ∀ s ∈ a.slots, ∀ t ∈ a.slots, s.phase = some .switching → t.phase = some .switching →
    s = t
  entered : ∀ s ∈ a.slots, s.phase = some .switching →
    SinceSwitching s.uid (fun _ => True) a.history
  job : ∀ s ∈ a.slots, s.phase = some .switching → ∀ job target,
    a.migrationJob = some (job, target) →
      target = s.uid ∧ SinceSwitching s.uid (.migrationJobCreated job s.uid ∈ ·) a.history
  complete : a.migration = some .complete → ∀ s ∈ a.slots, s.phase = some .switching →
    SinceSwitching s.uid (Migrated s.uid) a.history
  logged : Logged MigratedFirst a.history

namespace MigrationOwned

variable {a a' : Control}

/-- An act that lets no restore into Switching, creates no migration Job and completes no migration
    keeps the invariant. -/
theorem of_noneEnters (h : MigrationOwned a) (hwf : WellFormed a')
    (hslots : NoneEnters .switching a a')
    (hjob : a'.migrationJob = a.migrationJob ∨ a'.migrationJob = none)
    (hcomplete : a'.migration = some .complete → a.migration = some .complete)
    (hhistory : a.history <:+ a'.history) (hlogged : Logged MigratedFirst a'.history) :
    MigrationOwned a' := by
  refine ⟨hwf, ?_, ?_, ?_, ?_, hlogged⟩
  · intro s hs t ht hps hpt
    exact h.unique s (hslots s hs hps) t (hslots t ht hpt) hps hpt
  · intro s hs hps
    exact (h.entered s (hslots s hs hps) hps).mono hhistory fun _ _ _ _ => trivial
  · intro s hs hps job target hj
    rcases hjob with hsame | hnone
    · obtain ⟨htarget, hcreated⟩ := h.job s (hslots s hs hps) hps job target (hsame ▸ hj)
      exact ⟨htarget, hcreated.mono hhistory fun _ _ _ => List.mem_append_right _⟩
    · rw [hnone] at hj
      cases hj
  · intro hc s hs hps
    exact (h.complete (hcomplete hc) s (hslots s hs hps) hps).mono hhistory
      fun _ later _ hm => hm.append later

/-- A migration that was settled in a pass is the switching restore's. -/
theorem migrated_of_settled (h₀ : MigrationOwned (control w₀)) {r : Restore}
    (hr : switchingRestore w₀.restores = some r) (h : SettledInPass w₀ r a) :
    SinceSwitching r.uid (Migrated r.uid) a.history := by
  obtain ⟨e, l, he, hl, hmem⟩ := h
  obtain ⟨hslot, hphase⟩ := switching_slot hr
  have hgrows : w₀.history <:+ a.history := ⟨l, hl.symm⟩
  -- whatever was logged in the pass comes after the restore entered Switching
  have hlater : ∀ later, a.history = later ++ w₀.history → e ∈ later := by
    intro later hlater
    rw [hl] at hlater
    rw [← List.append_cancel_right hlater]
    exact hmem
  cases he with
  | @succeeded job target hjob =>
    obtain ⟨_, hcreated⟩ := h₀.job r.slot hslot hphase job target hjob
    exact hcreated.mono hgrows fun since later hsplit hc =>
      .inl ⟨job, List.mem_append_right _ hc, .inl (List.mem_append_left _ (hlater later hsplit))⟩
  | @timedOut job target hjob =>
    obtain ⟨_, hcreated⟩ := h₀.job r.slot hslot hphase job target hjob
    exact hcreated.mono hgrows fun since later hsplit hc =>
      .inl ⟨job, List.mem_append_right _ hc, .inr (List.mem_append_left _ (hlater later hsplit))⟩
  | missing =>
    exact (h₀.entered r.slot hslot hphase).mono hgrows fun since later hsplit _ =>
      .inr (List.mem_append_left _ (hlater later hsplit))

/-- The gates let a restore with a predecessor through only once it is migrated. -/
theorem migrated_of_gates (h₀ : MigrationOwned (control w₀)) {r : Restore}
    (hgates : GatesPassed w₀ r a) (hgrows : w₀.history <:+ a.history)
    (hspec : hasPersistentSchemas w₀ = true)
    (hactive : (activeRestore w₀.restores).isSome = true) :
    SinceSwitching r.uid (Migrated r.uid) a.history := by
  cases hgates.migrated with
  | notConfigured h => simp [hasPersistentSchemas, h] at hspec
  | noneConfigured h => simp [hasPersistentSchemas, h] at hspec
  | firstRestore h =>
    rw [h] at hactive
    cases hactive
  | markedComplete h =>
    obtain ⟨hslot, hphase⟩ := switching_slot hgates.switching
    exact (h₀.complete h r.slot hslot hphase).mono hgrows fun _ later _ hm => hm.append later
  | settled h => exact h₀.migrated_of_settled hgates.switching h

/-- The log after an entry that activates no restore. -/
theorem logged_cons (h : MigrationOwned a) {e : Entry} (he : ∀ u, e ≠ .activated u true) :
    Logged MigratedFirst (e :: a.history) :=
  h.logged.cons fun u hu => absurd hu (he u)

/-- The log after the switchover of a restore that is migrated if it has a predecessor. -/
theorem logged_activated (h : MigrationOwned a) {u : Nat} {predecessor : Bool}
    (hmigrated : predecessor = true → SinceSwitching u (Migrated u) a.history) :
    Logged MigratedFirst (.activated u predecessor :: a.history) :=
  h.logged.cons fun v hv => by
    obtain ⟨rfl, hpre⟩ := Entry.activated.inj hv
    exact hmigrated hpre

end MigrationOwned

/-- The acts of the replica controller keep the invariant. -/
theorem ReplicaAct.migrationOwned {p : ReplicaPass} {a a' : Control} (h : ReplicaAct ctx p w₀ a a')
    (hspec : hasPersistentSchemas w₀ = true)
    (h₀ : MigrationOwned (control w₀)) (hgrows : w₀.history <:+ a.history) (ha : MigrationOwned a) :
    MigrationOwned a' := by
  have hwf := h.wellFormed ha.wellFormed
  have hslots := h.noneSwitches
  have hhistory := h.history
  cases h with
  | migrationMarked ph hph =>
    refine ha.of_noneEnters hwf hslots (.inl rfl) ?_ hhistory ha.logged
    intro hc
    exact absurd (Option.some.inj hc) hph
  | migrationSettled _ he =>
    exact ha.of_noneEnters hwf hslots (.inl rfl) (fun hc => hc) hhistory
      (ha.logged_cons (by cases he <;> simp))
  | @migrationCompleted r hr hslots₀ hwhy =>
    -- the marker is set for the restore that switches, and there is only one
    refine ⟨hwf, ha.unique, ha.entered, ha.job, ?_, ha.logged⟩
    intro _ s hs hps
    obtain ⟨hmem, hphase⟩ := switching_slot hr
    obtain rfl : s = r.slot := h₀.unique s (hslots₀ ▸ hs) r.slot hmem hps hphase
    rcases hwhy with hempty | hsettled
    · simp [hasPersistentSchemas, hempty] at hspec
    · exact h₀.migrated_of_settled hr hsettled
  | migrationJobDeleted =>
    exact ha.of_noneEnters hwf hslots (.inr rfl) (fun hc => hc) hhistory ha.logged
  | @migrationJobCreated r hr hslots₀ hnone =>
    refine ⟨hwf, ha.unique, ?_, ?_, ?_, ha.logged_cons (by simp)⟩
    · intro s hs hps
      exact (ha.entered s hs hps).mono hhistory fun _ _ _ _ => trivial
    · intro s hs hps job target hj
      obtain ⟨hmem, hphase⟩ := switching_slot hr
      obtain rfl : s = r.slot := h₀.unique s (hslots₀ ▸ hs) r.slot hmem hps hphase
      obtain ⟨rfl, rfl⟩ := Prod.mk.inj (Option.some.inj hj)
      obtain ⟨since, before, hsplit, _⟩ := ha.entered r.slot hs hps
      refine ⟨rfl, .migrationJobCreated a.nextUid r.uid :: since, before, ?_, List.mem_cons_self⟩
      exact congrArg (Entry.migrationJobCreated a.nextUid r.uid :: ·) hsplit
    · intro hc s hs hps
      exact (ha.complete hc s hs hps).mono hhistory fun _ later _ hm => hm.append later
  | activated hgates =>
    exact ha.of_noneEnters hwf hslots (.inl rfl) (fun hc => hc) hhistory
      (ha.logged_activated (h₀.migrated_of_gates hgates hgrows hspec))
  | switchedOver hgates =>
    exact ha.of_noneEnters hwf hslots (.inl rfl) (fun hc => hc) hhistory
      (ha.logged_activated (h₀.migrated_of_gates hgates hgrows hspec))
  | switchedOverReported hgates =>
    refine ha.of_noneEnters hwf hslots (.inl rfl) (fun hc => hc) hhistory ?_
    exact (ha.logged_activated (h₀.migrated_of_gates hgates hgrows hspec)).cons
      fun u hu => by cases hu
  | sweepCleared =>
    exact ha.of_noneEnters hwf hslots (.inl rfl) (fun hc => by cases hc) hhistory ha.logged
  | _ =>
    first
    | exact ha.of_noneEnters hwf hslots (.inl rfl) (fun hc => hc) hhistory ha.logged
    | exact ha.of_noneEnters hwf hslots (.inl rfl) (fun hc => hc) hhistory
        (ha.logged_cons (by simp))

/-- The acts of the restore controller keep the invariant, unless the migration is another's. -/
theorem RestoreAct.migrationOwned {p : RestorePass} {r : Restore} {a a' : Control}
    (h : RestoreAct p w₀ r a a')
    (hstale : readyToSwitch w₀ r = true → (control w₀).migration ≠ some .complete ∧
      (control w₀).migrationJob = none ∧ switchingRestore w₀.restores = none)
    (honly : OnlyRestore w₀ r a) (ha : MigrationOwned a) : MigrationOwned a' := by
  have hwf := h.wellFormed ha.wellFormed
  have hhistory := h.history
  rcases h.gates_cases with ⟨hr, rfl⟩ | hleft
  -- the one act that lets a restore in: the condition says that nothing is left over then
  · obtain ⟨hmarker, hjob, hnone⟩ := hstale hr
    have hself := honly.onlySwitching hnone
    refine ⟨hwf, ?_, ?_, ?_, ?_, ha.logged_cons (by simp)⟩
    · intro s hs t ht hps hpt
      exact hwf.eq_of_name hs ht ((hself s hs hps).trans (hself t ht hpt).symm)
    · intro s hs hps
      rw [(honly.setPhase .switching).self s hs (hself s hs hps)]
      exact ⟨[], a.history, rfl, trivial⟩
    · intro s _ _ job target hj
      have hj' : a.migrationJob = some (job, target) := hj
      rw [honly.migrationJob hjob] at hj'
      cases hj'
    · intro hc
      exact absurd (honly.migration ▸ hc) hmarker
  · refine ha.of_noneEnters hwf hleft.slots hleft.migrationJob ?_ hhistory ?_
    · intro hc
      rw [← hleft.migration]
      exact hc
    · rcases hleft.log with hsame | ⟨e, hcons, he⟩
      · rw [hsame]
        exact ha.logged
      · rw [hcons]
        apply ha.logged_cons
        rintro u rfl
        cases he

/-- **Every act keeps the invariant** in a step that meets the condition. -/
theorem Act.migrationOwned {e : Event} {a a' : Control}
    (hspec : hasPersistentSchemas w₀ = true)
    (hfresh : migrationMarkerStale w₀ e = false) (h₀ : MigrationOwned (control w₀))
    (hreach : ReflTransGen (Act ctx w₀ e) (control w₀) a) (ha : MigrationOwned a)
    (h : Act ctx w₀ e a a') : MigrationOwned a' := by
  have hwf := h.wellFormed ha.wellFormed
  cases h with
  | replica h => exact h.migrationOwned hspec h₀ (history_of_acts hreach) ha
  | restore hr h =>
    refine h.migrationOwned ?_ (onlyRestore_of_acts h₀.wellFormed hr hreach) ha
    intro hready
    simp only [migrationMarkerStale, entersSwitching, hr, Option.any_some, hready, Bool.true_and,
      Bool.or_eq_false_iff] at hfresh
    obtain ⟨⟨hmarker, hjob⟩, hnone⟩ := hfresh
    refine ⟨fun hc => ?_, ?_, by simpa using hnone⟩
    · exact absurd (beq_iff_eq.mpr hc) (Bool.eq_false_iff.mp hmarker)
    · simpa [control] using hjob
  | restoreDeleted =>
    exact ha.of_noneEnters hwf (.drop rfl) (.inl rfl) (fun hc => hc) List.suffix_rfl ha.logged
  | jobRemoved k =>
    refine ha.of_noneEnters hwf (.of_eq rfl) ?_ (fun hc => hc) List.suffix_rfl ha.logged
    simp only [Control.dropJob]
    split
    · exact .inr rfl
    · exact .inl rfl
  | _ => exact ha.of_noneEnters hwf (.of_eq rfl) (.inl rfl) (fun hc => hc) List.suffix_rfl ha.logged

theorem migrationOwned_initial (key : ReplicaKey) (spec : ReplicaSpec) :
    MigrationOwned (control (World.initial key spec)) := by
  refine ⟨wellFormed_initial key spec, ?_, ?_, ?_, ?_, trivial⟩
  · intro s hs
    cases hs
  · intro s hs
    cases hs
  · intro s hs
    cases hs
  · intro _ s hs
    cases hs

/-- **Every switchover with an Active predecessor had its own migration**, settled since the switching
    restore entered Switching. -/
def SwitchoversMigrated (w : World) : Prop :=
  ∀ later u past, w.history = later ++ .activated u true :: past →
    SinceSwitching u (Migrated u) past

/-- **Migration comes first.**  In every run of a replica with persistent schemas, in which no restore
    enters Switching under another's migration, every switchover had its own. -/
theorem switchovers_are_migrated (key : ReplicaKey) (spec : ReplicaSpec) (es : List Event)
    (hes : Meets (step ctx)
      (fun w e => hasPersistentSchemas w = true ∧ migrationMarkerStale w e = false)
      (World.initial key spec) es) :
    SwitchoversMigrated (run ctx (World.initial key spec) es) := by
  have hinv : MigrationOwned (control (run ctx (World.initial key spec) es)) :=
    run_keeps (I := MigrationOwned)
      (fun _ _ _ _ hC h₀ hreach ha hact => hact.migrationOwned hC.1 hC.2 h₀ hreach ha)
      (migrationOwned_initial key spec) hes
  exact fun later u past hsplit => hinv.logged.at hsplit u rfl

/-! ## A second and a third cycle -/

/-- A replica that carries a schema over, and keeps its old restores for a day. -/
def persistentSpec : ReplicaSpec :=
  { kopiaSecretRef := some "kopia", schedule := "H", persistentSchemas := some ["reports"],
    switchoverGracePeriod := { secs := 86400 } }

/-- A second restore follows the first, and its migration Job succeeds. -/
def migratedCycles : List Event :=
  listSnapshots 0 "a" ++ bringUp "r-10" 20 ++ [.replicaPass { now := 30 }] ++
    listSnapshots 4000 "b" ++ bringUp "r-4010" 4020 ++
    [.replicaPass { now := 4030, sourceSchemas := ["reports"] },
      .jobReported .schemaMigration { succeeded := some 1 }, .replicaPass { now := 4050 }]

/-- A third one follows within the grace period, before the sweep has cleared the marker. -/
def thirdCycle : List Event :=
  listSnapshots 8000 "c" ++ bringUp "r-8010" 8020 ++
    [.replicaPass { now := 8030, sourceSchemas := ["reports"] }]

theorem second_restore_is_migrated :
    (.activated 4 true ∈
        (run .hourly (World.initial ⟨"ns", "r"⟩ persistentSpec) migratedCycles).history) ∧
      SwitchoversMigrated (run .hourly (World.initial ⟨"ns", "r"⟩ persistentSpec) migratedCycles) :=
  ⟨by decide +kernel,
    switchovers_are_migrated ⟨"ns", "r"⟩ persistentSpec migratedCycles (by decide +kernel)⟩

/-- An entry that a migration of the restore leaves behind. -/
def Entry.migrates (u : Nat) : Entry → Bool
  | .migrationJobCreated _ target => target == u
  | .schemasMissing v => v == u
  | _ => false

theorem SwitchoversMigrated.migrates {w : World} (h : SwitchoversMigrated w) {u : Nat}
    (hu : .activated u true ∈ w.history) : w.history.any (Entry.migrates u) = true := by
  obtain ⟨later, past, hsplit⟩ := List.append_of_mem hu
  obtain ⟨since, before, rfl, hmigrated⟩ := h later u past hsplit
  have hmem : ∀ e ∈ since, e ∈ w.history := by
    intro e he
    rw [hsplit]
    exact List.mem_append_right _ (List.mem_cons_of_mem _ (List.mem_append_left _ he))
  rcases hmigrated with ⟨job, hcreated, _⟩ | hmissing
  · exact List.any_eq_true.mpr ⟨_, hmem _ hcreated, beq_self_eq_true u⟩
  · exact List.any_eq_true.mpr ⟨_, hmem _ hmissing, beq_self_eq_true u⟩

/-- The marker of the second restore lets the third through: it goes live without a migration. -/
theorem third_restore_is_not_migrated :
    Meets (step .hourly) (fun w _ => hasPersistentSchemas w = true)
        (World.initial ⟨"ns", "r"⟩ persistentSpec) (migratedCycles ++ thirdCycle) ∧
      ¬ SwitchoversMigrated
        (run .hourly (World.initial ⟨"ns", "r"⟩ persistentSpec) (migratedCycles ++ thirdCycle)) := by
  refine ⟨by decide +kernel, ?_⟩
  intro h
  have hmigrates := h.migrates (u := 8) (by decide +kernel)
  revert hmigrates
  decide +kernel

end RestoreOperator
