import RestoreOperator.Calls.Log
import RestoreOperator.System.Invariants

/-!
# `Correctness.Redaction` — the redaction marker belongs to the switching restore

`status.redactionPhase` lives on the replica while redaction is owed by each restore.  A marker that
reads done lets *any* switching restore through, so what has to hold is that a done marker was
recorded for the restore that is switching.  That is kept by every act but one: a restore that enters
Switching while the marker of an earlier cycle still reads done.
-/

namespace RestoreOperator

open Calls Relation

variable {ctx : Context}

/-- **The marker in force is another restore's**: a restore enters Switching while the redaction of an
    earlier one is still recorded as done, or while another one is switching. -/
def redactionMarkerStale (w : World) (e : Event) : Bool :=
  entersSwitching w e &&
    (w.replica.status.redactionPhase.any RedactionPhase.isDone ||
      (switchingRestore w.restores).isSome)

/-- What the log says of a restore that is made live: it was redacted before. -/
def RedactedFirst (e : Entry) (past : List Entry) : Prop :=
  ∀ u, (e = .selectorMoved u ∨ ∃ b, e = .activated u b) → .redacted u ∈ past

/-- **The invariant**: at most one restore is switching, a done marker is the switching restore's, and
    every restore made live was redacted first. -/
structure MarkerFresh (a : Control) : Prop where
  wellFormed : WellFormed a
  unique : ∀ s ∈ a.slots, ∀ t ∈ a.slots, s.phase = some .switching → t.phase = some .switching →
    s = t
  covered : a.redactionDone = true → ∀ s ∈ a.slots, s.phase = some .switching →
    .redacted s.uid ∈ a.history
  logged : Logged RedactedFirst a.history

namespace MarkerFresh

variable {a a' : Control}

/-- An act that lets no restore into Switching and sets no marker keeps the invariant. -/
theorem of_noneEnters (h : MarkerFresh a) (hwf : WellFormed a') (hslots : NoneEnters .switching a a')
    (hdone : a'.redactionDone = true → a.redactionDone = true) (hhistory : a.history <:+ a'.history)
    (hlogged : Logged RedactedFirst a'.history) : MarkerFresh a' := by
  refine ⟨hwf, ?_, ?_, hlogged⟩
  · intro s hs t ht hps hpt
    exact h.unique s (hslots s hs hps) t (hslots t ht hpt) hps hpt
  · intro hd s hs hps
    exact hhistory.subset (h.covered (hdone hd) s (hslots s hs hps) hps)

/-- The gates let only a redacted restore through. -/
theorem redacted_of_gates {w₀ : World} {r : Restore} (h : MarkerFresh a)
    (hgates : GatesPassed w₀ r a) (hspec : w₀.replica.spec.redaction.isSome = true) :
    .redacted r.uid ∈ a.history := by
  obtain ⟨hmem, hphase⟩ := switching_slot hgates.switching
  rw [← hgates.slots] at hmem
  exact h.covered (hgates.redacted hspec) r.slot hmem hphase

end MarkerFresh

/-- The log after an entry that makes no restore live. -/
theorem redactedFirst_other {e : Entry} {past : List Entry} (h : Logged RedactedFirst past)
    (hs : ∀ u, e ≠ .selectorMoved u) (ha : ∀ u b, e ≠ .activated u b) :
    Logged RedactedFirst (e :: past) := by
  apply h.cons
  intro u hu
  rcases hu with hu | ⟨b, hu⟩
  · exact absurd hu (hs u)
  · exact absurd hu (ha u b)

/-- The log after an entry that makes a redacted restore live. -/
theorem redactedFirst_live {e : Entry} {past : List Entry} {u : Nat}
    (h : Logged RedactedFirst past) (he : e = .selectorMoved u ∨ ∃ b, e = .activated u b)
    (hu : .redacted u ∈ past) : Logged RedactedFirst (e :: past) := by
  apply h.cons
  intro v hv
  rcases he with rfl | ⟨b, rfl⟩ <;> rcases hv with hv | ⟨b', hv⟩ <;> cases hv <;> exact hu

/-- The acts of the replica controller keep the invariant. -/
theorem ReplicaAct.markerFresh {p : ReplicaPass} {w₀ : World} {a a' : Control}
    (h : ReplicaAct ctx p w₀ a a') (hspec : w₀.replica.spec.redaction.isSome = true)
    (h₀ : MarkerFresh (control w₀)) (ha : MarkerFresh a) : MarkerFresh a' := by
  have hwf := h.wellFormed ha.wellFormed
  have hslots := h.noneSwitches
  have hhistory := h.history
  cases h with
  | redactionMarked ph hph =>
    refine ha.of_noneEnters hwf hslots ?_ hhistory ha.logged
    intro hd
    simp [Control.redactionDone, hph] at hd
  | @redactionSettled r ph hr hslots₀ hhead =>
    -- the one restore that is switching is the one just redacted
    obtain ⟨hmem, hphase⟩ := switching_slot hr
    refine ⟨hwf, ha.unique, ?_, ha.logged⟩
    intro _ s hs hps
    have hs₀ : s ∈ (control w₀).slots := hslots₀ ▸ hs
    rw [h₀.unique s hs₀ r.slot hmem hps hphase]
    exact List.mem_of_head? hhead
  | selectorMoved hgates =>
    refine ha.of_noneEnters hwf hslots (fun hd => hd) hhistory ?_
    exact redactedFirst_live ha.logged (.inl rfl) (ha.redacted_of_gates hgates hspec)
  | activated hgates =>
    refine ha.of_noneEnters hwf hslots (fun hd => hd) hhistory ?_
    exact redactedFirst_live ha.logged (.inr ⟨_, rfl⟩) (ha.redacted_of_gates hgates hspec)
  | switchedOver hgates =>
    refine ha.of_noneEnters hwf hslots (fun hd => hd) hhistory ?_
    exact redactedFirst_live ha.logged (.inr ⟨_, rfl⟩) (ha.redacted_of_gates hgates hspec)
  | switchedOverReported hgates =>
    refine ha.of_noneEnters hwf hslots (fun hd => hd) hhistory ?_
    exact redactedFirst_other
      (redactedFirst_live ha.logged (.inr ⟨_, rfl⟩) (ha.redacted_of_gates hgates hspec))
      (by simp) (by simp)
  | sweepCleared =>
    exact ha.of_noneEnters hwf hslots (fun hd => by simp [Control.redactionDone] at hd) hhistory
      ha.logged
  | redacted =>
    exact ha.of_noneEnters hwf hslots (fun hd => hd) hhistory
      (redactedFirst_other ha.logged (by simp) (by simp))
  | migrationSettled _ he =>
    exact ha.of_noneEnters hwf hslots (fun hd => hd) hhistory
      (redactedFirst_other ha.logged (by cases he <;> simp) (by cases he <;> simp))
  | _ =>
    first
    | exact ha.of_noneEnters hwf hslots (fun hd => hd) hhistory ha.logged
    | exact ha.of_noneEnters hwf hslots (fun hd => hd) hhistory
        (redactedFirst_other ha.logged (by simp) (by simp))

/-- The acts of the restore controller keep the invariant, unless the marker is another's. -/
theorem RestoreAct.markerFresh {p : RestorePass} {w₀ : World} {r : Restore} {a a' : Control}
    (h : RestoreAct p w₀ r a a')
    (hstale : readyToSwitch w₀ r = true →
      (control w₀).redactionDone = false ∧ switchingRestore w₀.restores = none)
    (honly : OnlyRestore w₀ r a) (ha : MarkerFresh a) : MarkerFresh a' := by
  have hwf := h.wellFormed ha.wellFormed
  have hhistory := h.history
  rcases h.gates_cases with ⟨hr, rfl⟩ | hleft
  -- the marker is not done when a restore enters Switching, so there is nothing to cover
  · obtain ⟨hdone, hnone⟩ := hstale hr
    have hself := honly.onlySwitching hnone
    refine ⟨hwf, ?_, ?_, ?_⟩
    · intro s hs t ht hps hpt
      exact hwf.eq_of_name hs ht ((hself s hs hps).trans (hself t ht hpt).symm)
    · intro hd
      have hsame : a.redactionDone = true := hd
      unfold Control.redactionDone at hsame hdone
      rw [honly.redaction, hdone] at hsame
      cases hsame
    · exact redactedFirst_other ha.logged (by simp) (by simp)
  · refine ha.of_noneEnters hwf hleft.slots ?_ hhistory ?_
    · intro hd
      unfold Control.redactionDone at hd ⊢
      rw [← hleft.redaction]
      exact hd
    · rcases hleft.log with hsame | ⟨e, hcons, he⟩
      · rw [hsame]
        exact ha.logged
      · rw [hcons]
        apply redactedFirst_other ha.logged
        · rintro u rfl
          cases he
        · rintro u b rfl
          cases he

/-- **Every act keeps the invariant** in a step that meets the condition. -/
theorem Act.markerFresh {w₀ : World} {e : Event} {a a' : Control}
    (hspec : w₀.replica.spec.redaction.isSome = true) (hfresh : redactionMarkerStale w₀ e = false)
    (h₀ : MarkerFresh (control w₀)) (hreach : ReflTransGen (Act ctx w₀ e) (control w₀) a)
    (ha : MarkerFresh a) (h : Act ctx w₀ e a a') : MarkerFresh a' := by
  have hwf := h.wellFormed ha.wellFormed
  cases h with
  | replica h => exact h.markerFresh hspec h₀ ha
  | restore hr h =>
    refine h.markerFresh ?_ (onlyRestore_of_acts h₀.wellFormed hr hreach) ha
    intro hready
    simp only [redactionMarkerStale, entersSwitching, hr, Option.any_some, hready, Bool.true_and,
      Bool.or_eq_false_iff] at hfresh
    exact ⟨hfresh.1, by simpa using hfresh.2⟩
  | restoreDeleted name =>
    exact ha.of_noneEnters hwf (.drop rfl) (fun hd => hd) List.suffix_rfl ha.logged
  | _ => exact ha.of_noneEnters hwf (.of_eq rfl) (fun hd => hd) List.suffix_rfl ha.logged

theorem markerFresh_initial (key : ReplicaKey) (spec : ReplicaSpec) :
    MarkerFresh (control (World.initial key spec)) := by
  refine ⟨wellFormed_initial key spec, ?_, ?_, trivial⟩
  · intro s hs
    simp [control, World.initial] at hs
  · intro _ s hs
    simp [control, World.initial] at hs

/-- **Every restore made live was redacted**: one the Service is pointed at, or that is marked Active,
    had its own redaction return `Ok` before. -/
def LiveRestoresRedacted (w : World) : Prop :=
  ∀ later e past u, w.history = later ++ e :: past →
    (e = .selectorMoved u ∨ ∃ b, e = .activated u b) → .redacted u ∈ past

theorem LiveRestoresRedacted.redacted {w : World} (h : LiveRestoresRedacted w) {u : Nat} {b : Bool}
    (hu : .activated u b ∈ w.history) : .redacted u ∈ w.history := by
  obtain ⟨later, past, hsplit⟩ := List.append_of_mem hu
  rw [hsplit]
  exact List.mem_append_right _ (List.mem_cons_of_mem _ (h later _ past u hsplit (.inr ⟨b, rfl⟩)))

/-- **A done marker is the switching restore's**: the gate it opens was opened by redacting that very
    restore. -/
def DoneMarkerOwned (w : World) : Prop :=
  w.replica.status.redactionPhase.any RedactionPhase.isDone = true →
    ∀ r, switchingRestore w.restores = some r → .redacted r.uid ∈ w.history

/-- **Redaction comes first.**  In every run of a replica that redacts throughout, in which no restore
    enters Switching under another's marker, every restore made live was redacted, and a done marker is
    always the switching restore's. -/
theorem live_restores_are_redacted (key : ReplicaKey) (spec : ReplicaSpec) (es : List Event)
    (hes : Meets (step ctx)
      (fun w e => w.replica.spec.redaction.isSome = true ∧ redactionMarkerStale w e = false)
      (World.initial key spec) es) :
    LiveRestoresRedacted (run ctx (World.initial key spec) es) ∧
      DoneMarkerOwned (run ctx (World.initial key spec) es) := by
  have hinv : MarkerFresh (control (run ctx (World.initial key spec) es)) :=
    run_keeps (I := MarkerFresh)
      (fun w e a a' hC h₀ hreach ha hact => hact.markerFresh hC.1 hC.2 h₀ hreach ha)
      (markerFresh_initial key spec) hes
  refine ⟨?_, ?_⟩
  · intro later e past u hsplit hlive
    exact hinv.logged.at hsplit u hlive
  · intro hdone r hr
    obtain ⟨hmem, hphase⟩ := switching_slot hr
    exact hinv.covered hdone r.slot hmem hphase

/-! ## A first and a second cycle -/

/-- A replica that redacts. -/
def redactingSpec : ReplicaSpec :=
  { kopiaSecretRef := some "kopia", schedule := "H", redaction := some { manifestUrl := "manifest" } }

/-- The first restore is listed, brought up, redacted and made live. -/
def redactedCycle : List Event :=
  listSnapshots 0 "a" ++ bringUp "r-10" 20 ++ [.replicaPass { now := 30 }]

/-- The second one follows before the first is swept, under the marker of the first. -/
def secondCycle : List Event :=
  listSnapshots 4000 "b" ++ bringUp "r-4010" 4020 ++ [.replicaPass { now := 4030 }]

theorem first_restore_is_redacted :
    (.activated 1 false ∈ (run .hourly (World.initial ⟨"ns", "r"⟩ redactingSpec) redactedCycle).history) ∧
      LiveRestoresRedacted (run .hourly (World.initial ⟨"ns", "r"⟩ redactingSpec) redactedCycle) ∧
      DoneMarkerOwned (run .hourly (World.initial ⟨"ns", "r"⟩ redactingSpec) redactedCycle) :=
  ⟨by decide +kernel,
    live_restores_are_redacted ⟨"ns", "r"⟩ redactingSpec redactedCycle (by decide +kernel)⟩

/-- The marker of the first restore lets the second through: it goes live and was never redacted. -/
theorem second_restore_is_not_redacted :
    Meets (step .hourly) (fun w _ => w.replica.spec.redaction.isSome = true)
        (World.initial ⟨"ns", "r"⟩ redactingSpec) (redactedCycle ++ secondCycle) ∧
      ¬ LiveRestoresRedacted
        (run .hourly (World.initial ⟨"ns", "r"⟩ redactingSpec) (redactedCycle ++ secondCycle)) := by
  refine ⟨by decide +kernel, ?_⟩
  intro h
  have hredacted := h.redacted (u := 4) (b := true) (by decide +kernel)
  revert hredacted
  decide +kernel

end RestoreOperator
