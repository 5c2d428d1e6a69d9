import RestoreOperator.System.Invariants

/-!
# `Correctness.Sweep` — the sweep spares the restore the Service selects

Traffic follows the Service's selector while the sweep goes by `status.currentRestore`.  The two are
written apart, with two more writes between them, so they may part for good when a switchover ends
in between.  What protects the selected restore is that no *other* Active restore is the current one;
the single act that breaks this is a switchover that marks its restore Active and ends before it is
recorded, while the current restore is still Active.
-/

namespace RestoreOperator

open Calls Relation

variable {ctx : Context} {w₀ : World}

/-- **A switchover is torn**: its restore may be marked Active without being recorded as current,
    while the current one is Active too. -/
def tearsSwitchover (w : World) : Event → Bool
  | .replicaPass p =>
    (switchingRestore w.restores).isSome && tornSwitchover p.replies &&
      w.replica.status.currentRestore.any (hasMatchingCurrent · w.restores)
  | _ => false

/-- **The invariant**: a selected Active restore and a current Active restore are the same one, and
    what was swept was not selected. -/
structure SelectorCurrent (a : Control) : Prop where
  wellFormed : WellFormed a
  agree : ∀ s ∈ a.slots, ∀ t ∈ a.slots, s.phase = some .active → t.phase = some .active →
    a.selector = some s.name → a.current = some t.name → s.name = t.name
  spared : ∀ name selector, .swept name selector ∈ a.history → selector ≠ some name

namespace SelectorCurrent

variable {a a' : Control}

/-- An act that activates no restore and leaves the selector and the current restore alone keeps the
    invariant. -/
theorem of_noneEnters (h : SelectorCurrent a) (hwf : WellFormed a')
    (hslots : NoneEnters .active a a') (hselector : a'.selector = a.selector)
    (hcurrent : a'.current = a.current ∨ a'.current = none)
    (hspared : ∀ name selector, .swept name selector ∈ a'.history → selector ≠ some name) :
    SelectorCurrent a' := by
  refine ⟨hwf, ?_, hspared⟩
  intro s hs t ht hps hpt hsel hcur
  rw [hselector] at hsel
  rcases hcurrent with hsame | hnone
  · rw [hsame] at hcur
    exact h.agree s (hslots s hs hps) t (hslots t ht hpt) hps hpt hsel hcur
  · rw [hnone] at hcur
    cases hcur

/-- A restore that is not a sweep adds nothing to what was swept. -/
theorem spared_cons (h : SelectorCurrent a) {e : Entry} (he : ∀ name selector, e ≠ .swept name selector)
    (name : String) (selector : Option String) (hmem : .swept name selector ∈ e :: a.history) :
    selector ≠ some name := by
  rcases List.mem_cons.mp hmem with heq | hmem
  · exact absurd heq.symm (he name selector)
  · exact h.spared name selector hmem

/-- What the sweep deletes is not what the Service selects. -/
theorem not_selected (h : SelectorCurrent (control w₀)) {p : ReplicaPass} {name : String}
    (hname : name ∈ (sweepTargets p w₀.replica w₀.restores).map (·.name)) :
    w₀.serviceSelector ≠ some name := by
  intro hselector
  obtain ⟨r, hr, rfl⟩ := List.mem_map.mp hname
  unfold sweepTargets at hr
  split at hr
  · cases hr
  rename_i current hcurrent
  split at hr
  · rename_i hgates
    simp only [Bool.and_eq_true] at hgates
    obtain ⟨t, ht, htmatch⟩ := List.any_eq_true.mp hgates.1.2
    simp only [Bool.and_eq_true, beq_iff_eq] at htmatch
    -- the sweep runs only with the current restore Active, and a stale one is not it
    obtain ⟨hmem, hstale⟩ := List.mem_filter.mp hr
    simp only [Bool.and_eq_true, decide_eq_true_eq] at hstale
    refine hstale.2 (h.agree r.slot (slot_mem hmem) t.slot (slot_mem ht) (beq_iff_eq.mp hstale.1)
      (beq_iff_eq.mp htmatch.2) hselector ?_ |>.trans htmatch.1)
    exact hcurrent.trans (congrArg some htmatch.1.symm)
  · cases hr

end SelectorCurrent

/-- A restore that was just made Active by the switchover. -/
theorem name_of_activated {a : Control} {name : String} {s : Slot}
    (hs : s ∈ (a.setPhase name .active).slots) (hphase : s.phase = some .active)
    (hother : s.name ≠ name) : s ∈ a.slots ∧ s.phase = some .active := by
  rcases mem_setPhase.mp hs with ⟨t, _, ht, rfl⟩ | ⟨hs, _⟩
  · exact absurd ht hother
  · exact ⟨hs, hphase⟩

/-- The acts of the replica controller keep the invariant, unless a switchover is torn. -/
theorem ReplicaAct.selectorCurrent {p : ReplicaPass} {a a' : Control}
    (h : ReplicaAct ctx p w₀ a a')
    (hwhole : tearsSwitchover w₀ (.replicaPass p) = false)
    (h₀ : SelectorCurrent (control w₀)) (ha : SelectorCurrent a) : SelectorCurrent a' := by
  have hwf := h.wellFormed ha.wellFormed
  cases h with
  | @selectorMoved r hgates =>
    -- the selected restore is still switching
    refine ⟨hwf, ?_, ha.spared_cons (by simp)⟩
    intro s hs t _ hps _ hsel _
    obtain ⟨hmem, hphase⟩ := switching_slot hgates.switching
    rw [← hgates.slots] at hmem
    have hsame : s = r.slot := ha.wellFormed.eq_of_name hs hmem (Option.some.inj hsel).symm
    rw [hsame, hphase] at hps
    cases hps
  | @activated r hgates hselector htorn =>
    -- another Active restore that is current would make this a torn switchover
    refine ⟨hwf, ?_, ha.spared_cons (by simp)⟩
    intro s hs t ht hps hpt hsel hcur
    have hname : s.name = r.name := Option.some.inj (hsel.symm.trans hselector)
    by_contra hne
    have htne : t.name ≠ r.name := fun h => hne (hname.trans h.symm)
    obtain ⟨ht', _⟩ := name_of_activated ht hpt htne
    rw [hgates.slots] at ht'
    obtain ⟨t₀, ht₀, rfl⟩ := List.mem_map.mp ht'
    have hcurrent : w₀.replica.status.currentRestore = some t₀.name := by
      rw [← hgates.current]
      exact hcur
    have hmatch : hasMatchingCurrent t₀.name w₀.restores = true :=
      List.any_eq_true.mpr ⟨t₀, ht₀, Bool.and_eq_true_iff.mpr ⟨beq_self_eq_true _, beq_iff_eq.mpr hpt⟩⟩
    simp [tearsSwitchover, hgates.switching, htorn, hcurrent, hmatch] at hwhole
  | @switchedOver r hgates hselector =>
    refine ⟨hwf, ?_, ha.spared_cons (by simp)⟩
    intro s _ t _ _ _ hsel hcur
    exact (Option.some.inj (hsel.symm.trans hselector)).trans (Option.some.inj hcur)
  | @switchedOverReported r hgates hselector =>
    refine ⟨hwf, ?_, ?_⟩
    · intro s _ t _ _ _ hsel hcur
      exact (Option.some.inj (hsel.symm.trans hselector)).trans (Option.some.inj hcur)
    · intro name selector hmem
      rcases List.mem_cons.mp hmem with heq | hmem
      · cases heq
      · exact ha.spared_cons (by simp) name selector hmem
  | verified =>
    exact ha.of_noneEnters hwf (.of_eq rfl) rfl (.inr rfl) (ha.spared_cons (by simp))
  | verifiedDeleted => exact ha.of_noneEnters hwf (.drop rfl) rfl (.inl rfl) ha.spared
  | @swept name hname hselector =>
    apply ha.of_noneEnters hwf (.drop rfl) rfl (.inl rfl)
    intro n selector hmem
    rcases List.mem_cons.mp hmem with heq | hmem
    · cases heq
      rw [hselector]
      exact h₀.not_selected hname
    · exact ha.spared n selector hmem
  | failedDeleted => exact ha.of_noneEnters hwf (.drop rfl) rfl (.inl rfl) ha.spared
  | restoreCreated =>
    exact ha.of_noneEnters hwf (.created rfl) rfl (.inl rfl) (ha.spared_cons (by simp))
  | migrationSettled _ he =>
    exact ha.of_noneEnters hwf (.of_eq rfl) rfl (.inl rfl) (ha.spared_cons (by cases he <;> simp))
  | _ =>
    first
    | exact ha.of_noneEnters hwf (.of_eq rfl) rfl (.inl rfl) ha.spared
    | exact ha.of_noneEnters hwf (.of_eq rfl) rfl (.inl rfl) (ha.spared_cons (by simp))

/-- The acts of the restore controller keep the invariant. -/
theorem RestoreAct.selectorCurrent {p : RestorePass} {r : Restore} {a a' : Control}
    (h : RestoreAct p w₀ r a a') (ha : SelectorCurrent a) : SelectorCurrent a' := by
  have hwf := h.wellFormed ha.wellFormed
  have hslots := h.noneActivates
  cases h <;>
    first
    | exact ha.of_noneEnters hwf hslots rfl (.inl rfl) ha.spared
    | exact ha.of_noneEnters hwf hslots rfl (.inl rfl) (ha.spared_cons (by simp))

/-- **Every act keeps the invariant** in a step that tears no switchover. -/
theorem Act.selectorCurrent {e : Event} {a a' : Control} (hwhole : tearsSwitchover w₀ e = false)
    (h₀ : SelectorCurrent (control w₀)) (ha : SelectorCurrent a) (h : Act ctx w₀ e a a') :
    SelectorCurrent a' := by
  have hwf := h.wellFormed ha.wellFormed
  cases h with
  | replica h => exact h.selectorCurrent hwhole h₀ ha
  | restore _ h => exact h.selectorCurrent ha
  | restoreDeleted => exact ha.of_noneEnters hwf (.drop rfl) rfl (.inl rfl) ha.spared
  | _ => exact ha.of_noneEnters hwf (.of_eq rfl) rfl (.inl rfl) ha.spared

theorem selectorCurrent_initial (key : ReplicaKey) (spec : ReplicaSpec) :
    SelectorCurrent (control (World.initial key spec)) := by
  refine ⟨wellFormed_initial key spec, ?_, ?_⟩
  · intro s hs
    simp [control, World.initial] at hs
  · intro name selector hmem
    simp [control, World.initial] at hmem

/-- **The sweep deletes no restore the Service selects.** -/
def SweepSparesSelected (w : World) : Prop :=
  ∀ name selector, .swept name selector ∈ w.history → selector ≠ some name

/-- **The sweep spares the live restore** in every run that tears no switchover, whatever else fails
    and whenever the operator ends. -/
theorem sweep_spares_selected (key : ReplicaKey) (spec : ReplicaSpec) (es : List Event)
    (hes : Meets (step ctx) (fun w e => tearsSwitchover w e = false) (World.initial key spec) es) :
    SweepSparesSelected (run ctx (World.initial key spec) es) :=
  (run_keeps (I := SelectorCurrent)
    (fun _ _ _ _ hC h₀ _ ha hact => hact.selectorCurrent hC h₀ ha)
    (selectorCurrent_initial key spec) hes).spared

/-! ## A whole and a torn switchover -/

/-- Two cycles; the second switchover is answered by the given replies, and a last pass sweeps. -/
def twoCycles (replies : Call → Reply Error) : List Event :=
  listSnapshots 0 "a" ++ bringUp "r-10" 20 ++ [.replicaPass { now := 30 }] ++
    listSnapshots 4000 "b" ++ bringUp "r-4010" 4020 ++
    [.replicaPass { now := 4030, replies := replies }, .replicaPass { now := 5000 }]

theorem whole_switchovers_spare_selected :
    (.swept "r-10" (some "r-4010") ∈
        (run .hourly (World.initial ⟨"ns", "r"⟩ plainSpec) (twoCycles fun _ => .ok)).history) ∧
      SweepSparesSelected (run .hourly (World.initial ⟨"ns", "r"⟩ plainSpec) (twoCycles fun _ => .ok)) :=
  ⟨by decide +kernel, sweep_spares_selected ⟨"ns", "r"⟩ plainSpec (twoCycles fun _ => .ok)
    (by decide +kernel)⟩

/-- The API server refuses the write of the activation time. -/
def activatedAtRefused : Call → Reply Error
  | .updateActivatedAt => .refused (.kube "conflict")
  | _ => .ok

/-- The new restore is Active and selected but not current, and the next pass deletes it. -/
theorem torn_switchover_loses_selected :
    ¬ SweepSparesSelected
      (run .hourly (World.initial ⟨"ns", "r"⟩ plainSpec) (twoCycles activatedAtRefused)) := by
  intro h
  exact h "r-4010" (some "r-4010") (by decide +kernel) rfl

end RestoreOperator
