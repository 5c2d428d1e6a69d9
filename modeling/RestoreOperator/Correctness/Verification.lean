import RestoreOperator.Calls.Log
import RestoreOperator.System.Invariants

/-!
# `Correctness.Verification` — verification reports

A restore is reported to canopy by the switchover, as a success, or by `fail_restore`, as a failure.
A report settles its restore: afterwards the restore is Active or Failed, phases neither path starts
from, so no restore is reported twice, whatever fails on the way.

The other direction is not safe from faults: a restore reads Active several writes before its report,
and a switchover that ends between the two is never resumed.
-/

namespace RestoreOperator

open Calls Relation

variable {ctx : Context} {w₀ : World}

/-! ## At most one report -/

/-- An entry reports on the restore. -/
def Entry.reportsOn (u : Nat) : Entry → Bool
  | .reported v _ => v == u
  | _ => false

/-- **No restore is reported twice**, so none is reported both as a success and as a failure. -/
def ReportedOnce (w : World) : Prop :=
  ∀ u, w.history.countP (Entry.reportsOn u) ≤ 1

/-- **The invariant**: a restore that was reported is settled, and was reported once. -/
structure ReportsSettled (a : Control) : Prop where
  wellFormed : WellFormed a
  used : ∀ u o, .reported u o ∈ a.history → u < a.nextUid
  settled : ∀ u o, .reported u o ∈ a.history → ∀ s ∈ a.slots, s.uid = u → s.settled
  once : ∀ u, a.history.countP (Entry.reportsOn u) ≤ 1

/-- Nothing is reported: the log is as it was, or has another entry. -/
def NoReport (a a' : Control) : Prop :=
  a'.history = a.history ∨ ∃ e, a'.history = e :: a.history ∧ ∀ u o, e ≠ .reported u o

theorem NoReport.mem {a a' : Control} (h : NoReport a a') {u : Nat} {o : RunOutcome}
    (hmem : .reported u o ∈ a'.history) : .reported u o ∈ a.history := by
  rcases h with h | ⟨e, h, he⟩
  · exact h ▸ hmem
  · rw [h] at hmem
    exact (List.mem_cons.mp hmem).resolve_left fun heq => he u o heq.symm

theorem NoReport.countP {a a' : Control} (h : NoReport a a') (u : Nat) :
    a'.history.countP (Entry.reportsOn u) = a.history.countP (Entry.reportsOn u) := by
  rcases h with h | ⟨e, h, he⟩
  · rw [h]
  · rw [h, List.countP_cons_of_neg]
    intro hreports
    cases e with
    | reported v o => exact he v o rfl
    | _ => cases hreports

namespace ReportsSettled

variable {a a' : Control}

/-- An act that reports nothing and unsettles no reported restore keeps the invariant. -/
theorem of_noReport (h : ReportsSettled a) (hwf : WellFormed a') (hhistory : NoReport a a')
    (huid : a.nextUid ≤ a'.nextUid)
    (hslots : ∀ s ∈ a'.slots, s ∈ a.slots ∨ s.settled ∨ a.nextUid ≤ s.uid ∨
      ∀ o, .reported s.uid o ∉ a.history) : ReportsSettled a' := by
  refine ⟨hwf, fun u o hmem => (h.used u o (hhistory.mem hmem)).trans_le huid, ?_, ?_⟩
  · intro u o hmem s hs hsu
    have hmem' := hhistory.mem hmem
    -- a restore of the new state is an old one, or settled, or new, or was never reported
    rcases hslots s hs with hs | hsettled | hfresh | hunreported
    · exact h.settled u o hmem' s hs hsu
    · exact hsettled
    · have := h.used u o hmem'
      omega
    · exact absurd (hsu ▸ hmem') (hunreported o)
  · intro u
    rw [hhistory.countP]
    exact h.once u

/-- A restore that is not settled was not reported. -/
theorem unreported (h : ReportsSettled a) {s : Slot} (hs : s ∈ a.slots) (hns : ¬ s.settled)
    (o : RunOutcome) : .reported s.uid o ∉ a.history :=
  fun hmem => hns (h.settled s.uid o hmem s hs rfl)

/-- A report on a settled restore that had none keeps the invariant. -/
theorem report (h : ReportsSettled a) {u : Nat} {o : RunOutcome} (hu : u < a.nextUid)
    (hslots : ∀ s ∈ a.slots, s.uid = u → s.settled)
    (hnone : ∀ o, .reported u o ∉ a.history) : ReportsSettled (a.log (.reported u o)) := by
  refine ⟨h.wellFormed.of_same rfl le_rfl, ?_, ?_, ?_⟩
  · intro v o' hmem
    rcases List.mem_cons.mp hmem with heq | hmem
    · cases heq
      exact hu
    · exact h.used v o' hmem
  · intro v o' hmem
    rcases List.mem_cons.mp hmem with heq | hmem
    · cases heq
      exact hslots
    · exact h.settled v o' hmem
  · intro v
    by_cases hv : u = v
    · subst hv
      have hzero : a.history.countP (Entry.reportsOn u) = 0 := by
        rw [List.countP_eq_zero]
        intro e he hreports
        cases e with
        | reported v o' =>
          obtain rfl : v = u := beq_iff_eq.mp hreports
          exact hnone o' he
        | _ => cases hreports
      show (Entry.reported u o :: a.history).countP _ ≤ 1
      rw [List.countP_cons, hzero]
      split <;> omega
    · show (Entry.reported u o :: a.history).countP _ ≤ 1
      rw [List.countP_cons_of_neg (by simp [Entry.reportsOn, hv])]
      exact h.once v

/-- Making a restore Active unsettles none. -/
theorem slots_activated (a : Control) (name : String) :
    ∀ s ∈ (a.setPhase name .active).slots, s ∈ a.slots ∨ s.settled ∨ a.nextUid ≤ s.uid ∨
      ∀ o, .reported s.uid o ∉ a.history := by
  intro s hs
  rcases mem_setPhase.mp hs with ⟨t, _, _, rfl⟩ | ⟨hs, _⟩
  · exact .inr (.inl (.inl rfl))
  · exact .inl hs

end ReportsSettled

/-- The switching restore is not settled. -/
theorem switching_unsettled {r : Restore} {a : Control} (hgates : GatesPassed w₀ r a) :
    r.slot ∈ a.slots ∧ ¬ r.slot.settled := by
  obtain ⟨hmem, hphase⟩ := switching_slot hgates.switching
  refine ⟨hgates.slots ▸ hmem, ?_⟩
  rintro (h | h) <;> rw [hphase] at h <;> cases h

/-- The acts of the replica controller keep the invariant. -/
theorem ReplicaAct.reportsSettled {p : ReplicaPass} {a a' : Control} (h : ReplicaAct ctx p w₀ a a')
    (ha : ReportsSettled a) : ReportsSettled a' := by
  have hwf := h.wellFormed ha.wellFormed
  cases h with
  | activated =>
    exact ha.of_noReport hwf (.inr ⟨_, rfl, by simp⟩) le_rfl (ReportsSettled.slots_activated a _)
  | switchedOver =>
    exact ha.of_noReport hwf (.inr ⟨_, rfl, by simp⟩) le_rfl (ReportsSettled.slots_activated a _)
  | @switchedOverReported r hgates =>
    -- first the restore becomes Active, then it is reported
    obtain ⟨hmem, hunsettled⟩ := switching_unsettled hgates
    have hactive : ReportsSettled
        { (a.setPhase r.name .active).log (.activated r.uid (activeRestore w₀.restores).isSome) with
          current := some r.name
          failures := 0 } :=
      ha.of_noReport ((ha.wellFormed.setPhase _ _).of_same rfl le_rfl) (.inr ⟨_, rfl, by simp⟩) le_rfl
        (ReportsSettled.slots_activated a _)
    refine hactive.report (ha.wellFormed.used _ hmem) ?_ ?_
    · intro s hs hsu
      rcases mem_setPhase.mp hs with ⟨t, _, _, rfl⟩ | ⟨hs, hne⟩
      · exact .inl rfl
      · exact absurd (congrArg Slot.name (ha.wellFormed.eq_of_uid hs hmem hsu)) hne
    · intro o hreported
      rcases List.mem_cons.mp hreported with heq | hreported
      · cases heq
      · exact ha.unreported hmem hunsettled o hreported
  | verifiedDeleted =>
    exact ha.of_noReport hwf (.inl rfl) le_rfl fun s hs => .inl (mem_drop.mp hs).1
  | swept =>
    exact ha.of_noReport hwf (.inr ⟨_, rfl, by simp⟩) le_rfl fun s hs => .inl (mem_drop.mp hs).1
  | failedDeleted =>
    exact ha.of_noReport hwf (.inl rfl) le_rfl fun s hs => .inl (mem_drop.mp hs).1
  | restoreCreated =>
    refine ha.of_noReport hwf (.inr ⟨_, rfl, by simp⟩) (Nat.le_succ _) fun s hs => ?_
    rcases mem_inserted.mp hs with rfl | hs
    · exact .inr (.inr (.inl le_rfl))
    · exact .inl hs
  | migrationSettled _ he =>
    exact ha.of_noReport hwf (.inr ⟨_, rfl, by cases he <;> simp⟩) le_rfl fun s hs => .inl hs
  | migrationJobCreated =>
    exact ha.of_noReport hwf (.inr ⟨_, rfl, by simp⟩) (Nat.le_succ _) fun s hs => .inl hs
  | jobCreated => exact ha.of_noReport hwf (.inl rfl) (Nat.le_succ _) fun s hs => .inl hs
  | snapshotJobCreated =>
    exact ha.of_noReport hwf (.inr ⟨_, rfl, by simp⟩) (Nat.le_succ _) fun s hs => .inl hs
  | _ =>
    first
    | exact ha.of_noReport hwf (.inl rfl) le_rfl fun s hs => .inl hs
    | exact ha.of_noReport hwf (.inr ⟨_, rfl, by simp⟩) le_rfl fun s hs => .inl hs

/-- A pass that moves an unsettled restore on unsettles none that was reported. -/
theorem ReportsSettled.slots_driven {r : Restore} {a : Control} {ph : RestorePhase}
    (h₀ : ReportsSettled (control w₀)) (hmem : r ∈ w₀.restores) (hns : ¬ r.slot.settled)
    (honly : OnlyRestore w₀ r a) (hlog : a.history = w₀.history) :
    ∀ s ∈ (a.setPhase r.name ph).slots, s ∈ a.slots ∨ s.settled ∨ a.nextUid ≤ s.uid ∨
      ∀ o, .reported s.uid o ∉ a.history := by
  intro s hs
  rcases mem_setPhase.mp hs with ⟨t, ht, hname, rfl⟩ | ⟨hs, _⟩
  · refine .inr (.inr (.inr fun o => ?_))
    show .reported t.uid o ∉ a.history
    rw [honly.self t ht hname, hlog]
    exact h₀.unreported (slot_mem hmem) hns o
  · exact .inl hs

/-- The acts of the restore controller keep the invariant. -/
theorem RestoreAct.reportsSettled {p : RestorePass} {r : Restore} {a a' : Control}
    (h : RestoreAct p w₀ r a a') (hmem : r ∈ w₀.restores) (h₀ : ReportsSettled (control w₀))
    (honly : OnlyRestore w₀ r a) (huid : (control w₀).nextUid ≤ a.nextUid) (ha : ReportsSettled a) :
    ReportsSettled a' := by
  have hwf := h.wellFormed ha.wellFormed
  cases h with
  | pending hr hlog =>
    exact ha.of_noReport hwf (.inl rfl) le_rfl
      (h₀.slots_driven hmem (unsettled_of_isPending hr) honly hlog)
  | restoring hr hlog =>
    exact ha.of_noReport hwf (.inl rfl) le_rfl
      (h₀.slots_driven hmem (unsettled_of_isPending hr) honly hlog)
  | restoringMarked hr hlog =>
    exact ha.of_noReport hwf (.inl rfl) le_rfl
      (h₀.slots_driven hmem (unsettled_of_isPending hr) honly hlog)
  | ready hr hlog =>
    have hr' : r.canFail := hr.elim .inl fun h => .inr (.inr h)
    exact ha.of_noReport hwf (.inl rfl) le_rfl
      (h₀.slots_driven hmem (unsettled_of_canFail hr') honly hlog)
  | migrating hr hlog =>
    exact ha.of_noReport hwf (.inl rfl) le_rfl
      (h₀.slots_driven hmem (unsettled_of_canFail (.inr (.inl hr))) honly hlog)
  | switching hr hlog =>
    have hr' : r.canFail := .inr (.inl (ready_of_readyToSwitch hr))
    exact ha.of_noReport hwf (.inr ⟨_, rfl, by simp⟩) le_rfl
      (h₀.slots_driven hmem (unsettled_of_canFail hr') honly hlog)
  | failed hr hlog =>
    exact ha.of_noReport hwf (.inl rfl) le_rfl
      (h₀.slots_driven hmem (unsettled_of_canFail hr) honly hlog)
  | reported hr hphase hfresh =>
    have hslot := slot_mem hmem
    refine ha.report ((h₀.wellFormed.used _ hslot).trans_le huid) ?_
      fun o hreported => h₀.unreported hslot (unsettled_of_canFail hr) o (hfresh o hreported)
    intro s hs hsu
    -- who carries this identity is the restore itself, which has just failed
    by_cases hname : s.name = r.name
    · exact .inr (hphase s hs hname)
    · have hs₀ := honly.others s hs hname
      exact absurd (congrArg Slot.name (h₀.wellFormed.eq_of_uid hs₀ hslot hsu)) hname
  | failureRecorded =>
    exact ha.of_noReport hwf (.inr ⟨_, rfl, by simp⟩) le_rfl fun s hs => .inl hs
  | jobCreated => exact ha.of_noReport hwf (.inl rfl) (Nat.le_succ _) fun s hs => .inl hs
  | _ => exact ha.of_noReport hwf (.inl rfl) le_rfl fun s hs => .inl hs

/-- **Every act keeps the invariant.** -/
theorem Act.reportsSettled {e : Event} {a a' : Control} (h₀ : ReportsSettled (control w₀))
    (hreach : ReflTransGen (Act ctx w₀ e) (control w₀) a) (ha : ReportsSettled a)
    (h : Act ctx w₀ e a a') : ReportsSettled a' := by
  have hwf := h.wellFormed ha.wellFormed
  cases h with
  | replica h => exact h.reportsSettled ha
  | restore hr h =>
    exact h.reportsSettled (List.mem_of_find?_eq_some hr) h₀
      (onlyRestore_of_acts h₀.wellFormed hr hreach) (nextUid_of_acts hreach) ha
  | restoreDeleted =>
    exact ha.of_noReport hwf (.inl rfl) le_rfl fun s hs => .inl (mem_drop.mp hs).1
  | _ => exact ha.of_noReport hwf (.inl rfl) le_rfl fun s hs => .inl hs

/-! ## Reported before verified -/

/-- **A switchover ends before its report**: its restore may be marked Active and never reported. -/
def endsUnreported (w : World) : Event → Bool
  | .replicaPass p =>
    (switchingRestore w.restores).isSome && unreportedSwitchover w p.replies
  | _ => false

/-- What the log says of a restore that is recorded as verified: it was reported before. -/
def ReportedFirst (e : Entry) (past : List Entry) : Prop :=
  ∀ u, e = .verified u → .reported u .success ∈ past

/-- **The invariant**: every Active restore was reported, and so was every verified one. -/
structure ActiveReported (a : Control) : Prop where
  wellFormed : WellFormed a
  active : ∀ s ∈ a.slots, s.phase = some .active → .reported s.uid .success ∈ a.history
  logged : Logged ReportedFirst a.history

/-- A torn switchover is one that ends before its report. -/
theorem unreported_of_torn {w : World} {ρ : Call → Reply Error}
    (h : tornSwitchover ρ = true) : unreportedSwitchover w ρ = true := by
  unfold unreportedSwitchover
  unfold tornSwitchover at h
  simp only [Bool.and_eq_true, Bool.not_eq_true'] at h ⊢
  refine ⟨h.1, Bool.eq_false_iff.mpr ?_⟩
  intro hall
  simp only [Bool.and_eq_true] at hall
  obtain ⟨⟨⟨hphase, hat⟩, hpatch⟩, _⟩ := hall
  have htorn := h.2
  rw [hphase, hat, Reply.tookEffect_of_isOk hpatch] at htorn
  cases htorn

theorem ActiveReported.of_noneEnters {a a' : Control} (h : ActiveReported a) (hwf : WellFormed a')
    (hslots : NoneEnters .active a a') (hhistory : a.history <:+ a'.history)
    (hlogged : Logged ReportedFirst a'.history) : ActiveReported a' :=
  ⟨hwf, fun s hs hps => hhistory.subset (h.active s (hslots s hs hps) hps), hlogged⟩

/-- The log after an entry that verifies no restore. -/
theorem ActiveReported.logged_cons {a : Control} (h : ActiveReported a) {e : Entry}
    (he : ∀ u, e ≠ .verified u) : Logged ReportedFirst (e :: a.history) :=
  h.logged.cons fun u hu => absurd hu (he u)

/-- The acts of the replica controller keep the invariant, unless a switchover ends unreported. -/
theorem ReplicaAct.activeReported {p : ReplicaPass} {a a' : Control} (h : ReplicaAct ctx p w₀ a a')
    (hwhole : endsUnreported w₀ (.replicaPass p) = false) (ha : ActiveReported a) :
    ActiveReported a' := by
  have hwf := h.wellFormed ha.wellFormed
  have hhistory := h.history
  cases h with
  -- the two acts of a switchover that ended early are ruled out by the condition
  | activated hgates _ htorn =>
    simp [endsUnreported, hgates.switching, unreported_of_torn htorn] at hwhole
  | switchedOver hgates _ hunreported =>
    simp [endsUnreported, hgates.switching, hunreported] at hwhole
  | @switchedOverReported r hgates =>
    have hlogged : Logged ReportedFirst (.reported r.uid .success ::
        .activated r.uid (activeRestore w₀.restores).isSome :: a.history) :=
      (ha.logged_cons (by simp)).cons fun u hu => by cases hu
    refine ⟨hwf, ?_, hlogged⟩
    intro s hs hps
    rcases mem_setPhase.mp hs with ⟨t, ht, hname, rfl⟩ | ⟨hs, _⟩
    · -- the restore that went live is the one just reported
      obtain ⟨hmem, _⟩ := switching_unsettled hgates
      obtain rfl : t = r.slot := ha.wellFormed.eq_of_name ht hmem hname
      exact List.mem_cons_self
    · exact hhistory.subset (ha.active s hs hps)
  | verified hr hslots =>
    -- only an Active restore is recorded as verified
    refine ha.of_noneEnters hwf (.of_eq rfl) hhistory (ha.logged.cons fun u hu => ?_)
    obtain rfl := Entry.verified.inj hu
    unfold verifiedRestore at hr
    split at hr
    · split at hr
      · cases hr
      · rename_i active hactive
        split at hr
        · cases hr
        · obtain rfl := Option.some.inj hr
          obtain ⟨hmem, hphase⟩ := active_slot hactive
          exact ha.active active.slot (hslots ▸ hmem) hphase
    · cases hr
  | verifiedDeleted => exact ha.of_noneEnters hwf (.drop rfl) hhistory ha.logged
  | swept => exact ha.of_noneEnters hwf (.drop rfl) hhistory (ha.logged_cons (by simp))
  | failedDeleted => exact ha.of_noneEnters hwf (.drop rfl) hhistory ha.logged
  | restoreCreated => exact ha.of_noneEnters hwf (.created rfl) hhistory (ha.logged_cons (by simp))
  | migrationSettled _ he =>
    exact ha.of_noneEnters hwf (.of_eq rfl) hhistory (ha.logged_cons (by cases he <;> simp))
  | _ =>
    first
    | exact ha.of_noneEnters hwf (.of_eq rfl) hhistory ha.logged
    | exact ha.of_noneEnters hwf (.of_eq rfl) hhistory (ha.logged_cons (by simp))

/-- **Every act keeps the invariant** in a step that ends no switchover before its report. -/
theorem Act.activeReported {e : Event} {a a' : Control} (hwhole : endsUnreported w₀ e = false)
    (ha : ActiveReported a) (h : Act ctx w₀ e a a') : ActiveReported a' := by
  have hwf := h.wellFormed ha.wellFormed
  have hhistory := h.history
  cases h with
  | replica h => exact h.activeReported hwhole ha
  | restore _ h =>
    have hslots := h.noneActivates
    cases h <;>
      first
      | exact ha.of_noneEnters hwf hslots hhistory ha.logged
      | exact ha.of_noneEnters hwf hslots hhistory (ha.logged_cons (by simp))
  | restoreDeleted => exact ha.of_noneEnters hwf (.drop rfl) hhistory ha.logged
  | _ => exact ha.of_noneEnters hwf (.of_eq rfl) hhistory ha.logged

/-- **A restore recorded as verified was reported**, as a success and before. -/
def VerifiedAfterReport (w : World) : Prop :=
  ∀ later u past, w.history = later ++ .verified u :: past → .reported u .success ∈ past

/-- **Verification reports.**  In every run no restore is reported twice; and in every run in which no
    switchover ends before its report, a restore that is recorded as verified was reported before. -/
theorem verified_after_report (key : ReplicaKey) (spec : ReplicaSpec) (es : List Event) :
    ReportedOnce (run ctx (World.initial key spec) es) ∧
      (Meets (step ctx) (fun w e => endsUnreported w e = false) (World.initial key spec) es →
        VerifiedAfterReport (run ctx (World.initial key spec) es)) := by
  constructor
  · have hany : Meets (step ctx) (fun _ _ => True) (World.initial key spec) es :=
      meets_of_forall (fun _ _ => trivial) _ _
    refine (run_keeps (I := ReportsSettled)
      (fun _ _ _ _ _ h₀ hreach ha hact => hact.reportsSettled h₀ hreach ha) ?_ hany).once
    exact ⟨wellFormed_initial key spec, fun _ _ h => (by cases h), fun _ _ h => (by cases h),
      fun _ => Nat.zero_le _⟩
  · intro hes later u past hsplit
    refine (run_keeps (I := ActiveReported)
      (fun _ _ _ _ hC _ _ ha hact => hact.activeReported hC ha) ?_ hes).logged.at hsplit u rfl
    exact ⟨wellFormed_initial key spec, fun _ h => (by cases h), trivial⟩

/-! ## A whole and an unreported verification -/

/-- An ephemeral replica that canopy feeds. -/
def ephemeralSpec : ReplicaSpec :=
  { canopySource := some { group := "11111111-1111-1111-1111-111111111111", type := "postgres" }
    schedule := "H"
    ephemeral := true }

/-- One snapshot is restored and verified; the switchover is answered by the given replies. -/
def verification (replies : Call → Reply Error) : List Event :=
  .snapshotDesired (some "a") :: listSnapshots 0 "a" ++ bringUp "r-10" 20 ++
    [.replicaPass { now := 30, replies := replies }, .replicaPass { now := 40 }]

theorem whole_verification_is_reported :
    (.verified 1 ∈ (run .hourly (World.initial ⟨"ns", "r"⟩ ephemeralSpec)
        (verification fun _ => .ok)).history) ∧
      ReportedOnce
        (run .hourly (World.initial ⟨"ns", "r"⟩ ephemeralSpec) (verification fun _ => .ok)) ∧
      VerifiedAfterReport
        (run .hourly (World.initial ⟨"ns", "r"⟩ ephemeralSpec) (verification fun _ => .ok)) := by
  have h := @verified_after_report .hourly ⟨"ns", "r"⟩ ephemeralSpec
    (verification fun _ => .ok)
  exact ⟨by decide +kernel, h.1, h.2 (by decide +kernel)⟩

/-- The operator ends right after it marked the restore Active. -/
def cutAfterActive : Call → Reply Error
  | .updatePhaseActive => .cutAfter
  | _ => .ok

/-- The next operator finds an Active restore and records it as verified: nobody reports it. -/
theorem cut_verification_is_unreported :
    Meets (step .hourly)
        (fun w _ => w.replica.spec.ephemeral = true ∧ w.replica.spec.canopySource.isSome = true)
        (World.initial ⟨"ns", "r"⟩ ephemeralSpec) (verification cutAfterActive) ∧
      ¬ VerifiedAfterReport
        (run .hourly (World.initial ⟨"ns", "r"⟩ ephemeralSpec) (verification cutAfterActive)) := by
  refine ⟨by decide +kernel, ?_⟩
  intro h
  have hverified : .verified 1 ∈
      (run .hourly (World.initial ⟨"ns", "r"⟩ ephemeralSpec) (verification cutAfterActive)).history := by
    decide +kernel
  obtain ⟨later, past, hsplit⟩ := List.append_of_mem hverified
  have hreported : .reported 1 .success ∈
      (run .hourly (World.initial ⟨"ns", "r"⟩ ephemeralSpec) (verification cutAfterActive)).history := by
    rw [hsplit]
    exact List.mem_append_right _ (List.mem_cons_of_mem _ (h later 1 past hsplit))
  revert hreported
  decide +kernel

end RestoreOperator
