import RestoreOperator.System.Invariants

/-!
# `Correctness.Exclusion` — one restore at a time

A replica is meant to work on one restore at a time, and a pass with one in progress starts no other.
But a restore is not created by the pass that decided to restore: the list of snapshots comes back
later, and the block that acts on it runs before the check and does not make its own.  So the
exclusion holds in the runs in which no list is acted on while a restore is under way.
-/

namespace RestoreOperator

open Calls Relation

variable {ctx : Context} {w₀ : World}

/-- **A restore is under way**: neither Active nor Failed yet. -/
def Restore.underWay (r : Restore) : Bool :=
  !r.inPhase .active && !r.inPhase .failed

/-- **A second restore is started**: a pass comes to create a restore while another is under way. -/
def startsSecond (ctx : Context) (w : World) : Event → Bool
  | .replicaPass _ => comesToCreate ctx w && w.restores.any Restore.underWay
  | _ => false

theorem underWay_iff {r : Restore} : r.underWay = true ↔ ¬ r.slot.settled := by
  simp only [Restore.underWay, Bool.and_eq_true, Bool.not_eq_true', Slot.settled, not_or]
  constructor
  · exact fun h => ⟨fun hs => Bool.eq_false_iff.mp h.1 (beq_iff_eq.mpr hs),
      fun hs => Bool.eq_false_iff.mp h.2 (beq_iff_eq.mpr hs)⟩
  · exact fun h => ⟨Bool.eq_false_iff.mpr fun hs => h.1 (beq_iff_eq.mp hs),
      Bool.eq_false_iff.mpr fun hs => h.2 (beq_iff_eq.mp hs)⟩

/-- **The invariant**: the restores that are not settled are one. -/
structure OneUnsettled (a : Control) : Prop where
  wellFormed : WellFormed a
  unique : ∀ s ∈ a.slots, ∀ t ∈ a.slots, ¬ s.settled → ¬ t.settled → s.uid = t.uid

namespace OneUnsettled

variable {a a' : Control}

/-- An act after which every restore that is not settled was not settled before keeps the
    invariant. -/
theorem of_unsettled (h : OneUnsettled a) (hwf : WellFormed a')
    (hslots : ∀ s ∈ a'.slots, ¬ s.settled → ∃ t ∈ a.slots, t.uid = s.uid ∧ ¬ t.settled) :
    OneUnsettled a' := by
  refine ⟨hwf, ?_⟩
  intro s hs t ht hns hnt
  obtain ⟨s', hs', hsu, hns'⟩ := hslots s hs hns
  obtain ⟨t', ht', htu, hnt'⟩ := hslots t ht hnt
  rw [← hsu, ← htu]
  exact h.unique s' hs' t' ht' hns' hnt'

/-- An act that leaves the restores alone. -/
theorem of_same (h : OneUnsettled a) (hwf : WellFormed a') (hslots : a'.slots = a.slots) :
    OneUnsettled a' :=
  h.of_unsettled hwf fun s hs hns => ⟨s, hslots ▸ hs, rfl, hns⟩

/-- An act that deletes a restore. -/
theorem of_drop (h : OneUnsettled a) (hwf : WellFormed a') {name : String}
    (hslots : a'.slots = (a.drop name).slots) : OneUnsettled a' :=
  h.of_unsettled hwf fun s hs hns => ⟨s, (mem_drop.mp (hslots ▸ hs)).1, rfl, hns⟩

/-- An act that settles a restore. -/
theorem of_settles (h : OneUnsettled a) (hwf : WellFormed a') {name : String} {ph : RestorePhase}
    (hph : ph = .active ∨ ph = .failed) (hslots : a'.slots = (a.setPhase name ph).slots) :
    OneUnsettled a' := by
  apply h.of_unsettled hwf
  intro s hs hns
  rcases mem_setPhase.mp (hslots ▸ hs) with ⟨t, _, _, rfl⟩ | ⟨hs, _⟩
  · refine absurd ?_ hns
    rcases hph with rfl | rfl
    · exact .inl rfl
    · exact .inr rfl
  · exact ⟨s, hs, rfl, hns⟩

/-- A pass that moves an unsettled restore on keeps the invariant. -/
theorem of_driven (h₀ : OneUnsettled (control w₀)) {r : Restore} (hmem : r ∈ w₀.restores)
    (hns : ¬ r.slot.settled) (honly : OnlyRestore w₀ r a') (hwf : WellFormed a') :
    OneUnsettled a' := by
  have huid : ∀ s ∈ a'.slots, ¬ s.settled → s.uid = r.uid := by
    intro s hs hs'
    by_cases hname : s.name = r.name
    · exact honly.self s hs hname
    · exact h₀.unique s (honly.others s hs hname) r.slot (slot_mem hmem) hs' hns
  exact ⟨hwf, fun s hs t ht hs' ht' => (huid s hs hs').trans (huid t ht ht').symm⟩

end OneUnsettled

/-- The acts of the replica controller keep the invariant, unless a second restore is started. -/
theorem ReplicaAct.oneUnsettled {p : ReplicaPass} {a a' : Control} (h : ReplicaAct ctx p w₀ a a')
    (hfirst : startsSecond ctx w₀ (.replicaPass p) = false) (ha : OneUnsettled a) :
    OneUnsettled a' := by
  have hwf := h.wellFormed ha.wellFormed
  cases h with
  | activated => exact ha.of_settles hwf (.inl rfl) rfl
  | switchedOver => exact ha.of_settles hwf (.inl rfl) rfl
  | switchedOverReported => exact ha.of_settles hwf (.inl rfl) rfl
  | verifiedDeleted => exact ha.of_drop hwf rfl
  | swept => exact ha.of_drop hwf rfl
  | failedDeleted => exact ha.of_drop hwf rfl
  | restoreCreated _ _ hwhy hslots _ =>
    -- none of the restores that were listed is under way, and none was created before in the pass
    have hsettled : ∀ s ∈ a.slots, s.settled := by
      intro s hs
      obtain ⟨r, hr, rfl⟩ := List.mem_map.mp (hslots s hs)
      by_contra hns
      simp only [startsSecond, hwhy, Bool.true_and, List.any_eq_false] at hfirst
      exact hfirst r hr (underWay_iff.mpr hns)
    refine ⟨hwf, ?_⟩
    intro s hs t ht hns hnt
    rcases mem_inserted.mp hs with rfl | hs
    · rcases mem_inserted.mp ht with rfl | ht
      · rfl
      · exact absurd (hsettled t ht) hnt
    · exact absurd (hsettled s hs) hns
  | _ => exact ha.of_same hwf rfl

/-- The acts of the restore controller keep the invariant. -/
theorem RestoreAct.oneUnsettled {p : RestorePass} {r : Restore} {a a' : Control}
    (h : RestoreAct p w₀ r a a') (hmem : r ∈ w₀.restores) (h₀ : OneUnsettled (control w₀))
    (honly : OnlyRestore w₀ r a) (ha : OneUnsettled a) : OneUnsettled a' := by
  have hwf := h.wellFormed ha.wellFormed
  have honly' := h.onlyRestore honly
  cases h with
  | pending hr => exact h₀.of_driven hmem (unsettled_of_isPending hr) honly' hwf
  | restoring hr => exact h₀.of_driven hmem (unsettled_of_isPending hr) honly' hwf
  | restoringMarked hr => exact h₀.of_driven hmem (unsettled_of_isPending hr) honly' hwf
  | ready hr =>
    have hr' : r.canFail := hr.elim .inl fun h => .inr (.inr h)
    exact h₀.of_driven hmem (unsettled_of_canFail hr') honly' hwf
  | migrating hr => exact h₀.of_driven hmem (unsettled_of_canFail (.inr (.inl hr))) honly' hwf
  | switching hr =>
    exact h₀.of_driven hmem (unsettled_of_canFail (.inr (.inl (ready_of_readyToSwitch hr)))) honly' hwf
  | failed hr => exact ha.of_settles hwf (.inr rfl) rfl
  | _ => exact ha.of_same hwf rfl

/-- **Every act keeps the invariant** in a step that starts no second restore. -/
theorem Act.oneUnsettled {e : Event} {a a' : Control} (hfirst : startsSecond ctx w₀ e = false)
    (h₀ : OneUnsettled (control w₀)) (hreach : ReflTransGen (Act ctx w₀ e) (control w₀) a)
    (ha : OneUnsettled a) (h : Act ctx w₀ e a a') : OneUnsettled a' := by
  have hwf := h.wellFormed ha.wellFormed
  cases h with
  | replica h => exact h.oneUnsettled hfirst ha
  | restore hr h =>
    exact h.oneUnsettled (List.mem_of_find?_eq_some hr) h₀
      (onlyRestore_of_acts h₀.wellFormed hr hreach) ha
  | restoreDeleted => exact ha.of_drop hwf rfl
  | _ => exact ha.of_same hwf rfl

/-- **At most one restore is under way.** -/
def OneRestoreUnderWay (w : World) : Prop :=
  (w.restores.filter Restore.underWay).length ≤ 1

/-- Restores that cannot be told apart are one. -/
theorem OneUnsettled.oneRestoreUnderWay {w : World} (h : OneUnsettled (control w)) :
    OneRestoreUnderWay w := by
  have huids : ((w.restores.filter Restore.underWay).map (·.uid)).Nodup := by
    have hall : (w.restores.map (·.uid)).Nodup := by
      have huids := h.wellFormed.uids
      simp only [control, List.map_map] at huids
      exact huids
    exact hall.sublist (List.filter_sublist.map _)
  unfold OneRestoreUnderWay
  cases hl : w.restores.filter Restore.underWay with
  | nil => exact Nat.zero_le _
  | cons r rest =>
    cases rest with
    | nil => exact le_rfl
    | cons t rest =>
      have hmem : ∀ x ∈ [r, t], x ∈ w.restores ∧ x.underWay = true := by
        intro x hx
        apply List.mem_filter.mp
        rw [hl]
        exact List.mem_append_left rest hx
      obtain ⟨hr, hrw⟩ := hmem r (by simp)
      obtain ⟨ht, htw⟩ := hmem t (by simp)
      -- two of them are one restore, which the list holds once
      have hsame : r.uid = t.uid :=
        h.unique r.slot (slot_mem hr) t.slot (slot_mem ht) (underWay_iff.mp hrw) (underWay_iff.mp htw)
      rw [hl] at huids
      simp [hsame] at huids

/-- **One restore at a time**, in every run that starts no second one: whatever the order of the
    passes, and however long a created restore waits for its first. -/
theorem one_restore_under_way (key : ReplicaKey) (spec : ReplicaSpec) (es : List Event)
    (hes : Meets (step ctx) (fun w e => startsSecond ctx w e = false) (World.initial key spec) es) :
    OneRestoreUnderWay (run ctx (World.initial key spec) es) := by
  refine (run_keeps (I := OneUnsettled)
    (fun _ _ _ _ hC h₀ hreach ha hact => hact.oneUnsettled hC h₀ hreach ha) ?_ hes).oneRestoreUnderWay
  exact ⟨wellFormed_initial key spec, fun _ hs => by cases hs⟩

/-! ## A restore that waits for its first pass -/

theorem first_restore_is_alone :
    (.activated 1 false ∈ (run .hourly (World.initial ⟨"ns", "r"⟩ plainSpec)
        (listSnapshots 0 "a" ++ bringUp "r-10" 20 ++ [.replicaPass { now := 30 }])).history) ∧
      OneRestoreUnderWay (run .hourly (World.initial ⟨"ns", "r"⟩ plainSpec)
        (listSnapshots 0 "a" ++ bringUp "r-10" 20 ++ [.replicaPass { now := 30 }])) :=
  ⟨by decide +kernel, one_restore_under_way ⟨"ns", "r"⟩ plainSpec
    (listSnapshots 0 "a" ++ bringUp "r-10" 20 ++ [.replicaPass { now := 30 }]) (by decide +kernel)⟩

/-- The first restore has no phase yet, so the next pass does not count it as in progress, lists the
    snapshots again and creates another. -/
theorem waiting_restore_is_not_alone :
    ¬ OneRestoreUnderWay (run .hourly (World.initial ⟨"ns", "r"⟩ plainSpec)
      (listSnapshots 0 "a" ++ listSnapshots 20 "b")) := by
  unfold OneRestoreUnderWay
  decide +kernel

end RestoreOperator
