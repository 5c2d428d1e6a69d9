import Mathlib.Data.List.Nodup
import RestoreOperator.System.Acts

/-!
# `System.Invariants` — what every run keeps

The facts all results lean on: names and identities tell the restores apart, the log only grows, and
a pass on one restore leaves the others, and the replica's markers, alone.
-/

namespace RestoreOperator

open Calls Relation

/-! ## The restores -/

theorem mem_setPhase {a : Control} {name : String} {ph : RestorePhase} {s : Slot} :
    s ∈ (a.setPhase name ph).slots ↔
      (∃ t ∈ a.slots, t.name = name ∧ s = { t with phase := some ph }) ∨
        s ∈ a.slots ∧ s.name ≠ name := by
  simp only [Control.setPhase, List.mem_map]
  constructor
  · rintro ⟨t, ht, rfl⟩
    by_cases h : t.name = name
    · exact .inl ⟨t, ht, h, by simp [h]⟩
    · simp only [h, if_false]
      exact .inr ⟨ht, h⟩
  · rintro (⟨t, ht, hname, rfl⟩ | ⟨hs, hname⟩)
    · exact ⟨t, ht, by simp [hname]⟩
    · exact ⟨s, hs, by simp [hname]⟩

theorem mem_drop {a : Control} {name : String} {s : Slot} :
    s ∈ (a.drop name).slots ↔ s ∈ a.slots ∧ s.name ≠ name := by
  simp [Control.drop]

/-- A created restore is the only new one. -/
theorem mem_inserted {slots : List Slot} {position : Nat} {new s : Slot} :
    s ∈ slots.take position ++ new :: slots.drop position ↔ s = new ∨ s ∈ slots := by
  rw [List.mem_append, List.mem_cons]
  constructor
  · rintro (h | h | h)
    · exact .inr (List.mem_of_mem_take h)
    · exact .inl h
    · exact .inr (List.mem_of_mem_drop h)
  · rintro (h | h)
    · exact .inr (.inl h)
    · rw [← List.take_append_drop position slots, List.mem_append] at h
      rcases h with h | h
      · exact .inl h
      · exact .inr (.inr h)

/-- The names, or the identities, of the restores when one is created. -/
theorem map_inserted {β : Type} (f : Slot → β) (slots : List Slot) (position : Nat) (new : Slot) :
    ((slots.take position ++ new :: slots.drop position).map f).Perm (f new :: slots.map f) := by
  rw [List.map_append, List.map_cons]
  refine List.perm_middle.trans (List.Perm.cons _ ?_)
  rw [← List.map_append, List.take_append_drop]

theorem map_setPhase {β : Type} {f : Slot → β} (hf : ∀ s ph, f { s with phase := ph } = f s)
    (a : Control) (name : String) (ph : RestorePhase) :
    (a.setPhase name ph).slots.map f = a.slots.map f := by
  simp only [Control.setPhase, List.map_map]
  apply List.map_congr_left
  intro s _
  by_cases h : s.name = name
  · simp only [Function.comp_apply, if_pos h]
    exact hf s _
  · simp only [Function.comp_apply, if_neg h]

/-- **Names and identities tell the restores apart**, and identities are not used twice. -/
structure WellFormed (a : Control) : Prop where
  names : (a.slots.map (·.name)).Nodup
  uids : (a.slots.map (·.uid)).Nodup
  used : ∀ s ∈ a.slots, s.uid < a.nextUid

namespace WellFormed

variable {a : Control}

theorem eq_of_name (h : WellFormed a) {s t : Slot} (hs : s ∈ a.slots) (ht : t ∈ a.slots)
    (hname : s.name = t.name) : s = t :=
  List.inj_on_of_nodup_map h.names hs ht hname

theorem eq_of_uid (h : WellFormed a) {s t : Slot} (hs : s ∈ a.slots) (ht : t ∈ a.slots)
    (huid : s.uid = t.uid) : s = t :=
  List.inj_on_of_nodup_map h.uids hs ht huid

/-- Nothing but the restores and the supply of identities matters. -/
theorem of_same {a' : Control} (h : WellFormed a) (hslots : a'.slots = a.slots)
    (huid : a.nextUid ≤ a'.nextUid) : WellFormed a' := by
  refine ⟨by rw [hslots]; exact h.names, by rw [hslots]; exact h.uids, ?_⟩
  intro s hs
  rw [hslots] at hs
  exact (h.used s hs).trans_le huid

theorem setPhase (h : WellFormed a) (name : String) (ph : RestorePhase) :
    WellFormed (a.setPhase name ph) := by
  refine ⟨?_, ?_, ?_⟩
  · rw [map_setPhase fun _ _ => rfl]
    exact h.names
  · rw [map_setPhase fun _ _ => rfl]
    exact h.uids
  · intro s hs
    rcases mem_setPhase.mp hs with ⟨t, ht, _, rfl⟩ | ⟨hs, _⟩
    · exact h.used t ht
    · exact h.used s hs

theorem drop (h : WellFormed a) (name : String) : WellFormed (a.drop name) :=
  ⟨h.names.sublist (List.filter_sublist.map _), h.uids.sublist (List.filter_sublist.map _),
    fun s hs => h.used s (mem_drop.mp hs).1⟩

theorem created (h : WellFormed a) {position : Nat} {name : String}
    (hname : ∀ s ∈ a.slots, s.name ≠ name) (history : List Entry) :
    WellFormed { a with
      slots := a.slots.take position ++
        { uid := a.nextUid, name := name, phase := none } :: a.slots.drop position
      nextUid := a.nextUid + 1
      history := history } := by
  refine ⟨?_, ?_, ?_⟩
  · refine (map_inserted _ _ _ _).nodup_iff.mpr (List.nodup_cons.mpr ⟨?_, h.names⟩)
    intro hmem
    obtain ⟨s, hs, hsame⟩ := List.mem_map.mp hmem
    exact hname s hs hsame
  · refine (map_inserted _ _ _ _).nodup_iff.mpr (List.nodup_cons.mpr ⟨?_, h.uids⟩)
    intro hmem
    obtain ⟨s, hs, hsame⟩ := List.mem_map.mp hmem
    exact absurd hsame (h.used s hs).ne
  · intro s hs
    rcases mem_inserted.mp hs with rfl | hs
    · exact Nat.lt_succ_self _
    · exact (h.used s hs).trans (Nat.lt_succ_self _)

end WellFormed

variable {ctx : Context} {w₀ : World}

theorem ReplicaAct.wellFormed {p : ReplicaPass} {a a' : Control} (h : ReplicaAct ctx p w₀ a a')
    (ha : WellFormed a) : WellFormed a' := by
  cases h with
  | migrationJobCreated => exact ha.of_same rfl (Nat.le_succ _)
  | jobCreated => exact ha.of_same rfl (Nat.le_succ _)
  | snapshotJobCreated => exact ha.of_same rfl (Nat.le_succ _)
  | activated => exact (ha.setPhase _ _).of_same rfl le_rfl
  | switchedOver => exact (ha.setPhase _ _).of_same rfl le_rfl
  | switchedOverReported => exact (ha.setPhase _ _).of_same rfl le_rfl
  | verifiedDeleted => exact ha.drop _
  | swept => exact (ha.drop _).of_same rfl le_rfl
  | failedDeleted => exact ha.drop _
  | restoreCreated _ _ _ _ hname => exact ha.created hname _
  | _ => exact ha.of_same rfl le_rfl

theorem RestoreAct.wellFormed {p : RestorePass} {r : Restore} {a a' : Control}
    (h : RestoreAct p w₀ r a a') (ha : WellFormed a) : WellFormed a' := by
  cases h with
  | jobCreated => exact ha.of_same rfl (Nat.le_succ _)
  | pending => exact ha.setPhase _ _
  | restoring => exact ha.setPhase _ _
  | restoringMarked => exact (ha.setPhase _ _).of_same rfl le_rfl
  | ready => exact ha.setPhase _ _
  | migrating => exact ha.setPhase _ _
  | switching => exact (ha.setPhase _ _).of_same rfl le_rfl
  | failed => exact ha.setPhase _ _
  | _ => exact ha.of_same rfl le_rfl

theorem Act.wellFormed {e : Event} {a a' : Control} (h : Act ctx w₀ e a a') (ha : WellFormed a) :
    WellFormed a' := by
  cases h with
  | replica h => exact h.wellFormed ha
  | restore _ h => exact h.wellFormed ha
  | restoreDeleted => exact ha.drop _
  | _ => exact ha.of_same rfl le_rfl

theorem wellFormed_initial (key : ReplicaKey) (spec : ReplicaSpec) :
    WellFormed (control (World.initial key spec)) :=
  ⟨List.nodup_nil, List.nodup_nil, fun _ hs => by cases hs⟩

/-! ## The log -/

theorem ReplicaAct.history {p : ReplicaPass} {a a' : Control} (h : ReplicaAct ctx p w₀ a a') :
    a.history <:+ a'.history := by
  cases h with
  | switchedOverReported => exact (List.suffix_cons _ _).trans (List.suffix_cons _ _)
  | _ => first | exact List.suffix_rfl | exact List.suffix_cons _ _

theorem RestoreAct.history {p : RestorePass} {r : Restore} {a a' : Control}
    (h : RestoreAct p w₀ r a a') : a.history <:+ a'.history := by
  cases h <;> first | exact List.suffix_rfl | exact List.suffix_cons _ _

/-- The log only grows. -/
theorem Act.history {e : Event} {a a' : Control} (h : Act ctx w₀ e a a') :
    a.history <:+ a'.history := by
  cases h with
  | replica h => exact h.history
  | restore _ h => exact h.history
  | _ => exact List.suffix_rfl

/-- The log of a world is kept through a step. -/
theorem history_of_acts {e : Event} {a : Control}
    (h : ReflTransGen (Act ctx w₀ e) (control w₀) a) : w₀.history <:+ a.history := by
  induction h with
  | refl => exact List.suffix_rfl
  | tail _ h ih => exact ih.trans h.history

/-! ## Identities -/

/-- Identities are only ever handed out. -/
theorem Act.nextUid {e : Event} {a a' : Control} (h : Act ctx w₀ e a a') :
    a.nextUid ≤ a'.nextUid := by
  cases h with
  | replica h => cases h <;> first | exact le_rfl | exact Nat.le_succ _
  | restore _ h => cases h <;> first | exact le_rfl | exact Nat.le_succ _
  | _ => exact le_rfl

theorem nextUid_of_acts {e : Event} {a : Control}
    (h : ReflTransGen (Act ctx w₀ e) (control w₀) a) : (control w₀).nextUid ≤ a.nextUid := by
  induction h with
  | refl => exact le_rfl
  | tail _ h ih => exact ih.trans h.nextUid

/-! ## A pass on one restore -/

/-- **What a pass on the restore `r` leaves alone**: the other restores, who `r` is, and the markers of
    the replica; and it creates no migration Job. -/
structure OnlyRestore (w₀ : World) (r : Restore) (a : Control) : Prop where
  others : ∀ s ∈ a.slots, s.name ≠ r.name → s ∈ (control w₀).slots
  self : ∀ s ∈ a.slots, s.name = r.name → s.uid = r.uid
  redaction : a.redaction = (control w₀).redaction
  migration : a.migration = (control w₀).migration
  migrationJob : (control w₀).migrationJob = none → a.migrationJob = none

namespace OnlyRestore

variable {r : Restore} {a : Control}

theorem setPhase (h : OnlyRestore w₀ r a) (ph : RestorePhase) :
    OnlyRestore w₀ r (a.setPhase r.name ph) := by
  refine ⟨?_, ?_, h.redaction, h.migration, h.migrationJob⟩
  · intro s hs hname
    rcases mem_setPhase.mp hs with ⟨t, _, ht, rfl⟩ | ⟨hs, _⟩
    · exact absurd ht hname
    · exact h.others s hs hname
  · intro s hs hname
    rcases mem_setPhase.mp hs with ⟨t, hmem, ht, rfl⟩ | ⟨hs, hne⟩
    · exact h.self t hmem ht
    · exact absurd hname hne

end OnlyRestore

theorem RestoreAct.onlyRestore {p : RestorePass} {r : Restore} {a a' : Control}
    (h : RestoreAct p w₀ r a a') (ha : OnlyRestore w₀ r a) : OnlyRestore w₀ r a' := by
  cases h with
  | pending => exact ha.setPhase _
  | restoring => exact ha.setPhase _
  | restoringMarked =>
    have hset := ha.setPhase .restoring
    exact ⟨hset.others, hset.self, hset.redaction, hset.migration, hset.migrationJob⟩
  | ready => exact ha.setPhase _
  | migrating => exact ha.setPhase _
  | switching =>
    have hset := ha.setPhase .switching
    exact ⟨hset.others, hset.self, hset.redaction, hset.migration, hset.migrationJob⟩
  | failed => exact ha.setPhase _
  | jobDropped k =>
    refine ⟨ha.others, ha.self, ha.redaction, ha.migration, ?_⟩
    intro hnone
    simp only [Control.dropJob]
    split
    · rfl
    · exact ha.migrationJob hnone
  | _ => exact ⟨ha.others, ha.self, ha.redaction, ha.migration, ha.migrationJob⟩

/-- The slot of a listed restore. -/
theorem slot_mem {w : World} {r : Restore} (h : r ∈ w.restores) : r.slot ∈ (control w).slots :=
  List.mem_map_of_mem h

/-- A pass on a restore changes that restore only. -/
theorem onlyRestore_of_acts {name : String} {p : RestorePass} {r : Restore} {a : Control}
    (hwf : WellFormed (control w₀))
    (hr : w₀.restores.find? (fun r => r.name == name) = some r)
    (h : ReflTransGen (Act ctx w₀ (.restorePass name p)) (control w₀) a) : OnlyRestore w₀ r a := by
  induction h with
  | refl =>
    refine ⟨fun s hs _ => hs, ?_, rfl, rfl, fun h => h⟩
    intro s hs hname
    rw [hwf.eq_of_name hs (slot_mem (List.mem_of_find?_eq_some hr)) hname]
    rfl
  | tail _ h ih =>
    cases h with
    | restore hr' h =>
      obtain rfl : r = _ := Option.some.inj (hr.symm.trans hr')
      exact h.onlyRestore ih
    | forgotten => exact ⟨ih.others, ih.self, ih.redaction, ih.migration, ih.migrationJob⟩

/-! ## Who is in a phase -/

/-- Moving a restore to one phase puts none into another. -/
theorem mem_of_setPhase_other {a : Control} {name : String} {ph ph' : RestorePhase} {s : Slot}
    (hs : s ∈ (a.setPhase name ph).slots) (hphase : s.phase = some ph') (hne : ph ≠ ph') :
    s ∈ a.slots := by
  rcases mem_setPhase.mp hs with ⟨t, _, _, rfl⟩ | ⟨hs, _⟩
  · exact absurd (Option.some.inj hphase) hne
  · exact hs

/-- The restores in the phase after an act were in it before. -/
def NoneEnters (ph : RestorePhase) (a a' : Control) : Prop :=
  ∀ s ∈ a'.slots, s.phase = some ph → s ∈ a.slots

theorem NoneEnters.of_eq {ph : RestorePhase} {a a' : Control} (h : a'.slots = a.slots) :
    NoneEnters ph a a' := fun _ hs _ => h ▸ hs

theorem NoneEnters.setPhase {ph ph' : RestorePhase} {a a' : Control} {name : String} (hne : ph' ≠ ph)
    (h : a'.slots = (a.setPhase name ph').slots) : NoneEnters ph a a' :=
  fun _ hs hphase => mem_of_setPhase_other (h ▸ hs) hphase hne

theorem NoneEnters.drop {ph : RestorePhase} {a a' : Control} {name : String}
    (h : a'.slots = (a.drop name).slots) : NoneEnters ph a a' :=
  fun _ hs _ => (mem_drop.mp (h ▸ hs)).1

theorem NoneEnters.created {ph : RestorePhase} {a a' : Control} {position uid : Nat} {name : String}
    (h : a'.slots = a.slots.take position ++
      { uid := uid, name := name, phase := none } :: a.slots.drop position) :
    NoneEnters ph a a' := by
  intro s hs hphase
  rcases mem_inserted.mp (h ▸ hs) with rfl | hs
  · cases hphase
  · exact hs

/-- A restore that is still on its way is not settled. -/
theorem unsettled_of_isPending {r : Restore} (h : r.isPending = true) : ¬ r.slot.settled := by
  rintro (hs | hs) <;> simp [Restore.isPending, Restore.inPhase, Restore.slot] at h hs <;>
    rw [hs] at h <;> simp at h

theorem unsettled_of_canFail {r : Restore} (h : r.canFail) : ¬ r.slot.settled := by
  have hphase : r.slot.phase = some .restoring ∨ r.slot.phase = some .ready ∨
      r.slot.phase = some .migrating := by
    rcases h with h | h | h
    · exact .inl (beq_iff_eq.mp h)
    · exact .inr (.inl (beq_iff_eq.mp h))
    · exact .inr (.inr (beq_iff_eq.mp h))
  rintro (hs | hs) <;> rw [hs] at hphase <;> simp at hphase

theorem ready_of_readyToSwitch {w : World} {r : Restore} (h : readyToSwitch w r = true) :
    r.inPhase .ready = true := by
  simp only [readyToSwitch, Bool.and_eq_true] at h
  exact h.1.1.1

/-- The replica controller lets no restore into Switching. -/
theorem ReplicaAct.noneSwitches {p : ReplicaPass} {a a' : Control} (h : ReplicaAct ctx p w₀ a a') :
    NoneEnters .switching a a' := by
  cases h with
  | activated => exact .setPhase (by simp) rfl
  | switchedOver => exact .setPhase (by simp) rfl
  | switchedOverReported => exact .setPhase (by simp) rfl
  | verifiedDeleted => exact .drop rfl
  | swept => exact .drop rfl
  | failedDeleted => exact .drop rfl
  | restoreCreated => exact .created rfl
  | _ => exact .of_eq rfl

/-- An entry with which a restore comes to its end. -/
def Entry.isOutcome : Entry → Bool
  | .failureRecorded _ _ _ => true
  | .reported _ _ => true
  | _ => false

/-- **What an act of the restore controller leaves to the gates** of the switchover: it lets no restore
    into Switching, moves no marker and creates no migration Job. -/
structure LeftToGates (a a' : Control) : Prop where
  slots : NoneEnters .switching a a'
  redaction : a'.redaction = a.redaction
  migration : a'.migration = a.migration
  migrationJob : a'.migrationJob = a.migrationJob ∨ a'.migrationJob = none
  log : a'.history = a.history ∨ ∃ e, a'.history = e :: a.history ∧ e.isOutcome = true

theorem LeftToGates.of_setPhase {a a' : Control} {name : String} {ph : RestorePhase}
    (hph : ph ≠ .switching) (h : a' = { a.setPhase name ph with queue := a'.queue }) :
    LeftToGates a a' := by
  have hslots : a'.slots = (a.setPhase name ph).slots := by
    rw [h]
  refine ⟨.setPhase hph hslots, ?_, ?_, .inl ?_, .inl ?_⟩ <;> rw [h] <;> rfl

/-- **The acts of the restore controller, as the gates see them**: one lets a restore into Switching,
    and the others leave everything to the gates. -/
theorem RestoreAct.gates_cases {p : RestorePass} {r : Restore} {a a' : Control}
    (h : RestoreAct p w₀ r a a') :
    (readyToSwitch w₀ r = true ∧
      a' = (a.setPhase r.name .switching).log (.enteredSwitching r.uid)) ∨ LeftToGates a a' := by
  cases h with
  | switching hr => exact .inl ⟨hr, rfl⟩
  | pending => exact .inr (.of_setPhase (by simp) rfl)
  | restoring => exact .inr (.of_setPhase (by simp) rfl)
  | restoringMarked => exact .inr (.of_setPhase (by simp) rfl)
  | ready => exact .inr (.of_setPhase (by simp) rfl)
  | migrating => exact .inr (.of_setPhase (by simp) rfl)
  | failed => exact .inr (.of_setPhase (by simp) rfl)
  | jobDropped k =>
    refine .inr ⟨.of_eq rfl, rfl, rfl, ?_, .inl rfl⟩
    by_cases hk : k = .schemaMigration
    · exact .inr (if_pos hk)
    · exact .inl (if_neg hk)
  | failureRecorded => exact .inr ⟨.of_eq rfl, rfl, rfl, .inl rfl, .inr ⟨_, rfl, rfl⟩⟩
  | reported => exact .inr ⟨.of_eq rfl, rfl, rfl, .inl rfl, .inr ⟨_, rfl, rfl⟩⟩
  | _ => exact .inr ⟨.of_eq rfl, rfl, rfl, .inl rfl, .inl rfl⟩

/-- The restore controller lets no restore into Active. -/
theorem RestoreAct.noneActivates {p : RestorePass} {r : Restore} {a a' : Control}
    (h : RestoreAct p w₀ r a a') : NoneEnters .active a a' := by
  cases h with
  | pending => exact .setPhase (by simp) rfl
  | restoring => exact .setPhase (by simp) rfl
  | restoringMarked => exact .setPhase (by simp) rfl
  | ready => exact .setPhase (by simp) rfl
  | migrating => exact .setPhase (by simp) rfl
  | switching => exact .setPhase (by simp) rfl
  | failed => exact .setPhase (by simp) rfl
  | _ => exact .of_eq rfl

/-- The switching restore of a pass is in the phase. -/
theorem switching_slot {w : World} {r : Restore} (h : switchingRestore w.restores = some r) :
    r.slot ∈ (control w).slots ∧ r.slot.phase = some .switching := by
  have hphase := List.find?_some (p := fun r : Restore => r.inPhase .switching) h
  exact ⟨slot_mem (List.mem_of_find?_eq_some h), beq_iff_eq.mp hphase⟩

/-- Without a switching restore none is in the phase. -/
theorem noneSwitching {w : World} (h : switchingRestore w.restores = none) :
    ∀ s ∈ (control w).slots, s.phase ≠ some .switching := by
  intro s hs hphase
  obtain ⟨r, hr, rfl⟩ := List.mem_map.mp hs
  exact List.find?_eq_none.mp h r hr (beq_iff_eq.mpr hphase)

/-- A restore that enters Switching when none is in the phase is the only one. -/
theorem OnlyRestore.onlySwitching {r : Restore} {a : Control} (h : OnlyRestore w₀ r a)
    (hnone : switchingRestore w₀.restores = none) :
    ∀ s ∈ (a.setPhase r.name .switching).slots, s.phase = some .switching → s.name = r.name := by
  intro s hs hphase
  by_contra hname
  exact noneSwitching hnone s ((h.setPhase .switching).others s hs hname) hphase

/-- The active restore of a pass is in the phase. -/
theorem active_slot {w : World} {r : Restore} (h : activeRestore w.restores = some r) :
    r.slot ∈ (control w).slots ∧ r.slot.phase = some .active := by
  have hphase := List.find?_some (p := fun r : Restore => r.inPhase .active) h
  exact ⟨slot_mem (List.mem_of_find?_eq_some h), beq_iff_eq.mp hphase⟩

end RestoreOperator
