import Mathlib.Tactic.Linarith
import Mathlib.Tactic.NormNum
import RestoreOperator.Restore.CachePressure
import RestoreOperator.System.Restores

/-!
# `Correctness.CacheVolume` — the size of the shared cache volume

Two paths grow the volume: a restore's snapshot, and pressure reported by its Job.  Each writes a
size only when it is larger than the one it read, so the volume never shrinks, whatever the order of
the snapshots; and neither goes past twice the default of the largest of them.
-/

namespace RestoreOperator

open Calls

/-! ## Sizes -/

/-- The default size is a fifth of the snapshot, and at least 10 GiB. -/
theorem kopiaCachePvcSize_eq (size : Quantity) :
    kopiaCachePvcSize size = max ((size.parsed.map (· * (2 / 10))).getD 0) (10 * gibibyte) := by
  unfold kopiaCachePvcSize
  simp only []
  split
  · rename_i h
    rw [max_eq_left h.le]
  · rename_i h
    rw [max_eq_right (not_lt.mp h)]

theorem kopiaCachePvcSize_pos (size : Quantity) : 0 < kopiaCachePvcSize size := by
  rw [kopiaCachePvcSize_eq]
  apply lt_max_of_lt_right
  norm_num [gibibyte]

/-- A larger snapshot has no smaller default. -/
theorem kopiaCachePvcSize_mono {q largest : Quantity} {a b : ℚ} (hq : q.parsed = some a)
    (hlargest : largest.parsed = some b) (h : a ≤ b) :
    kopiaCachePvcSize q ≤ kopiaCachePvcSize largest := by
  rw [kopiaCachePvcSize_eq, kopiaCachePvcSize_eq, hq, hlargest]
  apply max_le_max_right
  simp only [Option.map_some, Option.getD_some]
  linarith

/-- Pressure asks for no more than the cap of the snapshot it is about. -/
theorem nextCachePvcSizeAfterPressure_le (current : ℚ) (size : Quantity) :
    nextCachePvcSizeAfterPressure current size ≤ 2 * kopiaCachePvcSize size := by
  unfold nextCachePvcSizeAfterPressure kopiaCachePvcMax
  simp only []
  split
  · linarith
  · rename_i h
    linarith

/-! ## What one call does -/

/-- The world with another size of the volume. -/
def World.resizeCache (size : ℚ) (w : World) : World := { w with cachePvc := some size }

/-- What a call that may resize the volume leaves: the world as it was, or, under a condition, with
    the new size. -/
def Resized (w : World) (size : ℚ) (guard : Prop) (w' : World) : Prop :=
  w' = w ∨ (w' = w.resizeCache size ∧ guard)

/-- Under its condition, the write keeps to what may be left. -/
theorem Resized.call (w : World) (size : ℚ) {guard : Prop} (h : guard) (c : Call) :
    Prog.Keeps (Resized w size guard) (Prog.call c (World.resizeCache size) : Op Unit) := by
  apply Prog.Keeps.call
  rintro w' (rfl | ⟨rfl, -⟩)
  · exact Or.inr ⟨rfl, h⟩
  · exact Or.inr ⟨rfl, h⟩

/-- **A restore's own call** leaves the volume alone, or writes the snapshot's default to a volume
    that was smaller, or not there. -/
theorem ensureKopiaCachePvc_state (restore : Restore) (ρ : Call → Reply Error) (w : World) :
    Resized w (kopiaCachePvcSize restore.spec.snapshotSize)
      (∀ c, w.cachePvc = some c → c < kopiaCachePvcSize restore.spec.snapshotSize)
      (ensureKopiaCachePvc restore ρ w).state := by
  unfold ensureKopiaCachePvc
  apply Prog.Keeps.state_read_bind (I := Resized w _ _) (Or.inl rfl)
  cases hcurrent : w.cachePvc with
  | none =>
    have hguard : ∀ c, (none : Option ℚ) = some c →
        c < kopiaCachePvcSize restore.spec.snapshotSize := fun c hc => absurd hc (by simp)
    exact Prog.Keeps.bind (keeps_getReplica .getReplica) (fun _ => Resized.call w _ hguard .createCachePvc)
      ρ w (Or.inl rfl)
  | some current =>
    simp only []
    split
    · rename_i hgrow
      have hguard : ∀ c, some current = some c →
          c < kopiaCachePvcSize restore.spec.snapshotSize := by
        intro c hc
        rw [← Option.some.inj hc]
        exact hgrow
      exact Prog.Keeps.bind (Prog.Keeps.bestEffort (Resized.call w _ hguard .growCachePvc))
        (fun _ => Prog.Keeps.ret ()) ρ w (Or.inl rfl)
    · exact Or.inl rfl

/-- What a pressure event may leave: the world as it was, or the volume raised to what pressure asks
    for at the snapshot of the restore that reported it. -/
def Pressed (name : String) (w w' : World) : Prop :=
  w' = w ∨ ∃ restore current, (w.restores.find? fun r => r.name == name) = some restore ∧
    w.cachePvc = some current ∧
    current < nextCachePvcSizeAfterPressure current restore.spec.snapshotSize ∧
    w' = w.resizeCache (nextCachePvcSizeAfterPressure current restore.spec.snapshotSize)

/-- **A pressure event** leaves the volume alone, or raises it. -/
theorem growCachePvcAfterPressure_state (name : String) (ρ : Call → Reply Error) (w : World) :
    Pressed name w (growCachePvcAfterPressure name ρ w).state := by
  have hsame : Pressed name w w := Or.inl rfl
  unfold growCachePvcAfterPressure
  apply Prog.Keeps.state_attempt_read_bind hsame
  · cases hfound : w.restores.find? fun r => r.name == name with
    | none => exact hsame
    | some restore =>
      simp only []
      apply Prog.Keeps.state_attempt_read_bind hsame
      · cases hcurrent : w.cachePvc with
        | none => exact hsame
        | some current =>
          simp only []
          split
          · rename_i hgrow
            have hlt : current < nextCachePvcSizeAfterPressure current restore.spec.snapshotSize :=
              of_decide_eq_true hgrow
            have hcall := Resized.call w
              (nextCachePvcSizeAfterPressure current restore.spec.snapshotSize) hlt .growPressuredCache
            have hkept := Prog.Keeps.bind (Prog.Keeps.bestEffort hcall)
              (fun _ => Prog.Keeps.ret ()) ρ w (Or.inl rfl)
            rcases hkept with hkept | ⟨hnew, -⟩
            · exact Or.inl hkept
            · exact Or.inr ⟨restore, current, hfound, hcurrent, hlt, hnew⟩
          · exact hsame
      · exact fun _ => hsame
  · exact fun _ => hsame

/-! ## Every run -/

/-- **A step of a run**, with the snapshot sizes it brings up: a restore's call, a pressure event,
    or anything else, which leaves the volume alone. -/
inductive CacheStep : World → List Quantity → World → Prop where
  | ensure (restore : Restore) (ρ : Call → Reply Error) (w : World) :
      CacheStep w [restore.spec.snapshotSize] (ensureKopiaCachePvc restore ρ w).state
  | pressure (name : String) (ρ : Call → Reply Error) (w : World) :
      CacheStep w ((w.restores.find? fun r => r.name == name).map fun r => r.spec.snapshotSize).toList
        (growCachePvcAfterPressure name ρ w).state
  | other {w w' : World} (h : w'.cachePvc = w.cachePvc) : CacheStep w [] w'

/-- **A run**, with the snapshot sizes seen in it. -/
inductive CacheRun (w₀ : World) : List Quantity → World → Prop where
  | start : CacheRun w₀ [] w₀
  | step {seen new : List Quantity} {w w' : World} (run : CacheRun w₀ seen w)
      (h : CacheStep w new w') : CacheRun w₀ (new ++ seen) w'

/-- **The ratchet**: no step makes the volume smaller. -/
theorem CacheStep.le {w w' : World} {new : List Quantity} (h : CacheStep w new w') {c : ℚ}
    (hc : w.cachePvc = some c) : ∃ c', w'.cachePvc = some c' ∧ c ≤ c' := by
  cases h with
  | ensure restore ρ =>
    rcases ensureKopiaCachePvc_state restore ρ w with hsame | ⟨hnew, hlt⟩
    · rw [hsame]
      exact ⟨c, hc, le_rfl⟩
    · rw [hnew]
      exact ⟨_, rfl, (hlt c hc).le⟩
  | pressure name ρ =>
    rcases growCachePvcAfterPressure_state name ρ w with hsame | ⟨_, current, _, hcurrent, hlt, hnew⟩
    · rw [hsame]
      exact ⟨c, hc, le_rfl⟩
    · rw [hnew]
      obtain rfl := Option.some.inj (hc.symm.trans hcurrent)
      exact ⟨_, rfl, hlt.le⟩
  | other hother => exact ⟨c, hother.trans hc, le_rfl⟩

/-- **The cap**: a step leaves the volume at its size, or within twice the default of a snapshot it
    brings up. -/
theorem CacheStep.bound {w w' : World} {new : List Quantity} (h : CacheStep w new w') :
    w'.cachePvc = w.cachePvc ∨
      ∃ q ∈ new, ∃ c, w'.cachePvc = some c ∧ c ≤ 2 * kopiaCachePvcSize q := by
  cases h with
  | ensure restore ρ =>
    rcases ensureKopiaCachePvc_state restore ρ w with hsame | ⟨hnew, -⟩
    · rw [hsame]
      exact Or.inl rfl
    · rw [hnew]
      have hpos := kopiaCachePvcSize_pos restore.spec.snapshotSize
      exact Or.inr ⟨_, List.mem_singleton_self _, _, rfl, by linarith⟩
  | pressure name ρ =>
    rcases growCachePvcAfterPressure_state name ρ w with hsame | ⟨restore, c, hfound, -, -, hnew⟩
    · rw [hsame]
      exact Or.inl rfl
    · rw [hnew, hfound]
      exact Or.inr ⟨_, List.mem_singleton_self _, _, rfl, nextCachePvcSizeAfterPressure_le c _⟩
  | other hother => exact Or.inl hother

/-- The volume of a run stays within twice the default of some snapshot seen. -/
theorem CacheRun.bound {w₀ w : World} {seen : List Quantity} (run : CacheRun w₀ seen w)
    (h₀ : w₀.cachePvc = none) {c : ℚ} (hc : w.cachePvc = some c) :
    ∃ q ∈ seen, c ≤ 2 * kopiaCachePvcSize q := by
  induction run generalizing c with
  | start =>
    rw [h₀] at hc
    exact absurd hc (by simp)
  | @step seen new w w' run h ih =>
    rcases h.bound with hsame | ⟨q, hq, c', hc', hle⟩
    · obtain ⟨q, hq, hle⟩ := ih (hsame.symm.trans hc)
      exact ⟨q, List.mem_append_right _ hq, hle⟩
    · obtain rfl := Option.some.inj (hc'.symm.trans hc)
      exact ⟨q, List.mem_append_left _ hq, hle⟩

/-! ## Pressure on one snapshot -/

/-- A pressure event none of whose calls fails. -/
def press (name : String) (w : World) : World :=
  (growCachePvcAfterPressure name (fun _ => .ok) w).state

section Press

variable {name : String} {restore : Restore} {w : World}

theorem press_eq (hfound : (w.restores.find? fun r => r.name == name) = some restore) {c : ℚ}
    (hc : w.cachePvc = some c) :
    press name w =
      if c < nextCachePvcSizeAfterPressure c restore.spec.snapshotSize then
        w.resizeCache (nextCachePvcSizeAfterPressure c restore.spec.snapshotSize)
      else w := by
  unfold press growCachePvcAfterPressure
  simp only [Prog.bind_eq_andThen, Prog.andThen, Prog.attempt, Prog.read, hfound, hc]
  unfold cacheSizeNeedsGrow
  by_cases hgrow : c < nextCachePvcSizeAfterPressure c restore.spec.snapshotSize
  · simp [hgrow, Prog.bestEffort, Prog.call, Prog.andThen, Prog.ret, Outcome.state,
      World.resizeCache]
  · simp [hgrow, Prog.ret, Outcome.state]

/-- Below the cap, one event grows the volume by the factor, as far as the cap. -/
theorem press_size (hfound : (w.restores.find? fun r => r.name == name) = some restore) {c : ℚ}
    (hc : w.cachePvc = some c) (hpos : 0 < c) (hcap : c < kopiaCachePvcMax restore.spec.snapshotSize) :
    press name w = w.resizeCache
      (min (c * (115 / 100)) (kopiaCachePvcMax restore.spec.snapshotSize)) := by
  have hnext : nextCachePvcSizeAfterPressure c restore.spec.snapshotSize
      = min (c * (115 / 100)) (kopiaCachePvcMax restore.spec.snapshotSize) := by
    unfold nextCachePvcSizeAfterPressure kopiaCachePressureGrowthFactor
    simp only []
    split
    · rename_i h
      rw [min_eq_right h.le]
    · rename_i h
      rw [min_eq_left (not_lt.mp h)]
  rw [press_eq hfound hc, hnext, if_pos]
  apply lt_min _ hcap
  linarith

/-- At the cap no event changes anything. -/
theorem pressed_at_cap (hfound : (w.restores.find? fun r => r.name == name) = some restore)
    (hcap : w.cachePvc = some (kopiaCachePvcMax restore.spec.snapshotSize))
    (ρ : Call → Reply Error) : (growCachePvcAfterPressure name ρ w).state = w := by
  rcases growCachePvcAfterPressure_state name ρ w with hsame | ⟨r, c, hr, hc, hlt, -⟩
  · exact hsame
  · obtain rfl := Option.some.inj (hfound.symm.trans hr)
    obtain rfl := Option.some.inj (hcap.symm.trans hc)
    have hle := nextCachePvcSizeAfterPressure_le
      (kopiaCachePvcMax restore.spec.snapshotSize) restore.spec.snapshotSize
    unfold kopiaCachePvcMax at hlt hle
    linarith

/-- **Pressure grows the volume geometrically**, as far as the cap. -/
theorem press_iterate (hfound : (w.restores.find? fun r => r.name == name) = some restore)
    (hstart : w.cachePvc = some (kopiaCachePvcSize restore.spec.snapshotSize)) (k : Nat) :
    (((press name)^[k] w).restores.find? fun r => r.name == name) = some restore ∧
      ((press name)^[k] w).cachePvc =
        some (min (kopiaCachePvcSize restore.spec.snapshotSize * (115 / 100) ^ k)
          (kopiaCachePvcMax restore.spec.snapshotSize)) := by
  have hsize := kopiaCachePvcSize_pos restore.spec.snapshotSize
  induction k with
  | zero =>
    refine ⟨hfound, ?_⟩
    rw [Function.iterate_zero_apply, hstart, pow_zero, mul_one, min_eq_left]
    unfold kopiaCachePvcMax
    linarith
  | succ k ih =>
    obtain ⟨hthere, hsized⟩ := ih
    have hgrown : 0 < kopiaCachePvcSize restore.spec.snapshotSize * (115 / 100) ^ k := by positivity
    rw [Function.iterate_succ_apply', pow_succ, ← mul_assoc]
    generalize (press name)^[k] w = v at hthere hsized ⊢
    generalize kopiaCachePvcSize restore.spec.snapshotSize * (115 / 100 : ℚ) ^ k = grown
      at hgrown hsized ⊢
    by_cases hcap : grown < kopiaCachePvcMax restore.spec.snapshotSize
    · rw [min_eq_left hcap.le] at hsized
      rw [press_size hthere hsized hgrown hcap]
      exact ⟨hthere, rfl⟩
    · -- the cap was reached, and stays
      rw [min_eq_right (not_lt.mp hcap)] at hsized
      have hsame : press name v = v := pressed_at_cap hthere hsized fun _ => .ok
      rw [hsame, min_eq_right (by linarith)]
      exact ⟨hthere, hsized⟩

end Press

/-- **The cache volume of a replica.**  No step of any run makes it smaller; in a run from before
    there was one it stays within twice the default of the largest snapshot seen; and pressure on
    one snapshot takes it from the default exactly to the cap in five events, not in four, after
    which no event changes it. -/
theorem cache_volume_ratchet :
    (∀ w new w', CacheStep w new w' → ∀ c, w.cachePvc = some c →
      ∃ c', w'.cachePvc = some c' ∧ c ≤ c') ∧
    (∀ w₀ seen w, w₀.cachePvc = none → CacheRun w₀ seen w →
      ∀ largest b, largest.parsed = some b → (∀ q ∈ seen, ∃ a, q.parsed = some a ∧ a ≤ b) →
        ∀ c, w.cachePvc = some c → c ≤ 2 * kopiaCachePvcSize largest) ∧
    (∀ name restore w, (w.restores.find? fun r => r.name == name) = some restore →
      w.cachePvc = some (kopiaCachePvcSize restore.spec.snapshotSize) →
        ((press name)^[5] w).cachePvc = some (kopiaCachePvcMax restore.spec.snapshotSize) ∧
        ((press name)^[4] w).cachePvc ≠ some (kopiaCachePvcMax restore.spec.snapshotSize) ∧
        ∀ ρ, (growCachePvcAfterPressure name ρ ((press name)^[5] w)).state
          = (press name)^[5] w) := by
  refine ⟨fun w new w' h c hc => h.le hc, ?_, ?_⟩
  · intro w₀ seen w h₀ run largest b hlargest hseen c hc
    obtain ⟨q, hq, hle⟩ := run.bound h₀ hc
    obtain ⟨a, ha, hab⟩ := hseen q hq
    have hmono := kopiaCachePvcSize_mono ha hlargest hab
    linarith
  · intro name restore w hfound hstart
    have hsize := kopiaCachePvcSize_pos restore.spec.snapshotSize
    have hmax : kopiaCachePvcMax restore.spec.snapshotSize
        = kopiaCachePvcSize restore.spec.snapshotSize * 2 := rfl
    obtain ⟨hthere, hfive⟩ := press_iterate hfound hstart 5
    obtain ⟨-, hfour⟩ := press_iterate hfound hstart 4
    have hcap : ((press name)^[5] w).cachePvc
        = some (kopiaCachePvcMax restore.spec.snapshotSize) := by
      rw [hfive, min_eq_right]
      rw [hmax]
      norm_num
      linarith
    refine ⟨hcap, ?_, pressed_at_cap hthere hcap⟩
    rw [hfour]
    intro heq
    have hle := min_eq_right_iff.mp (Option.some.inj heq)
    rw [hmax] at hle
    norm_num at hle
    linarith

end RestoreOperator
