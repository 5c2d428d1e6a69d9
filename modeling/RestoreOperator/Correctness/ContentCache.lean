import RestoreOperator.Correctness.CacheVolume

/-!
# `Correctness.ContentCache` — whether a Job's cache fits its volume

The limit a restore Job is given on its content cache comes from the size the volume should have for
the snapshot, not from the size it has.  The two differ only where the volume was to be grown for the
snapshot and was not.
-/

namespace RestoreOperator

open Calls

/-- **The limit fits the volume**: the content cache and the metadata cache have room in it. -/
def Fits (size : Quantity) (w : World) : Prop :=
  ∃ c, w.cachePvc = some c ∧
    ((kopiaContentCacheMb size + kopiaMetadataCacheMb : Nat) : ℚ) * mebibyte ≤ c

/-- **What a snapshot needs of its volume**: seven tenths of a fifth of the snapshot (of 10 GiB for
    a small one), in whole MiB, and half a GiB. -/
def cacheNeed (size : Quantity) : ℚ :=
  let mib := ⌊max ((size.parsed.getD 0) / 5) (10 * gibibyte) / mebibyte⌋₊
  ((mib - mib * 3 / 10 + 512 : Nat) : ℚ) * mebibyte

/-- The volume was large enough for the snapshot, or the call that grows it took effect. -/
def Enough (restore : Restore) (ρ : Call → Reply Error) (w : World) : Prop :=
  ∀ c, w.cachePvc = some c →
    cacheNeed restore.spec.snapshotSize ≤ c ∨ (ρ .growCachePvc).tookEffect = true

/-! ## The limit -/

/-- The default size in MiB, rounded down. -/
theorem cacheMib_eq (size : Quantity) :
    ⌊kopiaCachePvcSize size / 1024 / 1024⌋₊
      = ⌊max ((size.parsed.getD 0) / 5) (10 * gibibyte) / mebibyte⌋₊ := by
  rw [kopiaCachePvcSize_eq, div_div]
  have hfifth : (size.parsed.map (· * (2 / 10))).getD 0 = size.parsed.getD 0 / 5 := by
    cases size.parsed with
    | none => simp
    | some q =>
      simp only [Option.map_some, Option.getD_some]
      ring
  rw [hfifth]
  norm_num [mebibyte]

/-- The default is at least ten thousand MiB. -/
theorem cacheMib_ge (size : Quantity) : 10240 ≤ ⌊kopiaCachePvcSize size / 1024 / 1024⌋₊ := by
  apply Nat.le_floor
  have hsize : 10 * gibibyte ≤ kopiaCachePvcSize size := by
    rw [kopiaCachePvcSize_eq]
    exact le_max_right _ _
  unfold gibibyte at hsize
  rw [div_div, le_div_iff₀ (by norm_num)]
  norm_num
  linarith

/-- Neither the least reserve nor the least cache comes in: seven tenths are left for the content. -/
theorem kopiaContentCacheMb_eq (size : Quantity) :
    ((kopiaContentCacheMb size + kopiaMetadataCacheMb : Nat) : ℚ) * mebibyte = cacheNeed size := by
  unfold cacheNeed
  rw [← cacheMib_eq]
  have hge := cacheMib_ge size
  unfold kopiaContentCacheMb kopiaCacheReserveMinMb kopiaContentCacheFloorMb kopiaMetadataCacheMb
  generalize ⌊kopiaCachePvcSize size / 1024 / 1024⌋₊ = mib at hge ⊢
  have hcache : max (mib - max (mib * 3 / 10) 2048) 1024 = mib - mib * 3 / 10 := by omega
  simp only [hcache]

/-- The default size is enough. -/
theorem cacheNeed_le (size : Quantity) : cacheNeed size ≤ kopiaCachePvcSize size := by
  unfold cacheNeed
  rw [← cacheMib_eq]
  have hge := cacheMib_ge size
  have hfloor : ((⌊kopiaCachePvcSize size / 1024 / 1024⌋₊ : Nat) : ℚ) * mebibyte
      ≤ kopiaCachePvcSize size := by
    have hpos := kopiaCachePvcSize_pos size
    have hle := Nat.floor_le (a := kopiaCachePvcSize size / 1024 / 1024) (by positivity)
    rw [div_div, le_div_iff₀ (by norm_num)] at hle
    rw [div_div]
    unfold mebibyte
    norm_num at hle ⊢
    exact hle
  generalize ⌊kopiaCachePvcSize size / 1024 / 1024⌋₊ = mib at hge hfloor ⊢
  have hroom : mib - mib * 3 / 10 + 512 ≤ mib := by omega
  have hcast : ((mib - mib * 3 / 10 + 512 : Nat) : ℚ) ≤ (mib : ℚ) := by exact_mod_cast hroom
  have hmebi : (0 : ℚ) ≤ mebibyte := by norm_num [mebibyte]
  exact (mul_le_mul_of_nonneg_right hcast hmebi).trans hfloor

theorem fits_iff (size : Quantity) (w : World) :
    Fits size w ↔ ∃ c, w.cachePvc = some c ∧ cacheNeed size ≤ c := by
  unfold Fits
  rw [kopiaContentCacheMb_eq]

/-! ## One call -/

/-- What a call that returned left of the volume. -/
theorem ensureKopiaCachePvc_done {restore : Restore} {ρ : Call → Reply Error} {w w' : World}
    (h : ensureKopiaCachePvc restore ρ w = .done () w') :
    w'.cachePvc = match w.cachePvc with
      | none => some (kopiaCachePvcSize restore.spec.snapshotSize)
      | some c =>
        if kopiaCachePvcSize restore.spec.snapshotSize > c ∧ (ρ .growCachePvc).tookEffect = true then
          some (kopiaCachePvcSize restore.spec.snapshotSize)
        else some c := by
  unfold ensureKopiaCachePvc at h
  obtain ⟨current, w₁, hread, hrest⟩ := Prog.bind_eq_done h
  obtain ⟨hcurrent, hsame⟩ := Prog.read_eq_done hread
  subst hcurrent
  subst hsame
  cases hpvc : w₁.cachePvc with
  | none =>
    rw [hpvc] at hrest
    obtain ⟨_, w₂, _, hcreate⟩ := Prog.bind_eq_done hrest
    rw [Prog.call_eq_done hcreate]
  | some c =>
    rw [hpvc] at hrest
    simp only [] at hrest ⊢
    by_cases hgrow : kopiaCachePvcSize restore.spec.snapshotSize > c
    · rw [if_pos hgrow] at hrest
      obtain ⟨_, w₂, hcall, hend⟩ := Prog.bind_eq_done hrest
      have hstate := Prog.bestEffort_call_eq_done hcall
      cases hend
      rw [hstate]
      by_cases heffect : (ρ .growCachePvc).tookEffect = true
      · rw [if_pos heffect, if_pos ⟨hgrow, heffect⟩]
      · rw [if_neg heffect, if_neg fun hboth => heffect hboth.2]
        exact hpvc
    · rw [if_neg hgrow] at hrest
      cases hrest
      rw [if_neg fun hboth => hgrow hboth.1]
      exact hpvc

/-- **A call that returned leaves room exactly when there was enough**, or the volume was made or
    grown. -/
theorem ensure_fits_iff {restore : Restore} {ρ : Call → Reply Error} {w w' : World}
    (h : ensureKopiaCachePvc restore ρ w = .done () w') :
    Fits restore.spec.snapshotSize w' ↔ Enough restore ρ w := by
  have hafter := ensureKopiaCachePvc_done h
  have hneed := cacheNeed_le restore.spec.snapshotSize
  rw [fits_iff]
  unfold Enough
  cases hpvc : w.cachePvc with
  | none =>
    rw [hpvc] at hafter
    simp only [] at hafter
    constructor
    · intro _ c hc
      exact absurd hc (by simp)
    · intro _
      exact ⟨_, hafter, hneed⟩
  | some c =>
    rw [hpvc] at hafter
    simp only [] at hafter
    by_cases hgrown : kopiaCachePvcSize restore.spec.snapshotSize > c ∧
        (ρ .growCachePvc).tookEffect = true
    · rw [if_pos hgrown] at hafter
      constructor
      · intro _ _ _
        exact Or.inr hgrown.2
      · intro _
        exact ⟨_, hafter, hneed⟩
    · rw [if_neg hgrown] at hafter
      constructor
      · rintro ⟨c', hc', hle⟩ _ hc
        obtain rfl := Option.some.inj (hafter.symm.trans hc')
        obtain rfl := Option.some.inj hc
        exact Or.inl hle
      · intro henough
        refine ⟨c, hafter, ?_⟩
        rcases henough c rfl with hle | heffect
        · exact hle
        · have hlarge : kopiaCachePvcSize restore.spec.snapshotSize ≤ c :=
            not_lt.mp fun hlt => hgrown ⟨hlt, heffect⟩
          exact hneed.trans hlarge

/-- Room once made stays, since the volume does not shrink. -/
theorem Fits.step {size : Quantity} {w w' : World} {new : List Quantity} (hfits : Fits size w)
    (h : CacheStep w new w') : Fits size w' := by
  obtain ⟨c, hc, hle⟩ := hfits
  obtain ⟨c', hc', hgrown⟩ := h.le hc
  exact ⟨c', hc', hle.trans hgrown⟩

/-! ## Every run -/

/-- **A run up to the creation of Jobs**: `ready` are the snapshots whose own call has returned, so
    that their restore goes on to create its Job.  Those calls meet `P`; any other step may come
    between. -/
inductive ReadyRun (P : Restore → (Call → Reply Error) → World → Prop) (w₀ : World) :
    List Quantity → World → Prop where
  | start : ReadyRun P w₀ [] w₀
  | returned {ready : List Quantity} {w w' : World} (run : ReadyRun P w₀ ready w)
      {restore : Restore} {ρ : Call → Reply Error} (hP : P restore ρ w)
      (h : ensureKopiaCachePvc restore ρ w = .done () w') :
      ReadyRun P w₀ (restore.spec.snapshotSize :: ready) w'
  | step {ready new : List Quantity} {w w' : World} (run : ReadyRun P w₀ ready w)
      (h : CacheStep w new w') : ReadyRun P w₀ ready w'

/-- In a run whose calls find or make enough room, every Job's limit fits. -/
theorem ReadyRun.fits {w₀ w : World} {ready : List Quantity} (run : ReadyRun Enough w₀ ready w) :
    ∀ size ∈ ready, Fits size w := by
  induction run with
  | start =>
    intro size hsize
    exact absurd hsize (by simp)
  | @returned ready w w' run restore ρ hP h ih =>
    intro size hsize
    rcases List.mem_cons.mp hsize with rfl | hsize
    · exact (ensure_fits_iff h).mpr hP
    · have hstep : CacheStep w [restore.spec.snapshotSize] (ensureKopiaCachePvc restore ρ w).state :=
        .ensure restore ρ w
      rw [h] at hstep
      exact (ih size hsize).step hstep
  | step run h ih => exact fun size hsize => (ih size hsize).step h

/-- **The limit on the content cache fits the volume** in every run whose calls each find enough
    room for their snapshot or have the volume grown; and after a call that returned it fits only
    then. -/
theorem content_cache_fits (w : World) :
    (∀ ready w', ReadyRun Enough w ready w' → ∀ size ∈ ready, Fits size w') ∧
    (∀ restore ρ w', ensureKopiaCachePvc restore ρ w = .done () w' →
      (Fits restore.spec.snapshotSize w' ↔ Enough restore ρ w)) :=
  ⟨fun _ _ run => run.fits, fun _ _ _ h => ensure_fits_iff h⟩

/-- A restore of a snapshot of so many GiB. -/
def restoreOf (gib : ℚ) : Restore where
  uid := 0
  name := "prod-restore"
  spec :=
    { replica := "prod"
      snapshot := "k0"
      snapshotSize := .amount (gib * gibibyte)
      storageSize := .amount (gib * gibibyte) }

/-- A replica that has no cache volume yet. -/
def freshWorld : World where
  key := { ns := "default", name := "prod" }
  replica := { name := "prod", spec := { schedule := "0 3 * * *" } }

/-- The storage class does not grow volumes. -/
def refuseGrowth : Call → Reply Error
  | .growCachePvc => .refused (.kube "only dynamically provisioned pvc can be resized")
  | _ => .ok

/-- **A refused growth**: the volume was made for a small snapshot, the next is a hundred times as
    large, and its Job is given a limit over ten times the volume. -/
theorem refused_growth_overfills :
    ∃ ready w, ReadyRun (fun _ _ _ => True) freshWorld ready w ∧
      (restoreOf 1000).spec.snapshotSize ∈ ready ∧
      ¬ Fits (restoreOf 1000).spec.snapshotSize w ∧
      w.cachePvc = some (10 * gibibyte) ∧ kopiaContentCacheMb (restoreOf 1000).spec.snapshotSize = 143360 := by
  have hsmall : kopiaCachePvcSize (restoreOf 10).spec.snapshotSize = 10 * gibibyte := by
    decide +kernel
  have hlarge : kopiaCachePvcSize (restoreOf 1000).spec.snapshotSize > 10 * gibibyte := by
    decide +kernel
  have hneed : ¬ cacheNeed (restoreOf 1000).spec.snapshotSize ≤ 10 * gibibyte := by decide +kernel
  have hfirst : ensureKopiaCachePvc (restoreOf 10) refuseGrowth freshWorld
      = .done () (freshWorld.resizeCache (10 * gibibyte)) := by
    rw [← hsmall]
    rfl
  have hsecond : ensureKopiaCachePvc (restoreOf 1000) refuseGrowth
      (freshWorld.resizeCache (10 * gibibyte))
        = .done () (freshWorld.resizeCache (10 * gibibyte)) := by
    unfold ensureKopiaCachePvc
    rw [Prog.bind_of_done (Prog.read_of_ok rfl)]
    simp only [World.resizeCache]
    rw [if_pos hlarge]
    rfl
  refine ⟨_, _, (ReadyRun.start.returned trivial hfirst).returned trivial hsecond,
    List.mem_cons_self, ?_, rfl, by decide +kernel⟩
  rw [fits_iff]
  rintro ⟨c, hc, hle⟩
  obtain rfl := Option.some.inj hc
  exact hneed hle

end RestoreOperator
