import RestoreOperator.Correctness.Startup

/-!
# `Correctness.SetupAuth` — what the init container leaves behind

The init script may stop at any of its commands, and starts over from whatever it left.  What each of its
commands keeps is kept then too; what a rewrite or a `pg_resetwal` breaks is owed its flag until it is
touched.
-/

namespace RestoreOperator

open Calls

namespace Startup

theorem Volume.rewriteLocales_of_none {v : Volume} (h : v.localeMismatch = 0) : v.rewriteLocales = v := by
  have hnone : ∀ d ∈ v.databases, d.nonConforming = false := by
    intro d hd
    by_contra hnot
    have hmem : d ∈ v.databases.filter (·.nonConforming) :=
      List.mem_filter.mpr ⟨hd, Bool.of_not_eq_false hnot⟩
    exact absurd (List.length_pos_of_mem hmem) (by unfold Volume.localeMismatch at h; omega)
  unfold Volume.rewriteLocales
  rw [List.map_congr_left (g := id) fun d hd => by rw [hnone d hd]; rfl, List.map_id]

/-- What the init script does to the databases: some indexes may be unsorted or torn that were not. -/
theorem Volume.mem_rewriteLocales {v : Volume} {d' : Database} (h : d' ∈ v.rewriteLocales.databases) :
    ∃ d ∈ v.databases, d'.isUser = d.isUser ∧ d'.collations = d.collations ∧
      ∀ i' ∈ d'.indexes, ∃ i ∈ d.indexes, ∃ unsorted, i' = { i with unsorted := unsorted } := by
  obtain ⟨d, hd, rfl⟩ := List.mem_map.mp h
  refine ⟨d, hd, ?_⟩
  split
  · refine ⟨rfl, rfl, fun i' hi' => ?_⟩
    obtain ⟨i, hi, rfl⟩ := List.mem_map.mp hi'
    exact ⟨i, hi, _, rfl⟩
  · exact ⟨rfl, rfl, fun i hi => ⟨i, hi, i.unsorted, rfl⟩⟩

theorem Volume.mem_resetWal {v : Volume} {d' : Database} (h : d' ∈ v.resetWal.databases) :
    ∃ d ∈ v.databases, d'.isUser = d.isUser ∧ d'.collations = d.collations ∧
      ∀ i' ∈ d'.indexes, ∃ i ∈ d.indexes, i' = { i with torn := true } := by
  obtain ⟨d, hd, rfl⟩ := List.mem_map.mp h
  refine ⟨d, hd, rfl, rfl, fun i' hi' => ?_⟩
  obtain ⟨i, hi, rfl⟩ := List.mem_map.mp hi'
  exact ⟨i, hi, rfl⟩

theorem sorted_resetWal {v : Volume} (hv : Sorted v) : Sorted v.resetWal := by
  intro d' hd' huser i' hi' hvalid hdefault
  obtain ⟨d, hd, hsame, _, hindexes⟩ := Volume.mem_resetWal hd'
  obtain ⟨i, hi, rfl⟩ := hindexes i' hi'
  exact hv d hd (hsame ▸ huser) i hi hvalid hdefault

theorem whole_rewriteLocales {v : Volume} (hv : Whole v) : Whole v.rewriteLocales := by
  intro d' hd' huser i' hi' hrebuilds
  obtain ⟨d, hd, hsame, _, hindexes⟩ := Volume.mem_rewriteLocales hd'
  obtain ⟨i, hi, _, rfl⟩ := hindexes i' hi'
  exact hv d hd (hsame ▸ huser) i hi hrebuilds

theorem warned_rewriteLocales {v : Volume} (hv : Warned v) : Warned v.rewriteLocales := by
  intro d' hd' i' hi' hvalid hsystem houtdated
  obtain ⟨d, hd, _, hcollations, hindexes⟩ := Volume.mem_rewriteLocales hd'
  obtain ⟨i, hi, _, rfl⟩ := hindexes i' hi'
  rw [hcollations]
  exact hv d hd i hi hvalid hsystem houtdated

theorem warned_resetWal {v : Volume} (hv : Warned v) : Warned v.resetWal := by
  intro d' hd' i' hi' hvalid hsystem houtdated
  obtain ⟨d, hd, _, hcollations, hindexes⟩ := Volume.mem_resetWal hd'
  obtain ⟨i, hi, rfl⟩ := hindexes i' hi'
  rw [hcollations]
  exact hv d hd i hi hvalid hsystem houtdated

section Setup

variable {I : Setup → Prop}

/-- **What every command of the init script keeps.** -/
structure SetupStable (I : Setup → Prop) : Prop where
  touch : ∀ f s, I s → I (s.touch f)
  rewriteLocales : ∀ s, I s → I s.rewriteLocales
  resetWal : ∀ s, I s → I s.resetWal
  probed : ∀ (n : Nat) s, I s → I { s with probe := s.probe ++ [n] }
  madeWal : ∀ s, I s → I { s with volume := { s.volume with hasWal := true } }
  wroteInfo : ∀ s, I s → I { s with volume := { s.volume with info := some (restoreInfo s.volume) } }

namespace SetupStable

theorem keeps_touch (h : SetupStable I) (place : Place) (f : Flag) : Prog.Keeps I (Startup.touch place f) :=
  Prog.Keeps.call (h.touch f)

theorem keeps_postgresSingle (h : SetupStable I) (n : Attempt) : Prog.Keeps I (postgresSingle n) := by
  refine Prog.Keeps.bind (Prog.Keeps.ask _ _) fun _ => Prog.Keeps.bind (Prog.Keeps.bestEffort ?_) fun _ => ?_
  · exact Prog.Keeps.bind (Prog.Keeps.read _ _) fun count => Prog.Keeps.modify (h.probed count)
  · exact Prog.Keeps.bind (Prog.Keeps.bestEffort (Prog.Keeps.call h.rewriteLocales))
      fun _ => Prog.Keeps.ask _ _

theorem keeps_pgResetwal (h : SetupStable I) : Prog.Keeps I pgResetwal :=
  Prog.Keeps.bind (Prog.Keeps.call h.resetWal) fun _ =>
    Prog.Keeps.bind (h.keeps_touch _ _) fun _ => h.keeps_touch _ _

theorem keeps_postgresSingleOrResetwal (h : SetupStable I) : Prog.Keeps I postgresSingleOrResetwal := by
  have hlast : Prog.Keeps I (do pgResetwal; postgresSingle .last) :=
    Prog.Keeps.bind h.keeps_pgResetwal fun _ => h.keeps_postgresSingle .last
  refine Prog.Keeps.bind (Prog.Keeps.attempt (h.keeps_postgresSingle .first)) fun first => ?_
  cases first with
  | ok _ => exact Prog.Keeps.ret ()
  | error e =>
    cases e with
    | walRecovery => exact hlast
    | other =>
      refine Prog.Keeps.bind (Prog.Keeps.attempt (h.keeps_postgresSingle .second)) fun second => ?_
      cases second with
      | ok _ => exact Prog.Keeps.ret ()
      | error _ => exact hlast

theorem keeps_fixLocales (h : SetupStable I) : Prog.Keeps I fixLocales :=
  Prog.Keeps.bind h.keeps_postgresSingleOrResetwal fun _ => Prog.Keeps.bind Prog.Keeps.get fun _ =>
    Prog.Keeps.when fun _ => Prog.Keeps.bind (h.keeps_touch _ _) fun _ => h.keeps_touch _ _

theorem keeps_fixLocalesFallback (h : SetupStable I) : Prog.Keeps I fixLocalesFallback := by
  refine Prog.Keeps.bind (Prog.Keeps.bind (Prog.Keeps.bestEffort (Prog.Keeps.ask _ _)) fun ran => ?_)
    fun _ => ?_
  · cases ran with
    | true =>
      exact Prog.Keeps.bind Prog.Keeps.get fun _ =>
        Prog.Keeps.bind (Prog.Keeps.call h.rewriteLocales) fun _ => Prog.Keeps.ret _
    | false => exact Prog.Keeps.ret _
  refine Prog.Keeps.bind (keeps_output (Prog.Keeps.read _ _)) fun _ => Prog.Keeps.bind
    (Prog.Keeps.each fun db _ => Prog.Keeps.bind Prog.Keeps.get fun s => ?_) fun _ =>
      Prog.Keeps.when fun _ => Prog.Keeps.bind (h.keeps_touch _ _) fun _ => h.keeps_touch _ _
  split
  · exact Prog.Keeps.ask _ _
  · exact Prog.Keeps.fail _

theorem keeps_countMismatches (names : List String) : Prog.Keeps I (countMismatches names) := by
  induction names with
  | nil => exact Prog.Keeps.ret 0
  | cons db rest ih =>
    exact Prog.Keeps.bind (keeps_output (Prog.Keeps.read _ _)) fun _ => Prog.Keeps.bind ih
      fun _ => Prog.Keeps.ret _

theorem keeps_flagCollations (h : SetupStable I) : Prog.Keeps I flagCollations :=
  Prog.Keeps.bind (Prog.Keeps.bestEffort (Prog.Keeps.ask _ _)) fun _ => Prog.Keeps.when fun _ =>
    Prog.Keeps.bind (keeps_output (Prog.Keeps.read _ _)) fun _ =>
      Prog.Keeps.bind (keeps_countMismatches _) fun _ => Prog.Keeps.when fun _ => h.keeps_touch _ _

theorem keeps_writeInfo (h : SetupStable I) : Prog.Keeps I writeInfo :=
  Prog.Keeps.bind (Prog.Keeps.bestEffort (Prog.Keeps.ask _ _)) fun _ =>
    Prog.Keeps.when fun _ => Prog.Keeps.call h.wroteInfo

/-- **The init script keeps it**, however its commands end. -/
theorem keeps (h : SetupStable I) (isReadOnly : Bool) : Prog.Keeps I (setupAuth isReadOnly) := by
  refine Prog.Keeps.bind (Prog.Keeps.ask _ _) fun _ => Prog.Keeps.bind Prog.Keeps.get fun _ => ?_
  refine Prog.Keeps.bind (Prog.Keeps.when fun _ => Prog.Keeps.bind (Prog.Keeps.call h.madeWal)
    fun _ => h.keeps_touch _ _) fun _ => ?_
  refine Prog.Keeps.bind h.keeps_fixLocales fun _ => Prog.Keeps.bind (Prog.Keeps.ask _ _) fun _ => ?_
  refine Prog.Keeps.bind (Prog.Keeps.bestEffort (Prog.Keeps.ask _ _)) fun _ => ?_
  refine Prog.Keeps.bind h.keeps_fixLocalesFallback fun _ => ?_
  refine Prog.Keeps.bind h.keeps_flagCollations fun _ => Prog.Keeps.bind (Prog.Keeps.ask _ _) fun _ => ?_
  refine Prog.Keeps.bind h.keeps_writeInfo fun _ => Prog.Keeps.bind (Prog.Keeps.ask _ _) fun _ => ?_
  exact Prog.Keeps.bind (Prog.Keeps.ask _ _) fun _ => Prog.Keeps.when fun _ => Prog.Keeps.ask _ _

end SetupStable

end Setup

/-! ## What is owed -/

/-- **What is wrong is flagged, or its flag is still owed.** -/
def Owes (f : Flag) (P : Volume → Prop) (s : Setup) : Prop := s.owed f = true ∨ Covered f P s.volume

theorem Owes.touch {f g : Flag} {P : Volume → Prop} {s : Setup} (h : Owes f P s)
    (hP : P s.volume → P (s.volume.touch g)) : Owes f P (s.touch g) := by
  by_cases hg : f = g
  · subst hg
    exact .inr (.inl (s.volume.touch_files_self f))
  · rcases h with howed | hflag | hdone
    · exact .inl ((s.touch_owed_of_ne hg).trans howed)
    · exact .inr (.inl ((s.volume.touch_files_of_ne hg).trans hflag))
    · exact .inr (.inr (hP hdone))

theorem setupStable_sorted : SetupStable (Owes .needsReindex Sorted) where
  touch _ _ h := h.touch id
  rewriteLocales s h := by
    by_cases hnone : s.volume.localeMismatch = 0
    · rcases h with howed | hcovered
      · exact .inl ((s.rewriteLocales_owed _).mpr (.inl howed))
      · right
        show Covered .needsReindex Sorted s.volume.rewriteLocales
        rw [Volume.rewriteLocales_of_none hnone]
        exact hcovered
    · exact .inl ((s.rewriteLocales_owed _).mpr (.inr ⟨rfl, hnone⟩))
  resetWal s h := by
    rcases h with howed | hflag | hdone
    · exact .inl ((s.resetWal_owed_of_ne (by decide)).trans howed)
    · exact .inr (.inl hflag)
    · exact .inr (.inr (sorted_resetWal hdone))
  probed _ _ h := h
  madeWal _ h := h
  wroteInfo _ h := h

theorem setupStable_whole : SetupStable (Owes .needsReindexAll Whole) where
  touch _ _ h := h.touch id
  rewriteLocales s h := by
    rcases h with howed | hflag | hdone
    · exact .inl ((s.rewriteLocales_owed _).mpr (.inl howed))
    · exact .inr (.inl hflag)
    · exact .inr (.inr (whole_rewriteLocales hdone))
  resetWal s _ := .inl s.resetWal_owed_self
  probed _ _ h := h
  madeWal _ h := h
  wroteInfo _ h := h

theorem setupStable_warned : SetupStable fun s => Warned s.volume where
  touch _ _ h := h
  rewriteLocales _ h := warned_rewriteLocales h
  resetWal _ h := warned_resetWal h
  probed _ _ h := h
  madeWal _ h := h
  wroteInfo _ h := h

/-! ## What is paid -/

section Pays

variable {ρ : SetupCall → Reply PgError}

/-- A rewrite that is owed its flag was counted. -/
def Counted (s : Setup) : Prop := s.owed .needsReindex = true → s.probe.any (0 < ·) = true

/-- The flag is not owed. -/
def Paid (f : Flag) (s : Setup) : Prop := s.owed f = false

theorem Paid.touch {f : Flag} {s : Setup} (h : Paid f s) (g : Flag) : Paid f (s.touch g) := by
  unfold Paid at h ⊢
  by_cases hg : f = g
  · rw [hg, Setup.touch_owed_self]
  · rw [Setup.touch_owed_of_ne hg, h]

theorem Counted.touch {s : Setup} (h : Counted s) (g : Flag) : Counted (s.touch g) := by
  intro howed
  by_cases hg : .needsReindex = g
  · rw [hg, Setup.touch_owed_self] at howed
    cases howed
  · rw [Setup.touch_owed_of_ne hg] at howed
    exact h howed

theorem Counted.probed {s : Setup} (h : Counted s) (n : Nat) : Counted { s with probe := s.probe ++ [n] } := by
  intro howed
  rw [List.any_append, h howed]
  rfl

theorem Counted.rewriteLocales {s : Setup} (h : Counted s)
    (hcounted : s.volume.localeMismatch ≠ 0 → s.probe.any (0 < ·) = true) : Counted s.rewriteLocales := by
  intro howed
  rcases (s.rewriteLocales_owed _).mp howed with howed | ⟨_, hmismatch⟩
  · exact h howed
  · exact hcounted hmismatch

theorem keeps_probeLocales (n : Attempt) : Prog.Keeps Counted (probeLocales n) :=
  Prog.Keeps.bind (Prog.Keeps.read _ _) fun count => Prog.Keeps.modify fun _ h => h.probed count

/-- A count that was read is there. -/
theorem probeLocales_counts {n : Attempt} (hprobe : (ρ (.probe n)).isOk = true) :
    Prog.Leads ρ Counted (fun s => Counted s ∧ (s.volume.localeMismatch ≠ 0 → s.probe.any (0 < ·) = true))
      Counted (Prog.bestEffort (probeLocales n)) := by
  intro s h
  have hrun : Prog.bestEffort (probeLocales n) ρ s =
      .done true { s with probe := s.probe ++ [s.volume.localeMismatch] } := by
    unfold Prog.bestEffort probeLocales
    rw [Prog.bind_of_done (Prog.read_of_ok hprobe)]
    rfl
  have hcounted := h.probed s.volume.localeMismatch
  rw [hrun]
  refine ⟨fun _ _ hdone => ?_, hcounted⟩
  cases hdone
  refine ⟨hcounted, fun hne => ?_⟩
  rw [List.any_append]
  simp [Nat.pos_of_ne_zero hne]

/-- **A run of `postgres --single` counts before it rewrites.** -/
theorem postgresSingle_counted {n : Attempt}
    (hprobe : (ρ (.rewrite n)).tookEffect = true → (ρ (.probe n)).isOk = true) :
    Prog.Leads ρ Counted Counted Counted (postgresSingle n) := by
  refine Prog.Leads.keeps_bind (Prog.Keeps.ask _ _) (fun _ h => h) fun _ => ?_
  by_cases heffect : (ρ (.rewrite n)).tookEffect = true
  · refine Prog.Leads.bind (probeLocales_counts (hprobe heffect)) fun _ => ?_
    refine Prog.Leads.bind (Prog.Leads.bestEffort fun s h => ?_) fun _ =>
      Prog.Leads.of_keeps (Prog.Keeps.ask _ _) fun _ h => h
    rw [Prog.call_state, if_pos heffect]
    exact h.1.rewriteLocales h.2
  · refine Prog.Leads.keeps_bind (Prog.Keeps.bestEffort (keeps_probeLocales n)) (fun _ h => h) fun _ => ?_
    refine Prog.Leads.bind (Prog.Leads.bestEffort fun s h => ?_) fun _ =>
      Prog.Leads.of_keeps (Prog.Keeps.ask _ _) fun _ h => h
    rw [Prog.call_state, if_neg heffect]
    exact h

theorem Counted.resetWal {s : Setup} (h : Counted s) : Counted s.resetWal := by
  intro howed
  exact h ((s.resetWal_owed_of_ne (by decide)).symm.trans howed)

theorem keeps_pgResetwal : Prog.Keeps Counted pgResetwal :=
  Prog.Keeps.bind (Prog.Keeps.call fun _ h => h.resetWal) fun _ =>
    Prog.Keeps.bind (Prog.Keeps.call fun _ h => h.touch _) fun _ => Prog.Keeps.call fun _ h => h.touch _

theorem postgresSingleOrResetwal_counted
    (hprobe : ∀ n, (ρ (.rewrite n)).tookEffect = true → (ρ (.probe n)).isOk = true) :
    Prog.Leads ρ Counted Counted Counted postgresSingleOrResetwal := by
  have hlast : Prog.Leads ρ Counted Counted Counted (do pgResetwal; postgresSingle .last) :=
    Prog.Leads.keeps_bind keeps_pgResetwal (fun _ h => h) fun _ => postgresSingle_counted (hprobe .last)
  have hattempt : ∀ n, Prog.Leads ρ Counted Counted Counted (Prog.attempt (postgresSingle n)) :=
    fun n => Prog.Leads.attempt fun s h => (postgresSingle_counted (hprobe n) s h).2
  refine Prog.Leads.bind (hattempt .first) fun first => ?_
  cases first with
  | ok _ => exact Prog.Leads.ret (fun _ h => h) fun _ h => h
  | error e =>
    cases e with
    | walRecovery => exact hlast
    | other =>
      refine Prog.Leads.bind (hattempt .second) fun second => ?_
      cases second with
      | ok _ => exact Prog.Leads.ret (fun _ h => h) fun _ h => h
      | error _ => exact hlast

/-- A touch that succeeds pays. -/
theorem touch_pays {I : Setup → Prop} (place : Place) (f : Flag) :
    Prog.Leads ρ I (Paid f) (fun _ => True) (touch place f) :=
  Prog.Leads.call (fun s _ => s.touch_owed_self f) (fun _ _ => trivial) fun _ _ => trivial

/-- **Single-user mode ends with its rewrites flagged.** -/
theorem fixLocales_pays (hprobe : ∀ n, (ρ (.rewrite n)).tookEffect = true → (ρ (.probe n)).isOk = true) :
    Prog.Leads ρ Counted (Paid .needsReindex) (fun _ => True) fixLocales := by
  have htrue : ∀ s : Setup, True → True := fun _ h => h
  refine Prog.Leads.bind (Q := Counted) ?_ fun _ => Prog.Leads.get_bind fun x => ?_
  · intro s h
    exact ⟨(postgresSingleOrResetwal_counted hprobe s h).1, trivial⟩
  · refine Prog.Leads.when (fun _ => ?_) ?_ fun _ _ => trivial
    · refine Prog.Leads.weaken (I := fun _ => True) ?_ fun _ _ => trivial
      exact Prog.Leads.keeps_bind (fun _ _ _ => trivial) htrue fun _ => touch_pays _ _
    · -- no run counted one, so none is owed
      rintro hnone s ⟨h, rfl⟩
      unfold Paid
      by_contra howed
      rw [h (Bool.of_not_eq_false howed)] at hnone
      cases hnone

/-- The fallback tells whether it rewrote. -/
theorem localeChanged_tells (s : Setup) (h : Paid .needsReindex s) :
    (∀ changed s', localeChanged ρ s = .done changed s' →
      s'.owed .needsReindex = true → changed ≠ 0) ∧ True := by
  refine ⟨fun changed s' hdone howed => ?_, trivial⟩
  obtain ⟨ran, s₁, hran, hrest⟩ := Prog.bind_eq_done hdone
  have hs₁ : s₁ = s := by
    unfold Prog.bestEffort Prog.ask Prog.read at hran
    cases hr : ρ .fallbackStatement <;> rw [hr] at hran <;> cases hran <;> rfl
  rw [hs₁] at hrest
  cases ran with
  | false =>
    obtain ⟨rfl, rfl⟩ := Outcome.done.inj hrest
    unfold Paid at h
    rw [h] at howed
    cases howed
  | true =>
    obtain ⟨x, s₂, hx, hrest⟩ := Prog.bind_eq_done hrest
    obtain ⟨rfl, rfl⟩ := Outcome.done.inj hx
    obtain ⟨_, s₃, hcall, hrest⟩ := Prog.bind_eq_done hrest
    obtain ⟨rfl, rfl⟩ := Outcome.done.inj hrest
    rw [Prog.call_eq_done hcall] at howed
    rcases (Setup.rewriteLocales_owed _ _).mp howed with howed | ⟨_, hmismatch⟩
    · unfold Paid at h
      rw [h] at howed
      cases howed
    · exact hmismatch

theorem fixLocalesFallback_pays :
    Prog.Leads ρ (Paid .needsReindex) (Paid .needsReindex) (fun _ => True) fixLocalesFallback := by
  have htrue : ∀ s : Setup, True → True := fun _ h => h
  refine Prog.Leads.bind_value (Q := fun changed s => s.owed .needsReindex = true → changed ≠ 0)
    localeChanged_tells fun changed => ?_
  refine Prog.Leads.keeps_bind (keeps_output (Prog.Keeps.read _ _)) (fun _ _ => trivial) fun names => ?_
  refine Prog.Leads.keeps_bind (Prog.Keeps.each fun db _ => Prog.Keeps.bind Prog.Keeps.get fun s => ?_)
    (fun _ _ => trivial) fun _ => ?_
  · split
    · exact Prog.Keeps.ask _ _
    · exact Prog.Keeps.fail _
  · refine Prog.Leads.when (fun _ => ?_) ?_ fun _ _ => trivial
    · refine Prog.Leads.weaken (I := fun _ => True) ?_ fun _ _ => trivial
      exact Prog.Leads.keeps_bind (fun _ _ _ => trivial) htrue fun _ => touch_pays _ _
    · intro hchanged s h
      unfold Paid
      by_contra howed
      have hne := h (Bool.of_not_eq_false howed)
      simp [hne] at hchanged

/-- **An init run that comes to its end has flagged every rewrite**, if it counted those it made in
    single-user mode. -/
theorem setupAuth_pays (hprobe : ∀ n, (ρ (.rewrite n)).tookEffect = true → (ρ (.probe n)).isOk = true)
    (isReadOnly : Bool) :
    Prog.Leads ρ (fun s => Paid .needsReindex s) (Paid .needsReindex) (fun _ => True)
      (setupAuth isReadOnly) := by
  have htrue : ∀ s : Setup, Paid .needsReindex s → True := fun _ _ => trivial
  have htouch : ∀ place f, Prog.Keeps (Paid .needsReindex) (touch place f) :=
    fun _ _ => Prog.Keeps.call fun _ h => h.touch _
  refine Prog.Leads.keeps_bind (Prog.Keeps.ask _ _) htrue fun _ => ?_
  refine Prog.Leads.keeps_bind Prog.Keeps.get htrue fun _ => ?_
  refine Prog.Leads.keeps_bind (Prog.Keeps.when fun _ => Prog.Keeps.bind (Prog.Keeps.call fun _ h => h)
    fun _ => htouch _ _) htrue fun _ => ?_
  refine Prog.Leads.bind ((fixLocales_pays hprobe).weaken fun s h => ?_) fun _ => ?_
  · intro howed
    unfold Paid at h
    rw [h] at howed
    cases howed
  refine Prog.Leads.keeps_bind (Prog.Keeps.ask _ _) htrue fun _ => ?_
  refine Prog.Leads.keeps_bind (Prog.Keeps.bestEffort (Prog.Keeps.ask _ _)) htrue fun _ => ?_
  refine Prog.Leads.bind fixLocalesFallback_pays fun _ => Prog.Leads.ends ?_ (fun _ h => h) htrue
  refine Prog.Keeps.bind (Prog.Keeps.bind (Prog.Keeps.bestEffort (Prog.Keeps.ask _ _)) fun _ =>
    Prog.Keeps.when fun _ => Prog.Keeps.bind (keeps_output (Prog.Keeps.read _ _)) fun _ =>
      Prog.Keeps.bind (SetupStable.keeps_countMismatches _) fun _ => Prog.Keeps.when fun _ => htouch _ _)
    fun _ => ?_
  refine Prog.Keeps.bind (Prog.Keeps.ask _ _) fun _ => Prog.Keeps.bind (Prog.Keeps.bind
    (Prog.Keeps.bestEffort (Prog.Keeps.ask _ _)) fun _ => Prog.Keeps.when fun _ =>
      Prog.Keeps.call fun _ h => h) fun _ => ?_
  refine Prog.Keeps.bind (Prog.Keeps.ask _ _) fun _ => Prog.Keeps.bind (Prog.Keeps.ask _ _) fun _ => ?_
  exact Prog.Keeps.when fun _ => Prog.Keeps.ask _ _

end Pays

/-! ## What is written down -/

/-- The row calls the restore ready only if no rebuild is pending. -/
def ReadyRow (s : Setup) : Prop :=
  ∀ row, s.volume.info = some row → row.stage = .ready →
    s.volume.files .needsReindex = false ∧ s.volume.files .needsReindexAll = false

theorem readyRow_restoreInfo (v : Volume) (h : (restoreInfo v).stage = .ready) :
    v.files .needsReindex = false ∧ v.files .needsReindexAll = false := by
  unfold restoreInfo at h
  dsimp only at h
  split at h
  · cases h
  · rename_i hflags
    simpa using hflags

/-- **An init that ends has written such a row**, if the statement went through. -/
theorem setupAuth_readyRow {ρ : SetupCall → Reply PgError} (hinfo : (ρ .infoStatement).isOk = true)
    (isReadOnly : Bool) :
    Prog.Leads ρ (fun _ => True) ReadyRow (fun _ => True) (setupAuth isReadOnly) := by
  have hkeeps : ∀ {α : Type} (m : SetupScript α), Prog.Keeps (fun _ => True) m := fun _ _ _ _ => trivial
  have htrue : ∀ s : Setup, True → True := fun _ h => h
  refine Prog.Leads.keeps_bind (hkeeps _) htrue fun _ => Prog.Leads.keeps_bind (hkeeps _) htrue fun _ => ?_
  refine Prog.Leads.keeps_bind (hkeeps _) htrue fun _ => Prog.Leads.keeps_bind (hkeeps _) htrue fun _ => ?_
  refine Prog.Leads.keeps_bind (hkeeps _) htrue fun _ => Prog.Leads.keeps_bind (hkeeps _) htrue fun _ => ?_
  refine Prog.Leads.keeps_bind (hkeeps _) htrue fun _ => Prog.Leads.keeps_bind (hkeeps _) htrue fun _ => ?_
  refine Prog.Leads.keeps_bind (hkeeps _) htrue fun _ => Prog.Leads.bind (Q := ReadyRow) ?_ fun _ => ?_
  · refine Prog.Leads.bind_value (Q := fun ran _ => ran = true) ?_ fun ran => ?_
    · intro s _
      refine ⟨fun ran s' hdone => ?_, trivial⟩
      unfold Prog.bestEffort at hdone
      rw [Prog.ask_of_ok hinfo] at hdone
      cases hdone
      rfl
    · refine Prog.Leads.when (fun _ => ?_) (fun hran _ h => absurd (h.symm.trans hran) (by simp)) fun _ _ =>
        trivial
      refine Prog.Leads.call (fun s _ row hrow => ?_) (fun _ _ => trivial) fun _ _ => trivial
      obtain rfl := Option.some.inj hrow
      exact readyRow_restoreInfo s.volume
  · refine Prog.Leads.ends (Prog.Keeps.bind (Prog.Keeps.ask _ _) fun _ => ?_) (fun _ h => h) fun _ _ => trivial
    exact Prog.Keeps.bind (Prog.Keeps.ask _ _) fun _ => Prog.Keeps.when fun _ => Prog.Keeps.ask _ _

end Startup

end RestoreOperator
