import RestoreOperator.Correctness.BackgroundReindex
import RestoreOperator.Correctness.SetupAuth

/-!
# `Correctness.StartupRuns` — the pods of a restore, over all their runs

A pod's containers start, are cut off and start again, and another pod takes over the volume.  In every state
of such a run the readiness probe passes only if the indexes are sorted, and the stage says `ready` only if
they are whole as well, as long as no script stopped between what it did and the flag for it and no rebuild
failed.
-/

namespace RestoreOperator

open Calls

namespace Startup

/-! ## What clients do beside -/

/-- **No index is worse than before**: one with something wrong was there, in a database with these
    collations. -/
def Tidies (databases databases' : List Database) : Prop :=
  ∀ d' ∈ databases', ∀ i' ∈ d'.indexes, i'.unsorted = true ∨ i'.outdated = true ∨ i'.torn = true →
    ∃ d ∈ databases, (d'.isUser = true → d.isUser = true) ∧ (∀ c ∈ d.collations, c ∈ d'.collations) ∧
      ∃ i ∈ d.indexes, i' = { i with name := i'.name }

section Tidies

variable {v : Volume} {databases : List Database}

theorem Tidies.sorted (h : Tidies v.databases databases) (hv : Sorted v) :
    Sorted { v with databases := databases } := by
  intro d' hd' huser i' hi' hvalid hdefault
  by_contra hunsorted
  obtain ⟨d, hd, hopen, _, i, hi, hsame⟩ := h d' hd' i' hi' (.inl (Bool.of_not_eq_false hunsorted))
  rw [hsame] at hvalid hdefault hunsorted
  exact hunsorted (hv d hd (hopen huser) i hi hvalid hdefault)

theorem Tidies.whole (h : Tidies v.databases databases) (hv : Whole v) :
    Whole { v with databases := databases } := by
  intro d' hd' huser i' hi' hrebuilds
  by_contra htorn
  obtain ⟨d, hd, hopen, _, i, hi, hsame⟩ :=
    h d' hd' i' hi' (.inr (.inr (Bool.of_not_eq_false htorn)))
  rw [hsame] at hrebuilds htorn
  exact htorn (hv d hd (hopen huser) i hi hrebuilds)

theorem Tidies.warned (h : Tidies v.databases databases) (hv : Warned v) :
    Warned { v with databases := databases } := by
  intro d' hd' i' hi' hvalid hsystem houtdated
  obtain ⟨d, hd, _, hcollations, i, hi, hsame⟩ := h d' hd' i' hi' (.inr (.inl houtdated))
  rw [hsame] at hvalid hsystem houtdated
  obtain ⟨c, hc, hmismatched, hname⟩ := hv d hd i hi hvalid hsystem houtdated
  refine ⟨c, hcollations c hc, hmismatched, ?_⟩
  rw [hsame]
  exact hname

theorem Tidies.covered {f : Flag} {P : Volume → Prop}
    (hP : P v → P { v with databases := databases }) (hv : Covered f P v) :
    Covered f P { v with databases := databases } := hv.imp id hP

end Tidies

/-! ## The steps of a pod -/

section Pods

variable {pgMajor : Nat} {isReadOnly : Bool}

theorem step_setup_volume (p : Pod) (ρ : SetupCall → Reply PgError) :
    (p.step pgMajor isReadOnly (.setup ρ)).volume =
      (setupAuth isReadOnly ρ { volume := p.volume }).state.volume := by
  dsimp only [Pod.step]
  cases setupAuth isReadOnly ρ { volume := p.volume } <;> rfl

/-- The init container has finished if its script ended. -/
theorem step_setup_isSetUp {p : Pod} {ρ : SetupCall → Reply PgError}
    (h : (p.step pgMajor isReadOnly (.setup ρ)).isSetUp = true) :
    ∃ s, setupAuth isReadOnly ρ { volume := p.volume } = .done () s ∧
      (p.step pgMajor isReadOnly (.setup ρ)).volume = s.volume := by
  dsimp only [Pod.step] at h ⊢
  cases hrun : setupAuth isReadOnly ρ { volume := p.volume } with
  | done _ s => exact ⟨s, rfl, rfl⟩
  | failed _ s =>
    rw [hrun] at h
    cases h
  | halted s =>
    rw [hrun] at h
    cases h

theorem step_started {p : Pod} (h : p.isSetUp = true) (stderr : HookCall → List String)
    (ρ : HookCall → Reply Unit) :
    p.step pgMajor isReadOnly (.started stderr ρ) =
      { p with volume := (backgroundReindex stderr pgMajor ρ p.volume).state } := by
  dsimp only [Pod.step]
  rw [if_pos h]

theorem step_started_not {p : Pod} (h : p.isSetUp = false) (stderr : HookCall → List String)
    (ρ : HookCall → Reply Unit) : p.step pgMajor isReadOnly (.started stderr ρ) = p := by
  dsimp only [Pod.step]
  rw [h]
  rfl

/-- **What an init run leaves behind** is covered, unless it owes the flag. -/
theorem covered_setup (pgMajor : Nat) {f : Flag} {P : Volume → Prop} (hstable : SetupStable (Owes f P)) {p : Pod}
    (hv : Covered f P p.volume) {ρ : SetupCall → Reply PgError}
    (howed : (setupAuth isReadOnly ρ { volume := p.volume }).state.owed f = false) :
    Covered f P (p.step pgMajor isReadOnly (.setup ρ)).volume := by
  rw [step_setup_volume]
  have howes := hstable.keeps isReadOnly ρ { volume := p.volume } (.inr hv)
  refine howes.resolve_left fun hset => ?_
  rw [howed] at hset
  cases hset

/-- What both scripts keep, whatever becomes of their commands, every event keeps if the clients leave it. -/
theorem step_keeps {I : Volume → Prop} (hsetup : SetupStable fun s => I s.volume)
    {p : Pod} (hp : I p.volume) {e : PodEvent}
    (hhook : ∀ stderr ρ, e = .started stderr ρ →
      Prog.Leads ρ I I I (backgroundReindex stderr pgMajor))
    (hstage : ∀ v : Volume, I v → I (v.setStage .outgoing))
    (hwritten : ∀ databases, e = .written databases → I { p.volume with databases := databases }) :
    I (p.step pgMajor isReadOnly e).volume := by
  cases e with
  | setup ρ =>
    rw [step_setup_volume]
    exact hsetup.keeps isReadOnly ρ { volume := p.volume } hp
  | started stderr ρ =>
    cases hset : p.isSetUp with
    | true =>
      rw [step_started hset]
      exact (hhook stderr ρ rfl p.volume hp).2
    | false =>
      rw [step_started_not hset]
      exact hp
  | written databases =>
    dsimp only [Pod.step]
    split
    · exact hwritten databases rfl
    · exact hp
  | outgoing => exact hstage _ hp

/-! ## Readiness -/

/-- **What readiness relies on**: an init run leaves no rewrite unflagged, no command of the locale branch
    fails, and clients make no index worse. -/
def KeepsSorted (isReadOnly : Bool) (p : Pod) : PodEvent → Prop
  | .setup ρ => (setupAuth isReadOnly ρ { volume := p.volume }).state.owed .needsReindex = false
  | .started _ ρ => p.isSetUp = true → Named p.volume ∧ Clean .locale ρ
  | .written databases => Tidies p.volume.databases databases
  | .outgoing => True

theorem step_sorted {p : Pod} {e : PodEvent} (hp : Covered .needsReindex Sorted p.volume)
    (he : KeepsSorted isReadOnly p e) :
    Covered .needsReindex Sorted (p.step pgMajor isReadOnly e).volume := by
  cases e with
  | setup ρ => exact covered_setup pgMajor setupStable_sorted hp he
  | started stderr ρ =>
    cases hsetup : p.isSetUp with
    | true =>
      obtain ⟨hnamed, hclean⟩ := he hsetup
      rw [step_started hsetup]
      exact (backgroundReindex_sorted hclean p.volume ⟨hp, hnamed⟩).2
    | false =>
      rw [step_started_not hsetup]
      exact hp
  | written databases =>
    dsimp only [Pod.step]
    split
    · exact Tidies.covered (Tidies.sorted he) hp
    · exact hp
  | outgoing => exact hp

/-- **A pod is ready only when its indexes are sorted.**  Its scripts may be cut off at any command and start
    over, in the same pod or in another, and any other command may fail. -/
theorem ready_only_when_sorted {v : Volume} (hv : Covered .needsReindex Sorted v) {es : List PodEvent}
    (hes : Meets (Pod.step pgMajor isReadOnly) (KeepsSorted isReadOnly) { volume := v } es) :
    Always (Pod.step pgMajor isReadOnly) (fun p => p.isReady = true → Sorted p.volume)
      { volume := v } es := by
  refine Always.of_invariant (I := fun p => Covered .needsReindex Sorted p.volume)
    (fun p e he hp => step_sorted hp he) ?_ hv hes
  intro p hp hready
  refine hp.resolve_left fun hflag => ?_
  unfold Pod.isReady at hready
  rw [hflag] at hready
  simp at hready

/-- A snapshot from another OS: its one database has a locale this OS does not have, and an index ordered by
    another version of a collation. -/
def appSnapshot : Volume :=
  { databases :=
      [{ name := "app"
         nonConforming := true
         collations := [{ name := "public.german", mismatched := true }]
         indexes :=
          [{ name := "app_name", onDefault := true },
            { name := "app_city", collations := ["public.german"], outdated := true }] }] }

/-- Every command succeeds. -/
def allOk {κ ε : Type} : κ → Reply ε := fun _ => .ok

/-- Nothing is said besides. -/
def silent : HookCall → List String := fun _ => []

theorem silent_speaks : ListingsSpeak silent allOk := by
  rintro db ⟨e, he | he⟩ <;> cases he

theorem allOk_clean (b : Branch) : Clean b allOk := by
  rintro c _ ⟨e, he | he⟩ <;> cases he

theorem sorted_appSnapshot : Sorted appSnapshot := by
  unfold Sorted appSnapshot
  decide

theorem whole_appSnapshot : Whole appSnapshot := by
  unfold Whole appSnapshot
  decide

theorem named_appSnapshot :
    Named (Pod.step 16 true { volume := appSnapshot } (.setup allOk)).volume := by
  unfold Named
  decide

theorem app_ready_only_when_sorted :
    Always (Pod.step 16 true) (fun p => p.isReady = true → Sorted p.volume) { volume := appSnapshot }
      [.setup allOk, .started silent allOk] :=
  ready_only_when_sorted (.inr sorted_appSnapshot)
    ⟨rfl, fun _ => ⟨named_appSnapshot, allOk_clean _⟩, trivial⟩

/-- **An init run that comes to its end has flagged what it put out of order**, if it counted every rewrite
    that took effect: whichever attempts, retries and resets it took to get there. -/
theorem finished_setup_flags {ρ : SetupCall → Reply PgError}
    (hprobe : ∀ n, (ρ (.rewrite n)).tookEffect = true → (ρ (.probe n)).isOk = true) {v : Volume}
    (hv : Covered .needsReindex Sorted v) {s : Setup}
    (hdone : setupAuth isReadOnly ρ { volume := v } = .done () s) :
    s.owed .needsReindex = false ∧ Covered .needsReindex Sorted s.volume := by
  have howed : s.owed .needsReindex = false :=
    (setupAuth_pays hprobe isReadOnly { volume := v } rfl).1 () s hdone
  have howes := setupStable_sorted.keeps isReadOnly ρ { volume := v } (.inr hv)
  rw [hdone] at howes
  refine ⟨howed, howes.resolve_left fun hset => ?_⟩
  change s.owed .needsReindex = true at hset
  rw [howed] at hset
  cases hset

/-- The first start of the server fails twice over. -/
def failsFirst : SetupCall → Reply PgError
  | .recover .first => .refused .other
  | .shutdown .second => .refused .walRecovery
  | _ => .ok

theorem app_finished_setup_flags :
    (setupAuth true failsFirst { volume := appSnapshot }).state.owed .needsReindex = false ∧
      Covered .needsReindex Sorted (setupAuth true failsFirst { volume := appSnapshot }).state.volume :=
  @finished_setup_flags true failsFirst (fun n _ => by cases n <;> rfl) _ (.inr sorted_appSnapshot) _ rfl

/-! ## The stage -/

/-- **What the stage relies on**, besides: no `pg_resetwal` is left unflagged, the row is written, and no
    command of the full rebuild fails. -/
def KeepsAccounted (isReadOnly : Bool) (p : Pod) : PodEvent → Prop
  | .setup ρ =>
    (setupAuth isReadOnly ρ { volume := p.volume }).state.owed .needsReindex = false ∧
      (setupAuth isReadOnly ρ { volume := p.volume }).state.owed .needsReindexAll = false ∧
      (ρ .infoStatement).isOk = true
  | .started _ ρ => p.isSetUp = true → Named p.volume ∧ Clean .locale ρ ∧ Clean .all ρ
  | .written databases => Tidies p.volume.databases databases
  | .outgoing => True

/-- The flags cover what is wrong, and once the pod is set up its row is true. -/
structure PodAccounted (p : Pod) : Prop where
  sorted : Covered .needsReindex Sorted p.volume
  whole : Covered .needsReindexAll Whole p.volume
  ready : p.isSetUp = true → Accounted p.volume

theorem PodAccounted.of_accounted {p : Pod} (h : Accounted p.volume) : PodAccounted p :=
  ⟨h.sorted, h.whole, fun _ => h⟩

theorem PodAccounted.setup {p : Pod} (hp : PodAccounted p) {ρ : SetupCall → Reply PgError}
    (he : KeepsAccounted isReadOnly p (.setup ρ)) : PodAccounted (p.step pgMajor isReadOnly (.setup ρ)) := by
  obtain ⟨hreindex, hall, hinfo⟩ := he
  have hsorted := covered_setup pgMajor setupStable_sorted hp.sorted hreindex
  have hwhole := covered_setup pgMajor setupStable_whole hp.whole hall
  refine ⟨hsorted, hwhole, fun hsetup => ⟨hsorted, hwhole, ?_⟩⟩
  obtain ⟨s, hdone, hvolume⟩ := step_setup_isSetUp hsetup
  rw [hvolume] at hsorted hwhole ⊢
  intro row hrow hready
  -- no flag when the row was written, and none is touched after
  obtain ⟨hno, hno'⟩ :=
    (setupAuth_readyRow hinfo isReadOnly { volume := p.volume } trivial).1 () s hdone row hrow hready
  refine ⟨hsorted.resolve_left fun hset => ?_, hwhole.resolve_left fun hset => ?_⟩
  · rw [hno] at hset
    cases hset
  · rw [hno'] at hset
    cases hset

theorem PodAccounted.step {p : Pod} (hp : PodAccounted p) {e : PodEvent}
    (he : KeepsAccounted isReadOnly p e) : PodAccounted (p.step pgMajor isReadOnly e) := by
  cases e with
  | setup ρ => exact hp.setup he
  | started stderr ρ =>
    cases hsetup : p.isSetUp with
    | true =>
      obtain ⟨hnamed, hlocale, hall⟩ := he hsetup
      rw [step_started hsetup]
      exact .of_accounted (backgroundReindex_accounted hlocale hall p.volume ⟨hp.ready hsetup, hnamed⟩).2
    | false =>
      rw [step_started_not hsetup]
      exact hp
  | written databases =>
    have htidies : Tidies p.volume.databases databases := he
    dsimp only [Pod.step]
    split
    · refine ⟨Tidies.covered htidies.sorted hp.sorted, Tidies.covered htidies.whole hp.whole, fun hsetup => ?_⟩
      have hready := hp.ready hsetup
      refine ⟨Tidies.covered htidies.sorted hp.sorted, Tidies.covered htidies.whole hp.whole, ?_⟩
      intro row hrow hstage
      obtain ⟨hsorted, hwhole⟩ := hready.ready row hrow hstage
      exact ⟨htidies.sorted hsorted, htidies.whole hwhole⟩
    · exact hp
  | outgoing => exact ⟨hp.sorted, hp.whole, fun hsetup => (hp.ready hsetup).setStage (nomatch ·)⟩

/-- **The stage says `ready` only when nothing is left to rebuild.**  It is read from the row while the pod
    serves; the row of another pod counts no more once this one is set up. -/
theorem ready_stage_only_when_rebuilt {v : Volume} (hsorted : Covered .needsReindex Sorted v)
    (hwhole : Covered .needsReindexAll Whole v) {es : List PodEvent}
    (hes : Meets (Pod.step pgMajor isReadOnly) (KeepsAccounted isReadOnly) { volume := v } es) :
    Always (Pod.step pgMajor isReadOnly)
      (fun p => p.isSetUp = true → ∀ row, p.volume.info = some row → row.stage = .ready →
        Sorted p.volume ∧ Whole p.volume) { volume := v } es := by
  refine Always.of_invariant (I := PodAccounted) (fun p e he hp => hp.step he)
    (fun p hp hsetup => (hp.ready hsetup).ready) ?_ hes
  exact ⟨hsorted, hwhole, (nomatch ·)⟩

theorem app_ready_stage_only_when_rebuilt :
    Always (Pod.step 16 true)
      (fun p => p.isSetUp = true → ∀ row, p.volume.info = some row → row.stage = .ready →
        Sorted p.volume ∧ Whole p.volume) { volume := appSnapshot } [.setup allOk, .started silent allOk] :=
  ready_stage_only_when_rebuilt (.inr sorted_appSnapshot) (.inr whole_appSnapshot)
    ⟨⟨rfl, rfl, rfl⟩, fun _ => ⟨named_appSnapshot, allOk_clean _, allOk_clean _⟩, trivial⟩

/-! ## The warnings -/

/-- **What the warnings rely on**: clients make no index worse and silence no warning, and a listing of indexes
    that fails leaves a line that says so. -/
def KeepsWarned (p : Pod) : PodEvent → Prop
  | .started stderr ρ => ListingsSpeak stderr ρ
  | .written databases => Tidies p.volume.databases databases
  | _ => True

/-- **Postgres warns of every outdated index, always.**  Whatever fails and wherever the scripts are cut off,
    the version of a collation other than the default one is recorded only in a database without outdated
    indexes. -/
theorem always_warned {v : Volume} (hv : Warned v) {es : List PodEvent}
    (hes : Meets (Pod.step pgMajor isReadOnly) KeepsWarned { volume := v } es) :
    Always (Pod.step pgMajor isReadOnly) (fun p => Warned p.volume) { volume := v } es := by
  refine Always.of_invariant (I := fun p => Warned p.volume) ?_ (fun _ h => h) hv hes
  intro p e he hp
  refine step_keeps setupStable_warned hp ?_ (fun _ h => h) ?_
  · rintro stderr ρ rfl
    exact backgroundReindex_warned he pgMajor
  · rintro databases rfl
    exact Tidies.warned he hp

theorem app_always_warned :
    Always (Pod.step 16 true) (fun p => Warned p.volume) { volume := appSnapshot }
      [.setup allOk, .started silent allOk] := by
  refine always_warned ?_ ⟨trivial, silent_speaks, trivial⟩
  unfold Warned appSnapshot
  decide

/-! ## Coming to serve -/

/-- Whether the fixes of a row include the one of a flag. -/
def Fixes.reports (fixes : Fixes) : Flag → Bool
  | .fixLocale => fixes.locale
  | .fixResetWal => fixes.resetWal
  | .fixRecreatedPgWal => fixes.recreatedPgWal
  | _ => false

/-- The row reports nothing that is not flagged. -/
def Recorded (v : Volume) : Prop :=
  ∀ row, v.info = some row → ∀ f, row.fixes.reports f = true → v.files f = true

/-- The fix is flagged and reported. -/
def Reported (f : Flag) (v : Volume) : Prop :=
  v.files f = true ∧ ∃ row, v.info = some row ∧ row.fixes.reports f = true

theorem reports_restoreInfo {v : Volume} {f : Flag} (h : (restoreInfo v).fixes.reports f = true) :
    v.files f = true := by
  cases f <;> first | exact h | cases h

/-- A row written anew reports what one before it did. -/
theorem Reported.restoreInfo {f : Flag} {v : Volume} (h : Reported f v) :
    (Startup.restoreInfo v).fixes.reports f = true := by
  obtain ⟨hflag, row, _, hreports⟩ := h
  cases f <;> first | exact hflag | cases hreports

theorem touch_files_mono {f g : Flag} {v : Volume} (h : v.files f = true) : (v.touch g).files f = true := by
  by_cases hg : f = g
  · subst hg
    exact v.touch_files_self f
  · exact (v.touch_files_of_ne hg).trans h

theorem setupStable_recorded : SetupStable fun s => Recorded s.volume where
  touch _ _ h row hrow f hf := touch_files_mono (h row hrow f hf)
  rewriteLocales _ h := h
  resetWal _ h := h
  probed _ _ h := h
  madeWal _ h := h
  wroteInfo s _ row hrow f hf := by
    obtain rfl := Option.some.inj hrow
    exact reports_restoreInfo hf

theorem setupStable_reported (f : Flag) : SetupStable fun s => Reported f s.volume where
  touch _ _ h := ⟨touch_files_mono h.1, h.2⟩
  rewriteLocales _ h := h
  resetWal _ h := h
  probed _ _ h := h
  madeWal _ h := h
  wroteInfo _ h := ⟨h.1, _, rfl, h.restoreInfo⟩

theorem recorded_setStage {v : Volume} (h : Recorded v) (stage : Stage) : Recorded (v.setStage stage) := by
  intro row hrow f hf
  obtain ⟨row₀, hrow₀, rfl⟩ := Option.map_eq_some_iff.mp hrow
  exact h row₀ hrow₀ f hf

theorem reported_setStage {f : Flag} {v : Volume} (h : Reported f v) (stage : Stage) :
    Reported f (v.setStage stage) := by
  obtain ⟨hflag, row, hrow, hreports⟩ := h
  exact ⟨hflag, _, Option.map_eq_some_iff.mpr ⟨row, hrow, rfl⟩, hreports⟩

/-- A flag that is reported is none of those the background job removes. -/
theorem ne_of_reports {fixes : Fixes} {f g : Flag}
    (hg : g ∈ [Flag.needsReindex, .needsReindexAll, .needsCollationRefresh])
    (hf : fixes.reports f = true) : f ≠ g := by
  rintro rfl
  simp only [List.mem_cons, List.not_mem_nil, or_false] at hg
  rcases hg with rfl | rfl | rfl <;> cases hf

theorem backgroundReindex_recorded (stderr : HookCall → List String) (pgMajor : Nat) :
    Prog.Keeps Recorded (backgroundReindex stderr pgMajor) := by
  have hsame : ∀ v v' : Volume, v'.files = v.files → v'.info = v.info → Recorded v → Recorded v' := by
    intro v v' hfiles hinfo h row hrow f hf
    rw [hfiles]
    exact h row (hinfo ▸ hrow) f hf
  have hstable : Stable Recorded := fun v v' hrebuilds => hsame v v' hrebuilds.files hrebuilds.info
  refine Prog.Leads.keeps fun ρ => leads_backgroundReindex hstable
    (fun stage v h => recorded_setStage h stage) ?_ (fun _ db => Prog.Leads.of_keeps
      (keeps_refreshDatabase hstable (.of_same fun v v' _ => hsame v v')) fun _ h => h) pgMajor
  intro g hg v h row hrow f hf
  rw [v.remove_files_of_ne (ne_of_reports hg hf)]
  exact h row hrow f hf

theorem backgroundReindex_reported (stderr : HookCall → List String) (pgMajor : Nat) (f : Flag) :
    Prog.Keeps (Reported f) (backgroundReindex stderr pgMajor) := by
  have hsame : ∀ v v' : Volume, v'.files = v.files → v'.info = v.info → Reported f v → Reported f v' := by
    rintro v v' hfiles hinfo ⟨hflag, row, hrow, hreports⟩
    exact ⟨hfiles ▸ hflag, row, hinfo.trans hrow, hreports⟩
  have hstable : Stable (Reported f) := fun v v' hrebuilds => hsame v v' hrebuilds.files hrebuilds.info
  refine Prog.Leads.keeps fun ρ => leads_backgroundReindex hstable
    (fun stage v h => reported_setStage h stage) ?_ (fun _ db => Prog.Leads.of_keeps
      (keeps_refreshDatabase hstable (.of_same fun v v' _ => hsame v v')) fun _ h => h) pgMajor
  rintro g hg v ⟨hflag, row, hrow, hreports⟩
  exact ⟨(v.remove_files_of_ne (ne_of_reports hg hreports)).trans hflag, row, hrow, hreports⟩

/-- **A fix that was reported is reported ever after**, by every row any pod of the restore writes.  Those of
    `reindex` are not among them: it is reported while the rebuild is pending. -/
theorem fixes_stay_reported {p : Pod} (hp : Recorded p.volume) (es es' : List PodEvent) {row : RestoreInfo}
    (hrow : (runFrom (Pod.step pgMajor isReadOnly) p es).volume.info = some row) {f : Flag}
    (hf : row.fixes.reports f = true) :
    ∃ row', (runFrom (Pod.step pgMajor isReadOnly) p (es ++ es')).volume.info = some row' ∧
      row'.fixes.reports f = true := by
  have hrecorded : Recorded (runFrom (Pod.step pgMajor isReadOnly) p es).volume := by
    refine run_invariant (C := fun _ _ => True) (I := fun p : Pod => Recorded p.volume) ?_ hp
      (meets_of_forall (fun _ _ => trivial) _ _)
    exact fun p e _ h => step_keeps setupStable_recorded h (fun stderr ρ _ => Prog.Leads.of_keeps
      (backgroundReindex_recorded stderr pgMajor) fun _ h => h) (fun _ h => recorded_setStage h _) fun _ _ => h
  have hreported : Reported f (runFrom (Pod.step pgMajor isReadOnly) p (es ++ es')).volume := by
    rw [runFrom_append]
    refine run_invariant (C := fun _ _ => True) (I := fun p : Pod => Reported f p.volume) ?_
      ⟨hrecorded row hrow f hf, row, hrow, hf⟩ (meets_of_forall (fun _ _ => trivial) _ _)
    exact fun p e _ h => step_keeps (setupStable_reported f) h (fun stderr ρ _ => Prog.Leads.of_keeps
      (backgroundReindex_reported stderr pgMajor f) fun _ h => h) (fun _ h => reported_setStage h _) fun _ _ => h
  exact hreported.2

theorem app_locale_stays_reported :
    ∃ row, (runFrom (Pod.step 16 true) { volume := appSnapshot }
      ([.setup allOk] ++ [.started silent allOk, .setup allOk])).volume.info = some row ∧
        row.fixes.reports .fixLocale = true :=
  fixes_stay_reported (p := { volume := appSnapshot }) (fun _ h => nomatch h) [.setup allOk]
    [.started silent allOk, .setup allOk] rfl rfl

end Pods

end Startup

end RestoreOperator
