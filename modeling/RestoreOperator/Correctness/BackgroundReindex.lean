import RestoreOperator.Correctness.Startup

/-!
# `Correctness.BackgroundReindex` — what the background job keeps and what it comes to

Wherever the job is cut off, the flags still cover what is wrong with the indexes, as long as no rebuild
failed.  It records the versions of this OS in a database only after a clean sweep, so that postgres warns
of every outdated index takes nothing at all.
-/

namespace RestoreOperator

open Calls

namespace Startup

section Hook

variable {stderr : HookCall → List String} {ρ : HookCall → Reply Unit} {pgMajor : Nat}

/-- The volumes have the same databases, as far as their indexes go. -/
def Volume.SameIndexes (v v' : Volume) : Prop :=
  ∀ d' ∈ v'.databases, ∃ d ∈ v.databases,
    d'.name = d.name ∧ d'.isUser = d.isUser ∧ d'.indexes = d.indexes

section SameIndexes

variable {v v' : Volume}

theorem Volume.sameIndexes_refreshVersion (db collation : String) (v : Volume) :
    v.SameIndexes (v.refreshVersion db collation) := by
  intro d' hd'
  obtain ⟨d, hd, rfl⟩ := List.mem_map.mp hd'
  refine ⟨d, hd, ?_⟩
  split <;> exact ⟨rfl, rfl, rfl⟩

theorem Volume.sameIndexes_refreshDatabaseVersion (db : String) (v : Volume) :
    v.SameIndexes (v.refreshDatabaseVersion db) := by
  intro d' hd'
  obtain ⟨d, hd, rfl⟩ := List.mem_map.mp hd'
  refine ⟨d, hd, ?_⟩
  split <;> exact ⟨rfl, rfl, rfl⟩

theorem Volume.SameIndexes.sorted (h : v.SameIndexes v') (hv : Sorted v) : Sorted v' := by
  intro d' hd' huser i hi
  obtain ⟨d, hd, _, hsame, hindexes⟩ := h d' hd'
  exact hv d hd (hsame ▸ huser) i (hindexes ▸ hi)

theorem Volume.SameIndexes.whole (h : v.SameIndexes v') (hv : Whole v) : Whole v' := by
  intro d' hd' huser i hi
  obtain ⟨d, hd, _, hsame, hindexes⟩ := h d' hd'
  exact hv d hd (hsame ▸ huser) i (hindexes ▸ hi)

theorem Volume.SameIndexes.named (h : v.SameIndexes v') (hv : Named v) : Named v' := by
  intro d' hd' huser
  obtain ⟨d, hd, hname, hsame, _⟩ := h d' hd'
  rw [hname]
  exact hv d hd (hsame ▸ huser)

/-- Recording versions keeps what the flags, the row and the indexes tell. -/
theorem RefreshStable.of_same {I : Volume → Prop}
    (h : ∀ v v', v.SameIndexes v' → v'.files = v.files → v'.info = v.info → I v → I v') :
    RefreshStable I where
  refreshVersion db collation v := h _ _ (v.sameIndexes_refreshVersion db collation) rfl rfl
  refreshDatabaseVersion db v := h _ _ (v.sameIndexes_refreshDatabaseVersion db) rfl rfl

end SameIndexes

theorem stable_covered_sorted (f : Flag) : Stable (Covered f Sorted) :=
  fun _ _ hrebuilds => hrebuilds.covered hrebuilds.sorted

theorem stable_sorted_named : Stable fun v => Sorted v ∧ Named v :=
  fun _ _ hrebuilds h => ⟨hrebuilds.sorted h.1, hrebuilds.named h.2⟩

/-- **The background job ends with every index sorted**, if no command of the locale branch fails; and
    wherever it is cut off, the indexes are sorted or flagged. -/
theorem backgroundReindex_sorted (hclean : Clean .locale ρ) :
    Prog.Leads ρ (fun v => Covered .needsReindex Sorted v ∧ Named v) Sorted (Covered .needsReindex Sorted)
      (backgroundReindex stderr pgMajor) := by
  unfold backgroundReindex
  refine Prog.Leads.get_bind fun x => Prog.Leads.when (fun _ => ?_) ?_ fun _ h => .inr h
  · refine Prog.Leads.weaken (I := fun v => Covered .needsReindex Sorted v ∧ Named v) ?_ fun _ h => h.1
    refine Prog.Leads.keeps_bind (Prog.Keeps.ask _ _) (fun _ h => h.1) fun _ => ?_
    refine Prog.Leads.keeps_bind (keeps_orTrue fun _ h => h) (fun _ h => h.1) fun _ => ?_
    refine Prog.Leads.get_bind fun y => Prog.Leads.bind (Q := fun v => Sorted v ∧ Named v) ?_ fun _ => ?_
    · refine Prog.Leads.when (fun _ => ?_) ?_ fun _ h => .inr h.1
      · refine ((reindexLocale_leads hclean (stable_covered_sorted _) fun v _ h => .inr h).weaken
          fun _ h => h.1).mono ?_
        exact fun v h => ⟨h.2, h.1.2⟩
      · -- no flag, so there was nothing to rebuild
        rintro hflag v ⟨⟨hcovered, hnamed⟩, rfl⟩
        refine ⟨hcovered.resolve_left fun hset => ?_, hnamed⟩
        rw [hset] at hflag
        cases hflag
    · refine Prog.Leads.ends ?_ (fun _ h => h.1) fun _ h => .inr h.1
      refine Prog.Keeps.bind Prog.Keeps.get fun _ => Prog.Keeps.bind (Prog.Keeps.when fun _ =>
        keeps_reindexAll stable_sorted_named fun _ h => h) fun _ => ?_
      refine Prog.Keeps.bind Prog.Keeps.get fun _ => Prog.Keeps.bind (Prog.Keeps.when fun _ =>
        keeps_refreshCollations stable_sorted_named
          (.of_same fun _ _ hsame _ _ h => ⟨hsame.sorted h.1, hsame.named h.2⟩) fun _ h => h) fun _ => ?_
      exact keeps_orTrue fun _ h => h
  · rintro hflags v ⟨⟨hcovered, _⟩, rfl⟩
    refine hcovered.resolve_left fun hset => ?_
    rw [hset] at hflags
    cases hflags

/-- **What the volume says is so**: the flags cover what is wrong, and the stage `ready` is true. -/
structure Accounted (v : Volume) : Prop where
  sorted : Covered .needsReindex Sorted v
  whole : Covered .needsReindexAll Whole v
  ready : ∀ row, v.info = some row → row.stage = .ready → Sorted v ∧ Whole v

theorem stable_accounted : Stable Accounted := by
  intro v v' hrebuilds hv
  refine ⟨hrebuilds.covered hrebuilds.sorted hv.sorted, hrebuilds.covered hrebuilds.whole hv.whole, ?_⟩
  intro row hrow hready
  obtain ⟨hsorted, hwhole⟩ := hv.ready row (hrebuilds.info ▸ hrow) hready
  exact ⟨hrebuilds.sorted hsorted, hrebuilds.whole hwhole⟩

theorem Accounted.setStage {v : Volume} (hv : Accounted v) {stage : Stage}
    (hstage : stage = .ready → Sorted v ∧ Whole v) : Accounted (v.setStage stage) := by
  refine ⟨hv.sorted, hv.whole, ?_⟩
  intro row hrow hready
  obtain ⟨_, _, rfl⟩ := Option.map_eq_some_iff.mp hrow
  exact hstage hready

theorem Accounted.of_done {v : Volume} (hsorted : Sorted v) (hwhole : Whole v) : Accounted v :=
  ⟨.inr hsorted, .inr hwhole, fun _ _ _ => ⟨hsorted, hwhole⟩⟩

theorem Accounted.remove_needsReindex {v : Volume} (hv : Accounted v) (hsorted : Sorted v) :
    Accounted (v.remove .needsReindex) := by
  refine ⟨.inr hsorted, ?_, hv.ready⟩
  rcases hv.whole with hflag | hwhole
  · left
    rw [v.remove_files_of_ne (by decide)]
    exact hflag
  · exact .inr hwhole

/-- **The background job ends with every index sorted and whole**, if no command of those branches fails;
    and wherever it is cut off, the volume says what is so. -/
theorem backgroundReindex_accounted (hlocale : Clean .locale ρ) (hall : Clean .all ρ) :
    Prog.Leads ρ (fun v => Accounted v ∧ Named v) (fun v => Sorted v ∧ Whole v) Accounted
      (backgroundReindex stderr pgMajor) := by
  have hdone : ∀ v, Sorted v ∧ Whole v → Accounted v := fun v h => .of_done h.1 h.2
  unfold backgroundReindex
  refine Prog.Leads.get_bind fun x => Prog.Leads.when (fun _ => ?_) ?_ hdone
  · refine Prog.Leads.weaken (I := fun v => Accounted v ∧ Named v) ?_ fun _ h => h.1
    refine Prog.Leads.keeps_bind (Prog.Keeps.ask _ _) (fun _ h => h.1) fun _ => ?_
    refine Prog.Leads.keeps_bind (keeps_orTrue fun _ h => ⟨h.1.setStage (nomatch ·), h.2⟩)
      (fun _ h => h.1) fun _ => ?_
    refine Prog.Leads.get_bind fun y => Prog.Leads.bind
      (Q := fun v => (Accounted v ∧ Sorted v) ∧ Named v) ?_ fun _ => ?_
    · refine Prog.Leads.when (fun _ => ?_) ?_ fun _ h => h.1.1
      · refine ((reindexLocale_leads hlocale stable_accounted fun v h => h.remove_needsReindex).weaken
          fun _ h => h.1).mono ?_
        exact fun v h => ⟨⟨h.1.1, h.2⟩, h.1.2⟩
      · rintro hflag v ⟨⟨hv, hnamed⟩, rfl⟩
        refine ⟨⟨hv, hv.sorted.resolve_left fun hset => ?_⟩, hnamed⟩
        rw [hset] at hflag
        cases hflag
    refine Prog.Leads.get_bind fun y => Prog.Leads.bind (Q := fun v => Sorted v ∧ Whole v) ?_ fun _ => ?_
    · refine Prog.Leads.when (fun _ => ?_) ?_ hdone
      · have hstable : Stable fun v => Accounted v ∧ Sorted v :=
          fun v v' hrebuilds h => ⟨stable_accounted v v' hrebuilds h.1, hrebuilds.sorted h.2⟩
        have hbranch := @reindexAll_leads ρ _ pgMajor hall hstable
          fun v h hwhole => ⟨Accounted.of_done h.2 hwhole, h.2⟩
        intro v hv
        obtain ⟨hends, hstops⟩ := hbranch v hv.1
        exact ⟨fun a v' hrun => ⟨(hends a v' hrun).1.1.2, (hends a v' hrun).2⟩, hstops.1⟩
      · rintro hflag v ⟨⟨⟨hv, hsorted⟩, _⟩, rfl⟩
        refine ⟨hsorted, hv.whole.resolve_left fun hset => ?_⟩
        rw [hset] at hflag
        cases hflag
    · refine Prog.Leads.ends ?_ (fun _ h => h) hdone
      refine Prog.Keeps.bind Prog.Keeps.get fun _ => Prog.Keeps.bind (Prog.Keeps.when fun _ => ?_)
        fun _ => keeps_orTrue fun _ h => h
      exact keeps_refreshCollations (fun _ _ hrebuilds h => ⟨hrebuilds.sorted h.1, hrebuilds.whole h.2⟩)
        (.of_same fun _ _ hsame _ _ h => ⟨hsame.sorted h.1, hsame.whole h.2⟩) fun _ h => h
  · rintro hflags v ⟨⟨hv, _⟩, rfl⟩
    simp only [Bool.or_eq_false_iff] at hflags
    refine ⟨hv.sorted.resolve_left fun hset => ?_, hv.whole.resolve_left fun hset => ?_⟩
    · rw [hflags.1.1] at hset
      cases hset
    · rw [hflags.1.2] at hset
      cases hset

/-! ## Recording the versions -/

/-- No index of the database is outdated. -/
def Database.Current (d : Database) : Prop :=
  ∀ i ∈ d.indexes, i.isValid = true → i.isSystem = false → i.outdated = false

theorem mem_mismatchedIndexes {v : Volume} {db index : String} :
    index ∈ v.mismatchedIndexes db ↔ ∃ d ∈ v.databases, d.name = db ∧ ∃ i ∈ d.indexes, i.isValid = true ∧
      i.isSystem = false ∧ (∃ c ∈ d.collations, c.mismatched = true ∧ c.name ∈ i.collations) ∧
      i.name = index := by
  unfold Volume.mismatchedIndexes Volume.mismatched
  simp only [List.mem_flatMap, List.mem_filter, List.mem_map, decide_eq_true_eq, Bool.and_eq_true,
    Bool.not_eq_true', List.any_eq_true]
  constructor
  · rintro ⟨d, ⟨hd, hname⟩, i, ⟨hi, ⟨hvalid, hsystem⟩, _, hcollation, c, ⟨hc, hmismatched⟩, rfl⟩, hindex⟩
    exact ⟨d, hd, hname, i, hi, hvalid, hsystem, ⟨c, hc, hmismatched, hcollation⟩, hindex⟩
  · rintro ⟨d, hd, hname, i, hi, hvalid, hsystem, ⟨c, hc, hmismatched, hcollation⟩, hindex⟩
    exact ⟨d, ⟨hd, hname⟩, i, ⟨hi, ⟨hvalid, hsystem⟩, _, hcollation, c, ⟨hc, hmismatched⟩, rfl⟩, hindex⟩

/-- **A listing of indexes that fails says so**: in its file is a line that postgres takes for no index. -/
def ListingsSpeak (stderr : HookCall → List String) (ρ : HookCall → Reply Unit) : Prop :=
  ∀ db, (ρ (.indexes .collation db)).Failed →
    ∃ line ∈ stderr (.indexes .collation db), (ρ (.reindex .collation db line)).isOk = false

/-- What is in the file of a listing. -/
theorem listingFile_tells (c : HookCall) (names : Volume → List String) (v : Volume) :
    Prog.Along id Volume.Rebuilds ρ (listingFile stderr c names)
      (fun lines v' => v' = v ∧ stderr c ⊆ lines ∧ (¬(ρ c).Failed → names v ⊆ lines)) (fun _ _ => True) v := by
  unfold listingFile
  by_cases hfailed : (ρ c).Failed
  · refine Prog.Along.bind (Q := fun _ v' => v' = v) ?_ ?_
    · refine Prog.Along.bind (Prog.Along.attempt (P := fun _ v' => v' = v) (Prog.Along.read
        (Q := fun _ v' => v' = v) (E := fun _ v' => v' = v) rfl fun _ => rfl) (fun _ _ h => h)
        fun _ _ h => h) ?_
      rintro r _ rfl
      cases r <;> exact Prog.Along.ret rfl
    · rintro listed _ rfl
      exact Prog.Along.ret ⟨rfl, List.subset_append_left _ _, fun hnot => absurd hfailed hnot⟩
  · refine Prog.Along.bind
      (output_read hfailed (Q := fun listed v' => v' = v ∧ listed = names v) ⟨rfl, rfl⟩) ?_
    rintro listed _ ⟨rfl, rfl⟩
    exact Prog.Along.ret ⟨rfl, List.subset_append_left _ _, fun _ => List.subset_append_right _ _⟩

/-- **Every line of a clean sweep** was taken for an index and rebuilt. -/
theorem eachAll_reindexed (db : String) (lines : List String) (v : Volume) :
    Prog.Along id Volume.Rebuilds ρ
      (Prog.eachAll lines fun index =>
        Prog.bestEffort (Prog.call (.reindex .collation db index) (Volume.reindexIndex db index)))
      (fun clean v' => v.Rebuilds v' ∧ (clean = true → ∀ index ∈ lines,
        Rebuilt db index v' ∧ (ρ (.reindex .collation db index)).isOk = true)) (fun _ _ => True) v := by
  refine (Prog.Along.with_reach (Prog.Along.eachAll_all (I := fun _ => True)
    (P := fun index v' => Rebuilt db index v' ∧ (ρ (.reindex .collation db index)).isOk = true) ?_ ?_
    trivial)).mono ?_ fun _ _ h => h
  · exact fun index v₁ v₂ hreach hdone => ⟨(rebuilds_of_reach hreach).rebuilt hdone.1, hdone.2⟩
  · intro index _ v₁ _
    refine Prog.Along.bestEffort
      (Q := fun _ v' => Rebuilt db index v' ∧ (ρ (.reindex .collation db index)).isOk = true)
      (E := fun _ _ => True) (Prog.Along.call (.single (v₁.rebuilds_reindexIndex db index)) (fun hok => ?_)
        (fun _ _ => trivial) fun _ _ => trivial)
      (fun _ h => ⟨trivial, fun _ => h⟩) fun _ _ _ => ⟨trivial, (nomatch ·)⟩
    exact ⟨v₁.rebuilt_reindexIndex db index, by rw [hok]; rfl⟩
  · exact fun clean v' h => ⟨rebuilds_of_reach h.1, h.2.2⟩

/-- **A clean sweep leaves no outdated index** in the database. -/
theorem sweepCollations_current (hspeaks : ListingsSpeak stderr ρ) (db : String) {v : Volume} (hv : Warned v) :
    Prog.Along id Volume.Rebuilds ρ (sweepCollations stderr db)
      (fun clean v' => Warned v' ∧ (clean = true → InDatabase db Database.Current v')) (fun _ _ => True) v := by
  refine Prog.Along.bind (listingFile_tells _ _ v) ?_
  rintro lines v ⟨rfl, htold, hlists⟩
  refine (eachAll_reindexed db lines v).mono ?_ fun _ _ h => h
  rintro clean v' ⟨hrebuilds, hall⟩
  refine ⟨hrebuilds.warned hv, fun hclean d' hd' hdb i' hi' hvalid hsystem => ?_⟩
  have hlisted : ¬(ρ (.indexes .collation db)).Failed := by
    intro hfailed
    obtain ⟨line, hline, hrefused⟩ := hspeaks db hfailed
    rw [(hall hclean line (htold hline)).2] at hrefused
    cases hrefused
  -- an index that is still outdated was listed, and so it was rebuilt
  by_contra hnot
  have houtdated : i'.outdated = true := Bool.of_not_eq_false hnot
  obtain ⟨d, hd, himproves⟩ := hrebuilds.databases d' hd'
  obtain ⟨i, hi, hindex⟩ := himproves.indexes i' hi'
  have hold : i.isValid = true := hindex.wasValid hvalid (.inr (.inl houtdated))
  have holdSystem : i.isSystem = false := hindex.isSystem ▸ hsystem
  have hwarned := hv d hd i hi hold holdSystem (hindex.outdated houtdated)
  have hmem : i.name ∈ v.mismatchedIndexes db :=
    mem_mismatchedIndexes.mpr ⟨d, hd, himproves.name ▸ hdb, i, hi, hold, holdSystem, hwarned, rfl⟩
  have hrebuilt : Rebuilt db i.name v' := (hall hclean i.name (hlists hlisted hmem)).1
  exact hnot (hrebuilt d' hd' hdb i' hi' hindex.name).2

theorem Volume.SameIndexes.current {db : String} {v v' : Volume} (h : v.SameIndexes v')
    (hv : InDatabase db Database.Current v) : InDatabase db Database.Current v' := by
  intro d' hd' hdb i hi
  obtain ⟨d, hd, hname, _, hindexes⟩ := h d' hd'
  exact hv d hd (hname ▸ hdb) i (hindexes ▸ hi)

/-- In a database without outdated indexes there is nothing to warn of. -/
theorem warned_refreshVersion {db collation : String} {v : Volume} (hv : Warned v)
    (hcurrent : InDatabase db Database.Current v) : Warned (v.refreshVersion db collation) := by
  intro d' hd' i hi hvalid hsystem houtdated
  obtain ⟨d, hd, rfl⟩ := List.mem_map.mp hd'
  by_cases hdb : d.name = db
  · rw [if_pos hdb] at hi
    rw [hcurrent d hd hdb i hi hvalid hsystem] at houtdated
    cases houtdated
  · rw [if_neg hdb] at hi ⊢
    exact hv d hd i hi hvalid hsystem houtdated

/-- The version of the default collation is not what is warned of here. -/
theorem warned_refreshDatabaseVersion {db : String} {v : Volume} (hv : Warned v) :
    Warned (v.refreshDatabaseVersion db) := by
  intro d' hd' i hi
  obtain ⟨d, hd, rfl⟩ := List.mem_map.mp hd'
  split at hi
  · rename_i hdb
    rw [if_pos hdb]
    exact hv d hd i hi
  · rename_i hdb
    rw [if_neg hdb]
    exact hv d hd i hi

/-- **Recording the versions silences no warning** that is still due. -/
theorem refreshDatabase_warned (hspeaks : ListingsSpeak stderr ρ) (keepsVersion : Bool) (db : String) :
    Prog.Leads ρ Warned Warned Warned (refreshDatabase stderr keepsVersion db) := by
  refine Prog.Leads.bind_value
    (Q := fun clean v => Warned v ∧ (clean = true → InDatabase db Database.Current v)) ?_ fun clean => ?_
  · intro v hv
    have hsweep := sweepCollations_current hspeaks db hv
    exact ⟨fun clean v' hdone => hsweep.of_eq_done hdone, (rebuilds_of_reach hsweep.reaches).warned hv⟩
  · refine Prog.Leads.when (fun hclean => ?_) (fun _ _ h => h.1) fun _ h => h
    refine Prog.Leads.weaken (I := fun v => Warned v ∧ InDatabase db Database.Current v) ?_
      fun v h => ⟨h.1, h.2 hclean⟩
    refine Prog.Leads.ends ?_ (fun _ h => h.1) fun _ h => h.1
    refine Prog.Keeps.bind (keeps_listingFile stderr _ _) fun _ => Prog.Keeps.bind ?_ fun _ => ?_
    · exact Prog.Keeps.each fun collation _ => keeps_orTrue fun v h =>
        ⟨warned_refreshVersion h.1 h.2, (v.sameIndexes_refreshVersion db collation).current h.2⟩
    · exact Prog.Keeps.when fun _ => keeps_orTrue fun v h =>
        ⟨warned_refreshDatabaseVersion h.1, (v.sameIndexes_refreshDatabaseVersion db).current h.2⟩

theorem stable_warned : Stable Warned := fun _ _ hrebuilds => hrebuilds.warned

theorem leads_forDatabases {I : Volume → Prop} {b : Branch} {f : String → HookScript Unit}
    (hf : ∀ db, Prog.Leads ρ I I I (f db)) : Prog.Leads ρ I I I (forDatabases b f) :=
  Prog.Leads.keeps_bind (keeps_output (Prog.Keeps.read _ _)) (fun _ h => h) fun _ =>
    Prog.Leads.each (fun db _ => hf db) fun _ h => h

/-- **What the background job keeps**, however its commands end, if recording the versions does. -/
theorem leads_backgroundReindex {I : Volume → Prop} (hI : Stable I)
    (hstage : ∀ stage v, I v → I (v.setStage stage))
    (hremove : ∀ f ∈ [Flag.needsReindex, .needsReindexAll, .needsCollationRefresh], ∀ v, I v → I (v.remove f))
    (hrefresh : ∀ keepsVersion db, Prog.Leads ρ I I I (refreshDatabase stderr keepsVersion db))
    (pgMajor : Nat) : Prog.Leads ρ I I I (backgroundReindex stderr pgMajor) := by
  have hself : ∀ v, I v → I v := fun _ h => h
  refine Prog.Leads.keeps_bind Prog.Keeps.get hself fun _ =>
    Prog.Leads.when (fun _ => ?_) (fun _ _ h => h) hself
  refine Prog.Leads.keeps_bind (Prog.Keeps.ask _ _) hself fun _ => ?_
  refine Prog.Leads.keeps_bind (keeps_orTrue (hstage _)) hself fun _ => ?_
  refine Prog.Leads.keeps_bind Prog.Keeps.get hself fun _ => Prog.Leads.keeps_bind
    (Prog.Keeps.when fun _ => keeps_reindexLocale hI (hremove _ (by simp))) hself fun _ => ?_
  refine Prog.Leads.keeps_bind Prog.Keeps.get hself fun _ => Prog.Leads.keeps_bind
    (Prog.Keeps.when fun _ => keeps_reindexAll hI (hremove _ (by simp))) hself fun _ => ?_
  refine Prog.Leads.keeps_bind Prog.Keeps.get hself fun _ => Prog.Leads.bind (Q := I) ?_ fun _ =>
    Prog.Leads.of_keeps (keeps_orTrue (hstage _)) hself
  refine Prog.Leads.when (fun _ => ?_) (fun _ _ h => h) hself
  refine Prog.Leads.keeps_bind (Prog.Keeps.bestEffort (Prog.Keeps.ask _ _)) hself fun _ => ?_
  refine Prog.Leads.bind (Q := I) (leads_forDatabases fun db => hrefresh _ db) fun _ => ?_
  exact Prog.Leads.of_keeps (keeps_orTrue (hremove _ (by simp))) hself

theorem backgroundReindex_warned (hspeaks : ListingsSpeak stderr ρ) (pgMajor : Nat) :
    Prog.Leads ρ Warned Warned Warned (backgroundReindex stderr pgMajor) :=
  leads_backgroundReindex stable_warned (fun _ _ h => h) (fun _ _ _ h => h)
    (refreshDatabase_warned hspeaks) pgMajor

/-! ## Coming to an end -/

section Ends

variable {I : Volume → Prop}

end Ends

end Hook

end Startup

end RestoreOperator
