import Mathlib.Data.List.Basic
import RestoreOperator.Calls.Loops
import RestoreOperator.Calls.Runs
import RestoreOperator.Restore.Startup

/-!
# `Correctness.Startup` — a restore serves only what it has rebuilt

Both scripts can be cut off anywhere and start over, in the same pod or in another, so what makes them safe
is on the volume: whatever an index still needs, a flag says so.  `Covered` is that, for a flag and what it
stands for; the commands keep it, and a branch of the background job removes its flag only once all is
rebuilt.
-/

namespace RestoreOperator

open Calls Relation

namespace Startup

/-! ## What may be wrong with the indexes -/

/-- Every index clients can use is in the order of its database's default collation. -/
def Sorted (v : Volume) : Prop :=
  ∀ d ∈ v.databases, d.isUser = true → ∀ i ∈ d.indexes, i.isValid = true → i.onDefault = true →
    i.unsorted = false

/-- No index has pages that were never written, of those that can be rebuilt while clients use them. -/
def Whole (v : Volume) : Prop :=
  ∀ d ∈ v.databases, d.isUser = true → ∀ i ∈ d.indexes, i.rebuildsConcurrently = true → i.torn = false

/-- **Postgres warns of every outdated index**: one of its collations still has the version of old.  The
    default collation of the database is none of these. -/
def Warned (v : Volume) : Prop :=
  ∀ d ∈ v.databases, ∀ i ∈ d.indexes, i.isValid = true → i.isSystem = false → i.outdated = true →
    ∃ c ∈ d.collations, c.mismatched = true ∧ c.name ∈ i.collations

/-- **What the flag stands for is done, or the flag is there.** -/
def Covered (f : Flag) (P : Volume → Prop) (v : Volume) : Prop := v.files f = true ∨ P v

/-- The names of the databases are single words. -/
def Named (v : Volume) : Prop := ∀ d ∈ v.databases, d.isUser = true → IsWord d.name

/-! ## Rebuilding -/

/-- Nothing is wrong with the index. -/
def Index.IsSound (i : Index) : Prop := i.unsorted = false ∧ i.outdated = false ∧ i.torn = false

/-- The same index, with nothing wrong that was not before.  One that has become valid is sound. -/
structure Index.Improves (i i' : Index) : Prop where
  name : i'.name = i.name
  onDefault : i'.onDefault = i.onDefault
  collations : i'.collations = i.collations
  isValid : i'.isValid = true → i.isValid = true ∨ i'.IsSound
  isSystem : i'.isSystem = i.isSystem
  isExclusion : i'.isExclusion = i.isExclusion
  unsorted : i'.unsorted = true → i.unsorted = true
  outdated : i'.outdated = true → i.outdated = true
  torn : i'.torn = true → i.torn = true

theorem Index.Improves.refl (i : Index) : i.Improves i := ⟨rfl, rfl, rfl, .inl, rfl, rfl, id, id, id⟩

theorem Index.improves_rebuilt (i : Index) : i.Improves i.rebuilt :=
  ⟨rfl, rfl, rfl, fun _ => .inr ⟨rfl, rfl, rfl⟩, rfl, rfl, (nomatch ·), (nomatch ·), (nomatch ·)⟩

section Improves

variable {i i' : Index}

theorem eq_false_of_imp {b b' : Bool} (h : b' = true → b = true) (hb : b = false) : b' = false :=
  Bool.eq_false_iff.mpr fun hb' => Bool.false_ne_true (hb.symm.trans (h hb'))

theorem Index.Improves.isSound (h : i.Improves i') (hi : i.IsSound) : i'.IsSound :=
  ⟨eq_false_of_imp h.unsorted hi.1, eq_false_of_imp h.outdated hi.2.1, eq_false_of_imp h.torn hi.2.2⟩

theorem Index.Improves.trans {i₁ i₂ i₃ : Index} (h : i₁.Improves i₂) (h' : i₂.Improves i₃) :
    i₁.Improves i₃ where
  name := h'.name.trans h.name
  onDefault := h'.onDefault.trans h.onDefault
  collations := h'.collations.trans h.collations
  isValid hvalid := by
    rcases h'.isValid hvalid with hvalid | hsound
    · exact (h.isValid hvalid).imp id h'.isSound
    · exact .inr hsound
  isSystem := h'.isSystem.trans h.isSystem
  isExclusion := h'.isExclusion.trans h.isExclusion
  unsorted hu := h.unsorted (h'.unsorted hu)
  outdated ho := h.outdated (h'.outdated ho)
  torn ht := h.torn (h'.torn ht)

/-- An index with something wrong was valid before, if it is. -/
theorem Index.Improves.wasValid (h : i.Improves i') (hvalid : i'.isValid = true)
    (hwrong : i'.unsorted = true ∨ i'.outdated = true ∨ i'.torn = true) : i.isValid = true := by
  refine (h.isValid hvalid).resolve_right fun hsound => ?_
  rw [hsound.1, hsound.2.1, hsound.2.2] at hwrong
  simp at hwrong

theorem Index.Improves.rebuildsConcurrently (h : i.Improves i') (htorn : i'.torn = true)
    (hi' : i'.rebuildsConcurrently = true) : i.rebuildsConcurrently = true := by
  unfold Index.rebuildsConcurrently at hi' ⊢
  simp only [Bool.and_eq_true, Bool.not_eq_true'] at hi' ⊢
  exact ⟨⟨h.wasValid hi'.1.1 (.inr (.inr htorn)), h.isSystem ▸ hi'.1.2⟩, h.isExclusion ▸ hi'.2⟩

/-- An index is sorted if it was. -/
theorem Index.Improves.sorted (h : i.Improves i')
    (hi : i.isValid = true → i.onDefault = true → i.unsorted = false) (hvalid : i'.isValid = true)
    (hdefault : i'.onDefault = true) : i'.unsorted = false := by
  by_contra hunsorted
  have hwrong : i'.unsorted = true := Bool.of_not_eq_false hunsorted
  have hsorted := hi (h.wasValid hvalid (.inl hwrong)) (h.onDefault ▸ hdefault)
  exact hunsorted (eq_false_of_imp h.unsorted hsorted)

/-- An index is whole if it was. -/
theorem Index.Improves.whole (h : i.Improves i')
    (hi : i.rebuildsConcurrently = true → i.torn = false) (hi' : i'.rebuildsConcurrently = true) :
    i'.torn = false := by
  by_contra htorn
  have hwhole := hi (h.rebuildsConcurrently (Bool.of_not_eq_false htorn) hi')
  exact htorn (eq_false_of_imp h.torn hwhole)

end Improves

/-- The same database, with its indexes improved. -/
structure Database.Improves (d d' : Database) : Prop where
  name : d'.name = d.name
  allowsConnections : d'.allowsConnections = d.allowsConnections
  collations : d'.collations = d.collations
  indexes : ∀ i' ∈ d'.indexes, ∃ i ∈ d.indexes, i.Improves i'

theorem Database.Improves.refl (d : Database) : d.Improves d :=
  ⟨rfl, rfl, rfl, fun i hi => ⟨i, hi, .refl i⟩⟩

theorem Database.Improves.trans {d₁ d₂ d₃ : Database} (h : d₁.Improves d₂) (h' : d₂.Improves d₃) :
    d₁.Improves d₃ := by
  refine ⟨h'.name.trans h.name, h'.allowsConnections.trans h.allowsConnections,
    h'.collations.trans h.collations, fun i₃ hi₃ => ?_⟩
  obtain ⟨i₂, hi₂, himproves'⟩ := h'.indexes i₃ hi₃
  obtain ⟨i₁, hi₁, himproves⟩ := h.indexes i₂ hi₂
  exact ⟨i₁, hi₁, himproves.trans himproves'⟩

theorem Database.Improves.isUser {d d' : Database} (h : d.Improves d') : d'.isUser = d.isUser := by
  unfold Database.isUser
  rw [h.name, h.allowsConnections]

/-- **What rebuilding does to a volume.** -/
structure Volume.Rebuilds (v v' : Volume) : Prop where
  files : v'.files = v.files
  info : v'.info = v.info
  databases : ∀ d' ∈ v'.databases, ∃ d ∈ v.databases, d.Improves d'

instance : Std.Refl Volume.Rebuilds := ⟨fun _ => ⟨rfl, rfl, fun d hd => ⟨d, hd, .refl d⟩⟩⟩

instance : IsTrans Volume Volume.Rebuilds := by
  refine ⟨fun v₁ v₂ v₃ h h' => ⟨h'.files.trans h.files, h'.info.trans h.info, fun d₃ hd₃ => ?_⟩⟩
  obtain ⟨d₂, hd₂, himproves'⟩ := h'.databases d₃ hd₃
  obtain ⟨d₁, hd₁, himproves⟩ := h.databases d₂ hd₂
  exact ⟨d₁, hd₁, himproves.trans himproves'⟩

/-- Many rebuilds are one. -/
theorem rebuilds_of_reach {v v' : Volume} (h : ReflTransGen Volume.Rebuilds (id v) (id v')) :
    v.Rebuilds v' := by
  rw [reflTransGen_eq_self] at h
  exact h

theorem Volume.rebuilds_mapIndexes {f : Index → Index} (hf : ∀ i : Index, i.Improves (f i)) (db : String)
    (v : Volume) : v.Rebuilds (v.mapIndexes db f) := by
  refine ⟨rfl, rfl, fun d' hd' => ?_⟩
  obtain ⟨d, hd, rfl⟩ := List.mem_map.mp hd'
  refine ⟨d, hd, ?_⟩
  split
  · refine ⟨rfl, rfl, rfl, fun i' hi' => ?_⟩
    obtain ⟨i, hi, rfl⟩ := List.mem_map.mp hi'
    exact ⟨i, hi, hf i⟩
  · exact .refl d

theorem Volume.rebuilds_reindexIndex (db index : String) (v : Volume) :
    v.Rebuilds (v.reindexIndex db index) := by
  refine v.rebuilds_mapIndexes (fun i => ?_) db
  split
  · exact i.improves_rebuilt
  · exact .refl i

theorem Volume.rebuilds_reindexDatabase (concurrently : Bool) (db : String) (v : Volume) :
    v.Rebuilds (v.reindexDatabase concurrently db) := by
  refine v.rebuilds_mapIndexes (fun i => ?_) db
  split
  · exact .refl i
  · exact i.improves_rebuilt

section Rebuilds

variable {v v' : Volume}

theorem Volume.Rebuilds.sorted (h : v.Rebuilds v') (hv : Sorted v) : Sorted v' := by
  intro d' hd' huser i' hi'
  obtain ⟨d, hd, himproves⟩ := h.databases d' hd'
  obtain ⟨i, hi, hindex⟩ := himproves.indexes i' hi'
  exact hindex.sorted (hv d hd (himproves.isUser ▸ huser) i hi)

theorem Volume.Rebuilds.whole (h : v.Rebuilds v') (hv : Whole v) : Whole v' := by
  intro d' hd' huser i' hi'
  obtain ⟨d, hd, himproves⟩ := h.databases d' hd'
  obtain ⟨i, hi, hindex⟩ := himproves.indexes i' hi'
  exact hindex.whole (hv d hd (himproves.isUser ▸ huser) i hi)

theorem Volume.Rebuilds.warned (h : v.Rebuilds v') (hv : Warned v) : Warned v' := by
  intro d' hd' i' hi' hvalid hsystem houtdated
  obtain ⟨d, hd, himproves⟩ := h.databases d' hd'
  obtain ⟨i, hi, hindex⟩ := himproves.indexes i' hi'
  have hold : i.isValid = true := hindex.wasValid hvalid (.inr (.inl houtdated))
  obtain ⟨c, hc, hmismatched, hname⟩ :=
    hv d hd i hi hold (hindex.isSystem ▸ hsystem) (hindex.outdated houtdated)
  exact ⟨c, himproves.collations ▸ hc, hmismatched, hindex.collations ▸ hname⟩

theorem Volume.Rebuilds.named (h : v.Rebuilds v') (hv : Named v) : Named v' := by
  intro d' hd' huser
  obtain ⟨d, hd, himproves⟩ := h.databases d' hd'
  rw [himproves.name]
  exact hv d hd (himproves.isUser ▸ huser)

theorem Volume.Rebuilds.covered {f : Flag} {P : Volume → Prop} (h : v.Rebuilds v')
    (hP : P v → P v') (hv : Covered f P v) : Covered f P v' := by
  rcases hv with hflag | hdone
  · left
    rw [h.files]
    exact hflag
  · exact .inr (hP hdone)

end Rebuilds

/-! ## What is rebuilt -/

/-- The index of the database was built anew. -/
def Rebuilt (db index : String) (v : Volume) : Prop :=
  ∀ d ∈ v.databases, d.name = db → ∀ i ∈ d.indexes, i.name = index →
    i.unsorted = false ∧ i.outdated = false

theorem Volume.Rebuilds.rebuilt {v v' : Volume} (h : v.Rebuilds v') {db index : String}
    (hv : Rebuilt db index v) : Rebuilt db index v' := by
  intro d' hd' hdb i' hi' hindex
  obtain ⟨d, hd, himproves⟩ := h.databases d' hd'
  obtain ⟨i, hi, hi''⟩ := himproves.indexes i' hi'
  obtain ⟨hunsorted, houtdated⟩ := hv d hd (himproves.name ▸ hdb) i hi (hi''.name ▸ hindex)
  exact ⟨eq_false_of_imp hi''.unsorted hunsorted, eq_false_of_imp hi''.outdated houtdated⟩

theorem Volume.rebuilt_reindexIndex (db index : String) (v : Volume) :
    Rebuilt db index (v.reindexIndex db index) := by
  intro d' hd' hdb i' hi' hindex
  obtain ⟨d, hd, rfl⟩ := List.mem_map.mp hd'
  by_cases hd' : d.name = db
  · rw [if_pos hd'] at hi'
    obtain ⟨i, hi, rfl⟩ := List.mem_map.mp hi'
    by_cases hname : i.name = index
    · rw [if_pos hname]
      exact ⟨rfl, rfl⟩
    · rw [if_neg hname] at hindex
      exact absurd hindex hname
  · rw [if_neg hd'] at hdb
    exact absurd hdb hd'

/-- What a branch has done to a database, in the databases of that name. -/
def InDatabase (db : String) (P : Database → Prop) (v : Volume) : Prop :=
  ∀ d ∈ v.databases, d.name = db → P d

/-- Its default indexes are sorted. -/
def Database.Sorted (d : Database) : Prop :=
  ∀ i ∈ d.indexes, i.isValid = true → i.onDefault = true → i.unsorted = false

/-- None of the indexes that can be rebuilt beside is torn. -/
def Database.Whole (d : Database) : Prop :=
  ∀ i ∈ d.indexes, i.rebuildsConcurrently = true → i.torn = false

section Branches

variable {ρ : HookCall → Reply Unit} {v : Volume}

/-- A listing that does not fail. -/
theorem output_read {κ σ ε α : Type} {abs : σ → σ} {R : σ → σ → Prop} {ρ : κ → Reply ε} {s : σ} {c : κ}
    {g : σ → List α} {Q : List α → σ → Prop} {E : ε → σ → Prop} (hc : ¬(ρ c).Failed) (hQ : Q (g s) s) :
    Prog.Along abs R ρ (output (Prog.read c g)) Q E s := by
  unfold output
  refine Prog.Along.bind (Prog.Along.attempt (P := fun r s' => ∃ names, r = .ok names ∧ Q names s')
    (Prog.Along.read_succeeds hc hQ) (fun names s' h => ⟨names, rfl, h⟩) fun _ _ h => h.elim) ?_
  rintro _ s' ⟨names, rfl, h⟩
  exact Prog.Along.ret h

/-- A rebuild that does not fail. -/
theorem orTrue_done {c : HookCall} {f : Volume → Volume} {E : Unit → Volume → Prop} (hc : ¬(ρ c).Failed)
    (hf : v.Rebuilds (f v)) :
    Prog.Along id Volume.Rebuilds ρ (orTrue c f) (fun _ v' => v' = f v) E v := by
  unfold orTrue
  refine Prog.Along.bind (Prog.Along.bestEffort (Q := fun _ v' => v' = f v) (P := fun _ v' => v' = f v)
    (Prog.Along.call_succeeds hc (.single hf) rfl) (fun _ h => h) fun _ _ h => h.elim) ?_
  intro _ v' h
  exact Prog.Along.ret h

/-- The names of a listing that stand for themselves are gone through. -/
theorem mem_forWords {names : List String} {name : String} (hname : name ∈ names) (hword : IsWord name) :
    name ∈ forWords names := by
  refine List.mem_flatMap.mpr ⟨name, hname, ?_⟩
  have hsame : forWords [name] = [name] := hword
  unfold forWords at hsame
  rw [List.flatMap_singleton] at hsame
  rw [hsame]
  exact List.mem_singleton_self name

/-- **Going through the databases** does what is done in each, in every database a client can use. -/
theorem forDatabases_done {b : Branch} {f : String → HookScript Unit} {P : Database → Prop}
    (hlist : ¬(ρ (.databases b)).Failed)
    (hstable : ∀ d d' : Database, d.Improves d' → P d → P d')
    (hf : ∀ db v, Prog.Along id Volume.Rebuilds ρ (f db) (fun _ => InDatabase db P) (fun _ _ => True) v)
    (hnamed : Named v) :
    Prog.Along id Volume.Rebuilds ρ (forDatabases b f)
      (fun _ v' => ∀ d ∈ v'.databases, d.isUser = true → P d) (fun _ _ => True) v := by
  refine Prog.Along.bind (output_read hlist (Q := fun names v' => names = v.databaseNames ∧ v' = v)
    ⟨rfl, rfl⟩) ?_
  rintro _ v ⟨rfl, rfl⟩
  refine (Prog.Along.with_reach (Prog.Along.each_all (I := fun _ => True)
    (P := fun db => InDatabase db P) ?_ ?_ trivial)).mono ?_ fun _ _ h => h
  · intro db v₁ v₂ hreach hdone d' hd' hdb
    obtain ⟨d, hd, himproves⟩ := (rebuilds_of_reach hreach).databases d' hd'
    exact hstable d d' himproves (hdone d hd (himproves.name ▸ hdb))
  · intro db _ v₁ _
    exact (hf db v₁).mono (fun _ _ h => ⟨trivial, h⟩) fun _ _ h => h
  · rintro _ v' ⟨hreach, _, hall⟩ d' hd' huser
    -- a database a client can use was listed
    obtain ⟨d, hd, himproves⟩ := (rebuilds_of_reach hreach).databases d' hd'
    have hd_user : d.isUser = true := himproves.isUser ▸ huser
    refine hall d.name (mem_forWords ?_ (hnamed d hd hd_user)) d' hd' himproves.name
    exact List.mem_map_of_mem (List.mem_filter.mpr ⟨hd, hd_user⟩)

theorem mem_defaultIndexes {db index : String} :
    index ∈ v.defaultIndexes db ↔ ∃ d ∈ v.databases, d.name = db ∧
      ∃ i ∈ d.indexes, i.isValid = true ∧ i.onDefault = true ∧ i.name = index := by
  unfold Volume.defaultIndexes
  simp only [List.mem_flatMap, List.mem_filter, List.mem_map, decide_eq_true_eq, Bool.and_eq_true]
  constructor
  · rintro ⟨d, ⟨hd, hname⟩, i, ⟨hi, hdefault, hvalid⟩, hindex⟩
    exact ⟨d, hd, hname, i, hi, hvalid, hdefault, hindex⟩
  · rintro ⟨d, hd, hname, i, hi, hvalid, hdefault, hindex⟩
    exact ⟨d, ⟨hd, hname⟩, i, ⟨hi, hdefault, hvalid⟩, hindex⟩

/-- The listed indexes of a database are rebuilt, so its default indexes are sorted. -/
theorem reindexDefault_done {db : String} (hlist : ¬(ρ (.indexes .locale db)).Failed)
    (hreindex : ∀ index, ¬(ρ (.reindex .locale db index)).Failed) (v : Volume) :
    Prog.Along id Volume.Rebuilds ρ (reindexDefault db) (fun _ => InDatabase db Database.Sorted)
      (fun _ _ => True) v := by
  refine Prog.Along.bind (output_read hlist
    (Q := fun indexes v' => indexes = v.defaultIndexes db ∧ v' = v) ⟨rfl, rfl⟩) ?_
  rintro _ v ⟨rfl, rfl⟩
  refine (Prog.Along.with_reach (Prog.Along.each_all (I := fun _ => True) (P := Rebuilt db) ?_ ?_
    trivial)).mono ?_ fun _ _ h => h
  · exact fun index v₁ v₂ hreach hdone => (rebuilds_of_reach hreach).rebuilt hdone
  · intro index _ v₁ _
    refine (orTrue_done (hreindex index) (v₁.rebuilds_reindexIndex db index)).mono ?_ fun _ _ h => h
    rintro _ _ rfl
    exact ⟨trivial, v₁.rebuilt_reindexIndex db index⟩
  · rintro _ v' ⟨hreach, _, hall⟩ d' hd' hdb i' hi' hvalid hdefault
    obtain ⟨d, hd, himproves⟩ := (rebuilds_of_reach hreach).databases d' hd'
    obtain ⟨i, hi, hindex⟩ := himproves.indexes i' hi'
    by_contra hunsorted
    -- an index that is still out of order was listed, and so it was rebuilt
    have hold : i.isValid = true := hindex.wasValid hvalid (.inl (Bool.of_not_eq_false hunsorted))
    have hlisted : i.name ∈ v.defaultIndexes db :=
      mem_defaultIndexes.mpr ⟨d, hd, himproves.name ▸ hdb, i, hi, hold, hindex.onDefault ▸ hdefault, rfl⟩
    exact hunsorted (hall i.name hlisted d' hd' hdb i' hi' hindex.name).1

/-! ## The branches of the background job -/

theorem Database.Improves.sorted {d d' : Database} (h : d.Improves d') (hd : d.Sorted) : d'.Sorted := by
  intro i' hi'
  obtain ⟨i, hi, hindex⟩ := h.indexes i' hi'
  exact hindex.sorted (hd i hi)

theorem Database.Improves.whole {d d' : Database} (h : d.Improves d') (hd : d.Whole) : d'.Whole := by
  intro i' hi'
  obtain ⟨i, hi, hindex⟩ := h.indexes i' hi'
  exact hindex.whole (hd i hi)

/-- A rebuild of a database rebuilds what can be rebuilt beside. -/
theorem Volume.whole_reindexDatabase (concurrently : Bool) (db : String) (v : Volume) :
    InDatabase db Database.Whole (v.reindexDatabase concurrently db) := by
  intro d' hd' hdb i' hi' hrebuilds
  obtain ⟨d, hd, rfl⟩ := List.mem_map.mp hd'
  by_cases hname : d.name = db
  · rw [if_pos hname] at hi'
    obtain ⟨i, hi, rfl⟩ := List.mem_map.mp hi'
    by_cases hpassed : (concurrently && !i.rebuildsConcurrently) = true
    · rw [if_pos hpassed] at hrebuilds
      rw [hrebuilds, Bool.not_true, Bool.and_false] at hpassed
      cases hpassed
    · rw [if_neg hpassed]
      rfl
  · rw [if_neg hname] at hdb
    exact absurd hdb hname

/-- The branch a command belongs to. -/
def HookCall.branch : HookCall → Option Branch
  | .databases b => some b
  | .indexes b _ => some b
  | .reindex b _ _ => some b
  | .reindexDatabase _ => some .all
  | .collations _ => some .collation
  | .serverVersion => some .collation
  | .refresh _ _ => some .collation
  | .refreshDatabase _ => some .collation
  | _ => none

/-- No command of the branch fails.  It may still be cut off. -/
def Clean (b : Branch) (ρ : HookCall → Reply Unit) : Prop := ∀ c, c.branch = some b → ¬(ρ c).Failed

/-- Rebuilding keeps the property. -/
def Stable (I : Volume → Prop) : Prop := ∀ v v' : Volume, v.Rebuilds v' → I v → I v'

section Branch

variable {I : Volume → Prop}

theorem keeps_orTrue {c : HookCall} {f : Volume → Volume} (hf : ∀ v, I v → I (f v)) :
    Prog.Keeps I (orTrue c f) :=
  Prog.Keeps.bind (Prog.Keeps.bestEffort (Prog.Keeps.call hf)) fun _ => Prog.Keeps.ret ()

theorem keeps_output {κ σ ε α : Type} {I : σ → Prop} {m : Prog κ σ ε (List α)} (hm : Prog.Keeps I m) :
    Prog.Keeps I (output m) := by
  refine Prog.Keeps.bind (Prog.Keeps.attempt hm) fun r => ?_
  cases r with
  | ok names => exact Prog.Keeps.ret names
  | error _ => exact Prog.Keeps.ret []

theorem keeps_forDatabases {b : Branch} {f : String → HookScript Unit} (hf : ∀ db, Prog.Keeps I (f db)) :
    Prog.Keeps I (forDatabases b f) :=
  Prog.Keeps.bind (keeps_output (Prog.Keeps.read _ _)) fun _ => Prog.Keeps.each fun db _ => hf db

theorem Stable.reindexIndex (hI : Stable I) (c : HookCall) (db index : String) :
    Prog.Keeps I (orTrue c (Volume.reindexIndex db index)) :=
  keeps_orTrue fun v => hI _ _ (v.rebuilds_reindexIndex db index)

/-- **A branch that goes through the databases**, does its part in each and then removes its flag. -/
theorem branch_leads {b : Branch} {f : String → HookScript Unit} {P : Database → Prop} {flag : Flag}
    (hstable : ∀ d d' : Database, d.Improves d' → P d → P d')
    (hf : ∀ db v, Prog.Along id Volume.Rebuilds ρ (f db) (fun _ => InDatabase db P) (fun _ _ => True) v)
    (hclean : Clean b ρ) (hI : Stable I)
    (hremove : ∀ v, I v → (∀ d ∈ v.databases, d.isUser = true → P d) → I (v.remove flag)) :
    Prog.Leads ρ (fun v => I v ∧ Named v)
      (fun v => (I v ∧ Named v) ∧ ∀ d ∈ v.databases, d.isUser = true → P d) I
      (do forDatabases b f
          orTrue (.remove flag) (Volume.remove flag)) := by
  refine Prog.Leads.bind (Q := fun v => (I v ∧ Named v) ∧ ∀ d ∈ v.databases, d.isUser = true → P d) ?_ ?_
  · have halong (v : Volume) (hv : I v ∧ Named v) :
        Prog.Along id Volume.Rebuilds ρ (forDatabases b f)
          (fun _ v' => (I v' ∧ Named v') ∧ ∀ d ∈ v'.databases, d.isUser = true → P d) (fun _ _ => True) v := by
      refine (Prog.Along.with_reach (forDatabases_done (hclean _ rfl) hstable hf hv.2)).mono ?_
        fun _ _ h => h
      rintro _ v' ⟨hreach, hdone⟩
      have hrebuilds := rebuilds_of_reach hreach
      exact ⟨⟨hI v v' hrebuilds hv.1, hrebuilds.named hv.2⟩, hdone⟩
    exact Prog.Leads.of_along halong fun v v' hv hreach => hI v v' (rebuilds_of_reach hreach) hv.1
  · intro _
    refine Prog.Leads.ends (keeps_orTrue ?_) (fun _ h => h) fun _ h => h.1.1
    rintro v ⟨⟨hv, hnamed⟩, hdone⟩
    exact ⟨⟨hremove v hv hdone, hnamed⟩, hdone⟩

/-- **The locale branch leaves every index sorted**, if none of its commands fails. -/
theorem reindexLocale_leads (hclean : Clean .locale ρ) (hI : Stable I)
    (hremove : ∀ v, I v → Sorted v → I (v.remove .needsReindex)) :
    Prog.Leads ρ (fun v => I v ∧ Named v) (fun v => (I v ∧ Named v) ∧ Sorted v) I reindexLocale := by
  refine branch_leads (P := Database.Sorted) (fun _ _ => Database.Improves.sorted) ?_ hclean hI hremove
  exact fun db v => reindexDefault_done (hclean _ rfl) (fun _ => hclean _ rfl) v

/-- **The other one leaves every index whole.** -/
theorem reindexAll_leads {pgMajor : Nat} (hclean : Clean .all ρ) (hI : Stable I)
    (hremove : ∀ v, I v → Whole v → I (v.remove .needsReindexAll)) :
    Prog.Leads ρ (fun v => I v ∧ Named v) (fun v => (I v ∧ Named v) ∧ Whole v) I (reindexAll pgMajor) := by
  refine branch_leads (P := Database.Whole) (fun _ _ => Database.Improves.whole) ?_ hclean hI hremove
  intro db v
  refine (orTrue_done (hclean _ rfl) (v.rebuilds_reindexDatabase _ db)).mono ?_ fun _ _ h => h
  rintro _ _ rfl
  exact v.whole_reindexDatabase _ db

theorem keeps_reindexLocale (hI : Stable I) (hremove : ∀ v, I v → I (v.remove .needsReindex)) :
    Prog.Keeps I reindexLocale :=
  Prog.Keeps.bind
    (keeps_forDatabases fun db => Prog.Keeps.bind (keeps_output (Prog.Keeps.read _ _))
      fun _ => Prog.Keeps.each fun index _ => hI.reindexIndex _ db index)
    fun _ => keeps_orTrue hremove

theorem keeps_reindexAll {pgMajor : Nat} (hI : Stable I)
    (hremove : ∀ v, I v → I (v.remove .needsReindexAll)) : Prog.Keeps I (reindexAll pgMajor) :=
  Prog.Keeps.bind
    (keeps_forDatabases fun db => keeps_orTrue fun v => hI _ _ (v.rebuilds_reindexDatabase _ db))
    fun _ => keeps_orTrue hremove

theorem keeps_listingFile (stderr : HookCall → List String) (c : HookCall)
    (names : Volume → List String) : Prog.Keeps I (listingFile stderr c names) :=
  Prog.Keeps.bind (keeps_output (Prog.Keeps.read _ _)) fun _ => Prog.Keeps.ret _

/-- What recording the versions keeps. -/
structure RefreshStable (I : Volume → Prop) : Prop where
  refreshVersion : ∀ db collation v, I v → I (v.refreshVersion db collation)
  refreshDatabaseVersion : ∀ db v, I v → I (v.refreshDatabaseVersion db)

variable {stderr : HookCall → List String}

theorem keeps_refreshDatabase {keepsVersion : Bool} {db : String} (hI : Stable I) (hrefresh : RefreshStable I) :
    Prog.Keeps I (refreshDatabase stderr keepsVersion db) := by
  refine Prog.Keeps.bind ?_ fun clean => Prog.Keeps.when fun _ => ?_
  · exact Prog.Keeps.bind (keeps_listingFile stderr _ _) fun _ => Prog.Keeps.eachAll fun index _ =>
      Prog.Keeps.bestEffort (Prog.Keeps.call fun v => hI _ _ (v.rebuilds_reindexIndex db index))
  · refine Prog.Keeps.bind (keeps_listingFile stderr _ _) fun _ => ?_
    refine Prog.Keeps.bind (Prog.Keeps.each fun c _ => keeps_orTrue (hrefresh.refreshVersion db c)) fun _ => ?_
    exact Prog.Keeps.when fun _ => keeps_orTrue (hrefresh.refreshDatabaseVersion db)

theorem keeps_refreshCollations {pgMajor : Nat} (hI : Stable I) (hrefresh : RefreshStable I)
    (hremove : ∀ v, I v → I (v.remove .needsCollationRefresh)) :
    Prog.Keeps I (refreshCollations stderr pgMajor) :=
  Prog.Keeps.bind (Prog.Keeps.bestEffort (Prog.Keeps.ask _ _)) fun _ =>
    Prog.Keeps.bind (keeps_forDatabases fun _ => keeps_refreshDatabase hI hrefresh)
      fun _ => keeps_orTrue hremove

end Branch

end Branches

end Startup

end RestoreOperator
