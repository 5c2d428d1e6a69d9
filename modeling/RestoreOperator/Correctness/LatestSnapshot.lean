import Mathlib.Data.List.Induction
import Mathlib.Data.String.Basic
import RestoreOperator.Base.Rfc3339
import RestoreOperator.Replica.Snapshots
import RestoreOperator.System.Events

/-!
# `Correctness.LatestSnapshot` — the snapshot a replica restores when canopy picks none

Such a replica restores the snapshot with the greatest start time among those its filter lets through.
Start times are compared as the texts kopia prints, and texts do not always compare as the instants they
are: `00:00:00Z` comes after `00:00:00.5Z`, and clocks of different zones are compared without their
zones.
-/

namespace RestoreOperator

open Rfc3339

/-! ## What the pass picks -/

/-- **The snapshots a list holds** that the filter of the replica lets through. -/
def listedMatching (ctx : Context) (replica : Replica) (raw : String) : List Snapshot :=
  match parseSnapshotListOutput ctx raw with
  | .ok all => filterSnapshots ctx all replica.spec.snapshotFilter
  | .error _ => []

/-- The snapshot the pass picks from the output of a snapshot-list Job. -/
def pickedFrom (ctx : Context) (replica : Replica) (raw : String) : Option Snapshot :=
  match parseSnapshotListOutput ctx raw with
  | .ok all => pickSnapshot ctx replica all
  | .error _ => none

/-- Without canopy, it is the latest of those that match. -/
theorem pickedFrom_legacy (ctx : Context) {replica : Replica}
    (hlegacy : replica.spec.canopySource = none) (raw : String) :
    pickedFrom ctx replica raw = latestSnapshot (listedMatching ctx replica raw) := by
  unfold pickedFrom listedMatching
  cases parseSnapshotListOutput ctx raw with
  | error e => rfl
  | ok all =>
    show pickSnapshot ctx replica all = _
    unfold pickSnapshot
    rw [hlegacy]
    rfl

/-! ## The greatest start time -/

/-- A snapshot replaces the latest of those before it unless it starts earlier. -/
theorem latestSnapshot_append (snapshots : List Snapshot) (s : Snapshot) :
    latestSnapshot (snapshots ++ [s]) =
      match latestSnapshot snapshots with
      | none => some s
      | some b => if s.startTime < b.startTime then some b else some s := by
  unfold latestSnapshot
  rw [List.foldl_append]
  rfl

theorem latestSnapshot_eq_none {snapshots : List Snapshot} (h : latestSnapshot snapshots = none) :
    snapshots = [] := by
  induction snapshots using List.reverseRecOn with
  | nil => rfl
  | append_singleton snapshots s ih =>
    rw [latestSnapshot_append] at h
    cases hbest : latestSnapshot snapshots with
    | none =>
      rw [hbest] at h
      cases h
    | some b =>
      rw [hbest] at h
      dsimp only at h
      split at h <;> cases h

/-- The latest is that of those before the last, if the last starts earlier, or else the last. -/
theorem latestSnapshot_append_cases {snapshots : List Snapshot} {s picked : Snapshot}
    (h : latestSnapshot (snapshots ++ [s]) = some picked) :
    (latestSnapshot snapshots = some picked ∧ s.startTime < picked.startTime) ∨
      (picked = s ∧ ∀ b, latestSnapshot snapshots = some b → b.startTime ≤ s.startTime) := by
  rw [latestSnapshot_append] at h
  cases hbest : latestSnapshot snapshots with
  | none =>
    rw [hbest] at h
    cases h
    exact Or.inr ⟨rfl, fun b hb => by cases hb⟩
  | some b =>
    rw [hbest] at h
    dsimp only at h
    by_cases hearlier : s.startTime < b.startTime
    · rw [if_pos hearlier] at h
      cases h
      exact Or.inl ⟨rfl, hearlier⟩
    · rw [if_neg hearlier] at h
      cases h
      refine Or.inr ⟨rfl, ?_⟩
      intro b' hb'
      cases hb'
      exact not_lt.mp hearlier

/-- **The latest snapshot is one of them, and none starts later**, as the texts go. -/
theorem latestSnapshot_greatest {snapshots : List Snapshot} {picked : Snapshot}
    (h : latestSnapshot snapshots = some picked) :
    picked ∈ snapshots ∧ ∀ s ∈ snapshots, s.startTime ≤ picked.startTime := by
  induction snapshots using List.reverseRecOn generalizing picked with
  | nil => cases h
  | append_singleton snapshots s ih =>
    rcases latestSnapshot_append_cases h with ⟨hbefore, hearlier⟩ | ⟨rfl, hlater⟩
    · obtain ⟨hmem, hmax⟩ := ih hbefore
      refine ⟨List.mem_append_left _ hmem, ?_⟩
      intro s' hs'
      rcases List.mem_append.mp hs' with hs' | hs'
      · exact hmax s' hs'
      · rw [List.mem_singleton.mp hs']
        exact hearlier.le
    · refine ⟨List.mem_append_right _ (List.mem_singleton_self _), ?_⟩
      intro s' hs'
      rcases List.mem_append.mp hs' with hs' | hs'
      · cases hbest : latestSnapshot snapshots with
        | none =>
          rw [latestSnapshot_eq_none hbest] at hs'
          cases hs'
        | some b => exact le_trans ((ih hbest).2 s' hs') (hlater b hbest)
      · rw [List.mem_singleton.mp hs']

/-! ## The newest -/

section Picked

variable (ctx : Context) (replica : Replica) (raw : String) (time : Snapshot → Time)

/-- Start times are written as kopia writes them. -/
def StartTimesOf (snapshots : List Snapshot) : Prop :=
  ∀ s ∈ snapshots, s.startTime = (time s).text

/-- No snapshot of a list starts after this one. -/
def NewestIn (snapshots : List Snapshot) (newest : Snapshot) : Prop :=
  newest ∈ snapshots ∧ ∀ s ∈ snapshots, (time s).instant ≤ (time newest).instant

/-- **The pass restores the newest**: what it picks from a list is newest among those that match, and it
    picks one if any matches. -/
def RestoresNewest : Prop :=
  listedMatching ctx replica raw ≠ [] →
    ∃ picked, pickedFrom ctx replica raw = some picked ∧
      NewestIn time (listedMatching ctx replica raw) picked

/-- **A newest snapshot reads last**: none of the others is read after it. -/
def NewestReadsLast (snapshots : List Snapshot) : Prop :=
  ∃ newest, NewestIn time snapshots newest ∧
    ∀ s ∈ snapshots, ¬ (time newest).ReadsBefore (time s)

variable {ctx replica raw time}

/-- **The newest is restored exactly when it reads last.** -/
theorem newest_restored_iff (hlegacy : replica.spec.canopySource = none)
    (htimes : StartTimesOf time (listedMatching ctx replica raw)) :
    RestoresNewest ctx replica raw time ↔
      (listedMatching ctx replica raw ≠ [] →
        NewestReadsLast time (listedMatching ctx replica raw)) := by
  have hpicked := pickedFrom_legacy ctx hlegacy raw
  unfold RestoresNewest
  rw [hpicked]
  generalize listedMatching ctx replica raw = snapshots at htimes
  constructor
  · intro h hsome
    obtain ⟨picked, hlatest, hnewest⟩ := h hsome
    refine ⟨picked, hnewest, ?_⟩
    intro s hs hreads
    have hle := (latestSnapshot_greatest hlatest).2 s hs
    have hlt := (Time.text_lt_iff _ _).mpr hreads
    rw [← htimes s hs, ← htimes picked hnewest.1] at hlt
    exact absurd hlt (not_lt.mpr hle)
  · intro h hsome
    obtain ⟨newest, ⟨hmem, hmax⟩, hlast⟩ := h hsome
    cases hlatest : latestSnapshot snapshots with
    | none => exact absurd (latestSnapshot_eq_none hlatest) hsome
    | some picked =>
      obtain ⟨hpicked, hgreatest⟩ := latestSnapshot_greatest hlatest
      -- neither text comes before the other, so they are one text and one instant
      have hnot : ¬ (time newest).text < (time picked).text := by
        rw [Time.text_lt_iff]
        exact hlast picked hpicked
      have hge : (time newest).text ≤ (time picked).text := by
        rw [← htimes newest hmem, ← htimes picked hpicked]
        exact hgreatest newest hmem
      have hsame : time newest = time picked := Time.text_inj (le_antisymm hge (not_lt.mp hnot))
      refine ⟨picked, rfl, hpicked, ?_⟩
      intro s hs
      rw [← hsame]
      exact hmax s hs

/-- **In UTC the newest reads last unless others of its second end where its fraction goes on.** -/
theorem newestReadsLast_utc_iff {snapshots : List Snapshot}
    (hutc : ∀ s ∈ snapshots, (time s).offset = 0) :
    NewestReadsLast time snapshots ↔
      ∃ newest, NewestIn time snapshots newest ∧
        ∀ s ∈ snapshots, ¬ (time newest).GoesOnFrom (time s) := by
  unfold NewestReadsLast
  apply exists_congr
  intro newest
  apply and_congr_right
  intro hnewest
  apply forall₂_congr
  intro s hs
  rw [Time.readsBefore_utc_iff (hutc newest hnewest.1) (hutc s hs)]
  have hnot : ¬ (time newest).instant < (time s).instant := not_lt.mpr (hnewest.2 s hs)
  simp [hnot]

end Picked

/-! ## Two snapshots -/

/-- A list with a snapshot of midnight and one of noon. -/
def dailyList : String :=
  "[\x7b\"id\":\"noon\",\"startTime\":\"2024-01-01T12:00:00Z\"\x7d,\x7b\"id\":\"whole\",\"startTime\":\"2024-01-01T00:00:00Z\"\x7d]"

/-- A list with a snapshot of midnight and one taken half a second later. -/
def halfSecondList : String :=
  "Connected to repository.\n[\x7b\"id\":\"whole\",\"startTime\":\"2024-01-01T00:00:00Z\"\x7d,\x7b\"id\":\"half\",\"startTime\":\"2024-01-01T00:00:00.5Z\"\x7d]"

def wholeSnapshot : Snapshot := { id := "whole", startTime := "2024-01-01T00:00:00Z" }

def halfSnapshot : Snapshot := { id := "half", startTime := "2024-01-01T00:00:00.5Z" }

def noonSnapshot : Snapshot := { id := "noon", startTime := "2024-01-01T12:00:00Z" }

/-- A context that reads the snapshots of a list. -/
def Context.listing (snapshots : List Snapshot) : Context :=
  { Context.hourly with parseSnapshots := fun _ => .ok snapshots }

/-- A replica with a schedule and no canopy source. -/
def legacyReplica : Replica := { name := "r", spec := plainSpec }

theorem listing_matching (snapshots : List Snapshot) (raw : String) :
    listedMatching (Context.listing snapshots) legacyReplica raw = snapshots := by
  have hparse : parseSnapshotListOutput (Context.listing snapshots) raw = .ok snapshots := by
    unfold parseSnapshotListOutput
    split <;> rfl
  unfold listedMatching
  rw [hparse]
  rfl

def midnight : Time := { year := 2024, month := 1, day := 1, hour := 0, minute := 0, second := 0 }

def halfPastMidnight : Time :=
  { year := 2024, month := 1, day := 1, hour := 0, minute := 0, second := 0, fraction := [5] }

def noon : Time := { year := 2024, month := 1, day := 1, hour := 12, minute := 0, second := 0 }

/-- When these were taken. -/
def snapshotTaken (s : Snapshot) : Time :=
  if s.id = "half" then halfPastMidnight else if s.id = "noon" then noon else midnight

theorem midnight_lt_halfPastMidnight : midnight.instant < halfPastMidnight.instant := by
  unfold Time.instant
  rw [show midnight.clock = halfPastMidnight.clock from rfl]
  norm_num [midnight, halfPastMidnight]

theorem midnight_lt_noon : midnight.instant < noon.instant := by
  unfold Time.instant
  rw [show noon.clock = midnight.clock + 43200 from rfl]
  norm_num [midnight, noon]

theorem noon_restored :
    RestoresNewest (Context.listing [noonSnapshot, wholeSnapshot]) legacyReplica dailyList
      snapshotTaken := by
  have hmatching := listing_matching [noonSnapshot, wholeSnapshot] dailyList
  refine (newest_restored_iff rfl ?_).mpr ?_
  · rw [hmatching]
    unfold StartTimesOf
    decide
  · intro _
    rw [hmatching]
    refine ⟨noonSnapshot, ⟨by simp, ?_⟩, by decide⟩
    intro s hs
    simp only [List.mem_cons, List.not_mem_nil, or_false] at hs
    rcases hs with rfl | rfl
    · exact le_refl _
    · exact midnight_lt_noon.le

/-- **The snapshot of midnight is restored**, though the other is half a second newer. -/
theorem earlier_half_second_restored :
    legacyReplica.spec.canopySource = none ∧
      StartTimesOf snapshotTaken
        (listedMatching (Context.listing [wholeSnapshot, halfSnapshot]) legacyReplica
          halfSecondList) ∧
      ¬ RestoresNewest (Context.listing [wholeSnapshot, halfSnapshot]) legacyReplica halfSecondList
        snapshotTaken := by
  have hmatching := listing_matching [wholeSnapshot, halfSnapshot] halfSecondList
  refine ⟨rfl, ?_, ?_⟩
  · rw [hmatching]
    unfold StartTimesOf
    decide
  · intro h
    have hsome : listedMatching (Context.listing [wholeSnapshot, halfSnapshot]) legacyReplica
        halfSecondList ≠ [] := by
      rw [hmatching]
      exact List.cons_ne_nil _ _
    obtain ⟨picked, hpicked, _, hnewest⟩ := h hsome
    rw [pickedFrom_legacy _ rfl, hmatching] at hpicked
    have hwhole : latestSnapshot [wholeSnapshot, halfSnapshot] = some wholeSnapshot := by decide
    rw [hwhole] at hpicked
    cases hpicked
    rw [hmatching] at hnewest
    have hle := hnewest halfSnapshot (by simp)
    exact absurd midnight_lt_halfPastMidnight (not_lt.mpr hle)

end RestoreOperator
