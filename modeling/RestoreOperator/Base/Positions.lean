import Mathlib.Data.List.Nodup

/-!
# `Base.Positions` — what was read, and where

What is read off the items of a list, or off lists of them, each with the position it was read at.
No two have one position, so equal readings of different places stay apart.
-/

namespace RestoreOperator

namespace Positions

variable {α β ι : Type}

/-- What the items of a list are read as, with their positions.  Not every item reads. -/
def read (f : α → Option β) (items : List α) : List (Nat × β) :=
  items.zipIdx.filterMap fun item => (f item.1).map fun b => (item.2, b)

/-- What the items of a list list themselves, under the positions of both. -/
def gather (f : α → List (ι × β)) (items : List α) : List ((Nat × ι) × β) :=
  items.zipIdx.flatMap fun item => (f item.1).map fun x => ((item.2, x.1), x.2)

section Read

variable {f : α → Option β} {items : List α}

theorem mem_read {i : Nat} {b : β} :
    (i, b) ∈ read f items ↔ ∃ a, items[i]? = some a ∧ f a = some b := by
  unfold read
  simp only [List.mem_filterMap, Option.map_eq_some_iff]
  constructor
  · rintro ⟨⟨a, _⟩, hmem, b, hread, heq⟩
    obtain ⟨rfl, rfl⟩ := Prod.mk.inj heq
    exact ⟨a, List.mk_mem_zipIdx_iff_getElem?.mp hmem, hread⟩
  · rintro ⟨a, hget, hread⟩
    exact ⟨(a, i), List.mk_mem_zipIdx_iff_getElem?.mpr hget, b, hread, rfl⟩

/-- The values, without their positions. -/
theorem values_read : (read f items).map Prod.snd = items.filterMap f := by
  have hvalue : ∀ item : α × Nat,
      ((f item.1).map fun b => (item.2, b)).map Prod.snd = f item.1 := by
    intro item
    cases f item.1 <;> rfl
  unfold read
  rw [List.map_filterMap]
  simp only [hvalue]
  calc items.zipIdx.filterMap (fun item => f item.1)
      = (items.zipIdx.map Prod.fst).filterMap f := by rw [List.filterMap_map]; rfl
    _ = items.filterMap f := by rw [List.zipIdx_map_fst]

/-- The positions are some of the list's. -/
theorem nodup_read : ((read f items).map Prod.fst).Nodup := by
  refine List.Nodup.sublist ?_ (List.nodup_range' (s := 0) (n := items.length))
  rw [← List.zipIdx_map_snd]
  unfold read
  induction items.zipIdx with
  | nil => exact List.Sublist.refl _
  | cons item rest ih =>
    cases hread : f item.1 with
    | none =>
      rw [List.filterMap_cons_none (by rw [hread]; rfl)]
      exact ih.cons _
    | some b =>
      rw [List.filterMap_cons_some (b := (item.2, b)) (by rw [hread]; rfl)]
      exact ih.cons_cons _

end Read

section Gather

variable {f : α → List (ι × β)} {items : List α}

theorem mem_gather {i : Nat} {j : ι} {b : β} :
    ((i, j), b) ∈ gather f items ↔ ∃ a, items[i]? = some a ∧ (j, b) ∈ f a := by
  unfold gather
  simp only [List.mem_flatMap, List.mem_map]
  constructor
  · rintro ⟨⟨a, _⟩, hmem, ⟨_, _⟩, hread, heq⟩
    obtain ⟨hposition, rfl⟩ := Prod.mk.inj heq
    obtain ⟨rfl, rfl⟩ := Prod.mk.inj hposition
    exact ⟨a, List.mk_mem_zipIdx_iff_getElem?.mp hmem, hread⟩
  · rintro ⟨a, hget, hread⟩
    exact ⟨(a, i), List.mk_mem_zipIdx_iff_getElem?.mpr hget, (j, b), hread, rfl⟩

theorem values_gather : (gather f items).map Prod.snd = items.flatMap fun a => (f a).map Prod.snd := by
  unfold gather
  rw [List.map_flatMap]
  simp only [List.map_map, Function.comp_def]
  calc items.zipIdx.flatMap (fun item => (f item.1).map Prod.snd)
      = (items.zipIdx.map Prod.fst).flatMap (fun a => (f a).map Prod.snd) := by
        rw [List.flatMap_map]
    _ = items.flatMap fun a => (f a).map Prod.snd := by rw [List.zipIdx_map_fst]

theorem nodup_gather (h : ∀ a ∈ items, ((f a).map Prod.fst).Nodup) :
    ((gather f items).map Prod.fst).Nodup := by
  unfold gather
  rw [List.map_flatMap, List.nodup_flatMap]
  simp only [List.map_map, Function.comp_def]
  constructor
  · rintro ⟨a, i⟩ hmem
    have ha : a ∈ items := List.mem_of_getElem? (List.mk_mem_zipIdx_iff_getElem?.mp hmem)
    have hunder : (f a).map (fun x => (i, x.1)) = ((f a).map Prod.fst).map (Prod.mk i) := by
      rw [List.map_map]
      rfl
    rw [hunder]
    exact (h a ha).map fun _ _ heq => (Prod.mk.inj heq).2
  · -- two items are at two positions, so nothing of theirs is at one
    have hpositions : (items.zipIdx.map Prod.snd).Nodup := by
      rw [List.zipIdx_map_snd]
      exact List.nodup_range'
    refine (List.pairwise_map.mp hpositions).imp fun {item other} hne => ?_
    intro position hmem hother
    obtain ⟨x, _, rfl⟩ := List.mem_map.mp hmem
    obtain ⟨y, _, heq⟩ := List.mem_map.mp hother
    exact hne (Prod.mk.inj heq).1.symm

end Gather

end Positions

end RestoreOperator
