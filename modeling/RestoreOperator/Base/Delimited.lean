import Mathlib.Data.List.Basic
import Mathlib.Data.List.TakeWhile

/-!
# `Base.Delimited` — texts with a separator between their parts

Parts joined by a separator are read back by splitting at it, as long as there is a part and none of them
holds the separator: what splitting leaves never does.
-/

namespace Delimited

/-- The parts of a text, between the separators. -/
def split (sep : Char) (s : String) : List String := (s.toList.splitOn sep).map String.ofList

/-- The parts in a text, with a separator between them. -/
def join (sep : Char) (parts : List String) : String :=
  String.intercalate (String.singleton sep) parts

variable {sep : Char} {s : String} {parts : List String}

theorem toList_join (sep : Char) (parts : List String) :
    (join sep parts).toList = [sep].intercalate (parts.map String.toList) := by
  unfold join
  rw [String.toList_intercalate, String.toList_singleton]

theorem join_singleton (sep : Char) (s : String) : join sep [s] = s := by
  rw [← String.toList_inj, toList_join]
  exact List.intercalate_singleton

theorem join_cons_cons (sep : Char) (s t : String) (rest : List String) :
    join sep (s :: t :: rest) = s ++ String.singleton sep ++ join sep (t :: rest) := by
  rw [← String.toList_inj, toList_join, String.toList_append, String.toList_append, toList_join,
    String.toList_singleton, List.map_cons, List.map_cons, List.intercalate_cons_cons]

/-- Joining adds nothing but separators. -/
theorem not_mem_join {c : Char} (hc : c ≠ sep) (h : ∀ part ∈ parts, c ∉ part.toList) :
    c ∉ (join sep parts).toList := by
  rw [toList_join]
  induction parts with
  | nil => exact List.not_mem_nil
  | cons part rest ih =>
    have hpart : c ∉ part.toList := h part List.mem_cons_self
    have hrest := ih fun part' hpart' => h part' (List.mem_cons_of_mem _ hpart')
    cases rest with
    | nil => simpa using hpart
    | cons next rest =>
      rw [List.map_cons] at hrest
      rw [List.map_cons, List.map_cons, List.intercalate_cons_cons, List.mem_append,
        List.mem_append, List.mem_singleton]
      rintro ((hmem | heq) | hmem)
      · exact hpart hmem
      · exact hc heq
      · exact hrest hmem

/-- A text without separators is its only part. -/
theorem split_eq_singleton (h : sep ∉ s.toList) : split sep s = [s] := by
  unfold split
  rw [List.splitOn_eq_singleton h]
  simp

/-- The parts of a longer list are those of its rest, but for the first, which is empty at a separator and
    one element longer elsewhere. -/
theorem mem_splitOn_cons {α : Type} [BEq α] {x y : α} {ys l : List α} (h : l ∈ (y :: ys).splitOn x) :
    l = [] ∨ l ∈ ys.splitOn x ∨
      ((y == x) = false ∧ ∃ first ∈ ys.splitOn x, l = y :: first) := by
  rw [List.splitOn_cons_eq_if_modifyHead] at h
  cases hy : y == x with
  | true =>
    rw [if_pos hy] at h
    rcases List.mem_cons.mp h with hempty | hrest
    · exact Or.inl hempty
    · exact Or.inr (Or.inl hrest)
  | false =>
    have hne : ¬ (y == x) = true := by simp [hy]
    obtain ⟨first, rest, hsplit⟩ := List.exists_cons_of_ne_nil (List.splitOn_ne_nil x ys)
    rw [if_neg hne, hsplit] at h
    rw [hsplit]
    rcases List.mem_cons.mp h with hfirst | hrest
    · exact Or.inr (Or.inr ⟨rfl, first, List.mem_cons_self, hfirst⟩)
    · exact Or.inr (Or.inl (List.mem_cons_of_mem _ hrest))

theorem not_mem_of_mem_splitOn {α : Type} [BEq α] [LawfulBEq α] {x : α} {xs l : List α}
    (h : l ∈ xs.splitOn x) : x ∉ l := by
  induction xs generalizing l with
  | nil =>
    rw [List.splitOn_nil, List.mem_singleton] at h
    rw [h]
    exact List.not_mem_nil
  | cons y ys ih =>
    rcases mem_splitOn_cons h with rfl | hrest | ⟨hy, first, hfirst, rfl⟩
    · exact List.not_mem_nil
    · exact ih hrest
    · intro hmem
      rcases List.mem_cons.mp hmem with rfl | hmem
      · rw [BEq.refl] at hy
        cases hy
      · exact ih hfirst hmem

theorem mem_of_mem_splitOn {α : Type} [BEq α] {x y : α} {xs l : List α} (h : l ∈ xs.splitOn x)
    (hy : y ∈ l) : y ∈ xs := by
  induction xs generalizing l with
  | nil =>
    rw [List.splitOn_nil, List.mem_singleton] at h
    rwa [h] at hy
  | cons z zs ih =>
    rcases mem_splitOn_cons h with rfl | hrest | ⟨_, first, hfirst, rfl⟩
    · cases hy
    · exact List.mem_cons_of_mem z (ih hrest hy)
    · rcases List.mem_cons.mp hy with rfl | hy
      · exact List.mem_cons_self
      · exact List.mem_cons_of_mem z (ih hfirst hy)

/-- What a part holds, the text holds. -/
theorem mem_of_mem_split {part : String} {c : Char} (h : part ∈ split sep s) (hc : c ∈ part.toList) :
    c ∈ s.toList := by
  obtain ⟨l, hl, rfl⟩ := List.mem_map.mp h
  rw [String.toList_ofList] at hc
  exact mem_of_mem_splitOn hl hc

/-- **A part holds no separator.** -/
theorem not_mem_of_mem_split {part : String} (h : part ∈ split sep s) : sep ∉ part.toList := by
  obtain ⟨l, hl, rfl⟩ := List.mem_map.mp h
  rw [String.toList_ofList]
  exact not_mem_of_mem_splitOn hl

/-- **What stands at the end is in the last part**, if it holds no separator. -/
theorem splitOn_append {α : Type} [BEq α] [LawfulBEq α] {x : α} {tail : List α} (h : x ∉ tail)
    (xs : List α) :
    ∃ init last, xs.splitOn x = init ++ [last] ∧ (xs ++ tail).splitOn x = init ++ [last ++ tail] := by
  induction xs with
  | nil => exact ⟨[], [], List.splitOn_nil x, List.splitOn_eq_singleton h⟩
  | cons y ys ih =>
    obtain ⟨init, last, hsplit, htail⟩ := ih
    rw [List.cons_append, List.splitOn_cons_eq_if_modifyHead, List.splitOn_cons_eq_if_modifyHead,
      hsplit, htail]
    cases hy : y == x with
    | true => exact ⟨[] :: init, last, rfl, rfl⟩
    | false =>
      cases init with
      | nil => exact ⟨[], y :: last, rfl, rfl⟩
      | cons first init => exact ⟨(y :: first) :: init, last, rfl, rfl⟩

/-- **Each part is split by itself.** -/
theorem split_join (hne : parts ≠ []) : split sep (join sep parts) = parts.flatMap (split sep) := by
  induction parts with
  | nil => exact absurd rfl hne
  | cons part rest ih =>
    cases rest with
    | nil =>
      rw [join_singleton, List.flatMap_cons, List.flatMap_nil, List.append_nil]
    | cons next rest =>
      have hsplit : split sep (join sep (part :: next :: rest)) =
          split sep part ++ split sep (join sep (next :: rest)) := by
        unfold split
        rw [toList_join, toList_join, List.map_cons, List.map_cons, List.intercalate_cons_cons,
          List.append_assoc, List.singleton_append, List.splitOn_append_cons_self, List.map_append]
      rw [hsplit, ih (List.cons_ne_nil _ _)]
      exact List.flatMap_cons.symm

/-- **Parts are read back** exactly if none of them holds the separator. -/
theorem split_join_iff (hne : parts ≠ []) :
    split sep (join sep parts) = parts ↔ ∀ part ∈ parts, sep ∉ part.toList := by
  constructor
  · intro h part hpart
    rw [← h] at hpart
    exact not_mem_of_mem_split hpart
  · intro h
    unfold split
    rw [toList_join, List.splitOn_intercalate]
    · simp [Function.comp_def]
    · intro l hl
      obtain ⟨part, hpart, rfl⟩ := List.mem_map.mp hl
      exact h part hpart
    · simpa using hne

/-! ## Up to a separator -/

section UpTo

variable {α : Type} [DecidableEq α] {x : α} {front : List α}

theorem takeWhile_ne_of_notMem (h : x ∉ front) : front.takeWhile (fun c => decide (c ≠ x)) = front := by
  rw [List.takeWhile_eq_self_iff]
  intro c hc
  rw [decide_eq_true_eq]
  rintro rfl
  exact h hc

theorem dropWhile_ne_of_notMem (h : x ∉ front) : front.dropWhile (fun c => decide (c ≠ x)) = [] := by
  have hsplit := List.takeWhile_append_dropWhile (p := fun c => decide (c ≠ x)) (l := front)
  rw [takeWhile_ne_of_notMem h] at hsplit
  exact List.append_right_eq_self.mp hsplit

/-- **A text is read up to the separator** that comes after its front. -/
theorem takeWhile_ne_append_cons (h : x ∉ front) (back : List α) :
    (front ++ x :: back).takeWhile (fun c => decide (c ≠ x)) = front := by
  rw [List.takeWhile_append, takeWhile_ne_of_notMem h, if_pos rfl, List.takeWhile_cons_of_neg (by simp),
    List.append_nil]

theorem dropWhile_ne_append_cons (h : x ∉ front) (back : List α) :
    (front ++ x :: back).dropWhile (fun c => decide (c ≠ x)) = x :: back := by
  rw [List.dropWhile_append, dropWhile_ne_of_notMem h, List.isEmpty_nil, if_pos rfl,
    List.dropWhile_cons_of_neg (by simp)]

end UpTo

end Delimited
