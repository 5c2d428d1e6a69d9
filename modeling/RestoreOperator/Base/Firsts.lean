import Mathlib.Data.List.Nodup

/-!
# `Base.Firsts` — the first of each key

Of the items of a list that have the same key only the first is kept.  What is kept is in the order of the
list, and keeping the firsts of it once more changes nothing.
-/

namespace Firsts

variable {α β : Type} [DecidableEq β] {key : α → β} {seen : List β} {xs : List α} {x : α}

/-- **The first item of each key**, but for the keys that were seen. -/
def firsts (key : α → β) (seen : List β) : List α → List α
  | [] => []
  | x :: rest => if key x ∈ seen then firsts key seen rest else x :: firsts key (key x :: seen) rest

theorem firsts_cons_of_mem (h : key x ∈ seen) (rest : List α) :
    firsts key seen (x :: rest) = firsts key seen rest := if_pos h

theorem firsts_cons_of_notMem (h : key x ∉ seen) (rest : List α) :
    firsts key seen (x :: rest) = x :: firsts key (key x :: seen) rest := if_neg h

/-- A key that was seen is not kept. -/
theorem not_mem_seen (h : x ∈ firsts key seen xs) : key x ∉ seen := by
  induction xs generalizing seen with
  | nil => cases h
  | cons y rest ih =>
    by_cases hy : key y ∈ seen
    · rw [firsts_cons_of_mem hy] at h
      exact ih h
    · rw [firsts_cons_of_notMem hy] at h
      rcases List.mem_cons.mp h with rfl | h
      · exact hy
      · exact fun hseen => ih h (List.mem_cons_of_mem _ hseen)

/-- **No two have the same key.** -/
theorem nodup_firsts (key : α → β) (seen : List β) (xs : List α) : ((firsts key seen xs).map key).Nodup := by
  induction xs generalizing seen with
  | nil => exact List.nodup_nil
  | cons y rest ih =>
    by_cases hy : key y ∈ seen
    · rw [firsts_cons_of_mem hy]
      exact ih seen
    · rw [firsts_cons_of_notMem hy, List.map_cons, List.nodup_cons]
      refine ⟨fun hmem => ?_, ih _⟩
      obtain ⟨x, hx, hkey⟩ := List.mem_map.mp hmem
      exact not_mem_seen hx (hkey ▸ List.mem_cons_self)

/-- **The keys are those of the list**, each where it first appears. -/
theorem map_firsts (key : α → β) (seen : List β) (xs : List α) :
    (firsts key seen xs).map key = ((xs.map key).filter fun k => k ∉ seen).eraseDups := by
  induction xs generalizing seen with
  | nil => rfl
  | cons y rest ih =>
    by_cases hy : key y ∈ seen
    · rw [firsts_cons_of_mem hy, ih, List.map_cons, List.filter_cons_of_neg (by simpa using hy)]
    · rw [firsts_cons_of_notMem hy, List.map_cons, ih, List.map_cons,
        List.filter_cons_of_pos (by simpa using hy), List.eraseDups_cons, List.filter_filter]
      congr 2
      apply List.filter_congr
      intro k _
      simp only [List.mem_cons, not_or, Bool.decide_and, decide_not]
      rfl

/-- **What is kept is the first of its key.** -/
theorem find?_of_mem_firsts (h : x ∈ firsts key seen xs) :
    xs.find? (fun y => key y = key x) = some x := by
  induction xs generalizing seen with
  | nil => cases h
  | cons y rest ih =>
    by_cases hy : key y ∈ seen
    · rw [firsts_cons_of_mem hy] at h
      have hne : key y ≠ key x := fun heq => not_mem_seen h (heq ▸ hy)
      rw [List.find?_cons_of_neg (by simpa using hne)]
      exact ih h
    · rw [firsts_cons_of_notMem hy] at h
      rcases List.mem_cons.mp h with rfl | h
      · rw [List.find?_cons_of_pos (by simp)]
      · have hne : key y ≠ key x := fun heq => not_mem_seen h (heq ▸ List.mem_cons_self)
        rw [List.find?_cons_of_neg (by simpa using hne)]
        exact ih h

/-- **All are kept** if no key was seen or comes twice. -/
theorem firsts_eq_self (hkeys : (xs.map key).Nodup) (hseen : ∀ x ∈ xs, key x ∉ seen) :
    firsts key seen xs = xs := by
  induction xs generalizing seen with
  | nil => rfl
  | cons y rest ih =>
    rw [List.map_cons, List.nodup_cons] at hkeys
    rw [firsts_cons_of_notMem (hseen y List.mem_cons_self)]
    congr 1
    refine ih hkeys.2 fun x hx hmem => ?_
    rcases List.mem_cons.mp hmem with heq | hmem
    · exact hkeys.1 (heq ▸ List.mem_map_of_mem hx)
    · exact hseen x (List.mem_cons_of_mem _ hx) hmem

end Firsts
