import Mathlib.Data.List.Nodup

/-!
# `Base.Line` — a line that is left anywhere and joined at the end

A line is a list without repetition.  In one move any number of its members leave, or one that is not in it
joins at the end.  Whoever stays moves forward only, and stays ahead of all that joined later.
-/

namespace Line

variable {α : Type} [DecidableEq α] {l l' : List α} {a b : α}

/-! ## One move -/

/-- **A move**: members leave, or a new one joins. -/
def Moves (l l' : List α) : Prop :=
  l'.Sublist l ∨ ∃ a, a ∉ l ∧ l' = l ++ [a]

/-- Ahead of the other, or alone in the line. -/
def Ahead (a b : α) (l : List α) : Prop :=
  b ∈ l → l.idxOf a < l.idxOf b

omit [DecidableEq α] in
theorem Moves.nodup (h : Moves l l') (hl : l.Nodup) : l'.Nodup := by
  rcases h with hleft | ⟨a, ha, rfl⟩
  · exact hl.sublist hleft
  · rw [← List.concat_eq_append]
    exact (List.nodup_concat l a).mpr ⟨ha, hl⟩

/-- **Nobody moves back** when others leave. -/
theorem idxOf_le_of_sublist (h : l'.Sublist l) (hl : l.Nodup) (ha : a ∈ l') :
    l'.idxOf a ≤ l.idxOf a := by
  induction h with
  | slnil => cases ha
  | cons x hsub ih =>
    obtain ⟨hx, hl⟩ := List.nodup_cons.mp hl
    have hne : x ≠ a := by
      rintro rfl
      exact hx (hsub.subset ha)
    rw [List.idxOf_cons_ne _ hne]
    exact Nat.le_succ_of_le (ih hl ha)
  | cons_cons x hsub ih =>
    obtain ⟨_, hl⟩ := List.nodup_cons.mp hl
    by_cases hx : x = a
    · subst hx
      rw [List.idxOf_cons_self]
      exact Nat.zero_le _
    · rw [List.idxOf_cons_ne _ hx, List.idxOf_cons_ne _ hx]
      exact Nat.succ_le_succ (ih hl (List.mem_of_ne_of_mem (Ne.symm hx) ha))

/-- **Nobody is overtaken** when others leave. -/
theorem idxOf_lt_of_sublist (h : l'.Sublist l) (hl : l.Nodup) (ha : a ∈ l') (hb : b ∈ l')
    (hlt : l.idxOf a < l.idxOf b) : l'.idxOf a < l'.idxOf b := by
  induction h with
  | slnil => cases ha
  | cons x hsub ih =>
    obtain ⟨hx, hl⟩ := List.nodup_cons.mp hl
    have hne : x ≠ a ∧ x ≠ b := by
      constructor
      · rintro rfl
        exact hx (hsub.subset ha)
      · rintro rfl
        exact hx (hsub.subset hb)
    rw [List.idxOf_cons_ne _ hne.1, List.idxOf_cons_ne _ hne.2] at hlt
    exact ih hl ha hb (Nat.lt_of_succ_lt_succ hlt)
  | cons_cons x hsub ih =>
    obtain ⟨_, hl⟩ := List.nodup_cons.mp hl
    have hxb : x ≠ b := by
      rintro rfl
      rw [List.idxOf_cons_self] at hlt
      exact absurd hlt (Nat.not_lt_zero _)
    rw [List.idxOf_cons_ne _ hxb] at hlt ⊢
    by_cases hxa : x = a
    · subst hxa
      rw [List.idxOf_cons_self]
      exact Nat.succ_pos _
    · rw [List.idxOf_cons_ne _ hxa] at hlt ⊢
      have hle := ih hl (List.mem_of_ne_of_mem (Ne.symm hxa) ha) (List.mem_of_ne_of_mem (Ne.symm hxb) hb)
        (Nat.lt_of_succ_lt_succ hlt)
      exact Nat.succ_lt_succ hle

/-- Whoever stays moves forward only. -/
theorem Moves.idxOf_le (h : Moves l l') (hl : l.Nodup) (ha : a ∈ l) (ha' : a ∈ l') :
    l'.idxOf a ≤ l.idxOf a := by
  rcases h with hleft | ⟨b, _, rfl⟩
  · exact idxOf_le_of_sublist hleft hl ha'
  · exact Nat.le_of_eq (List.idxOf_append_of_mem ha)

/-- Whoever stays is ahead of those it was ahead of, and of the new one. -/
theorem Moves.ahead (h : Moves l l') (hl : l.Nodup) (ha : a ∈ l) (ha' : a ∈ l') (hahead : Ahead a b l) :
    Ahead a b l' := by
  intro hb'
  rcases h with hleft | ⟨c, hc, rfl⟩
  · exact idxOf_lt_of_sublist hleft hl ha' hb' (hahead (hleft.subset hb'))
  · rw [List.idxOf_append_of_mem ha]
    by_cases hb : b ∈ l
    · rw [List.idxOf_append_of_mem hb]
      exact hahead hb
    · -- the other has just joined
      rw [List.idxOf_append_of_notMem hb]
      exact Nat.lt_add_right _ (List.idxOf_lt_length_of_mem ha)

/-! ## A line over time -/

section Time

variable {line : Nat → List α} {first last : Nat}

/-- In the line all the time. -/
def Stays (line : Nat → List α) (a : α) (first last : Nat) : Prop :=
  ∀ n, first ≤ n → n ≤ last → a ∈ line n

omit [DecidableEq α] in
theorem nodup_of_moves (hmoves : ∀ n, Moves (line n) (line (n + 1))) (hfirst : (line 0).Nodup) (n : Nat) :
    (line n).Nodup := by
  induction n with
  | zero => exact hfirst
  | succ n ih => exact (hmoves n).nodup ih

/-- **Whoever stays moves forward only.** -/
theorem idxOf_le_of_stays (hmoves : ∀ n, Moves (line n) (line (n + 1))) (hnodup : ∀ n, (line n).Nodup)
    (hle : first ≤ last) (ha : Stays line a first last) : (line last).idxOf a ≤ (line first).idxOf a := by
  induction hle with
  | refl => exact Nat.le_refl _
  | @step n hle ih =>
    have hbefore : Stays line a first n := fun m hfirst hm => ha m hfirst (Nat.le_succ_of_le hm)
    have hstep := (hmoves n).idxOf_le (hnodup n) (ha n hle (Nat.le_succ n))
      (ha (n + 1) (Nat.le_succ_of_le hle) (Nat.le_refl _))
    exact Nat.le_trans hstep (ih hbefore)

/-- **Whoever stays is ahead of all that join later.** -/
theorem ahead_of_stays (hmoves : ∀ n, Moves (line n) (line (n + 1))) (hnodup : ∀ n, (line n).Nodup)
    (hle : first ≤ last) (ha : Stays line a first last) (hb : b ∉ line first) : Ahead a b (line last) := by
  induction hle with
  | refl => exact fun hmem => absurd hmem hb
  | @step n hle ih =>
    have hbefore : Stays line a first n := fun m hfirst hm => ha m hfirst (Nat.le_succ_of_le hm)
    exact (hmoves n).ahead (hnodup n) (ha n hle (Nat.le_succ n))
      (ha (n + 1) (Nat.le_succ_of_le hle) (Nat.le_refl _)) (ih hbefore)

end Time

end Line
