import Mathlib.Data.List.Perm.Basic

/-!
# `Base.Tallied` — loops that report

A loop over a list in which each element adds some reports to a log and some failures to a count.
-/

variable {σ α β γ : Type}

/-- **What a loop reports**: for each element in turn, what `P` allows it to report and to count. -/
inductive Tallied (P : α → List β → Nat → Prop) : List α → List β → Nat → Prop where
  | nil : Tallied P [] [] 0
  | cons {a : α} {as : List α} {xs ys : List β} {n m : Nat} (head : P a xs n)
      (tail : Tallied P as ys m) : Tallied P (a :: as) (xs ++ ys) (n + m)

namespace Tallied

variable {P : α → List β → Nat → Prop}

/-- A fold whose every step appends to a log and adds to a count. -/
theorem of_foldl (log : σ → List β) (count : σ → Nat) {f : σ → α → σ}
    (hstep : ∀ s a, ∃ new n, log (f s a) = log s ++ new ∧ P a new n ∧ count (f s a) = count s + n)
    (as : List α) (s : σ) :
    ∃ new n, log (as.foldl f s) = log s ++ new ∧ Tallied P as new n ∧
      count (as.foldl f s) = count s + n := by
  induction as generalizing s with
  | nil => exact ⟨[], 0, by simp, .nil, rfl⟩
  | cons a as ih =>
    obtain ⟨xs, n, hlog, hhead, hcount⟩ := hstep s a
    obtain ⟨ys, m, hlog', htail, hcount'⟩ := ih (f s a)
    refine ⟨xs ++ ys, n + m, ?_, .cons hhead htail, ?_⟩
    · rw [List.foldl_cons, hlog', hlog, List.append_assoc]
    · rw [List.foldl_cons, hcount', hcount, Nat.add_assoc]

/-- A fold leaves alone what its steps do. -/
theorem foldl_keeps (g : σ → γ) {f : σ → α → σ} (hstep : ∀ s a, g (f s a) = g s) (as : List α)
    (s : σ) : g (as.foldl f s) = g s := by
  induction as generalizing s with
  | nil => rfl
  | cons a as ih => rw [List.foldl_cons, ih, hstep]

/-- A fold whose every step counts one. -/
theorem foldl_counts (g : σ → Nat) {f : σ → α → σ} (hstep : ∀ s a, g (f s a) = g s + 1)
    (as : List α) (s : σ) : g (as.foldl f s) = g s + as.length := by
  induction as generalizing s with
  | nil => rfl
  | cons a as ih => rw [List.foldl_cons, ih, hstep, List.length_cons]; omega

/-- Every report is one that some element makes. -/
theorem report {as : List α} {xs : List β} {n : Nat} (h : Tallied P as xs n) {u : β}
    (hu : u ∈ xs) : ∃ a ∈ as, ∃ ys m, P a ys m ∧ u ∈ ys := by
  induction h with
  | nil => exact absurd hu (by simp)
  | cons head tail ih =>
    rcases List.mem_append.mp hu with hu | hu
    · exact ⟨_, List.mem_cons_self, _, _, head, hu⟩
    · obtain ⟨a, ha, hP⟩ := ih hu
      exact ⟨a, List.mem_cons_of_mem _ ha, hP⟩

/-- What an element reports stands between what the elements before and after it do. -/
theorem split {as bs : List α} {a : α} {xs : List β} {n : Nat}
    (h : Tallied P (as ++ a :: bs) xs n) :
    ∃ before ys after k m l, xs = before ++ (ys ++ after) ∧ Tallied P as before k ∧ P a ys m ∧
      Tallied P bs after l := by
  induction as generalizing xs n with
  | nil =>
    cases h with
    | cons head tail => exact ⟨[], _, _, 0, _, _, rfl, .nil, head, tail⟩
  | cons b as ih =>
    cases h with
    | cons head tail =>
      obtain ⟨before, ys, after, k, m, l, hxs, hbefore, hys, hafter⟩ := ih tail
      exact ⟨_ ++ before, ys, after, _ + k, m, l, by rw [hxs, List.append_assoc],
        .cons head hbefore, hys, hafter⟩

/-- **Nothing is lost**: where each element's items are either done, as its reports say, or counted
    as failed, so are all of them. -/
theorem perm {ι : Type} (items : α → List ι) (done : List β → List ι)
    (hnil : done [] = []) (happend : ∀ xs ys, done (xs ++ ys) = done xs ++ done ys)
    (hP : ∀ {a xs n}, P a xs n → ∃ failed, failed.length = n ∧ (done xs ++ failed).Perm (items a))
    {as : List α} {xs : List β} {n : Nat} (h : Tallied P as xs n) :
    ∃ failed, failed.length = n ∧ (done xs ++ failed).Perm (as.flatMap items) := by
  induction h with
  | nil => exact ⟨[], rfl, by simp [hnil]⟩
  | @cons a as xs ys n m head tail ih =>
    obtain ⟨failed, hlen, hperm⟩ := hP head
    obtain ⟨failed', hlen', hperm'⟩ := ih
    refine ⟨failed ++ failed', by rw [List.length_append, hlen, hlen'], ?_⟩
    rw [happend, List.flatMap_cons]
    have hswap : (done xs ++ done ys ++ (failed ++ failed')).Perm
        ((done xs ++ failed) ++ (done ys ++ failed')) := by
      simp only [List.append_assoc]
      apply List.Perm.append_left
      simp only [← List.append_assoc]
      exact List.Perm.append_right _ List.perm_append_comm
    exact hswap.trans (hperm.append hperm')

end Tallied

/-- The failed part of a list without repetitions is what its done part leaves out. -/
theorem length_failed [DecidableEq α] {items done failed : List α} (hnodup : items.Nodup)
    (hperm : (done ++ failed).Perm items) :
    failed.length = items.countP fun a => a ∉ done := by
  have hdisjoint := (List.nodup_append.mp (hperm.nodup_iff.mpr hnodup)).2.2
  rw [← hperm.countP_eq, List.countP_append]
  have hdone : (done.countP fun a => a ∉ done) = 0 := by
    rw [List.countP_eq_zero]
    intro a ha
    simp [ha]
  have hfailed : (failed.countP fun a => a ∉ done) = failed.length := by
    rw [List.countP_eq_length]
    intro a ha
    exact decide_eq_true fun hdone => hdisjoint a hdone a ha rfl
  rw [hdone, hfailed, Nat.zero_add]
