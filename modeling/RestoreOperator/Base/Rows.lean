import Mathlib.Data.List.Basic

/-!
# `Base.Rows` — statements that act on each row by itself

A statement changes or removes each row of a table by itself, and may add some.  It may also fail, and then
changes nothing.  What holds of the rows after many statements is found by following one row: what every
statement keeps of a row is kept, and what one of them makes of it stays.
-/

namespace Rows

variable {σ α κ : Type}

/-- **What statements do to the rows of a table.** -/
structure Table (σ α : Type) where
  on : σ → α → Option α
  new : σ → List α → List α

namespace Table

variable {T : Table σ α} {fails : σ → Bool} {rows : List α} {key : α → κ} {I J : α → Prop}

/-- One statement, if it does not fail. -/
def run (T : Table σ α) (fails : σ → Bool) (rows : List α) (st : σ) : List α :=
  if fails st then rows else rows.filterMap (T.on st) ++ T.new st rows

/-- Where a row comes from. -/
theorem mem_run {st : σ} {x' : α} (h : x' ∈ T.run fails rows st) :
    x' ∈ rows ∧ fails st = true ∨
      fails st = false ∧ ((∃ x ∈ rows, T.on st x = some x') ∨ x' ∈ T.new st rows) := by
  unfold run at h
  by_cases hfails : fails st = true
  · rw [if_pos hfails] at h
    exact .inl ⟨h, hfails⟩
  · rw [if_neg hfails] at h
    refine .inr ⟨by simpa using hfails, ?_⟩
    rcases List.mem_append.mp h with h | h
    · exact .inl (List.mem_filterMap.mp h)
    · exact .inr h

/-- A property of rows that a statement keeps, and that the rows it adds have. -/
structure Keeps (T : Table σ α) (I : α → Prop) (st : σ) : Prop where
  on : ∀ x x', T.on st x = some x' → I x → I x'
  new : ∀ rows, ∀ x ∈ T.new st rows, I x

theorem run_all {st : σ} (h : ∀ x ∈ rows, I x) (hst : T.Keeps I st) : ∀ x ∈ T.run fails rows st, I x := by
  intro x' hx'
  rcases mem_run hx' with ⟨hx, _⟩ | ⟨_, ⟨x, hx, heq⟩ | hnew⟩
  · exact h x' hx
  · exact hst.on x x' heq (h x hx)
  · exact hst.new rows x' hnew

/-- **What every statement keeps is kept.** -/
theorem foldl_all {sts : List σ} (h : ∀ x ∈ rows, I x) (hsts : ∀ st ∈ sts, T.Keeps I st) :
    ∀ x ∈ sts.foldl (T.run fails) rows, I x := by
  induction sts generalizing rows with
  | nil => exact h
  | cons st rest ih =>
    exact ih (run_all h (hsts st List.mem_cons_self)) fun st' hst' => hsts st' (List.mem_cons_of_mem _ hst')

/-- A statement that runs, and makes rows of this key have a property. -/
def Makes (T : Table σ α) (fails : σ → Bool) (key : α → κ) (I J : α → Prop) (st : σ) (k : κ) : Prop :=
  fails st = false ∧ ∀ x x', key x = k → T.on st x = some x' → I x → J x'

/-- **What all statements keep and one of them makes of each row, they come to.** -/
theorem foldl_makes {sts : List σ} (hkey : ∀ st x x', T.on st x = some x' → key x' = key x)
    (h : ∀ x ∈ rows, I x) (hkeeps : ∀ st ∈ sts, T.Keeps I st ∧ T.Keeps J st)
    (hmakes : ∀ x ∈ rows, I x → J x ∨ ∃ st ∈ sts, T.Makes fails key I J st (key x)) :
    ∀ x ∈ sts.foldl (T.run fails) rows, J x := by
  induction sts generalizing rows with
  | nil =>
    intro x hx
    refine (hmakes x hx (h x hx)).resolve_right ?_
    rintro ⟨st, hst, _⟩
    cases hst
  | cons st rest ih =>
    obtain ⟨hI, hJ⟩ := hkeeps st List.mem_cons_self
    refine ih (run_all h hI) (fun st' hst' => hkeeps st' (List.mem_cons_of_mem _ hst')) fun x' hx' _ => ?_
    rcases mem_run hx' with ⟨hx, hfails⟩ | ⟨_, ⟨x, hx, heq⟩ | hnew⟩
    · rcases hmakes x' hx (h x' hx) with hJx | ⟨st', hst', hmake⟩
      · exact .inl hJx
      · rcases List.mem_cons.mp hst' with rfl | hst'
        · rw [hmake.1] at hfails
          cases hfails
        · exact .inr ⟨st', hst', hmake⟩
    · rcases hmakes x hx (h x hx) with hJx | ⟨st', hst', hmake⟩
      · exact .inl (hJ.on x x' heq hJx)
      · rcases List.mem_cons.mp hst' with rfl | hst'
        · exact .inl (hmake.2 x x' rfl heq (h x hx))
        · rw [← hkey st x x' heq] at hmake
          exact .inr ⟨st', hst', hmake⟩
    · exact .inl (hJ.new rows x' hnew)

/-- A row that every statement carries on is never lost. -/
theorem foldl_exists {sts : List σ} (h : ∃ x ∈ rows, I x)
    (hsts : ∀ st ∈ sts, ∀ x, I x → ∃ x', T.on st x = some x' ∧ I x') :
    ∃ x ∈ sts.foldl (T.run fails) rows, I x := by
  induction sts generalizing rows with
  | nil => exact h
  | cons st rest ih =>
    obtain ⟨x, hx, hI⟩ := h
    refine ih ?_ fun st' hst' => hsts st' (List.mem_cons_of_mem _ hst')
    unfold run
    by_cases hfails : fails st = true
    · rw [if_pos hfails]
      exact ⟨x, hx, hI⟩
    · rw [if_neg hfails]
      obtain ⟨x', heq, hI'⟩ := hsts st List.mem_cons_self x hI
      exact ⟨x', List.mem_append_left _ (List.mem_filterMap.mpr ⟨x, hx, heq⟩), hI'⟩

/-- Where nothing is removed or added, the keys stay as they are. -/
theorem keys_run {st : σ} (hkey : ∀ st x x', T.on st x = some x' → key x' = key x)
    (h : fails st = false → (∀ x ∈ rows, (T.on st x).isSome = true) ∧ T.new st rows = []) :
    (T.run fails rows st).map key = rows.map key := by
  unfold run
  by_cases hfails : fails st = true
  · rw [if_pos hfails]
  rw [if_neg hfails]
  obtain ⟨hsome, hnew⟩ := h (by simpa using hfails)
  rw [hnew, List.append_nil]
  clear h hnew
  induction rows with
  | nil => rfl
  | cons x rest ih =>
    obtain ⟨x', hx'⟩ := Option.isSome_iff_exists.mp (hsome x List.mem_cons_self)
    rw [List.filterMap_cons_some hx', List.map_cons, List.map_cons, hkey st x x' hx',
      ih fun y hy => hsome y (List.mem_cons_of_mem _ hy)]

end Table

end Rows
