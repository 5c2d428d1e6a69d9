import Mathlib.Data.List.Basic

/-!
# `Calls.Log` — what stood before an entry of a log

A log is a list of entries, the newest first.  `Logged P` says that every entry was written when the
entries before it satisfied `P`; it is an invariant that has to be checked for the new entry only.
-/

namespace Calls

variable {α : Type} {P : α → List α → Prop} {log past : List α} {e : α}

/-- **Every entry of the log satisfies `P`** together with the entries before it. -/
def Logged (P : α → List α → Prop) : List α → Prop
  | [] => True
  | e :: past => P e past ∧ Logged P past

theorem Logged.cons (h : Logged P past) (he : P e past) : Logged P (e :: past) := ⟨he, h⟩

/-- An entry at any place of the log. -/
theorem Logged.at {later : List α} (h : Logged P log) (hlog : log = later ++ e :: past) :
    P e past := by
  subst hlog
  induction later with
  | nil => exact h.1
  | cons _ _ ih => exact ih h.2

end Calls
