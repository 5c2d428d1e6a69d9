import Mathlib.Data.List.DropRight
import Mathlib.Data.List.TakeWhile
import RestoreOperator.Replica.ExtraUsers

/-!
# `Replica.Trimming` — texts without white space around them

Trimming takes off what is white at both ends, and nothing of a text that has no white space there.
-/

namespace RestoreOperator

/-- A name with nothing to take off at either end. -/
def Trimmed (p : Char → Bool) (s : String) : Prop :=
  s.toList.dropWhile p = s.toList ∧ s.toList.rdropWhile p = s.toList

theorem ofList_rdropWhile_eq (p : Char → Bool) (s : String) (h : Trimmed p s) :
    String.ofList ((s.toList.dropWhile p).reverse.dropWhile p).reverse = s := by
  rw [h.1]
  show String.ofList (s.toList.rdropWhile p) = s
  rw [h.2, String.ofList_toList]

/-- What has no white space at its ends has no spaces there. -/
theorem Trimmed.mono {p q : Char → Bool} (hpq : ∀ c, q c = true → p c = true) {s : String}
    (h : Trimmed p s) : Trimmed q s := by
  obtain ⟨hleft, hright⟩ := h
  rw [List.dropWhile_eq_self_iff] at hleft
  rw [List.rdropWhile_eq_self_iff] at hright
  refine ⟨?_, ?_⟩
  · rw [List.dropWhile_eq_self_iff]
    exact fun hl hq => hleft hl (hpq _ hq)
  · rw [List.rdropWhile_eq_self_iff]
    exact fun hl hq => hright hl (hpq _ hq)

theorem toList_trim (s : String) :
    (trim s).toList = (s.toList.dropWhile isWhiteSpace).rdropWhile isWhiteSpace :=
  String.toList_ofList

/-- **What was trimmed is trimmed.** -/
theorem trimmed_trim (s : String) : Trimmed isWhiteSpace (trim s) := by
  unfold Trimmed
  rw [toList_trim]
  refine ⟨?_, List.rdropWhile_idempotent _ _⟩
  -- it starts the way it did before its end was taken off
  have hfront := List.rdropWhile_prefix isWhiteSpace (s.toList.dropWhile isWhiteSpace)
  have hleft := List.dropWhile_idempotent isWhiteSpace s.toList
  rw [List.dropWhile_eq_self_iff] at hleft ⊢
  intro hl
  rw [hfront.getElem hl]
  exact hleft (lt_of_lt_of_le hl hfront.length_le)

/-- **Trimming changes exactly the texts with white space at an end.** -/
theorem trim_eq_self_iff {s : String} : trim s = s ↔ Trimmed isWhiteSpace s := by
  constructor
  · intro h
    rw [← h]
    exact trimmed_trim s
  · exact ofList_rdropWhile_eq isWhiteSpace s

@[simp] theorem trim_trim (s : String) : trim (trim s) = trim s := trim_eq_self_iff.mpr (trimmed_trim s)

/-- A text is blank if there is nothing but white space in it. -/
theorem trim_eq_empty_iff (s : String) : trim s = "" ↔ ∀ c ∈ s.toList, isWhiteSpace c = true := by
  have hempty : trim s = "" ↔
      ((s.toList.dropWhile isWhiteSpace).reverse.dropWhile isWhiteSpace) = [] := by
    unfold trim
    rw [← String.toList_inj, String.toList_ofList]
    simp
  rw [hempty, List.dropWhile_eq_nil_iff]
  constructor
  · intro h
    apply List.dropWhile_eq_nil_iff.mp
    -- a character that is kept at the front would be kept at the end, too
    by_contra hne
    obtain ⟨d, ds, hds⟩ := List.exists_cons_of_ne_nil hne
    have hkept := List.head?_dropWhile_not isWhiteSpace s.toList
    rw [hds] at h hkept
    have hwhite := h d (by simp)
    have hnot : isWhiteSpace d = false := hkept
    rw [hnot] at hwhite
    cases hwhite
  · intro h c hc
    rw [List.dropWhile_eq_nil_iff.mpr h] at hc
    cases hc

theorem trim_isInfix (s : String) : (trim s).toList <:+: s.toList := by
  rw [toList_trim]
  exact (List.rdropWhile_prefix _ _).isInfix.trans (List.dropWhile_suffix _).isInfix

/-- White space before a text is taken off. -/
theorem trim_append_left {blank : String} (h : trim blank = "") (s : String) :
    trim (blank ++ s) = trim s := by
  rw [trim_eq_empty_iff] at h
  rw [← String.toList_inj, toList_trim, toList_trim, String.toList_append,
    List.dropWhile_append_of_pos h]

/-- White space after a text is taken off. -/
theorem trim_append_right {blank : String} (h : trim blank = "") (s : String) :
    trim (s ++ blank) = trim s := by
  rw [trim_eq_empty_iff] at h
  rw [← String.toList_inj, toList_trim, toList_trim, String.toList_append, List.dropWhile_append]
  cases hs : s.toList.dropWhile isWhiteSpace with
  | nil =>
    rw [List.dropWhile_eq_nil_iff.mpr h]
    rfl
  | cons c cs =>
    rw [if_neg (by simp)]
    unfold List.rdropWhile
    have hblank : ∀ d ∈ blank.toList.reverse, isWhiteSpace d = true := by
      intro d hd
      exact h d (List.mem_reverse.mp hd)
    rw [List.reverse_append, List.dropWhile_append_of_pos hblank]

end RestoreOperator
