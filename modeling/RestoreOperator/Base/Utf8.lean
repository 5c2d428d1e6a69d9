import Mathlib.Data.List.Basic
import Mathlib.Algebra.BigOperators.Group.List.Basic
import Mathlib.Algebra.GroupWithZero.Nat

/-!
# `Base.Utf8` — byte offsets into a text

A text is measured and cut by the bytes of its UTF-8 encoding.  It can be cut between characters only, and
next to every offset there is a place where it can.
-/

namespace Utf8

/-- The length of a text, in bytes. -/
def byteLen (cs : List Char) : Nat := (cs.map Char.utf8Size).sum

/-- Cut a text at a byte offset, which has to be between two characters or at an end. -/
def cutAt : List Char → Nat → Option (List Char × List Char)
  | cs, 0 => some ([], cs)
  | [], _ + 1 => none
  | c :: cs, i + 1 =>
    if c.utf8Size ≤ i + 1 then
      (cutAt cs (i + 1 - c.utf8Size)).map fun parts => (c :: parts.1, parts.2)
    else none

/-- **The offset is not inside a character.** -/
def isCharBoundary (cs : List Char) (i : Nat) : Bool := (cutAt cs i).isSome

/-- The text from an offset on. -/
def sliceFrom (cs : List Char) (i : Nat) : Option (List Char) := (cutAt cs i).map Prod.snd

/-- The text up to an offset. -/
def sliceTo (cs : List Char) (i : Nat) : Option (List Char) := (cutAt cs i).map Prod.fst

/-- The first boundary from one offset on, and before another. -/
def firstBoundary (cs : List Char) (lo hi : Nat) : Option Nat :=
  (List.range' lo (hi - lo)).find? (isCharBoundary cs)

/-- The last boundary up to an offset. -/
def lastBoundary (cs : List Char) (max : Nat) : Option Nat :=
  (List.range (max + 1)).reverse.find? (isCharBoundary cs)

variable {cs left right : List Char} {i : Nat}

@[simp] theorem byteLen_nil : byteLen [] = 0 := rfl

@[simp] theorem byteLen_cons (c : Char) (cs : List Char) :
    byteLen (c :: cs) = c.utf8Size + byteLen cs := by
  simp [byteLen]

@[simp] theorem byteLen_append (left right : List Char) :
    byteLen (left ++ right) = byteLen left + byteLen right := by
  simp [byteLen]

theorem byteLen_eq_zero : byteLen cs = 0 ↔ cs = [] := by
  constructor
  · intro h
    cases cs with
    | nil => rfl
    | cons c cs =>
      rw [byteLen_cons] at h
      have hsize : 0 < c.utf8Size := c.utf8Size_pos
      omega
  · rintro rfl
    rfl

/-- At the offset zero there is nothing before the cut. -/
theorem cutAt_zero_eq_some_iff :
    cutAt cs 0 = some (left, right) ↔ cs = left ++ right ∧ byteLen left = 0 := by
  rw [cutAt, byteLen_eq_zero]
  constructor
  · intro h
    cases h
    exact ⟨rfl, rfl⟩
  · rintro ⟨rfl, rfl⟩
    rfl

/-- **A cut leaves the text in two parts**, the first as long as the offset says. -/
theorem cutAt_eq_some_iff : cutAt cs i = some (left, right) ↔ cs = left ++ right ∧ byteLen left = i := by
  induction cs generalizing i left with
  | nil =>
    cases i with
    | zero => exact cutAt_zero_eq_some_iff
    | succ i =>
      rw [cutAt]
      constructor
      · intro h
        cases h
      · rintro ⟨h, hlen⟩
        obtain ⟨rfl, rfl⟩ := List.append_eq_nil_iff.mp h.symm
        cases hlen
  | cons c cs ih =>
    cases i with
    | zero => exact cutAt_zero_eq_some_iff
    | succ i =>
      rw [cutAt]
      constructor
      · intro h
        split at h
        · obtain ⟨⟨l, r⟩, hcut, hparts⟩ := Option.map_eq_some_iff.mp h
          cases hparts
          obtain ⟨rfl, hlen⟩ := ih.mp hcut
          refine ⟨rfl, ?_⟩
          rw [byteLen_cons]
          show c.utf8Size + byteLen l = i + 1
          omega
        · cases h
      · rintro ⟨h, hlen⟩
        cases left with
        | nil => cases hlen
        | cons d ds =>
          obtain ⟨rfl, hcs⟩ := List.cons.inj h
          rw [byteLen_cons] at hlen
          have hfits : c.utf8Size ≤ i + 1 := by omega
          have hcut : cutAt cs (i + 1 - c.utf8Size) = some (ds, right) :=
            ih.mpr ⟨hcs, by omega⟩
          rw [if_pos hfits, hcut]
          rfl

theorem isCharBoundary_iff :
    isCharBoundary cs i = true ↔ ∃ left right, cs = left ++ right ∧ byteLen left = i := by
  unfold isCharBoundary
  rw [Option.isSome_iff_exists]
  constructor
  · rintro ⟨⟨left, right⟩, h⟩
    exact ⟨left, right, cutAt_eq_some_iff.mp h⟩
  · rintro ⟨left, right, h⟩
    exact ⟨(left, right), cutAt_eq_some_iff.mpr h⟩

theorem isCharBoundary_append (left right : List Char) :
    isCharBoundary (left ++ right) (byteLen left) = true :=
  isCharBoundary_iff.mpr ⟨left, right, rfl, rfl⟩

theorem isCharBoundary_byteLen (cs : List Char) : isCharBoundary cs (byteLen cs) = true :=
  isCharBoundary_iff.mpr ⟨cs, [], (List.append_nil cs).symm, rfl⟩

/-- **A text is sliced at a boundary.** -/
theorem slices_of_isCharBoundary (h : isCharBoundary cs i = true) :
    ∃ left right, cs = left ++ right ∧ byteLen left = i ∧ sliceTo cs i = some left ∧
      sliceFrom cs i = some right := by
  obtain ⟨left, right, hcs, hlen⟩ := isCharBoundary_iff.mp h
  have hcut : cutAt cs i = some (left, right) := cutAt_eq_some_iff.mpr ⟨hcs, hlen⟩
  refine ⟨left, right, hcs, hlen, ?_, ?_⟩
  · rw [sliceTo, hcut]
    rfl
  · rw [sliceFrom, hcut]
    rfl

/-- The first boundary from an offset on, at the end of the text if there is none before. -/
theorem firstBoundary_spec {lo : Nat} (hlo : lo ≤ byteLen cs) :
    ∃ i, (firstBoundary cs lo (byteLen cs)).getD (byteLen cs) = i ∧ isCharBoundary cs i = true ∧
      lo ≤ i ∧ ∀ j, lo ≤ j → isCharBoundary cs j = true → i ≤ j := by
  unfold firstBoundary
  cases hfound : (List.range' lo (byteLen cs - lo)).find? (isCharBoundary cs) with
  | none =>
    refine ⟨byteLen cs, rfl, isCharBoundary_byteLen cs, hlo, fun j hj hboundary => ?_⟩
    by_contra hlt
    have hmem : j ∈ List.range' lo (byteLen cs - lo) := by
      rw [List.mem_range'_1]
      omega
    exact List.find?_eq_none.mp hfound j hmem hboundary
  | some i =>
    rw [List.find?_range'_eq_some] at hfound
    obtain ⟨hboundary, hmem, hfirst⟩ := hfound
    rw [List.mem_range'_1] at hmem
    refine ⟨i, rfl, hboundary, hmem.1, fun j hj hj' => ?_⟩
    by_contra hlt
    have hnot := hfirst j hj (Nat.not_le.mp hlt)
    rw [hj'] at hnot
    cases hnot

/-- The last boundary up to an offset: at the start of the text if there is no other. -/
theorem lastBoundary_spec (cs : List Char) (max : Nat) :
    ∃ i, lastBoundary cs max = some i ∧ isCharBoundary cs i = true ∧ i ≤ max ∧
      ∀ j, j ≤ max → isCharBoundary cs j = true → j ≤ i := by
  unfold lastBoundary
  induction max with
  | zero =>
    have hstart : isCharBoundary cs 0 = true := isCharBoundary_append [] cs
    refine ⟨0, by simp [hstart], hstart, Nat.le_refl 0, fun j hj _ => hj⟩
  | succ max ih =>
    rw [List.range_succ, List.reverse_append, List.reverse_singleton, List.singleton_append]
    by_cases hmax : isCharBoundary cs (max + 1) = true
    · rw [List.find?_cons_of_pos hmax]
      exact ⟨max + 1, rfl, hmax, Nat.le_refl _, fun j hj _ => hj⟩
    · rw [List.find?_cons_of_neg hmax]
      obtain ⟨i, hi, hboundary, hle, hlast⟩ := ih
      refine ⟨i, hi, hboundary, Nat.le_succ_of_le hle, fun j hj hj' => ?_⟩
      rcases Nat.le_succ_iff.mp hj with hj | rfl
      · exact hlast j hj hj'
      · exact absurd hj' hmax

/-! ## As much of a text as fits -/

theorem eq_of_suffix_of_byteLen_le (h : right <:+ cs) (hlen : byteLen cs ≤ byteLen right) :
    right = cs := by
  obtain ⟨left, rfl⟩ := h
  rw [byteLen_append] at hlen
  have hnil : left = [] := byteLen_eq_zero.mp (by omega)
  rw [hnil, List.nil_append]

theorem eq_of_prefix_of_byteLen_le (h : left <+: cs) (hlen : byteLen cs ≤ byteLen left) :
    left = cs := by
  obtain ⟨right, rfl⟩ := h
  rw [byteLen_append] at hlen
  have hnil : right = [] := byteLen_eq_zero.mp (by omega)
  rw [hnil, List.append_nil]

/-- **The longest end of a text within so many bytes.** -/
structure LongestEnd (cs : List Char) (budget : Nat) (kept : List Char) : Prop where
  suffix : kept <:+ cs
  fits : byteLen kept ≤ budget
  longest : ∀ other, other <:+ cs → byteLen other ≤ budget → other <:+ kept

/-- **The longest start of a text within so many bytes.** -/
structure LongestStart (cs : List Char) (budget : Nat) (kept : List Char) : Prop where
  isPrefix : kept <+: cs
  fits : byteLen kept ≤ budget
  longest : ∀ other, other <+: cs → byteLen other ≤ budget → other <+: kept

theorem longestEnd_whole {budget : Nat} (h : byteLen cs ≤ budget) : LongestEnd cs budget cs :=
  ⟨List.suffix_refl cs, h, fun _ hother _ => hother⟩

theorem longestStart_whole {budget : Nat} (h : byteLen cs ≤ budget) : LongestStart cs budget cs :=
  ⟨List.prefix_refl cs, h, fun _ hother _ => hother⟩

/-- A text that fits is kept whole. -/
theorem LongestEnd.eq_of_fits {budget : Nat} {kept : List Char} (h : LongestEnd cs budget kept)
    (hfits : byteLen cs ≤ budget) : kept = cs :=
  List.IsSuffix.eq_of_length_le h.suffix (h.longest cs (List.suffix_refl cs) hfits).length_le

/-- Cutting at the first boundary that leaves few enough bytes keeps the longest end. -/
theorem longestEnd_sliceFrom {budget : Nat} (h : budget ≤ byteLen cs) :
    ∃ kept, sliceFrom cs ((firstBoundary cs (byteLen cs - budget) (byteLen cs)).getD (byteLen cs)) =
      some kept ∧ LongestEnd cs budget kept := by
  obtain ⟨i, hi, hboundary, hle, hfirst⟩ := firstBoundary_spec (Nat.sub_le (byteLen cs) budget)
  obtain ⟨left, right, hcs, hlen, _, hslice⟩ := slices_of_isCharBoundary hboundary
  have hwhole : byteLen cs = byteLen left + byteLen right := by rw [hcs, byteLen_append]
  refine ⟨right, by rw [hi, hslice], ⟨left, hcs.symm⟩, by omega, ?_⟩
  intro other hother hfits
  obtain ⟨start, hstart⟩ := hother
  have hfits' : byteLen cs = byteLen start + byteLen other := by rw [← hstart, byteLen_append]
  have hafter : i ≤ byteLen start := by
    apply hfirst _ (by omega)
    rw [← hstart]
    exact isCharBoundary_append start other
  rcases List.suffix_or_suffix_of_suffix ⟨start, hstart⟩ ⟨left, hcs.symm⟩ with hshort | hlong
  · exact hshort
  · have hwhole := eq_of_suffix_of_byteLen_le hlong (by omega)
    exact hwhole ▸ List.suffix_refl other

/-- Cutting at the last boundary within so many bytes keeps the longest start. -/
theorem longestStart_sliceTo (cs : List Char) (budget : Nat) :
    ∃ kept, sliceTo cs ((lastBoundary cs budget).getD 0) = some kept ∧
      LongestStart cs budget kept := by
  obtain ⟨i, hi, hboundary, hle, hlast⟩ := lastBoundary_spec cs budget
  obtain ⟨left, right, hcs, hlen, hslice, _⟩ := slices_of_isCharBoundary hboundary
  refine ⟨left, by rw [hi]; exact hslice, ⟨right, hcs.symm⟩, by omega, ?_⟩
  intro other hother hfits
  obtain ⟨rest, hrest⟩ := hother
  have hbefore : byteLen other ≤ i := by
    apply hlast _ hfits
    rw [← hrest]
    exact isCharBoundary_append other rest
  rcases List.prefix_or_prefix_of_prefix ⟨rest, hrest⟩ ⟨right, hcs.symm⟩ with hshort | hlong
  · exact hshort
  · have hwhole := eq_of_prefix_of_byteLen_le hlong (by omega)
    exact hwhole ▸ List.prefix_refl other

/-- As many characters from the start of a text as fit. -/
def takeBytes : (budget : Nat) → List Char → List Char
  | _, [] => []
  | budget, c :: cs => if c.utf8Size ≤ budget then c :: takeBytes (budget - c.utf8Size) cs else []

/-- What is taken of a text is the longest start of it that fits. -/
theorem longestStart_takeBytes (budget : Nat) (cs : List Char) :
    LongestStart cs budget (takeBytes budget cs) := by
  induction cs generalizing budget with
  | nil => exact longestStart_whole (Nat.zero_le budget)
  | cons c cs ih =>
    unfold takeBytes
    by_cases hfits : c.utf8Size ≤ budget
    · rw [if_pos hfits]
      have hrest := ih (budget - c.utf8Size)
      refine ⟨(List.prefix_cons_inj c).mpr hrest.isPrefix, ?_, ?_⟩
      · have hlen := hrest.fits
        rw [byteLen_cons]
        omega
      · intro other hother hlen
        cases other with
        | nil => exact List.nil_prefix
        | cons d ds =>
          obtain ⟨rfl, hds⟩ := List.cons_prefix_cons.mp hother
          rw [byteLen_cons] at hlen
          exact (List.prefix_cons_inj d).mpr (hrest.longest ds hds (by omega))
    · rw [if_neg hfits]
      refine ⟨List.nil_prefix, Nat.zero_le budget, ?_⟩
      intro other hother hlen
      cases other with
      | nil => exact List.nil_prefix
      | cons d ds =>
        obtain ⟨rfl, _⟩ := List.cons_prefix_cons.mp hother
        rw [byteLen_cons] at hlen
        omega

/-- A text that fits is taken whole. -/
theorem takeBytes_eq_self {budget : Nat} (h : byteLen cs ≤ budget) : takeBytes budget cs = cs := by
  have hstart := longestStart_takeBytes budget cs
  exact hstart.isPrefix.eq_of_length_le (hstart.longest cs (List.prefix_refl cs) h).length_le

end Utf8
