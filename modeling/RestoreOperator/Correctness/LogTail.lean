import RestoreOperator.Jobs.Log
import RestoreOperator.Replica.Trimming

/-!
# `Correctness.LogTail` — what of a log fits a status field

Every cut is made between characters.  The tail of a log holds the end of its last lines, as much of it as
the budget leaves room for, and the first line that names an error: where the last lines do not hold that
line for sure, the start of it is put ahead of them, and the budget is less by it.
-/

namespace RestoreOperator

open Utf8

/-! ## Lines -/

theorem splitInclusive_flatten (sep : Char) (cs : List Char) : (splitInclusive sep cs).flatten = cs := by
  induction cs with
  | nil => rfl
  | cons c cs ih =>
    unfold splitInclusive
    split
    · rw [List.flatten_cons, ih]
      rfl
    · cases hparts : splitInclusive sep cs with
      | nil =>
        rw [hparts] at ih
        rw [← ih]
        rfl
      | cons part parts =>
        rw [hparts, List.flatten_cons] at ih
        show (c :: part) ++ parts.flatten = c :: cs
        rw [List.cons_append, ih]

theorem stripSuffix_isPrefix {c : Char} {cs line : List Char} (h : stripSuffix c cs = some line) :
    line <+: cs := by
  unfold stripSuffix at h
  split at h
  · rw [← Option.some.inj h]
    exact List.dropLast_prefix cs
  · cases h

/-- **A line is a part of its text.** -/
theorem infix_of_mem_lines {s line : String} (h : line ∈ lines s) : line.toList <:+: s.toList := by
  obtain ⟨part, hpart, rfl⟩ := List.mem_map.mp h
  have hwhole : part <:+: s.toList := by
    have hmem := List.infix_of_mem_flatten hpart
    rwa [splitInclusive_flatten] at hmem
  rw [String.toList_ofList]
  refine List.IsInfix.trans (List.IsPrefix.isInfix ?_) hwhole
  cases hline : stripSuffix '\n' part with
  | none => exact List.prefix_refl part
  | some line =>
    have hfront : line <+: part := stripSuffix_isPrefix hline
    show (stripSuffix '\r' line).getD line <+: part
    cases hreturn : stripSuffix '\r' line with
    | none => exact hfront
    | some bare => exact (stripSuffix_isPrefix hreturn).trans hfront

/-- The last lines of a log, one by one. -/
def lastLines (log : String) : List String := (lines log).drop ((lines log).length - keepLines)

theorem toList_tailLines (log : String) :
    (tailLines log).toList = ['\n'].intercalate ((lastLines log).map String.toList) :=
  Delimited.toList_join '\n' (lastLines log)

/-- **The tail of a log holds each of its last lines.** -/
theorem infix_tailLines {log line : String} (h : line ∈ lastLines log) :
    line.toList <:+: (tailLines log).toList := by
  rw [toList_tailLines]
  exact Occurrences.infix_intercalate_of_mem (List.mem_map.mpr ⟨line, h, rfl⟩)

theorem contains_iff {s word : String} : contains s word = true ↔ word.toList <:+: s.toList :=
  decide_eq_true_iff

/-! ## Cuts -/

/-- **Truncating leaves the longest start that fits.** -/
theorem truncateTo_spec (text : String) (max : Nat) :
    ∃ start, truncateTo text max = some start ∧ LongestStart text.toList max start.toList := by
  unfold truncateTo
  by_cases hfits : len text ≤ max
  · rw [if_pos hfits]
    exact ⟨text, rfl, longestStart_whole hfits⟩
  · rw [if_neg hfits]
    obtain ⟨kept, hslice, hlongest⟩ := longestStart_sliceTo text.toList max
    refine ⟨String.ofList kept, by rw [hslice]; rfl, ?_⟩
    rw [String.toList_ofList]
    exact hlongest

/-- **What is kept of a tail is the longest end that fits.** -/
theorem keepEnd_spec (tail : String) (budget : Nat) :
    ∃ kept, keepEnd tail budget = some kept ∧ LongestEnd tail.toList budget kept.toList := by
  unfold keepEnd
  by_cases hfits : len tail ≤ budget
  · rw [if_pos hfits]
    exact ⟨tail, rfl, longestEnd_whole hfits⟩
  · rw [if_neg hfits]
    obtain ⟨kept, hslice, hlongest⟩ := longestEnd_sliceFrom (Nat.le_of_not_le hfits)
    refine ⟨String.ofList kept, by simp only [len, hslice, Option.map_some], ?_⟩
    rw [String.toList_ofList]
    exact hlongest

/-- **Masking never cuts inside a character.** -/
theorem redact_isSome (text : LogText) (log : String) (secrets : List String) :
    ∃ masked, redact text log secrets = some masked := by
  obtain ⟨i, hi, hboundary, _⟩ := firstBoundary_spec
    (Nat.sub_le (len log) redactWindow)
  obtain ⟨_, window, _, _, _, hslice⟩ := slices_of_isCharBoundary hboundary
  unfold redact
  rw [len] at hi ⊢
  simp only [hi, hslice]
  exact ⟨_, rfl⟩

/-! ## The headline -/

/-- The first line of a log that names an error. -/
def firstHeadline (log : String) : Option String := (lines log).find? isErrorHeadline

/-- **The headline that goes ahead of the tail** is the start of the first line that names an error; without
    one, that line is among the last lines, and these fit. -/
theorem headlineOf_spec (log : String) :
    ∃ headline, headlineOf log = some headline ∧
      match headline with
      | some headline => ∃ line, firstHeadline log = some line ∧
          truncateTo (trim line) maxHeadlineBytes = some headline
      | none => ∀ line, firstHeadline log = some line →
          line ∈ lastLines log ∧ len (tailLines log) ≤ maxBytes := by
  have hfind : firstHeadline log = ((lines log).findIdx? isErrorHeadline).bind fun i => (lines log)[i]? :=
    List.find?_eq_bind_findIdx?_getElem?
  unfold headlineOf
  cases hfirst : (lines log).findIdx? isErrorHeadline with
  | none =>
    refine ⟨none, rfl, fun line hline => ?_⟩
    rw [hfind, hfirst] at hline
    cases hline
  | some i =>
    obtain ⟨hi, _, _⟩ := List.findIdx?_eq_some_iff_getElem.mp hfirst
    have hline : (lines log)[i]? = some (lines log)[i] := List.getElem?_eq_getElem hi
    rw [hfirst, Option.bind_some, hline] at hfind
    by_cases houtside : i < (lines log).length - keepLines ∨ len (tailLines log) > maxBytes
    · obtain ⟨headline, hheadline, _⟩ := truncateTo_spec (trim (lines log)[i]) maxHeadlineBytes
      refine ⟨some headline, ?_, (lines log)[i], hfind, hheadline⟩
      have hkept : Option.filter (fun i => i < (lines log).length - keepLines ||
          len (tailLines log) > maxBytes) (some i) = some i := by
        rw [Option.filter_some, if_pos (by simpa using houtside)]
      rw [hkept]
      simp [hline, hheadline]
    · have hdropped : Option.filter (fun i => i < (lines log).length - keepLines ||
          len (tailLines log) > maxBytes) (some i) = none := by
        rw [Option.filter_some, if_neg (by simpa using houtside)]
      refine ⟨none, by rw [hdropped], fun line hline' => ?_⟩
      rw [not_or, not_lt, not_lt] at houtside
      rw [hfind] at hline'
      rw [← Option.some.inj hline']
      refine ⟨?_, houtside.2⟩
      exact List.mem_drop_iff_getElem.mpr
        ⟨i - ((lines log).length - keepLines), by omega, by simp [Nat.add_sub_cancel' houtside.1]⟩

/-- The bytes that are left for the tail of a log. -/
def tailBudget (log : String) : Nat := budgetWith (headlineOf log).join

theorem budgetWith_fits {headline : String} (h : len headline ≤ maxHeadlineBytes) :
    len headline + len ellipsis + budgetWith (some headline) = maxBytes := by
  have hellipsis : len ellipsis = 5 := by decide
  have hmax : maxHeadlineBytes = 500 := rfl
  have hbytes : maxBytes = 2000 := rfl
  unfold budgetWith
  dsimp only
  omega

theorem len_append (s t : String) : len (s ++ t) = len s + len t := by
  unfold len
  rw [String.toList_append, byteLen_append]

/-! ## The whole tail -/

/-- **What a tail is made of**: the end of the last lines, with the headline ahead of it unless it is in
    there. -/
theorem logTail_shape (log : String) :
    ∃ headline kept, headlineOf log = some headline ∧ tailBudget log = budgetWith headline ∧
      LongestEnd (tailLines log).toList (tailBudget log) kept.toList ∧
      logTail log = some (withHeadline headline kept) := by
  obtain ⟨headline, hheadline, _⟩ := headlineOf_spec log
  have hbudget : tailBudget log = budgetWith headline := by
    rw [tailBudget, hheadline]
    rfl
  obtain ⟨kept, hkept, hlongest⟩ := keepEnd_spec (tailLines log) (tailBudget log)
  refine ⟨headline, kept, hheadline, hbudget, hlongest, ?_⟩
  rw [hbudget] at hkept
  unfold logTail
  rw [hheadline]
  simp only [Option.bind_eq_bind, Option.bind_some, hkept, Option.pure_def]

/-- **A headline and the end of the last lines** fit together, and both are there. -/
theorem withHeadline_keeps {headline kept : String} (hheadline : len headline ≤ maxHeadlineBytes)
    (hkept : len kept ≤ budgetWith (some headline)) :
    len (withHeadline (some headline) kept) ≤ maxBytes ∧
      kept.toList <:+ (withHeadline (some headline) kept).toList ∧
      contains (withHeadline (some headline) kept) headline = true := by
  have hroom := budgetWith_fits hheadline
  unfold withHeadline
  dsimp only
  by_cases hcontained : contains kept headline = true
  · rw [if_pos hcontained]
    exact ⟨by omega, List.suffix_refl _, hcontained⟩
  · rw [if_neg hcontained]
    refine ⟨?_, ?_, ?_⟩
    · rw [len_append, len_append]
      omega
    · rw [String.toList_append]
      exact List.suffix_append _ _
    · rw [contains_iff, String.toList_append, String.toList_append, List.append_assoc]
      exact List.infix_append_left

/-- **The tail of a log** is made without a cut inside a character and fits; it ends with the longest end of
    the last lines that the budget leaves room for, which is all of them if they fit; and it contains the
    start of the first line that names an error, and as much of it as fits. -/
theorem logTail_keeps (log : String) :
    (∀ text secrets, ∃ masked, redact text log secrets = some masked) ∧
      ∃ out, logTail log = some out ∧ len out ≤ maxBytes ∧
        (∃ kept : String, kept.toList <:+ out.toList ∧
          LongestEnd (tailLines log).toList (tailBudget log) kept.toList ∧
          (len (tailLines log) ≤ tailBudget log → kept = tailLines log)) ∧
        ∀ line, firstHeadline log = some line →
          ∃ headline, truncateTo (trim line) maxHeadlineBytes = some headline ∧
            LongestStart (trim line).toList maxHeadlineBytes headline.toList ∧
            contains out headline = true := by
  refine ⟨fun text secrets => redact_isSome text log secrets, ?_⟩
  obtain ⟨headline, kept, hheadline, hbudget, hlongest, hout⟩ := logTail_shape log
  obtain ⟨headline', hheadline', hspec⟩ := headlineOf_spec log
  rw [hheadline] at hheadline'
  rw [← Option.some.inj hheadline'] at hspec
  have hall : len (tailLines log) ≤ tailBudget log → kept = tailLines log := by
    intro hfits
    exact String.toList_inj.mp (hlongest.eq_of_fits hfits)
  have hfits : len kept ≤ budgetWith headline := by
    rw [← hbudget]
    exact hlongest.fits
  cases headline with
  | none =>
    refine ⟨kept, hout, hfits, ⟨kept, List.suffix_refl _, hlongest, hall⟩, ?_⟩
    intro line hline
    obtain ⟨hlast, hwhole⟩ := hspec line hline
    obtain ⟨start, hstart, hlongestStart⟩ := truncateTo_spec (trim line) maxHeadlineBytes
    refine ⟨start, hstart, hlongestStart, contains_iff.mpr ?_⟩
    rw [hall (by rw [hbudget]; exact hwhole)]
    exact hlongestStart.isPrefix.isInfix.trans ((trim_isInfix line).trans (infix_tailLines hlast))
  | some headline =>
    obtain ⟨line, hline, htruncated⟩ := hspec
    obtain ⟨start, hstart, hlongestStart⟩ := truncateTo_spec (trim line) maxHeadlineBytes
    rw [htruncated] at hstart
    rw [← Option.some.inj hstart] at hlongestStart
    obtain ⟨hlen, hends, hcontained⟩ :=
      withHeadline_keeps hlongestStart.fits hfits
    refine ⟨withHeadline (some headline) kept, hout, hlen, ⟨kept, hends, hlongest, hall⟩, ?_⟩
    intro other hother
    rw [hline] at hother
    rw [← Option.some.inj hother]
    exact ⟨headline, htruncated, hlongestStart, hcontained⟩

end RestoreOperator
