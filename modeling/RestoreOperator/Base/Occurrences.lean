import Mathlib.Data.List.Basic

/-!
# `Base.Occurrences` — words in a text, and replacing them

A word that cannot run into a mark (it has none of the mark's outer characters and does not fit between
them) occurs around the mark only where it occurred before.  So replacing one word by the mark leaves no
occurrence of it, and brings about none of another.
-/

namespace Occurrences

variable {α : Type} {word mark before after text : List α} {parts : List (List α)}

/-! ## Words next to a mark -/

/-- **A word keeps off a mark**: in a text around the mark it occurs on one side of it only. -/
def KeepsOff (word mark : List α) : Prop :=
  ∀ before after, word <:+: before ++ mark ++ after → word <:+: before ∨ word <:+: after

theorem infix_append_cons {c : α} (hc : c ∉ word) (h : word <:+: before ++ c :: after) :
    word <:+: before ∨ word <:+: after := by
  rcases List.infix_append_iff.mp h with hbefore | hafter | ⟨left, right, rfl, hleft, hright⟩
  · exact Or.inl hbefore
  · rcases List.infix_cons_iff.mp hafter with hhere | hafter
    · rcases List.prefix_cons_iff.mp hhere with rfl | ⟨rest, rfl, _⟩
      · exact Or.inl List.nil_infix
      · exact absurd List.mem_cons_self hc
    · exact Or.inr hafter
  · -- a word on both sides would hold the character between them
    rcases List.prefix_cons_iff.mp hright with rfl | ⟨rest, rfl, _⟩
    · rw [List.append_nil]
      exact Or.inl hleft.isInfix
    · exact absurd (List.mem_append_right left List.mem_cons_self) hc

theorem keepsOff_singleton {c : α} (hc : c ∉ word) : KeepsOff word [c] := by
  intro before after h
  rw [List.append_assoc, List.singleton_append] at h
  exact infix_append_cons hc h

/-- A mark in brackets, which the word has neither of. -/
theorem keepsOff_bracketed {first last : α} {inner : List α} (hfirst : first ∉ word)
    (hlast : last ∉ word) (hinner : ¬ word <:+: inner) : KeepsOff word (first :: inner ++ [last]) := by
  intro before after h
  rw [← List.append_assoc, List.append_assoc _ [last], List.singleton_append] at h
  rcases infix_append_cons hlast h with hleft | hafter
  · rcases infix_append_cons hfirst hleft with hbefore | hwithin
    · exact Or.inl hbefore
    · exact absurd hwithin hinner
  · exact Or.inr hafter

/-- **A word in parts with marks between them is in one of the parts.** -/
theorem infix_intercalate (hword : word ≠ []) (hmark : KeepsOff word mark)
    (h : word <:+: mark.intercalate parts) : ∃ part ∈ parts, word <:+: part := by
  induction parts with
  | nil => exact absurd (List.eq_nil_of_infix_nil h) hword
  | cons part rest ih =>
    cases rest with
    | nil =>
      rw [List.intercalate_singleton] at h
      exact ⟨part, List.mem_cons_self, h⟩
    | cons next rest =>
      rw [List.intercalate_cons_cons] at h
      rcases hmark part _ h with hpart | hrest
      · exact ⟨part, List.mem_cons_self, hpart⟩
      · obtain ⟨other, hother, hocc⟩ := ih hrest
        exact ⟨other, List.mem_cons_of_mem part hother, hocc⟩

theorem intercalate_cons_of_ne_nil {part : List α} (h : parts ≠ []) :
    mark.intercalate (part :: parts) = part ++ mark ++ mark.intercalate parts := by
  obtain ⟨first, rest, rfl⟩ := List.exists_cons_of_ne_nil h
  exact List.intercalate_cons_cons

theorem intercalate_modifyHead {c : α} (h : parts ≠ []) :
    mark.intercalate (parts.modifyHead (c :: ·)) = c :: mark.intercalate parts := by
  obtain ⟨first, rest, rfl⟩ := List.exists_cons_of_ne_nil h
  cases rest with
  | nil => simp
  | cons next rest => simp [List.intercalate_cons_cons]

theorem infix_intercalate_of_mem {part : List α} (h : part ∈ parts) :
    part <:+: mark.intercalate parts := by
  induction parts with
  | nil => cases h
  | cons first rest ih =>
    cases rest with
    | nil =>
      obtain rfl := List.mem_singleton.mp h
      have hwhole : mark.intercalate [part] = part := List.intercalate_singleton
      exact hwhole.symm ▸ List.infix_refl part
    | cons next rest =>
      rw [List.intercalate_cons_cons]
      rcases List.mem_cons.mp h with rfl | hrest
      · rw [List.append_assoc]
        exact List.infix_append_left
      · exact (ih hrest).trans List.infix_append_right

/-! ## Replacing -/

variable [DecidableEq α]

/-- The parts of a text between the occurrences of a word, found from the left and none overlapping;
    `skip` characters still belong to the last one found. -/
def segments (word : List α) : (skip : Nat) → List α → List (List α)
  | _, [] => [[]]
  | 0, c :: cs =>
    if word <+: c :: cs then [] :: segments word (word.length - 1) cs
    else (segments word 0 cs).modifyHead (c :: ·)
  | skip + 1, _ :: cs => segments word skip cs

/-- **Replace** every occurrence of a word, which is not empty, by a mark. -/
def replace (word mark text : List α) : List α := mark.intercalate (segments word 0 text)

theorem segments_ne_nil (word : List α) (skip : Nat) (text : List α) : segments word skip text ≠ [] := by
  induction text generalizing skip with
  | nil => simp [segments]
  | cons c cs ih =>
    cases skip with
    | zero =>
      unfold segments
      split
      · simp
      · obtain ⟨first, rest, hsegments⟩ := List.exists_cons_of_ne_nil (ih 0)
        simp [hsegments]
    | succ skip => exact ih skip

/-- The parts make the text again, with the word between them. -/
theorem intercalate_segments (hword : word ≠ []) (skip : Nat) (text : List α) :
    word.intercalate (segments word skip text) = text.drop skip := by
  induction text generalizing skip with
  | nil => simp [segments]
  | cons c cs ih =>
    cases skip with
    | zero =>
      unfold segments
      split
      · rename_i hfound
        obtain ⟨w, ws, rfl⟩ := List.exists_cons_of_ne_nil hword
        obtain ⟨rest, hrest⟩ := hfound
        rw [intercalate_cons_of_ne_nil (segments_ne_nil _ _ _), ih]
        have hcs : ws ++ rest = cs := (List.cons.inj hrest).2
        rw [← hcs, List.drop_zero, ← (List.cons.inj hrest).1]
        simp
      · rw [intercalate_modifyHead (segments_ne_nil _ _ _), ih]
        rfl
    | succ skip => exact ih skip

/-- **No part holds the word.** -/
theorem not_infix_of_mem_segments (hword : word ≠ []) {skip : Nat} {part : List α}
    (h : part ∈ segments word skip text) : ¬ word <:+: part := by
  induction text generalizing skip part with
  | nil =>
    have hpart : part = [] := by simpa [segments] using h
    rw [hpart]
    exact fun hocc => hword (List.eq_nil_of_infix_nil hocc)
  | cons c cs ih =>
    cases skip with
    | zero =>
      unfold segments at h
      split at h
      · rcases List.mem_cons.mp h with rfl | hrest
        · exact fun hocc => hword (List.eq_nil_of_infix_nil hocc)
        · exact ih hrest
      · rename_i hnot
        obtain ⟨first, rest, hsegments⟩ := List.exists_cons_of_ne_nil (segments_ne_nil word 0 cs)
        rw [hsegments, List.modifyHead_cons] at h
        rcases List.mem_cons.mp h with rfl | hrest
        · intro hocc
          have hfirst : first ∈ segments word 0 cs := by simp [hsegments]
          rcases List.infix_cons_iff.mp hocc with hhere | hwithin
          · -- the text starts with its first part, where the word was not found
            have hstart : first <+: cs := by
              have hjoin := intercalate_segments hword 0 cs
              rw [List.drop_zero, hsegments] at hjoin
              rw [← hjoin]
              cases rest with
              | nil => simp
              | cons next rest =>
                rw [List.intercalate_cons_cons, List.append_assoc]
                exact List.prefix_append _ _
            exact hnot (hhere.trans ((List.prefix_cons_inj c).mpr hstart))
          · exact ih hfirst hwithin
        · have hrest' : part ∈ segments word 0 cs := by simp [hsegments, hrest]
          exact ih hrest'
    | succ skip => exact ih h

/-- **A replaced word is gone.** -/
theorem not_infix_replace (hword : word ≠ []) (hmark : KeepsOff word mark) (text : List α) :
    ¬ word <:+: replace word mark text := by
  intro h
  obtain ⟨part, hpart, hocc⟩ := infix_intercalate hword hmark h
  exact not_infix_of_mem_segments hword hpart hocc

/-- **Replacing brings about no other word.** -/
theorem infix_of_infix_replace {replaced : List α} (hreplaced : replaced ≠ []) (hword : word ≠ [])
    (hmark : KeepsOff word mark) (h : word <:+: replace replaced mark text) : word <:+: text := by
  obtain ⟨part, hpart, hocc⟩ := infix_intercalate hword hmark h
  have hwhole := intercalate_segments hreplaced 0 text
  rw [List.drop_zero] at hwhole
  rw [← hwhole]
  exact hocc.trans (infix_intercalate_of_mem hpart)

end Occurrences
