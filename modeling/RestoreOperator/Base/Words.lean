import Mathlib.Data.List.Chain
import Mathlib.Data.List.DropRight

/-!
# `Base.Words` — the words of a text, joined again

A normaliser that keeps some characters, rewriting them, and turns every run of the others into one
separator comes to the same as cutting a text into its words and joining these.
-/

namespace Words

variable {α β : Type} (keep : α → Bool) (f : α → β) (sep : β)

/-- The words of a text: its runs of kept characters, rewritten. -/
def words (cs : List α) : List (List β) :=
  ((cs.splitOnP fun c => !keep c).filter fun w => !w.isEmpty).map fun w => w.map f

/-- Words joined by a separator. -/
def joined (ws : List (List β)) : List β := List.intercalate [sep] ws

/-- **Squeeze a text**: kept characters rewritten, every run of others one separator, and none right
    after a separator (`gap`). -/
def squeeze (gap : Bool) : List α → List β
  | [] => []
  | c :: cs =>
    if keep c then f c :: squeeze false cs
    else if gap then squeeze true cs
    else sep :: squeeze true cs

/-- What follows a word: nothing, or a separator and the other words. -/
def after (ws : List (List β)) : List β := if ws.isEmpty then [] else sep :: joined sep ws

theorem joined_cons (w : List β) (ws : List (List β)) :
    joined sep (w :: ws) = w ++ after sep ws := by
  unfold joined after
  cases ws with
  | nil => simp
  | cons v vs =>
    rw [List.intercalate_cons_cons]
    simp [joined]

theorem rdropWhile_cons (p : β → Bool) (x : β) (l : List β) :
    (x :: l).rdropWhile p =
      if l.rdropWhile p = [] then (if p x then [] else [x]) else x :: l.rdropWhile p := by
  induction l using List.reverseRecOn with
  | nil => simp [List.rdropWhile_singleton]
  | append_singleton l y ih =>
    rw [← List.cons_append, List.rdropWhile_concat, List.rdropWhile_concat]
    by_cases hy : p y = true
    · rw [if_pos hy, if_pos hy]
      exact ih
    · rw [if_neg hy, if_neg hy]
      simp

/-- No word is empty, so neither are joined words. -/
theorem joined_eq_nil {ws : List (List β)} (h : ∀ w ∈ ws, w ≠ []) : joined sep ws = [] ↔ ws = [] := by
  cases ws with
  | nil => simp [joined]
  | cons w ws =>
    rw [joined_cons]
    simp [h w List.mem_cons_self]

theorem words_ne_nil (cs : List α) : ∀ w ∈ words keep f cs, w ≠ [] := by
  intro w hw
  obtain ⟨v, hv, rfl⟩ := List.mem_map.mp hw
  have hne := (List.mem_filter.mp hv).2
  cases v with
  | nil => exact absurd hne (by simp)
  | cons x xs => simp

variable [BEq β] [LawfulBEq β]

/-- A text that starts inside a word: the rest of that word, and the words after it. -/
theorem rdropWhile_squeeze (hf : ∀ c, keep c = true → f c ≠ sep) (cs : List α) :
    (squeeze keep f sep true cs).rdropWhile (· == sep) = joined sep (words keep f cs) ∧
      ∀ x, x ≠ sep → ∃ word rest, (cs.splitOnP fun c => !keep c) = word :: rest ∧
        (x :: squeeze keep f sep false cs).rdropWhile (· == sep)
          = x :: word.map f ++ after sep ((rest.filter fun w => !w.isEmpty).map fun w => w.map f) := by
  induction cs with
  | nil =>
    constructor
    · simp [squeeze, words, joined]
    · intro x hx
      exact ⟨[], [], rfl, by simp [squeeze, after, List.rdropWhile_singleton, hx]⟩
  | cons c cs ih =>
    obtain ⟨hstart, hinside⟩ := ih
    by_cases hc : keep c = true
    · obtain ⟨word, rest, hsplit, htrim⟩ := hinside (f c) (hf c hc)
      have hwords : ((c :: cs).splitOnP fun c => !keep c) = (c :: word) :: rest := by
        rw [List.splitOnP_cons_eq_if_modifyHead, if_neg (by simp [hc]), hsplit]
        rfl
      constructor
      · unfold words
        rw [hwords, squeeze, if_pos hc, htrim, List.filter_cons_of_pos (by simp), List.map_cons,
          joined_cons, List.map_cons]
      · intro x hx
        refine ⟨c :: word, rest, hwords, ?_⟩
        rw [squeeze, if_pos hc, rdropWhile_cons, htrim, if_neg (by simp)]
        simp
    · have hwords : ((c :: cs).splitOnP fun c => !keep c) = [] :: cs.splitOnP fun c => !keep c := by
        rw [List.splitOnP_cons_eq_if_modifyHead, if_pos (by simp [hc])]
      constructor
      · unfold words
        rw [hwords, squeeze, if_neg hc, if_pos rfl, List.filter_cons_of_neg (by simp)]
        exact hstart
      · intro x hx
        refine ⟨[], _, hwords, ?_⟩
        rw [squeeze, if_neg hc, if_neg (by simp), rdropWhile_cons, rdropWhile_cons, hstart]
        have hnil := joined_eq_nil sep (words_ne_nil keep f cs)
        by_cases hws : words keep f cs = []
        · have hws' : ((cs.splitOnP fun c => !keep c).filter fun w => !w.isEmpty).map
              (fun w => w.map f) = [] := hws
          rw [if_pos (hnil.mpr hws), hws']
          simp [after, hx]
        · have hws' : ((cs.splitOnP fun c => !keep c).filter fun w => !w.isEmpty).map
              (fun w => w.map f) = words keep f cs := rfl
          rw [if_neg (fun h => hws (hnil.mp h)), hws']
          simp [after, hws]

/-- **Squeezing a text joins its words.** -/
theorem squeeze_words (hf : ∀ c, keep c = true → f c ≠ sep) (cs : List α) :
    (squeeze keep f sep true cs).rdropWhile (· == sep) = joined sep (words keep f cs) :=
  (rdropWhile_squeeze keep f sep hf cs).1

/-- A squeezed text does not start with a separator, nor does any part of it from the start. -/
theorem dropWhile_squeeze (hf : ∀ c, keep c = true → f c ≠ sep) (cs : List α) {l : List β}
    (h : l <+: squeeze keep f sep true cs) : l.dropWhile (· == sep) = l := by
  have hhead : ∀ x rest, squeeze keep f sep true cs = x :: rest → x ≠ sep := by
    clear h
    induction cs with
    | nil =>
      intro x rest h
      exact absurd h (by simp [squeeze])
    | cons c cs ih =>
      intro x rest h
      unfold squeeze at h
      by_cases hc : keep c = true
      · rw [if_pos hc] at h
        rw [← (List.cons.inj h).1]
        exact hf c hc
      · rw [if_neg hc, if_pos rfl] at h
        exact ih x rest h
  cases l with
  | nil => rfl
  | cons x xs =>
    obtain ⟨rest, hrest⟩ := h
    have hx : x ≠ sep := hhead x (xs ++ rest) hrest.symm
    rw [List.dropWhile_cons_of_neg (by simpa using hx)]

theorem getLast?_rdropWhile (l : List β) : (l.rdropWhile (· == sep)).getLast? ≠ some sep := by
  intro hlast
  have hne : l.rdropWhile (· == sep) ≠ [] := by
    intro hnil
    rw [hnil] at hlast
    exact absurd hlast (by simp)
  have hnot := List.rdropWhile_last_not (· == sep) l hne
  rw [List.getLast?_eq_some_getLast hne] at hlast
  exact hnot (by rw [Option.some.inj hlast, beq_self_eq_true])

/-! ## The shape of a squeezed text -/

omit [BEq β] [LawfulBEq β]

/-- Not both are separators. -/
def Apart (a b : β) : Prop := ¬ (a = sep ∧ b = sep)

/-- **Separators stand alone**: none is at the start, and no two are next to each other. -/
def Alone (l : List β) : Prop := (sep :: l).IsChain (Apart sep)

variable {sep}

theorem Alone.of_start {l m : List β} (h : Alone sep l) (hstart : m <+: l) : Alone sep m :=
  List.IsChain.prefix h ((List.cons_prefix_cons).mpr ⟨rfl, hstart⟩)

theorem Alone.head_ne {l : List β} (h : Alone sep l) : l.head? ≠ some sep := by
  intro hhead
  exact List.IsChain.rel_head? h hhead ⟨rfl, rfl⟩

theorem Alone.no_pair {l : List β} (h : Alone sep l) : ¬ [sep, sep] <:+: l := by
  intro hpair
  have hchain : [sep, sep].IsChain (Apart sep) := List.IsChain.infix (List.IsChain.tail h) hpair
  exact List.isChain_pair.mp hchain ⟨rfl, rfl⟩

theorem alone_of_no_pair {l : List β} (hhead : l.head? ≠ some sep) (hpair : ¬ [sep, sep] <:+: l) :
    Alone sep l := by
  refine List.IsChain.cons ?_ ?_
  · refine (List.isChain_isInfix l).imp ?_
    rintro a b hab ⟨rfl, rfl⟩
    exact hpair hab
  · rintro y hy ⟨_, rfl⟩
    exact hhead hy

variable (sep)

/-- What is squeezed after `x` leaves no two separators next to each other. -/
theorem squeeze_chain (hf : ∀ c, keep c = true → f c ≠ sep) (cs : List α) :
    ∀ (x : β) (gap : Bool), (x = sep ↔ gap = true) →
      (x :: squeeze keep f sep gap cs).IsChain (Apart sep) := by
  induction cs with
  | nil => exact fun x gap _ => List.isChain_singleton x
  | cons c cs ih =>
    intro x gap hgap
    unfold squeeze
    by_cases hc : keep c = true
    · rw [if_pos hc]
      have hne : f c ≠ sep := hf c hc
      exact List.isChain_cons_cons.mpr ⟨fun h => hne h.2, ih (f c) false (by simp [hne])⟩
    · rw [if_neg hc]
      cases gap with
      | true => exact ih x true hgap
      | false =>
        have hx : x ≠ sep := fun hx => absurd (hgap.mp hx) (by simp)
        exact List.isChain_cons_cons.mpr ⟨fun h => hx h.1, ih sep true (by simp)⟩

/-- **The separators of a squeezed text stand alone.** -/
theorem squeeze_alone (hf : ∀ c, keep c = true → f c ≠ sep) (cs : List α) :
    Alone sep (squeeze keep f sep true cs) :=
  squeeze_chain keep f sep hf cs sep true (by simp)

theorem mem_squeeze {cs : List α} {gap : Bool} {x : β} (h : x ∈ squeeze keep f sep gap cs) :
    x = sep ∨ ∃ c, keep c = true ∧ x = f c := by
  induction cs generalizing gap with
  | nil => exact absurd h (by simp [squeeze])
  | cons c cs ih =>
    unfold squeeze at h
    by_cases hc : keep c = true
    · rw [if_pos hc] at h
      rcases List.mem_cons.mp h with rfl | h
      · exact Or.inr ⟨c, hc, rfl⟩
      · exact ih h
    · rw [if_neg hc] at h
      cases gap with
      | true => exact ih h
      | false =>
        rcases List.mem_cons.mp h with rfl | h
        · exact Or.inl rfl
        · exact ih h

/-- **A text that is squeezed already stays as it is.** -/
theorem squeeze_eq_self (g : α → α) (s : α) {cs : List α} (hkept : ∀ c ∈ cs, keep c = true → g c = c)
    (hother : ∀ c ∈ cs, keep c ≠ true → c = s) (hs : keep s ≠ true) (halone : Alone s cs) :
    squeeze keep g s true cs = cs := by
  have hrun : ∀ (l : List α), l ⊆ cs → ∀ (x : α) (gap : Bool), (x = s ↔ gap = true) →
      (x :: l).IsChain (Apart s) → squeeze keep g s gap l = l := by
    intro l
    induction l with
    | nil => exact fun _ _ _ _ _ => rfl
    | cons c l ih =>
      intro hsub x gap hgap hchain
      obtain ⟨hapart, hrest⟩ := List.isChain_cons_cons.mp hchain
      have hc : c ∈ cs := hsub List.mem_cons_self
      have hl : l ⊆ cs := fun d hd => hsub (List.mem_cons_of_mem c hd)
      unfold squeeze
      by_cases hkeep : keep c = true
      · have hne : c ≠ s := fun h => hs (h ▸ hkeep)
        rw [if_pos hkeep, hkept c hc hkeep, ih hl c false (by simp [hne]) hrest]
      · have hcs : c = s := hother c hc hkeep
        have hgap' : gap ≠ true := fun h => hapart ⟨hgap.mpr h, hcs⟩
        rw [if_neg hkeep, if_neg hgap', ih hl c true (by simp [hcs]) hrest, hcs]
  exact hrun cs (fun _ h => h) s true (by simp) halone

end Words
