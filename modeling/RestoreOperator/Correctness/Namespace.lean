import Mathlib
import RestoreOperator.Canopy.Namespace
import RestoreOperator.Correctness.UserSecrets

/-!
# `Correctness.Namespace` — slugs and the namespaces named after them

A slug has a fixed shape, and a text of that shape is its own slug.  A namespace's name puts a dash and
digits after one, which is a label Kubernetes accepts.
-/

namespace RestoreOperator

open Words

/-! ## The shape of a slug -/

/-- A lower-case ASCII letter or a digit. -/
def isLabelEnd (c : Char) : Bool := c.isLower || c.isDigit

/-- A lower-case ASCII letter, a digit or a dash. -/
def isLabelChar (c : Char) : Bool := isLabelEnd c || c == '-'

/-- **A slug's shape**: single dashes between lower-case letters and digits, up to fifty characters. -/
structure SlugShape (s : String) : Prop where
  ne_empty : s ≠ ""
  short : s.length ≤ 50
  chars : ∀ c ∈ s.toList, isLabelChar c
  no_dash_first : s.toList.head? ≠ some '-'
  no_dash_last : s.toList.getLast? ≠ some '-'
  no_double_dash : ¬ ['-', '-'] <:+: s.toList

/-- **A DNS-1123 label.** -/
structure DnsLabel (name : String) : Prop where
  chars : ∀ c ∈ name.toList, isLabelChar c
  first : ∃ c, name.toList.head? = some c ∧ isLabelEnd c
  last : ∃ c, name.toList.getLast? = some c ∧ isLabelEnd c
  short : name.length ≤ 63

theorem isLabelEnd_cases {c : Char} (h : isLabelEnd c = true) : c.isLower = true ∨ c.isDigit = true :=
  Bool.or_eq_true _ _ ▸ h

theorem isAlphanum_of_isLabelEnd {c : Char} (h : isLabelEnd c = true) : c.isAlphanum = true := by
  show ((c.isUpper || c.isLower) || c.isDigit) = true
  rcases isLabelEnd_cases h with hlower | hdigit
  · rw [hlower, Bool.or_true, Bool.true_or]
  · rw [hdigit, Bool.or_true]

theorem isLabelEnd_toLower {c : Char} (h : c.isAlphanum = true) : isLabelEnd c.toLower = true := by
  unfold isLabelEnd
  rw [Char.isLower_toLower_eq_isAlpha]
  by_cases hletter : c.isAlpha = true
  · rw [hletter, Bool.true_or]
  · have hdigit : (c.isAlpha || c.isDigit) = true := h
    rw [Bool.eq_false_of_not_eq_true hletter, Bool.false_or] at hdigit
    have hnot : ¬ c.isUpper = true := by
      intro hupper
      apply hletter
      show (c.isUpper || c.isLower) = true
      rw [hupper, Bool.true_or]
    rw [Char.toLower_eq_of_not_isUpper hnot, hdigit, Bool.or_true]

/-- A letter that is in lower case, and a digit, stay as they are. -/
theorem toLower_of_isLabelEnd {c : Char} (h : isLabelEnd c = true) : c.toLower = c := by
  apply Char.toLower_eq_of_not_isUpper
  rcases isLabelEnd_cases h with hlower | hdigit
  · exact Char.not_isUpper_of_isLower hlower
  · intro hupper
    have hbounds : 'A'.val ≤ c.val ∧ c.val ≤ 'Z'.val := of_decide_eq_true hupper
    have hlow : 65 ≤ c.toNat := hbounds.1
    have hhigh : c.toNat ≤ 57 := (Char.isDigit_iff_toNat.mp hdigit).2
    omega

/-! ## Every slug has the shape -/

/-- **What a slug is a part of**: a text of lower-case letters, digits and dashes that stand alone. -/
structure Squeezed (text : List Char) : Prop where
  chars : ∀ c ∈ text, isLabelChar c
  alone : Alone '-' text

theorem Squeezed.of_start {text part : List Char} (h : Squeezed text) (hpart : part <+: text) :
    Squeezed part where
  chars := fun c hc => h.chars c (hpart.subset hc)
  alone := h.alone.of_start hpart

theorem squeezed_joined (name : String) :
    Squeezed (joined '-' (words Char.isAlphanum Char.toLower name.toList)) := by
  rw [← squeeze_words Char.isAlphanum Char.toLower '-' toLower_ne_dash name.toList]
  have hsqueeze : Squeezed (squeeze Char.isAlphanum Char.toLower '-' true name.toList) := by
    constructor
    · intro c hc
      unfold isLabelChar
      rcases mem_squeeze _ _ _ hc with rfl | ⟨d, hd, rfl⟩
      · rfl
      · rw [isLabelEnd_toLower hd, Bool.true_or]
    · exact squeeze_alone _ _ _ toLower_ne_dash name.toList
  exact hsqueeze.of_start (List.rdropWhile_prefix _ _)

/-- **The text a slug is cut from**: squeezed, with a letter or digit at its end. -/
theorem readsAs_text (name : String) :
    ∃ text, Squeezed text ∧ text ≠ [] ∧ text.getLast? ≠ some '-' ∧
      readsAs name = if text.length ≤ 50 then text else (text.take 50).rdropWhile (· == '-') := by
  by_cases hempty : joined '-' (words Char.isAlphanum Char.toLower name.toList) = []
  · have hdefault : "replica".toList = ['r', 'e', 'p', 'l', 'i', 'c', 'a'] := by decide +kernel
    refine ⟨['r', 'e', 'p', 'l', 'i', 'c', 'a'], ⟨List.all_eq_true.mp (by decide), ?_⟩, by decide, by decide, ?_⟩
    · exact alone_of_no_pair (by decide) (by decide)
    · unfold readsAs
      simp only [hempty, if_true, hdefault]
  · refine ⟨_, squeezed_joined name, hempty, ?_, ?_⟩
    · rw [← squeeze_words Char.isAlphanum Char.toLower '-' toLower_ne_dash name.toList]
      exact getLast?_rdropWhile '-' _
    · unfold readsAs
      simp only [if_neg hempty]

/-- **Cutting a text short leaves a slug.**  The cut may end in a dash, which goes. -/
theorem squeezed_cut {text : List Char} (h : Squeezed text) (hne : text ≠ [])
    (hlast : text.getLast? ≠ some '-') :
    let cut := if text.length ≤ 50 then text else (text.take 50).rdropWhile (· == '-')
    Squeezed cut ∧ cut ≠ [] ∧ cut.getLast? ≠ some '-' ∧ cut.length ≤ 50 := by
  intro cut
  by_cases hshort : text.length ≤ 50
  · have hcut : cut = text := if_pos hshort
    rw [hcut]
    exact ⟨h, hne, hlast, hshort⟩
  · have hcut : cut = (text.take 50).rdropWhile (· == '-') := if_neg hshort
    rw [hcut]
    have hstart : (text.take 50).rdropWhile (· == '-') <+: text.take 50 := List.rdropWhile_prefix _ _
    refine ⟨h.of_start (hstart.trans (List.take_prefix 50 text)), ?_, getLast?_rdropWhile '-' _, ?_⟩
    · -- The text starts with a letter or digit, which no trimming reaches.
      obtain ⟨c, rest, rfl⟩ := List.exists_cons_of_ne_nil hne
      intro hnil
      have hdash := List.rdropWhile_eq_nil_iff.mp hnil c (by simp)
      have hhead := h.alone.head_ne
      exact hhead (congrArg some (beq_iff_eq.mp hdash))
    · exact hstart.length_le.trans (List.length_take_le 50 text)

theorem slugShape (name : String) : SlugShape (slug name) := by
  obtain ⟨text, hsqueezed, hne, hlast, hreads⟩ := readsAs_text name
  obtain ⟨hcut, hcutne, hcutlast, hcutlen⟩ := squeezed_cut hsqueezed hne hlast
  rw [← hreads] at hcut hcutne hcutlast hcutlen
  rw [slug_eq]
  constructor
  · intro hempty
    exact hcutne (String.ofList_eq_empty_iff.mp hempty)
  · rwa [String.length_ofList]
  · rw [String.toList_ofList]
    exact hcut.chars
  · rw [String.toList_ofList]
    exact hcut.alone.head_ne
  · rwa [String.toList_ofList]
  · rw [String.toList_ofList]
    exact hcut.alone.no_pair

/-! ## A text of that shape is its own slug -/

theorem isLabelEnd_of_alphanum {c : Char} (h : isLabelChar c = true) (hc : c.isAlphanum = true) :
    isLabelEnd c = true := by
  unfold isLabelChar at h
  rcases Bool.or_eq_true _ _ ▸ h with h | h
  · exact h
  · rw [beq_iff_eq.mp h] at hc
    exact absurd hc (by decide)

theorem slug_eq_self {s : String} (h : SlugShape s) : slug s = s := by
  have halone : Alone '-' s.toList := alone_of_no_pair h.no_dash_first h.no_double_dash
  have hsqueeze : squeeze Char.isAlphanum Char.toLower '-' true s.toList = s.toList := by
    refine squeeze_eq_self _ _ _ ?_ ?_ (by decide) halone
    · intro c hc hkeep
      exact toLower_of_isLabelEnd (isLabelEnd_of_alphanum (h.chars c hc) hkeep)
    · intro c hc hother
      by_contra hne
      have hchar := h.chars c hc
      unfold isLabelChar at hchar
      rw [beq_false_of_ne hne, Bool.or_false] at hchar
      exact hother (isAlphanum_of_isLabelEnd hchar)
  have htext : s.toList ≠ [] := fun hnil => h.ne_empty (String.toList_eq_nil_iff.mp hnil)
  have hjoined : joined '-' (words Char.isAlphanum Char.toLower s.toList) = s.toList := by
    rw [← squeeze_words Char.isAlphanum Char.toLower '-' toLower_ne_dash s.toList, hsqueeze,
      List.rdropWhile_eq_self_iff]
    intro hne hdash
    apply h.no_dash_last
    rw [List.getLast?_eq_some_getLast hne, beq_iff_eq.mp hdash]
  rw [slug_eq]
  unfold readsAs
  simp only [hjoined, if_neg htext]
  rw [if_pos (show s.toList.length ≤ 50 from h.short), String.ofList_toList]

/-- **The slugs are the texts of that shape.** -/
theorem slug_eq_self_iff (s : String) : slug s = s ↔ SlugShape s := by
  constructor
  · intro h
    rw [← h]
    exact slugShape s
  · exact slug_eq_self

/-! ## Names of namespaces -/

theorem isLabelEnd_of_mem_alphabet : ∀ c ∈ Hex.alphabet, isLabelEnd c = true :=
  List.all_eq_true.mp (by decide)

theorem SlugShape.first {s : String} (h : SlugShape s) : ∃ c, s.toList.head? = some c ∧ isLabelEnd c := by
  obtain ⟨c, rest, htext⟩ :=
    List.exists_cons_of_ne_nil (fun hnil => h.ne_empty (String.toList_eq_nil_iff.mp hnil))
  have hhead : s.toList.head? = some c := by rw [htext, List.head?_cons]
  refine ⟨c, hhead, ?_⟩
  have hchar := h.chars c (by rw [htext]; exact List.mem_cons_self)
  have hne : c ≠ '-' := fun hdash => h.no_dash_first (by rw [hhead, hdash])
  unfold isLabelChar at hchar
  rwa [beq_false_of_ne hne, Bool.or_false] at hchar

/-- **A slug, a dash and digits are a label**, when there are some digits and few enough. -/
theorem dnsLabel_of_slug {s : String} (h : SlugShape s) {digits : List Char} (hne : digits ≠ [])
    (hdigits : ∀ c ∈ digits, isLabelEnd c = true) (hfew : digits.length ≤ 12) :
    DnsLabel (s ++ "-" ++ String.ofList digits) := by
  have htext : (s ++ "-" ++ String.ofList digits).toList = s.toList ++ '-' :: digits := by
    simp [String.toList_append]
  obtain ⟨c, hfirst, hc⟩ := h.first
  constructor
  · rw [htext]
    intro d hd
    unfold isLabelChar
    rcases List.mem_append.mp hd with hd | hd
    · exact h.chars d hd
    · rcases List.mem_cons.mp hd with rfl | hd
      · rfl
      · rw [hdigits d hd, Bool.true_or]
  · refine ⟨c, ?_, hc⟩
    rw [htext, List.head?_append, hfirst]
    rfl
  · refine ⟨digits.getLast hne, ?_, hdigits _ (List.getLast_mem hne)⟩
    rw [htext, List.getLast?_append, List.getLast?_cons, List.getLast?_eq_some_getLast hne]
    rfl
  · have hshort := h.short
    have hlength := congrArg List.length htext
    rw [String.length_toList, List.length_append, List.length_cons, String.length_toList] at hlength
    omega

/-- The digits of a short hash. -/
theorem shortHash_eq (sha256 : List UInt8 → Vector UInt8 32) (replicaId serverId : Uuid)
    (versionId : Option Uuid) :
    ∃ digits : List Char, shortHash sha256 replicaId serverId versionId = String.ofList digits ∧
      digits.length = 8 ∧ ∀ c ∈ digits, isLabelEnd c = true := by
  refine ⟨_, rfl, ?_, ?_⟩
  · rw [Hex.length_hex, List.length_take, Vector.length_toList]
    rfl
  · intro c hc
    exact isLabelEnd_of_mem_alphabet c (Hex.mem_hex hc)

theorem dnsLabel_namespaceNameFor (sha256 : List UInt8 → Vector UInt8 32) (entry : EntryIdentity) :
    DnsLabel (namespaceNameFor sha256 entry) := by
  obtain ⟨digits, hhash, hlength, hdigits⟩ := shortHash_eq sha256 entry.replicaId entry.serverId
    (if entry.intent = reportingSchemaIntent then entry.targetVersionId else none)
  have hne : digits ≠ [] := by
    rintro rfl
    exact absurd hlength (by decide)
  unfold namespaceNameFor
  simp only [hhash]
  exact dnsLabel_of_slug (slugShape entry.name) hne hdigits (by omega)

/-- **Slugs have their shape, and namespaces named after them have valid names.**  Every text has a slug of
    that shape, which is its own slug; and the namespace of any entry has a DNS-1123 label for a name,
    whatever the hash. -/
theorem slugs_name_namespaces :
    (∀ s, SlugShape (slug s)) ∧ (∀ s, slug (slug s) = slug s) ∧
      ∀ (sha256 : List UInt8 → Vector UInt8 32) (entry : EntryIdentity),
        DnsLabel (namespaceNameFor sha256 entry) := by
  refine ⟨slugShape, ?_, dnsLabel_namespaceNameFor⟩
  intro s
  exact slug_eq_self (slugShape s)

example : slug "Nauru Prod  Analytics!" = "nauru-prod-analytics" := by decide +kernel

end RestoreOperator
