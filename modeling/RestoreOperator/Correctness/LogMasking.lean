import RestoreOperator.Correctness.LogTail

/-!
# `Correctness.LogMasking` — no secret is left in a recorded log

The secrets a build pod is handed are generated: a password of letters and digits, and an id with hyphens.
Neither they nor what a URL makes of them can run into the mark that takes their place, a line break or the
ellipsis after a headline, and they are longer than any of the texts that are put around a log.  So a masked
secret does not come about again, by masking another one, by a cut or by joining lines.
-/

namespace RestoreOperator

open Occurrences

/-! ## Generated secrets -/

/-- **A generated secret**: a password of 32 letters and digits, or an id. -/
def Generated (secret : String) : Prop :=
  (secret.toList.length = 32 ∧ ∀ c ∈ secret.toList, c.isAlphanum = true) ∨
    ∃ id : Uuid, secret = id.display

/-- What the password generator makes is a generated secret. -/
theorem generated_generatePassword (randomRange : Nat → Fin 62) :
    Generated (generatePassword randomRange) := by
  have hchars : ∀ c ∈ passwordChars, c.isAlphanum = true := List.all_eq_true.mp (by decide)
  left
  unfold generatePassword
  rw [String.toList_ofList]
  refine ⟨by simp, fun c hc => ?_⟩
  obtain ⟨i, _, rfl⟩ := List.mem_map.mp hc
  exact hchars _ (List.get_mem _ _)

/-- An upper-case digit of a percent-encoded byte. -/
def hexUpper (d : Nat) : Char := (Nat.digitChar d).toUpper

/-- An ASCII character, percent-encoded if it is in the set. -/
def percentEncoded (set : AsciiSet) (c : Char) : List Char :=
  if set c then ['%', hexUpper (c.toNat / 16), hexUpper (c.toNat % 16)] else [c]

/-- **The encoder percent-encodes the characters of an ASCII text** that are in the set. -/
def PercentEncodes (text : LogText) : Prop :=
  ∀ s set, (∀ c ∈ s.toList, c.toNat < 128) →
    text.utf8PercentEncode s set = String.ofList (s.toList.flatMap (percentEncoded set))

/-- The forms of a secret: as it is, and the two a URL carries it in. -/
def secretForms (text : LogText) (secret : String) : List String :=
  [secret, text.utf8PercentEncode secret nonAlphanumeric, text.utf8PercentEncode secret urlComponent]

/-! ## Words that can be masked -/

/-- **A word that can be masked**: too long for the texts around a log, and of characters that none of the
    marks in it have. -/
structure Maskable (word : String) : Prop where
  long : 32 ≤ word.toList.length
  plain : ∀ c ∈ word.toList, c.isAlphanum = true ∨ c = '-' ∨ c = '%'

section Maskable

variable {word : String}

theorem Maskable.ne_nil (h : Maskable word) : word.toList ≠ [] := by
  have hlong := h.long
  intro hnil
  rw [hnil] at hlong
  cases hlong

/-- A character of no maskable word. -/
theorem Maskable.not_mem (h : Maskable word) {c : Char}
    (hc : ¬ (c.isAlphanum = true ∨ c = '-' ∨ c = '%')) : c ∉ word.toList :=
  fun hmem => hc (h.plain c hmem)

/-- No short text has a maskable word in it. -/
theorem Maskable.not_infix (h : Maskable word) {cs : List Char} (hshort : cs.length < 32) :
    ¬ word.toList <:+: cs := by
  intro hocc
  have hlong := h.long
  have hle := hocc.length_le
  omega

theorem Maskable.keepsOff_redacted (h : Maskable word) : KeepsOff word.toList redacted.toList := by
  have hinner : ¬ word.toList <:+: "redacted".toList := h.not_infix (by decide)
  exact keepsOff_bracketed (h.not_mem (c := '[') (by decide)) (h.not_mem (c := ']') (by decide)) hinner

end Maskable

theorem length_display (id : Uuid) : id.display.toList.length = 36 := by
  have hbytes : id.bytes.toList.length = 16 := id.bytes.length_toList
  unfold Uuid.display
  rw [Delimited.toList_join]
  simp [Uuid.groups, List.intercalate_cons_cons]

theorem alphanum_lt {c : Char} (h : c.isAlphanum = true) : c.toNat < 128 := by
  have hclass : ((c.isUpper || c.isLower) || c.isDigit) = true := h
  rw [Bool.or_eq_true, Bool.or_eq_true] at hclass
  rcases hclass with (hupper | hlower) | hdigit
  · have hbounds : 'A'.val ≤ c.val ∧ c.val ≤ 'Z'.val := of_decide_eq_true hupper
    have hhigh : c.toNat ≤ 90 := hbounds.2
    omega
  · have hbound : c.val ≤ 'z'.val := of_decide_eq_true (Bool.and_eq_true _ _ ▸ hlower).2
    have hhigh : c.toNat ≤ 122 := hbound
    omega
  · have hhigh : c.toNat ≤ 57 := (Char.isDigit_iff_toNat.mp hdigit).2
    omega

/-- Encoding makes no text shorter. -/
theorem length_le_percentEncoded (set : AsciiSet) (cs : List Char) :
    cs.length ≤ (cs.flatMap (percentEncoded set)).length := by
  induction cs with
  | nil => exact Nat.le_refl 0
  | cons c cs ih =>
    have hone : 1 ≤ (percentEncoded set c).length := by
      unfold percentEncoded
      split <;> simp
    rw [List.flatMap_cons, List.length_append, List.length_cons]
    omega

theorem Generated.plain {secret : String} (h : Generated secret) :
    32 ≤ secret.toList.length ∧ ∀ c ∈ secret.toList, c.isAlphanum = true ∨ c = '-' := by
  rcases h with ⟨hlength, halnum⟩ | ⟨id, rfl⟩
  · exact ⟨by omega, fun c hc => Or.inl (halnum c hc)⟩
  · have hhex : ∀ c ∈ Hex.alphabet, c.isAlphanum = true := List.all_eq_true.mp (by decide)
    refine ⟨by rw [length_display]; decide, fun c hc => ?_⟩
    exact (Uuid.mem_display hc).imp_left (hhex c)

/-- **Every form of a generated secret can be masked.** -/
theorem Generated.maskable {text : LogText} (hencode : PercentEncodes text) {secret form : String}
    (h : Generated secret) (hform : form ∈ secretForms text secret) : Maskable form := by
  obtain ⟨hlong, hplain⟩ := h.plain
  have hascii : ∀ c ∈ secret.toList, c.toNat < 128 := by
    intro c hc
    rcases hplain c hc with halnum | rfl
    · exact alphanum_lt halnum
    · decide
  have hupper : ∀ d < 16, (hexUpper d).isAlphanum = true := by decide
  have hencoded : ∀ set, Maskable (text.utf8PercentEncode secret set) := by
    intro set
    rw [hencode secret set hascii]
    constructor
    · rw [String.toList_ofList]
      exact hlong.trans (length_le_percentEncoded set secret.toList)
    · intro c hc
      rw [String.toList_ofList] at hc
      obtain ⟨d, hd, hc⟩ := List.mem_flatMap.mp hc
      unfold percentEncoded at hc
      split at hc
      · have hlt := hascii d hd
        simp only [List.mem_cons, List.not_mem_nil, or_false] at hc
        rcases hc with rfl | rfl | rfl
        · exact Or.inr (Or.inr rfl)
        · exact Or.inl (hupper _ (by omega))
        · exact Or.inl (hupper _ (Nat.mod_lt _ (by decide)))
      · rw [List.mem_singleton.mp hc]
        exact (hplain d hd).imp_right Or.inl
  simp only [secretForms, List.mem_cons, List.not_mem_nil, or_false] at hform
  rcases hform with rfl | rfl | rfl
  · exact ⟨hlong, fun c hc => (hplain c hc).imp_right Or.inl⟩
  · exact hencoded nonAlphanumeric
  · exact hencoded urlComponent

/-! ## Masking -/

section Masking

variable {text : LogText} {log masked word : String} {secrets : List String}

theorem not_contains {s w : String} : contains s w = false ↔ ¬ w.toList <:+: s.toList :=
  decide_eq_false_iff_not

theorem toList_replaceAll (log word mark : String) :
    (replaceAll log word mark).toList = replace word.toList mark.toList log.toList :=
  String.toList_ofList

/-- Replacing a maskable word by the mark takes it away, and brings about no other. -/
theorem replaceAll_masks (hword : Maskable word) {other : String} (hother : Maskable other)
    (h : other.toList <:+: (replaceAll log word redacted).toList) :
    other.toList <:+: log.toList ∧ other ≠ word := by
  rw [toList_replaceAll] at h
  refine ⟨infix_of_infix_replace hword.ne_nil hother.ne_nil hother.keepsOff_redacted h, ?_⟩
  rintro rfl
  exact not_infix_replace hword.ne_nil hword.keepsOff_redacted log.toList h

/-- **Masking a secret** takes all its forms away, and brings about no maskable word. -/
theorem maskSecret_masks {secret : String} (hforms : ∀ form ∈ secretForms text secret, Maskable form)
    (hword : Maskable word) (h : word.toList <:+: (maskSecret text log secret).toList) :
    word.toList <:+: log.toList ∧ word ∉ secretForms text secret := by
  have hplain : Maskable secret := hforms _ (by simp [secretForms])
  have hfirst : Maskable (text.utf8PercentEncode secret nonAlphanumeric) :=
    hforms _ (by simp [secretForms])
  have hsecond : Maskable (text.utf8PercentEncode secret urlComponent) :=
    hforms _ (by simp [secretForms])
  obtain ⟨h, hne₃⟩ := replaceAll_masks hsecond hword h
  obtain ⟨h, hne₂⟩ := replaceAll_masks hfirst hword h
  obtain ⟨h, hne₁⟩ := replaceAll_masks hplain hword h
  refine ⟨h, ?_⟩
  simp only [secretForms, List.mem_cons, List.not_mem_nil, or_false]
  rintro (heq | heq | heq)
  · exact hne₁ heq
  · exact hne₂ heq
  · exact hne₃ heq

/-- **Masking secrets one after the other** leaves none of their forms: what is left of a maskable word was
    there before, and is a form of none of them. -/
theorem foldl_maskSecret (hforms : ∀ secret ∈ secrets, ∀ form ∈ secretForms text secret, Maskable form)
    (hword : Maskable word) (h : word.toList <:+: (secrets.foldl (maskSecret text) log).toList) :
    word.toList <:+: log.toList ∧ ∀ secret ∈ secrets, word ∉ secretForms text secret := by
  induction secrets generalizing log with
  | nil => exact ⟨h, fun _ hsecret => absurd hsecret List.not_mem_nil⟩
  | cons secret rest ih =>
    rw [List.foldl_cons] at h
    obtain ⟨hfirst, hrest⟩ :=
      ih (fun other hother => hforms other (List.mem_cons_of_mem secret hother)) h
    obtain ⟨hlog, hsecret⟩ :=
      maskSecret_masks (hforms secret List.mem_cons_self) hword hfirst
    refine ⟨hlog, fun other hother => ?_⟩
    rcases List.mem_cons.mp hother with rfl | hother
    · exact hsecret
    · exact hrest other hother

/-- A redacted log has no form of a secret. -/
theorem redact_masks (hforms : ∀ secret ∈ secrets, ∀ form ∈ secretForms text secret, Maskable form)
    (hmasked : redact text log secrets = some masked) {secret : String} (hsecret : secret ∈ secrets)
    {form : String} (hform : form ∈ secretForms text secret) : ¬ form.toList <:+: masked.toList := by
  unfold redact at hmasked
  obtain ⟨window, _, hwindow⟩ := Option.map_eq_some_iff.mp hmasked
  intro h
  rw [← hwindow] at h
  have hkept : ∀ secret ∈ secrets.filter fun secret => secret ≠ "", secret ∈ secrets :=
    fun _ hmem => (List.mem_filter.mp hmem).1
  obtain ⟨_, hnone⟩ := foldl_maskSecret (fun secret hmem => hforms secret (hkept secret hmem))
    (hforms secret hsecret form hform) h
  refine hnone secret (List.mem_filter.mpr ⟨hsecret, ?_⟩) hform
  have hne := (hforms secret hsecret secret (by simp [secretForms])).ne_nil
  rw [decide_eq_true_iff]
  rintro rfl
  exact hne (String.toList_eq_nil_iff.mpr rfl)

/-! ## The tail and the message -/

/-- **A maskable word in the tail of a log was in the log.** -/
theorem logTail_brings_none (hword : Maskable word) {tail : String} (htail : logTail log = some tail)
    (h : word.toList <:+: tail.toList) : word.toList <:+: log.toList := by
  have hline : '\n' ∉ word.toList := hword.not_mem (by decide)
  have hellipsis : '…' ∉ word.toList := hword.not_mem (by decide)
  obtain ⟨headline, kept, hheadline, _, hlongest, hout⟩ := logTail_shape log
  rw [hout] at htail
  rw [← Option.some.inj htail] at h
  have hkept : word.toList <:+: kept.toList → word.toList <:+: log.toList := by
    intro hocc
    have htail := hocc.trans hlongest.suffix.isInfix
    rw [toList_tailLines] at htail
    obtain ⟨part, hpart, hocc⟩ := infix_intercalate hword.ne_nil (keepsOff_singleton hline) htail
    obtain ⟨line, hmem, rfl⟩ := List.mem_map.mp hpart
    exact hocc.trans (infix_of_mem_lines (List.mem_of_mem_drop hmem))
  cases headline with
  | none => exact hkept h
  | some headline =>
    unfold withHeadline at h
    dsimp only at h
    split at h
    · exact hkept h
    · have heq : (headline ++ ellipsis ++ kept).toList =
          headline.toList ++ '\n' :: ([] ++ '…' :: ([] ++ '\n' :: kept.toList)) := by
        rw [String.toList_append, String.toList_append, List.append_assoc]
        rfl
      rw [heq] at h
      rcases infix_append_cons hline h with hheadlineOcc | hrest
      · -- the headline is a part of a line
        obtain ⟨headline', hheadline', hspec⟩ := headlineOf_spec log
        rw [hheadline] at hheadline'
        rw [← Option.some.inj hheadline'] at hspec
        obtain ⟨line, hfirst, htruncated⟩ := hspec
        obtain ⟨start, hstart, hlongestStart⟩ := truncateTo_spec (trim line) maxHeadlineBytes
        rw [htruncated] at hstart
        rw [← Option.some.inj hstart] at hlongestStart
        have hmem : line ∈ lines log := List.mem_of_find?_eq_some hfirst
        exact hheadlineOcc.trans (hlongestStart.isPrefix.isInfix.trans
          ((trim_isInfix line).trans (infix_of_mem_lines hmem)))
      · rcases infix_append_cons hellipsis hrest with hnil | hrest
        · exact absurd hnil (hword.not_infix (by decide))
        · rcases infix_append_cons hline hrest with hnil | hend
          · exact absurd hnil (hword.not_infix (by decide))
          · exact hkept hend

/-- **A maskable word in the message of a failed build was in the redacted log.** -/
theorem buildFailure_brings_none (hword : Maskable word) {tail : String}
    (h : word.toList <:+:
      (if tail = "" then buildFailed else buildFailed ++ ":\n" ++ tail).toList) :
    word.toList <:+: tail.toList := by
  have hline : '\n' ∉ word.toList := hword.not_mem (by decide)
  split at h
  · exact absurd h (hword.not_infix (by decide))
  · have heq : (buildFailed ++ ":\n" ++ tail).toList =
        (buildFailed.toList ++ [':']) ++ '\n' :: tail.toList := by
      rw [String.toList_append, String.toList_append, List.append_assoc, List.append_assoc]
      rfl
    rw [heq] at h
    rcases infix_append_cons hline h with hfixed | htail
    · exact absurd hfixed (hword.not_infix (by decide))
    · exact htail

end Masking

/-- **No secret is left** in a redacted log, in its tail or in the message of a failed build, neither as it is
    nor in the forms a URL carries it in, if all of the secrets were generated. -/
theorem secrets_masked {text : LogText} (hencode : PercentEncodes text) (log : String)
    {secrets : List String} (hsecrets : ∀ secret ∈ secrets, Generated secret) :
    ∃ masked tail message, redact text log secrets = some masked ∧ logTail masked = some tail ∧
      buildFailure text (some log) (some secrets) = some message ∧
      ∀ secret ∈ secrets, ∀ form ∈ secretForms text secret,
        contains masked form = false ∧ contains tail form = false ∧ contains message form = false := by
  have hforms : ∀ secret ∈ secrets, ∀ form ∈ secretForms text secret, Maskable form :=
    fun secret hsecret form hform => (hsecrets secret hsecret).maskable hencode hform
  obtain ⟨masked, hmasked⟩ := redact_isSome text log secrets
  obtain ⟨tail, htail⟩ : ∃ tail, logTail masked = some tail := by
    obtain ⟨_, _, _, _, _, hshape⟩ := logTail_shape masked
    exact ⟨_, hshape⟩
  refine ⟨masked, tail, if tail = "" then buildFailed else buildFailed ++ ":\n" ++ tail, hmasked, htail,
    by simp [buildFailure, hmasked, htail], ?_⟩
  intro secret hsecret form hform
  have hword := hforms secret hsecret form hform
  have hgone := redact_masks hforms hmasked hsecret hform
  have htailGone : ¬ form.toList <:+: tail.toList :=
    fun h => hgone (logTail_brings_none hword htail h)
  refine ⟨not_contains.mpr hgone, not_contains.mpr htailGone, not_contains.mpr ?_⟩
  exact fun h => htailGone (buildFailure_brings_none hword h)

/-- A log without escapes, and the documented encoding. -/
def unescapedText : LogText where
  strip := id
  utf8PercentEncode s set := String.ofList (s.toList.flatMap (percentEncoded set))

/-- The password whose every character is an `a`, and the id whose every byte is zero. -/
def plainSecrets : List String :=
  [generatePassword fun _ => 0, (Uuid.mk (Vector.replicate 16 0)).display]

/-- **The two secrets of a build pod are masked** where they follow one another. -/
theorem password_and_token_masked :
    ∃ masked tail message,
      redact unescapedText ("error: " ++ String.join plainSecrets) plainSecrets = some masked ∧
      logTail masked = some tail ∧
      buildFailure unescapedText (some ("error: " ++ String.join plainSecrets)) (some plainSecrets) =
        some message ∧
      ∀ secret ∈ plainSecrets, ∀ form ∈ secretForms unescapedText secret,
        contains masked form = false ∧ contains tail form = false ∧ contains message form = false := by
  refine secrets_masked (fun _ _ _ => rfl) _ ?_
  intro secret hsecret
  simp only [plainSecrets, List.mem_cons, List.not_mem_nil, or_false] at hsecret
  rcases hsecret with rfl | rfl
  · exact generated_generatePassword _
  · exact Or.inr ⟨_, rfl⟩

end RestoreOperator
