import Mathlib.Algebra.Field.Rat
import Mathlib.Data.List.Induction
import Mathlib.Tactic.FieldSimp
import Mathlib.Tactic.Ring

/-!
# `Base.FloatText` — floating-point numbers as texts

A floating-point number is read from a sign, digits with a point among or around them, and an exponent, or
from the name of an infinity or of no number.  What it is rounded to is a parameter.

A decimal in plain notation has its digits on both sides of the point, if there is one.
-/

namespace FloatText

/-- **The numbers of a format**: the nearest to a decimal number of a sign, the infinities, and no number. -/
structure Numbers (F : Type) where
  nearest : (negative : Bool) → (magnitude : ℚ) → F
  infinity : (negative : Bool) → F
  nan : (negative : Bool) → F

/-! ## Reading -/

/-- The number a row of digits is. -/
def number (digits : List Char) : Nat :=
  digits.foldl (fun n c => 10 * n + (c.toNat - 48)) 0

/-- Whether a minus sign stands first, and what comes after the sign. -/
def readSign : List Char → Bool × List Char
  | '-' :: cs => (true, cs)
  | '+' :: cs => (false, cs)
  | cs => (false, cs)

/-- The exponent at the end of a number; no text is the exponent zero. -/
def readExponent : List Char → Option Int
  | [] => some 0
  | c :: cs =>
    if c = 'e' ∨ c = 'E' then
      let (negative, digits) := readSign cs
      if digits ≠ [] ∧ digits.all Char.isDigit then
        some (if negative then -(number digits : Int) else number digits)
      else none
    else none

/-- The digits after a point, and what comes after them. -/
def readFraction : List Char → List Char × List Char
  | '.' :: cs => (cs.takeWhile Char.isDigit, cs.dropWhile Char.isDigit)
  | cs => ([], cs)

/-- The number without its sign. -/
def readMagnitude (cs : List Char) : Option ℚ :=
  let whole := cs.takeWhile Char.isDigit
  let (fraction, rest) := readFraction (cs.dropWhile Char.isDigit)
  if whole = [] ∧ fraction = [] then none
  else (readExponent rest).map fun e : Int => (number (whole ++ fraction) : ℚ) * 10 ^ (e - fraction.length)

/-- **Read a floating-point number.** -/
def parse {F : Type} (numbers : Numbers F) (s : String) : Option F :=
  let (negative, cs) := readSign s.toList
  let word := cs.map Char.toLower
  if word = "inf".toList ∨ word = "infinity".toList then some (numbers.infinity negative)
  else if word = "nan".toList then some (numbers.nan negative)
  else (readMagnitude cs).map (numbers.nearest negative)

/-! ## Decimals in plain notation -/

/-- **A decimal**, by its sign and its digits before and after the point. -/
structure Decimal where
  negative : Bool
  whole : List (Fin 10)
  fraction : List (Fin 10) := []
  whole_ne_nil : whole ≠ []

/-- A row of digits as a number. -/
def value (digits : List (Fin 10)) : Nat := digits.foldl (fun n d => 10 * n + d.val) 0

/-- A row of digits, written. -/
def digitChars (digits : List (Fin 10)) : List Char := digits.map fun d => Nat.digitChar d.val

namespace Decimal

/-- The decimal without its sign. -/
def magnitude (d : Decimal) : ℚ := value d.whole + value d.fraction / 10 ^ d.fraction.length

/-- The digits, with a point if there are any after it. -/
def unsigned (d : Decimal) : List Char :=
  digitChars d.whole ++ if d.fraction = [] then [] else '.' :: digitChars d.fraction

/-- **The decimal, written.** -/
def text (d : Decimal) : String := String.ofList ((if d.negative then ['-'] else []) ++ d.unsigned)

end Decimal

/-! ## A decimal is read back -/

theorem isDigit_digitChar (d : Fin 10) : (Nat.digitChar d.val).isDigit = true := by
  revert d
  decide

theorem toNat_digitChar (d : Fin 10) : (Nat.digitChar d.val).toNat - 48 = d.val := by
  revert d
  decide

theorem isDigit_of_mem_digitChars {digits : List (Fin 10)} {c : Char} (h : c ∈ digitChars digits) :
    c.isDigit = true := by
  obtain ⟨d, _, rfl⟩ := List.mem_map.mp h
  exact isDigit_digitChar d

theorem number_digitChars (digits : List (Fin 10)) : number (digitChars digits) = value digits := by
  unfold number digitChars value
  rw [List.foldl_map]
  simp only [toNat_digitChar]

/-- Digits written after others shift them. -/
theorem value_append (xs ys : List (Fin 10)) :
    value (xs ++ ys) = value xs * 10 ^ ys.length + value ys := by
  induction ys using List.reverseRecOn with
  | nil => simp [value]
  | append_singleton ys y ih =>
    have hsnoc : ∀ zs : List (Fin 10), value (zs ++ [y]) = 10 * value zs + y.val := by
      intro zs
      simp [value]
    rw [← List.append_assoc, hsnoc, ih, hsnoc, List.length_append, List.length_singleton, pow_succ]
    ring

/-- A row of digits ends where something else begins. -/
theorem takeWhile_digitChars (digits : List (Fin 10)) {rest : List Char}
    (h : ∀ c ∈ rest.head?, c.isDigit = false) :
    (digitChars digits ++ rest).takeWhile Char.isDigit = digitChars digits ∧
      (digitChars digits ++ rest).dropWhile Char.isDigit = rest := by
  have hdigits : ∀ c ∈ digitChars digits, c.isDigit = true := fun _ => isDigit_of_mem_digitChars
  rw [List.takeWhile_append_of_pos hdigits, List.dropWhile_append_of_pos hdigits]
  cases rest with
  | nil => simp
  | cons c rest =>
    have hc : ¬ c.isDigit = true := by simp [h c rfl]
    rw [List.takeWhile_cons_of_neg hc, List.dropWhile_cons_of_neg hc, List.append_nil]
    exact ⟨rfl, rfl⟩

/-- The digits after the point, if there is one, and what comes after them. -/
theorem readFraction_digitChars (digits : List (Fin 10)) {rest : List Char}
    (h : ∀ c ∈ rest.head?, c.isDigit = false ∧ c ≠ '.') :
    readFraction ((if digits = [] then [] else '.' :: digitChars digits) ++ rest) =
      (digitChars digits, rest) := by
  by_cases hdigits : digits = []
  · subst hdigits
    rw [if_pos rfl, List.nil_append]
    unfold readFraction
    split
    · -- what comes after is no point
      exact absurd rfl (h '.' rfl).2
    · rfl
  · rw [if_neg hdigits, List.cons_append]
    obtain ⟨htake, hdrop⟩ := takeWhile_digitChars digits fun c hc => (h c hc).1
    show ((digitChars digits ++ rest).takeWhile Char.isDigit,
      (digitChars digits ++ rest).dropWhile Char.isDigit) = _
    rw [htake, hdrop]

/-- The digits on both sides of the point make the number. -/
theorem number_scaled (d : Decimal) (e : Int) :
    (number (digitChars d.whole ++ digitChars d.fraction) : ℚ) *
      10 ^ (e - (digitChars d.fraction).length) = d.magnitude * 10 ^ e := by
  have hlength : (digitChars d.fraction).length = d.fraction.length := List.length_map _
  have happend : digitChars d.whole ++ digitChars d.fraction = digitChars (d.whole ++ d.fraction) :=
    List.map_append.symm
  rw [happend, number_digitChars, value_append, hlength, zpow_sub₀ (by norm_num), zpow_natCast]
  unfold Decimal.magnitude
  push_cast
  field_simp

/-- **A decimal and what stands after it**, if that is no part of its digits. -/
theorem readMagnitude_unsigned (d : Decimal) {rest : List Char}
    (h : ∀ c ∈ rest.head?, c.isDigit = false ∧ c ≠ '.') :
    readMagnitude (d.unsigned ++ rest) = (readExponent rest).map fun e : Int => d.magnitude * 10 ^ e := by
  have hwhole : digitChars d.whole ≠ [] := by
    intro hnil
    exact d.whole_ne_nil (List.map_eq_nil_iff.mp hnil)
  have hend : ∀ c ∈ ((if d.fraction = [] then [] else '.' :: digitChars d.fraction) ++ rest).head?,
      c.isDigit = false := by
    split
    · exact fun c hc => (h c hc).1
    · intro c hc
      obtain rfl := Option.some.inj hc
      rfl
  obtain ⟨htake, hdrop⟩ := takeWhile_digitChars d.whole hend
  unfold Decimal.unsigned readMagnitude
  rw [List.append_assoc, htake, hdrop, readFraction_digitChars d.fraction h]
  dsimp only
  rw [if_neg (fun hnone => hwhole hnone.1)]
  congr 1
  funext e
  exact number_scaled d e

/-- A decimal starts with a digit. -/
theorem unsigned_eq_cons (d : Decimal) : ∃ c cs, d.unsigned = c :: cs ∧ c.isDigit = true := by
  obtain ⟨first, rest, hwhole⟩ := List.exists_cons_of_ne_nil d.whole_ne_nil
  refine ⟨Nat.digitChar first.val, digitChars rest ++
    if d.fraction = [] then [] else '.' :: digitChars d.fraction, ?_, isDigit_digitChar first⟩
  unfold Decimal.unsigned
  rw [hwhole]
  rfl

theorem readSign_text (d : Decimal) (rest : List Char) :
    readSign (d.text.toList ++ rest) = (d.negative, d.unsigned ++ rest) := by
  unfold Decimal.text
  rw [String.toList_ofList]
  cases d.negative with
  | true => rfl
  | false =>
    obtain ⟨c, cs, hunsigned, hdigit⟩ := unsigned_eq_cons d
    rw [if_neg Bool.false_ne_true, List.nil_append, hunsigned, List.cons_append]
    unfold readSign
    split
    · rename_i heq
      rw [(List.cons.inj heq).1] at hdigit
      cases hdigit
    · rename_i heq
      rw [(List.cons.inj heq).1] at hdigit
      cases hdigit
    · rfl

theorem toLower_of_isDigit {c : Char} (h : c.isDigit = true) : c.toLower = c := by
  unfold Char.isDigit at h
  unfold Char.toLower
  simp only [Bool.and_eq_true, decide_eq_true_eq] at h
  split
  · rename_i hupper
    have hle := UInt32.le_trans hupper.1 h.2
    exact absurd hle (by decide)
  · rfl

section Parse

variable {F : Type} (numbers : Numbers F)

/-- A text that starts with digits names no infinity. -/
theorem parse_text_append (d : Decimal) (tail : String) :
    parse numbers (d.text ++ tail) =
      (readMagnitude (d.unsigned ++ tail.toList)).map (numbers.nearest d.negative) := by
  obtain ⟨c, cs, hunsigned, hdigit⟩ := unsigned_eq_cons d
  have hword : ∀ (x : Char) (word : List Char), x.isDigit = false →
      (d.unsigned ++ tail.toList).map Char.toLower ≠ x :: word := by
    intro x word hx hnamed
    rw [hunsigned, List.cons_append, List.map_cons] at hnamed
    have hlower : c.toLower = c := toLower_of_isDigit hdigit
    rw [← (List.cons.inj hnamed).1, hlower, hdigit] at hx
    cases hx
  unfold parse
  rw [String.toList_append, readSign_text]
  dsimp only
  rw [if_neg, if_neg]
  · exact hword 'n' _ rfl
  · rintro (hinf | hinf)
    · exact hword 'i' _ rfl hinf
    · exact hword 'i' _ rfl hinf

/-- **A decimal in plain notation is read as the nearest number.** -/
theorem parse_text (d : Decimal) :
    parse numbers d.text = some (numbers.nearest d.negative d.magnitude) := by
  have hparse := parse_text_append numbers d ""
  rw [String.append_empty] at hparse
  rw [hparse, readMagnitude_unsigned d (by simp)]
  simp [readExponent]

/-- **A decimal with a dash after it is no number.** -/
theorem parse_text_dash (d : Decimal) : parse numbers (d.text ++ "-") = none := by
  have hdash : ∀ c ∈ "-".toList.head?, c.isDigit = false ∧ c ≠ '.' := by
    intro c hc
    obtain rfl := Option.some.inj hc
    decide
  rw [parse_text_append, readMagnitude_unsigned d hdash]
  rfl

end Parse

end FloatText
