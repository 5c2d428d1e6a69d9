import Mathlib.Data.List.Forall2
import Mathlib.Data.List.Lex
import Mathlib.Data.Char
import Mathlib.Algebra.Order.Group.Nat

/-!
# `Base.Numerals` — numbers of a fixed width, written out

Decimal numbers padded to a width compare as texts the way they compare as numbers, and so do records of
such numbers with separators between them: the first field that differs decides, and after equal records
what follows them.
-/

namespace Numerals

/-! ## Texts that start alike -/

section Append

variable {α : Type} [LT α]

/-- Texts whose first parts are equally long compare by these, and then by the rest. -/
theorem append_lt_append_iff {x y : List α} (r s : List α) (h : x.length = y.length) :
    x ++ r < y ++ s ↔ x < y ∨ x = y ∧ r < s := by
  induction x generalizing y with
  | nil =>
    have hy : y = [] := List.eq_nil_of_length_eq_zero h.symm
    subst hy
    simp
  | cons a x ih =>
    cases y with
    | nil => exact absurd h (by simp)
    | cons b y =>
      have hrest := ih (y := y) (Nat.succ.inj h)
      rw [List.cons_append, List.cons_append, List.cons_lt_cons_iff, List.cons_lt_cons_iff, hrest,
        List.cons.injEq]
      tauto

end Append

theorem append_lt_append_left_iff {α : Type} [LinearOrder α] (x r s : List α) :
    x ++ r < x ++ s ↔ r < s := by
  rw [append_lt_append_iff r s rfl]
  simp

/-! ## One number -/

/-- A number in decimal, in `width` digits. -/
def digits : (width n : Nat) → List Char
  | 0, _ => []
  | width + 1, n => Nat.digitChar (n / 10 ^ width) :: digits width (n % 10 ^ width)

theorem digitChar_lt_iff : ∀ {d e : Nat}, d < 10 → e < 10 →
    (Nat.digitChar d < Nat.digitChar e ↔ d < e) := by
  intro d e hd he
  have htable : ∀ d < 10, ∀ e < 10, (Nat.digitChar d < Nat.digitChar e ↔ d < e) := by decide
  exact htable d hd e he

theorem digitChar_inj {d e : Nat} (hd : d < 10) (he : e < 10) :
    Nat.digitChar d = Nat.digitChar e ↔ d = e := by
  have htable : ∀ d < 10, ∀ e < 10, (Nat.digitChar d = Nat.digitChar e ↔ d = e) := by decide
  exact htable d hd e he

@[simp] theorem length_digits (width n : Nat) : (digits width n).length = width := by
  induction width generalizing n with
  | zero => rfl
  | succ width ih => simp [digits, ih]

/-- The first digit of a number that fits is a digit. -/
theorem div_pow_lt_ten {width n : Nat} (h : n < 10 ^ (width + 1)) : n / 10 ^ width < 10 := by
  rw [Nat.div_lt_iff_lt_mul (Nat.pow_pos (by decide))]
  rw [pow_succ] at h
  omega

/-- Numbers compare by their first digits, and then by the rest. -/
theorem lt_iff_div_mod (p a b : Nat) :
    a < b ↔ a / p < b / p ∨ a / p = b / p ∧ a % p < b % p := by
  constructor
  · intro h
    rcases Nat.lt_or_eq_of_le (Nat.div_le_div_right (c := p) h.le) with hlt | heq
    · exact Or.inl hlt
    · have ha := Nat.div_add_mod a p
      have hb := Nat.div_add_mod b p
      rw [heq] at ha
      exact Or.inr ⟨heq, by omega⟩
  · rintro (hlt | ⟨heq, hlt⟩)
    · exact Nat.lt_of_div_lt_div hlt
    · have ha := Nat.div_add_mod a p
      have hb := Nat.div_add_mod b p
      rw [heq] at ha
      omega

/-- **Numbers of one width compare as texts the way they compare as numbers.** -/
theorem digits_lt_iff {width a b : Nat} (ha : a < 10 ^ width) (hb : b < 10 ^ width) :
    digits width a < digits width b ↔ a < b := by
  induction width generalizing a b with
  | zero =>
    have ha0 : a = 0 := by simpa using ha
    have hb0 : b = 0 := by simpa using hb
    subst ha0 hb0
    simp [digits]
  | succ width ih =>
    have hp : 0 < 10 ^ width := Nat.pow_pos (by decide)
    have hda := div_pow_lt_ten ha
    have hdb := div_pow_lt_ten hb
    have hrest := ih (Nat.mod_lt a hp) (Nat.mod_lt b hp)
    unfold digits
    rw [List.cons_lt_cons_iff, digitChar_lt_iff hda hdb, digitChar_inj hda hdb, hrest,
      ← lt_iff_div_mod _ a b]

theorem digits_inj {width a b : Nat} (ha : a < 10 ^ width) (hb : b < 10 ^ width) :
    digits width a = digits width b ↔ a = b := by
  constructor
  · intro h
    have hab : ¬ a < b := by
      rw [← digits_lt_iff ha hb, h]
      exact lt_irrefl _
    have hba : ¬ b < a := by
      rw [← digits_lt_iff hb ha, h]
      exact lt_irrefl _
    omega
  · rintro rfl
    rfl

/-! ## Records -/

/-- **A record of numbers**, each in the digits of its width and followed by its separator. -/
def fields : List (Nat × List Char) → List Nat → List Char
  | (width, separator) :: format, n :: ns => digits width n ++ (separator ++ fields format ns)
  | _, _ => []

/-- The numbers fit the widths of a format. -/
abbrev Fits (format : List (Nat × List Char)) (ns : List Nat) : Prop :=
  List.Forall₂ (fun column n => n < 10 ^ column.1) format ns

/-- **Records compare as texts the way their numbers compare in order**, and equal ones by what follows
    them. -/
theorem fields_append_lt_iff {format : List (Nat × List Char)} {ns ms : List Nat} (r s : List Char)
    (hns : Fits format ns) (hms : Fits format ms) :
    fields format ns ++ r < fields format ms ++ s ↔ ns < ms ∨ ns = ms ∧ r < s := by
  induction hns generalizing ms with
  | nil =>
    cases hms
    simp [fields]
  | @cons column n format ns hn _ ih =>
    cases hms with
    | @cons _ m _ ms hm hms =>
      have hrest := ih hms
      have hlength : (digits column.1 n).length = (digits column.1 m).length := by simp
      simp only [fields, List.append_assoc]
      rw [append_lt_append_iff _ _ hlength, append_lt_append_left_iff, hrest, digits_lt_iff hn hm,
        digits_inj hn hm, List.cons_lt_cons_iff, List.cons.injEq]
      tauto

end Numerals
