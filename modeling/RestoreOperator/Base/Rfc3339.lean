import Mathlib.Algebra.Order.Ring.Rat
import Mathlib.Data.Rat.Defs
import Mathlib.Tactic.Linarith
import RestoreOperator.Base.Calendar
import RestoreOperator.Base.Numerals

/-!
# `Base.Rfc3339` — points in time, and the order of their texts

A time is a reading of a clock, a fraction of a second of as many digits as it needs, and how far the
clock is ahead of UTC.  It is written as RFC 3339 has it: trailing zeros of the fraction are left out, with
the point if none is left, and UTC is a `Z`.

Texts compare by the reading of the clock, whatever the clock is ahead; then digit by digit, where a
fraction that ends is followed by the zone, and a `Z` comes after the point and the digits where a sign
comes before them.
-/

namespace Rfc3339

open Numerals Calendar

/-- **A point in time**, as a clock shows it. -/
structure Time where
  year : Nat
  month : Nat
  day : Nat
  hour : Nat
  minute : Nat
  second : Nat
  /-- The digits after the point. -/
  fraction : List Nat := []
  /-- How many minutes the clock is ahead of UTC. -/
  offset : Int := 0
  year_lt : year < 10000 := by decide
  month_bounds : 1 ≤ month ∧ month ≤ 12 := by decide
  day_bounds : 1 ≤ day ∧ (day : Int) ≤ monthLength year month := by decide
  hour_lt : hour < 24 := by decide
  minute_lt : minute < 60 := by decide
  second_lt : second < 60 := by decide
  fraction_lt : ∀ d ∈ fraction, d < 10 := by decide
  fraction_trimmed : fraction.getLast? ≠ some 0 := by decide
  offset_lt : -1440 < offset ∧ offset < 1440 := by decide
  deriving Repr, DecidableEq

/-! ## The instant -/

/-- The reading of the clock, in whole seconds. -/
def Time.clock (t : Time) : Int :=
  86400 * dayNumber t.year t.month t.day + 3600 * t.hour + 60 * t.minute + t.second

/-- The fraction of a second given by its digits. -/
def fractionValue : List Nat → ℚ
  | [] => 0
  | d :: ds => (d + fractionValue ds) / 10

@[simp] theorem fractionValue_nil : fractionValue [] = 0 := rfl

@[simp] theorem fractionValue_cons (d : Nat) (ds : List Nat) :
    fractionValue (d :: ds) = (d + fractionValue ds) / 10 := rfl

/-- **The instant**, in seconds from the start of 1970 in UTC. -/
def Time.instant (t : Time) : ℚ := t.clock + fractionValue t.fraction - 60 * t.offset

/-! ## The text -/

/-- The numbers a text starts with, the largest unit first. -/
def Time.numbers (t : Time) : List Nat := [t.year, t.month, t.day, t.hour, t.minute, t.second]

/-- How these numbers are written. -/
def clockFormat : List (Nat × List Char) :=
  [(4, ['-']), (2, ['-']), (2, ['T']), (2, [':']), (2, [':']), (2, [])]

/-- The zone: `Z`, or how far the clock is ahead of UTC or behind it. -/
def zoneText (offset : Int) : List Char :=
  if offset = 0 then ['Z']
  else (if 0 < offset then '+' else '-') ::
    fields [(2, [':']), (2, [])] [offset.natAbs / 60, offset.natAbs % 60]

/-- The fraction and the zone. -/
def tailText (fraction : List Nat) (offset : Int) : List Char :=
  match fraction with
  | [] => zoneText offset
  | d :: ds => '.' :: ((d :: ds).map Nat.digitChar ++ zoneText offset)

/-- **The text of a time.** -/
def Time.text (t : Time) : String :=
  String.ofList (fields clockFormat t.numbers ++ tailText t.fraction t.offset)

/-! ## The order of texts -/

/-- The place of a zone among the texts of zones: ahead of UTC, then behind it, and UTC last. -/
def zoneRank (offset : Int) : Int :=
  if offset = 0 then 2880 else if 0 < offset then offset else 1440 - offset

/-- **One fraction reads before another** on clocks that show the same second.  A fraction that ends
    first reads before one that goes on, except in UTC. -/
def FractionBefore (offset offset' : Int) : List Nat → List Nat → Prop
  | [], [] => zoneRank offset < zoneRank offset'
  | [], _ :: _ => offset ≠ 0
  | _ :: _, [] => offset' = 0
  | d :: ds, e :: es => d < e ∨ d = e ∧ FractionBefore offset offset' ds es

instance decidableFractionBefore (offset offset' : Int) :
    ∀ ds es : List Nat, Decidable (FractionBefore offset offset' ds es)
  | [], [] => inferInstanceAs (Decidable (zoneRank offset < zoneRank offset'))
  | [], _ :: _ => inferInstanceAs (Decidable (offset ≠ 0))
  | _ :: _, [] => inferInstanceAs (Decidable (offset' = 0))
  | d :: ds, e :: es =>
    have : Decidable (FractionBefore offset offset' ds es) :=
      decidableFractionBefore offset offset' ds es
    inferInstanceAs (Decidable (d < e ∨ d = e ∧ FractionBefore offset offset' ds es))

/-- **One time reads before another**: on its own clock, and then by the fraction. -/
def Time.ReadsBefore (t t' : Time) : Prop :=
  t.clock < t'.clock ∨
    t.clock = t'.clock ∧ FractionBefore t.offset t'.offset t.fraction t'.fraction

instance (t t' : Time) : Decidable (t.ReadsBefore t') :=
  inferInstanceAs (Decidable (_ ∨ _ ∧ _))

/-! ### The clock -/

section Clock

variable (t t' : Time)

theorem fits_numbers : Fits clockFormat t.numbers := by
  have hyear := t.year_lt
  have hmonth := t.month_bounds.2
  have hhour := t.hour_lt
  have hminute := t.minute_lt
  have hsecond := t.second_lt
  have hday : t.day ≤ 31 := by
    have hlength := t.day_bounds.2
    unfold monthLength at hlength
    split_ifs at hlength <;> omega
  refine .cons ?_ (.cons ?_ (.cons ?_ (.cons ?_ (.cons ?_ (.cons ?_ .nil)))))
  all_goals norm_num
  all_goals omega

variable {t t'}

/-- The day decides. -/
theorem clock_lt_of_day (h : dayNumber t.year t.month t.day < dayNumber t'.year t'.month t'.day) :
    t.clock < t'.clock := by
  have hhour := t.hour_lt
  have hminute := t.minute_lt
  have hsecond := t.second_lt
  unfold Time.clock
  omega

/-- The month decides. -/
theorem clock_lt_of_month
    (h : monthNumber t.year t.month < monthNumber t'.year t'.month) : t.clock < t'.clock := by
  apply clock_lt_of_day
  have hmonth := t.month_bounds
  have hday' := t'.day_bounds.1
  exact dayNumber_lt_of_month (by omega) (by omega) t.day_bounds.2 (by omega) h

/-- A reading whose numbers come first is an earlier one. -/
theorem clock_lt_of_numbers (h : t.numbers < t'.numbers) : t.clock < t'.clock := by
  have hmonth := t.month_bounds
  have hmonth' := t'.month_bounds
  have hminute := t.minute_lt
  have hsecond := t.second_lt
  unfold Time.numbers at h
  simp only [List.cons_lt_cons_iff, List.lt_irrefl, and_false, or_false] at h
  rcases h with hyear | ⟨hyear, hmon | ⟨hmon, hday | ⟨hday, hrest⟩⟩⟩
  · apply clock_lt_of_month
    unfold monthNumber
    omega
  · apply clock_lt_of_month
    unfold monthNumber
    omega
  · apply clock_lt_of_day
    unfold dayNumber
    rw [hyear, hmon]
    omega
  · unfold Time.clock
    rw [hyear, hmon, hday]
    omega

/-- Clocks compare the way their numbers do. -/
theorem numbers_lt_iff : t.numbers < t'.numbers ↔ t.clock < t'.clock := by
  constructor
  · exact clock_lt_of_numbers
  · intro h
    rcases lt_trichotomy t.numbers t'.numbers with hlt | heq | hgt
    · exact hlt
    · simp only [Time.numbers, List.cons.injEq, and_true] at heq
      obtain ⟨hyear, hmonth, hday, hhour, hminute, hsecond⟩ := heq
      unfold Time.clock at h
      rw [hyear, hmonth, hday, hhour, hminute, hsecond] at h
      exact absurd h (lt_irrefl _)
    · have hback := clock_lt_of_numbers hgt
      omega

theorem numbers_eq_iff : t.numbers = t'.numbers ↔ t.clock = t'.clock := by
  have hlt : t.numbers < t'.numbers ↔ t.clock < t'.clock := numbers_lt_iff
  have hgt : t'.numbers < t.numbers ↔ t'.clock < t.clock := numbers_lt_iff
  constructor
  · intro h
    rw [h] at hlt hgt
    have hnot := lt_irrefl t'.numbers
    have h1 := mt hlt.mpr hnot
    have h2 := mt hgt.mpr hnot
    omega
  · intro h
    rw [h] at hlt hgt
    exact le_antisymm (not_lt.mp (mt hgt.mp (lt_irrefl _))) (not_lt.mp (mt hlt.mp (lt_irrefl _)))

end Clock

/-! ### The fraction and the zone -/

/-- The text of a zone other than UTC starts with a sign. -/
theorem zoneText_of_ne {offset : Int} (h : offset ≠ 0) :
    ∃ rest, zoneText offset = (if 0 < offset then '+' else '-') :: rest := by
  unfold zoneText
  rw [if_neg h]
  exact ⟨_, rfl⟩

/-- The sign of a zone comes before a point and the digits. -/
theorem sign_lt (offset : Int) {c : Char} (hc : '-' < c) :
    (if 0 < offset then '+' else '-') < c := by
  split
  · exact lt_trans (by decide) hc
  · exact hc

/-- A zone comes before a point or a digit, unless it is UTC. -/
theorem zoneText_lt_cons (offset : Int) {c : Char} (hc : '-' < c ∧ c < 'Z') (rest : List Char) :
    zoneText offset < c :: rest ↔ offset ≠ 0 := by
  by_cases h : offset = 0
  · subst h
    have hzone : zoneText 0 = ['Z'] := rfl
    rw [hzone, List.cons_lt_cons_iff]
    have hnot : ¬ ('Z' < c) := not_lt.mpr hc.2.le
    have hne : ¬ ('Z' = c) := fun heq => absurd hc.2 (by rw [heq]; exact lt_irrefl _)
    simp [hnot, hne]
  · obtain ⟨zone, hzone⟩ := zoneText_of_ne h
    rw [hzone, List.cons_lt_cons_iff]
    have hsign := sign_lt offset hc.1
    simp [hsign, h]

/-- A point or a digit comes before a zone exactly if that is UTC. -/
theorem cons_lt_zoneText (offset : Int) {c : Char} (hc : '-' < c ∧ c < 'Z') (rest : List Char) :
    c :: rest < zoneText offset ↔ offset = 0 := by
  by_cases h : offset = 0
  · subst h
    have hzone : zoneText 0 = ['Z'] := rfl
    rw [hzone, List.cons_lt_cons_iff]
    simp [hc.2]
  · obtain ⟨zone, hzone⟩ := zoneText_of_ne h
    rw [hzone, List.cons_lt_cons_iff]
    have hsign := sign_lt offset hc.1
    have hnot : ¬ (c < (if 0 < offset then '+' else '-')) := not_lt.mpr hsign.le
    have hne : ¬ (c = (if 0 < offset then '+' else '-')) := hsign.ne'
    simp [hnot, hne, h]

/-- The hours and minutes of two zones compare as their numbers. -/
theorem zoneFields_lt_iff {a b : Nat} (ha : a < 1440) (hb : b < 1440) :
    fields [(2, [':']), (2, [])] [a / 60, a % 60] < fields [(2, [':']), (2, [])] [b / 60, b % 60] ↔
      a < b := by
  have hfits : ∀ n < 1440, Fits [(2, [':']), (2, [])] [n / 60, n % 60] := by
    intro n hn
    refine .cons ?_ (.cons ?_ .nil)
    all_goals norm_num
    all_goals omega
  have horder := fields_append_lt_iff [] [] (hfits a ha) (hfits b hb)
  rw [List.append_nil, List.append_nil] at horder
  rw [horder]
  simp only [List.cons_lt_cons_iff, List.lt_irrefl, and_false, or_false]
  omega

/-- The text of UTC comes last. -/
theorem zoneText_lt_utc {offset : Int} (h : offset ≠ 0) : zoneText offset < zoneText 0 := by
  obtain ⟨rest, hzone⟩ := zoneText_of_ne h
  have hutc : zoneText 0 = ['Z'] := rfl
  rw [hzone, hutc, List.cons_lt_cons_iff]
  exact Or.inl (sign_lt offset (by decide))

/-- UTC ranks last. -/
theorem zoneRank_lt_utc {offset : Int} (hbounds : -1440 < offset ∧ offset < 1440) (h : offset ≠ 0) :
    zoneRank offset < zoneRank 0 := by
  have hutc : zoneRank 0 = 2880 := rfl
  rw [hutc]
  unfold zoneRank
  split_ifs <;> omega

/-- **Zones compare by their rank.** -/
theorem zoneText_lt_iff {a b : Int} (ha : -1440 < a ∧ a < 1440) (hb : -1440 < b ∧ b < 1440) :
    zoneText a < zoneText b ↔ zoneRank a < zoneRank b := by
  by_cases ha0 : a = 0
  · subst ha0
    by_cases hb0 : b = 0
    · subst hb0
      simp
    · have hafter : ¬ zoneText 0 < zoneText b := not_lt.mpr (zoneText_lt_utc hb0).le
      exact iff_of_false hafter (not_lt.mpr (zoneRank_lt_utc hb hb0).le)
  · by_cases hb0 : b = 0
    · subst hb0
      exact iff_of_true (zoneText_lt_utc ha0) (zoneRank_lt_utc ha ha0)
    · -- the sign decides, or else how far the clocks are from UTC
      unfold zoneText zoneRank
      rw [if_neg ha0, if_neg ha0, if_neg hb0, if_neg hb0, List.cons_lt_cons_iff,
        zoneFields_lt_iff (by omega) (by omega)]
      by_cases hapos : 0 < a <;> by_cases hbpos : 0 < b
      · simp only [hapos, hbpos, if_true, lt_irrefl, false_or, true_and]
        omega
      · simp only [hapos, hbpos, if_true, if_false, show '+' < '-' by decide, true_or, true_iff]
        omega
      · simp only [hapos, hbpos, if_true, if_false, show ¬ '-' < '+' by decide,
          show ¬ '-' = '+' by decide, false_or, false_and, false_iff]
        omega
      · simp only [hapos, hbpos, if_false, lt_irrefl, false_or, true_and]
        omega

/-- Digits come after the signs of a zone, and before a `Z`. -/
theorem digitChar_bounds {d : Nat} (h : d < 10) :
    '-' < Nat.digitChar d ∧ Nat.digitChar d < 'Z' := by
  have htable : ∀ d < 10, '-' < Nat.digitChar d ∧ Nat.digitChar d < 'Z' := by decide
  exact htable d h

/-- Digits followed by a zone compare as fractions. -/
theorem digits_zone_lt_iff {a b : Int} (ha : -1440 < a ∧ a < 1440) (hb : -1440 < b ∧ b < 1440)
    {ds es : List Nat} (hds : ∀ d ∈ ds, d < 10) (hes : ∀ e ∈ es, e < 10) :
    ds.map Nat.digitChar ++ zoneText a < es.map Nat.digitChar ++ zoneText b ↔
      FractionBefore a b ds es := by
  induction ds generalizing es with
  | nil =>
    cases es with
    | nil => exact zoneText_lt_iff ha hb
    | cons e es => exact zoneText_lt_cons a (digitChar_bounds (hes e List.mem_cons_self)) _
  | cons d ds ih =>
    have hd : d < 10 := hds d List.mem_cons_self
    cases es with
    | nil => exact cons_lt_zoneText b (digitChar_bounds hd) _
    | cons e es =>
      have he : e < 10 := hes e List.mem_cons_self
      have hes' : ∀ x ∈ es, x < 10 := fun x hx => hes x (List.mem_cons_of_mem _ hx)
      have hrest := ih (fun x hx => hds x (List.mem_cons_of_mem _ hx)) hes'
      show Nat.digitChar d :: (ds.map Nat.digitChar ++ zoneText a) <
        Nat.digitChar e :: (es.map Nat.digitChar ++ zoneText b) ↔ _
      rw [List.cons_lt_cons_iff, digitChar_lt_iff hd he, digitChar_inj hd he, hrest]
      rfl

/-- What follows the seconds compares as fractions. -/
theorem tailText_lt_iff (t t' : Time) :
    tailText t.fraction t.offset < tailText t'.fraction t'.offset ↔
      FractionBefore t.offset t'.offset t.fraction t'.fraction := by
  have hpoint : '-' < '.' ∧ '.' < 'Z' := by decide
  have hdigits := digits_zone_lt_iff t.offset_lt t'.offset_lt t.fraction_lt t'.fraction_lt
  cases hf : t.fraction with
  | nil =>
    cases hf' : t'.fraction with
    | nil => exact zoneText_lt_iff t.offset_lt t'.offset_lt
    | cons e es => exact zoneText_lt_cons t.offset hpoint _
  | cons d ds =>
    cases hf' : t'.fraction with
    | nil => exact cons_lt_zoneText t'.offset hpoint _
    | cons e es =>
      rw [hf, hf'] at hdigits
      unfold tailText
      rw [List.cons_lt_cons_iff, hdigits]
      simp

/-- **Texts compare the way the times read.** -/
theorem Time.text_lt_iff (t t' : Time) : t.text < t'.text ↔ t.ReadsBefore t' := by
  rw [String.lt_iff]
  unfold Time.text Time.ReadsBefore
  rw [String.toList_ofList, String.toList_ofList,
    fields_append_lt_iff _ _ (fits_numbers t) (fits_numbers t'), numbers_lt_iff, numbers_eq_iff,
    tailText_lt_iff]

/-! ## Texts and instants -/

theorem zoneRank_inj {a b : Int} (ha : -1440 < a ∧ a < 1440) (hb : -1440 < b ∧ b < 1440)
    (h : zoneRank a = zoneRank b) : a = b := by
  unfold zoneRank at h
  split_ifs at h <;> omega

/-- Fractions of which neither reads before the other are the same, on clocks of one zone. -/
theorem eq_of_not_fractionBefore {a b : Int} {ds es : List Nat} (h : ¬ FractionBefore a b ds es)
    (h' : ¬ FractionBefore b a es ds) : ds = es ∧ zoneRank a = zoneRank b := by
  induction ds generalizing es with
  | nil =>
    cases es with
    | nil => exact ⟨rfl, le_antisymm (not_lt.mp h') (not_lt.mp h)⟩
    | cons e es => exact absurd (not_not.mp h) h'
  | cons d ds ih =>
    cases es with
    | nil => exact absurd (not_not.mp h') h
    | cons e es =>
      unfold FractionBefore at h h'
      push Not at h h'
      have hd : d = e := le_antisymm h'.1 h.1
      obtain ⟨hds, hrank⟩ := ih (h.2 hd) (h'.2 hd.symm)
      exact ⟨by rw [hd, hds], hrank⟩

/-- **A text is the text of one time.** -/
theorem Time.text_inj {t t' : Time} (h : t.text = t'.text) : t = t' := by
  have hnot := mt (Time.text_lt_iff t t').mpr (by rw [h]; exact String.lt_irrefl _)
  have hnot' := mt (Time.text_lt_iff t' t).mpr (by rw [h]; exact String.lt_irrefl _)
  unfold Time.ReadsBefore at hnot hnot'
  push Not at hnot hnot'
  have hclock : t.clock = t'.clock := le_antisymm hnot'.1 hnot.1
  obtain ⟨hfraction, hrank⟩ :=
    eq_of_not_fractionBefore (hnot.2 hclock) (hnot'.2 hclock.symm)
  have hoffset := zoneRank_inj t.offset_lt t'.offset_lt hrank
  have hnumbers := numbers_eq_iff.mpr hclock
  simp only [Time.numbers, List.cons.injEq, and_true] at hnumbers
  obtain ⟨hyear, hmonth, hday, hhour, hminute, hsecond⟩ := hnumbers
  cases t
  cases t'
  subst hyear hmonth hday hhour hminute hsecond hfraction hoffset
  rfl

theorem fractionValue_nonneg (ds : List Nat) : 0 ≤ fractionValue ds := by
  induction ds with
  | nil => exact le_refl 0
  | cons d ds ih =>
    have hd : (0 : ℚ) ≤ d := Nat.cast_nonneg d
    rw [fractionValue_cons]
    linarith

theorem fractionValue_lt_one {ds : List Nat} (hds : ∀ d ∈ ds, d < 10) : fractionValue ds < 1 := by
  induction ds with
  | nil => exact one_pos
  | cons d ds ih =>
    have hd : (d : ℚ) ≤ 9 := by exact_mod_cast Nat.le_of_lt_succ (hds d List.mem_cons_self)
    have hrest := ih fun x hx => hds x (List.mem_cons_of_mem _ hx)
    rw [fractionValue_cons]
    linarith

/-- Digits without trailing zeros have none after the first, either. -/
theorem getLast?_tail_ne {d : Nat} {ds : List Nat} (h : (d :: ds).getLast? ≠ some 0) :
    ds.getLast? ≠ some 0 := by
  intro hlast
  cases ds with
  | nil => cases hlast
  | cons e es =>
    rw [List.getLast?_cons_of_ne_nil (List.cons_ne_nil e es)] at h
    exact h hlast

/-- Digits without trailing zeros are worth something. -/
theorem fractionValue_pos {ds : List Nat} (hne : ds ≠ []) (htrimmed : ds.getLast? ≠ some 0) :
    0 < fractionValue ds := by
  induction ds with
  | nil => exact absurd rfl hne
  | cons d ds ih =>
    rw [fractionValue_cons]
    by_cases hds : ds = []
    · subst hds
      have hd : 0 < d := by
        rw [List.getLast?_singleton] at htrimmed
        exact Nat.pos_of_ne_zero fun h0 => htrimmed (by rw [h0])
      have hd' : (0 : ℚ) < d := by exact_mod_cast hd
      rw [fractionValue_nil]
      linarith
    · have hrest := ih hds (getLast?_tail_ne htrimmed)
      have hd : (0 : ℚ) ≤ d := Nat.cast_nonneg d
      linarith

/-- The first digits decide, or else the rest. -/
theorem fractionValue_cons_lt_iff {d e : Nat} {ds es : List Nat} (hds : ∀ x ∈ ds, x < 10)
    (hes : ∀ x ∈ es, x < 10) :
    fractionValue (d :: ds) < fractionValue (e :: es) ↔
      d < e ∨ d = e ∧ fractionValue ds < fractionValue es := by
  have hlow := fractionValue_nonneg ds
  have hhigh := fractionValue_lt_one hds
  have hlow' := fractionValue_nonneg es
  have hhigh' := fractionValue_lt_one hes
  rw [fractionValue_cons, fractionValue_cons]
  rcases lt_trichotomy d e with hlt | heq | hgt
  · have hstep : (d : ℚ) + 1 ≤ e := by exact_mod_cast hlt
    refine iff_of_true ?_ (Or.inl hlt)
    linarith
  · subst heq
    have hsame : ((d : ℚ) + fractionValue ds) / 10 < (d + fractionValue es) / 10 ↔
        fractionValue ds < fractionValue es := by
      constructor <;> intro h <;> linarith
    rw [hsame]
    simp
  · have hstep : (e : ℚ) + 1 ≤ d := by exact_mod_cast hgt
    refine iff_of_false ?_ ?_
    · rw [not_lt]
      linarith
    · omega

/-- **Fractions compare as lists of digits**, a fraction before those that go on from it. -/
theorem fractionValue_lt_iff {ds es : List Nat} (hds : ∀ d ∈ ds, d < 10) (hes : ∀ e ∈ es, e < 10)
    (htrimmed : ds.getLast? ≠ some 0) (htrimmed' : es.getLast? ≠ some 0) :
    fractionValue ds < fractionValue es ↔ ds < es := by
  induction ds generalizing es with
  | nil =>
    cases es with
    | nil => simp
    | cons e es =>
      have hpos := fractionValue_pos (List.cons_ne_nil e es) htrimmed'
      rw [fractionValue_nil]
      exact iff_of_true hpos (List.nil_lt_cons e es)
  | cons d ds ih =>
    cases es with
    | nil =>
      have hnonneg := fractionValue_nonneg (d :: ds)
      rw [fractionValue_nil]
      exact iff_of_false (not_lt.mpr hnonneg) (List.not_lt_nil (d :: ds))
    | cons e es =>
      have hds' : ∀ x ∈ ds, x < 10 := fun x hx => hds x (List.mem_cons_of_mem _ hx)
      have hes' : ∀ x ∈ es, x < 10 := fun x hx => hes x (List.mem_cons_of_mem _ hx)
      have hrest := ih hds' hes' (getLast?_tail_ne htrimmed) (getLast?_tail_ne htrimmed')
      rw [fractionValue_cons_lt_iff hds' hes', hrest, List.cons_lt_cons_iff]

/-- **A time goes on from another**: in the same second, with further digits of the fraction. -/
def Time.GoesOnFrom (t t' : Time) : Prop :=
  t.clock = t'.clock ∧ t'.fraction <+: t.fraction ∧ t'.fraction ≠ t.fraction

/-- In UTC a fraction reads after those that go on from it, and else as it compares. -/
theorem fractionBefore_utc_iff (ds es : List Nat) :
    FractionBefore 0 0 ds es ↔
      (es <+: ds ∧ es ≠ ds) ∨ (ds < es ∧ ¬ (ds <+: es ∧ ds ≠ es)) := by
  induction ds generalizing es with
  | nil =>
    cases es with
    | nil => simp [FractionBefore]
    | cons e es => simp [FractionBefore]
  | cons d ds ih =>
    cases es with
    | nil => simp [FractionBefore]
    | cons e es =>
      unfold FractionBefore
      rw [ih es, List.cons_lt_cons_iff, List.cons_prefix_cons, List.cons_prefix_cons]
      by_cases heq : d = e
      · subst heq
        simp
      · have hne : ¬ e = d := fun h => heq h.symm
        simp [heq, hne]

/-- **In UTC a time reads before those after it, except that one that goes on from another reads before
    that one.** -/
theorem Time.readsBefore_utc_iff {t t' : Time} (h : t.offset = 0) (h' : t'.offset = 0) :
    t.ReadsBefore t' ↔ t.GoesOnFrom t' ∨ (t.instant < t'.instant ∧ ¬ t'.GoesOnFrom t) := by
  have hlow := fractionValue_nonneg t.fraction
  have hhigh := fractionValue_lt_one t.fraction_lt
  have hlow' := fractionValue_nonneg t'.fraction
  have hhigh' := fractionValue_lt_one t'.fraction_lt
  have hfraction := fractionValue_lt_iff t.fraction_lt t'.fraction_lt t.fraction_trimmed
    t'.fraction_trimmed
  unfold Time.ReadsBefore Time.GoesOnFrom Time.instant
  rw [h, h', fractionBefore_utc_iff, ← hfraction]
  rcases lt_trichotomy t.clock t'.clock with hlt | heq | hgt
  · have hne : ¬ t.clock = t'.clock := by omega
    have hne' : ¬ t'.clock = t.clock := by omega
    have hstep : (t.clock : ℚ) + 1 ≤ t'.clock := by exact_mod_cast hlt
    simp only [hlt, hne, hne', true_or, false_and, not_false_eq_true, and_true, false_or, true_iff]
    linarith
  · rw [heq]
    have hlt : ∀ x y : ℚ, (t'.clock : ℚ) + x - 60 * ((0 : Int) : ℚ) < t'.clock + y - 60 * ((0 : Int) : ℚ) ↔
        x < y := by
      intro x y
      constructor <;> intro hxy <;> linarith
    rw [hlt]
    simp
  · have hne : ¬ t.clock = t'.clock := by omega
    have hnot : ¬ t.clock < t'.clock := by omega
    have hstep : (t'.clock : ℚ) + 1 ≤ t.clock := by exact_mod_cast hgt
    simp only [hnot, hne, false_and, or_false, false_or, false_iff, not_and]
    intro hinst
    linarith

end Rfc3339
