import Mathlib.Algebra.Order.Floor.Ring
import Mathlib.Algebra.Order.Field.Basic

/-!
# `Base.Rounding` — rounding to whole multiples of a unit

A number rounded up to whole units is bounded by what a bound rounds down to: the two roundings are a
Galois connection, and what is said about one bound carries over to the other.
-/

namespace Rounding

variable {K : Type} [Field K] [LinearOrder K] [IsStrictOrderedRing K] [FloorRing K]

/-- The least whole multiple of a unit that is not below a number. -/
def up (unit x : K) : K := ⌈x / unit⌉ * unit

/-- The greatest whole multiple of a unit that is not above a number. -/
def down (unit x : K) : K := ⌊x / unit⌋ * unit

/-- Rounding up is rounding down, and one more if that leaves something. -/
theorem ceil_eq_floor_add (x : K) : ⌈x⌉ = ⌊x⌋ + if (⌊x⌋ : K) < x then 1 else 0 := by
  rw [Int.ceil_eq_iff]
  have hbelow := Int.floor_le x
  have habove := Int.lt_floor_add_one x
  by_cases h : (⌊x⌋ : K) < x
  · rw [if_pos h]
    push_cast
    exact ⟨by rwa [add_sub_cancel_right], habove.le⟩
  · rw [if_neg h]
    push_cast
    rw [add_zero]
    exact ⟨lt_of_lt_of_le (sub_one_lt _) hbelow, not_lt.mp h⟩

variable {unit : K} (hunit : 0 < unit)

include hunit

/-- **Rounded up, a number stays within a bound exactly if it is within the bound rounded down.** -/
theorem up_le_iff (x bound : K) : up unit x ≤ bound ↔ x ≤ down unit bound := by
  unfold up down
  rw [← le_div_iff₀ hunit, ← Int.le_floor, Int.ceil_le, div_le_iff₀ hunit]

theorem le_up (x : K) : x ≤ up unit x := by
  unfold up
  rw [← div_le_iff₀ hunit]
  exact Int.le_ceil _

theorem down_le (x : K) : down unit x ≤ x := by
  unfold down
  rw [← le_div_iff₀ hunit]
  exact Int.floor_le _

/-- A number that is rounded up is in whole units. -/
theorem down_up (x : K) : down unit (up unit x) = up unit x := by
  unfold down up
  rw [mul_div_cancel_right₀ _ hunit.ne', Int.floor_intCast]

theorem up_mono {x y : K} (h : x ≤ y) : up unit x ≤ up unit y := by
  rw [up_le_iff hunit, down_up hunit]
  exact le_trans h (le_up hunit y)

omit hunit in
/-- Rounding up to a whole number first changes nothing. -/
theorem up_ceil {n : Nat} (hn : 0 < n) (x : K) : up (n : K) ⌈x⌉ = up (n : K) x := by
  have hunit : 0 < (n : K) := Nat.cast_pos.mpr hn
  apply le_antisymm
  · rw [up_le_iff hunit, down_up hunit]
    have hwhole : up (n : K) x = ((⌈x / n⌉ * n : Int) : K) := by
      unfold up
      push_cast
      rfl
    rw [hwhole, Int.cast_le, Int.ceil_le, ← hwhole]
    exact le_up hunit x
  · exact up_mono hunit (Int.le_ceil x)

end Rounding
