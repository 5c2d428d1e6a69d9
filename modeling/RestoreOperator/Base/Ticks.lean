import Mathlib.Order.Bounds.Basic
import Mathlib.Order.Interval.Set.Basic

/-!
# `Base.Ticks` — the next tick of a set of ticks

A clock ticks at the points of a set.  The next tick after a time is the least of them after it, so it is
one tick, and it stays the next one as long as it has not come.
-/

namespace Ticks

variable {α : Type} [LinearOrder α] {ticks : Set α} {t t' u v : α}

/-- **The next tick** after a time. -/
def IsNext (ticks : Set α) (t u : α) : Prop := IsLeast (ticks ∩ Set.Ioi t) u

theorem IsNext.mem (h : IsNext ticks t u) : u ∈ ticks := h.1.1

theorem IsNext.lt (h : IsNext ticks t u) : t < u := h.1.2

/-- No tick after the time is earlier. -/
theorem IsNext.le (h : IsNext ticks t u) (hv : v ∈ ticks) (hlt : t < v) : u ≤ v := h.2 ⟨hv, hlt⟩

theorem IsNext.unique (h : IsNext ticks t u) (h' : IsNext ticks t v) : u = v :=
  IsLeast.unique h h'

/-- **Until it comes, a next tick stays the next.** -/
theorem IsNext.until (h : IsNext ticks t u) (hle : t ≤ t') (hlt : t' < u) : IsNext ticks t' u := by
  refine ⟨⟨h.mem, hlt⟩, ?_⟩
  rintro v ⟨hv, hafter⟩
  exact h.le hv (lt_of_le_of_lt hle hafter)

end Ticks
