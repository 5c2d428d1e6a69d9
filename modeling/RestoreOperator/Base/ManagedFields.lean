import RestoreOperator.Base.OrderedMap

/-!
# `Base.ManagedFields` — an object whose fields have several managers

A manager applies the fields it cares for, all of them every time.  Those become its part of the object: what
it applied before and no longer does is given up, and a field that another manager set differently is taken
from that one.  What only others set stays.
-/

/-- **The fields of an object**: those one manager applied, and those the others set.  A field that is both
    has one value. -/
@[ext]
structure ManagedFields (K V : Type) [LinearOrder K] where
  own : OrderedMap K V
  others : OrderedMap K V
  agree : ∀ k v w, own.get k = some v → others.get k = some w → w = v
  deriving DecidableEq

namespace ManagedFields

variable {K V : Type} [LinearOrder K] {m : ManagedFields K V} {sent : OrderedMap K V}

instance : EmptyCollection (ManagedFields K V) := ⟨∅, ∅, fun _ _ _ h => nomatch h⟩

/-- The value of a field, whoever set it. -/
def value (m : ManagedFields K V) (k : K) : Option V := (m.own.get k).or (m.others.get k)

/-- What the manager applied is in force. -/
theorem value_of_own {k : K} {v : V} (h : m.own.get k = some v) : m.value k = some v := by
  unfold value
  rw [h]
  rfl

section Apply

variable [DecidableEq V]

/-- A value another manager may keep beside the applied ones. -/
def passes (sent : OrderedMap K V) (k : K) (v : V) : Bool := (sent.get k).all fun w => v = w

/-- **Apply a manager's fields by force.** -/
def apply (m : ManagedFields K V) (sent : OrderedMap K V) : ManagedFields K V where
  own := sent
  others := m.others.filter (passes sent)
  agree := by
    intro k v w hsent hothers
    rw [OrderedMap.get_filter, Option.filter_eq_some_iff] at hothers
    unfold passes at hothers
    rw [hsent] at hothers
    exact of_decide_eq_true hothers.2

/-- Applying the same again changes nothing. -/
theorem apply_eq_self (h : m.own = sent) : m.apply sent = m := by
  subst h
  refine ManagedFields.ext rfl (OrderedMap.filter_eq_self fun k w hothers => ?_)
  unfold passes
  cases hown : m.own.get k with
  | none => rfl
  | some v => exact decide_eq_true (m.agree k v w hown hothers)

end Apply

end ManagedFields
