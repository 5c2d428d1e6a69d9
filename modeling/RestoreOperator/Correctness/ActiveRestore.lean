import Mathlib.Data.List.Nodup
import RestoreOperator.System.Events

/-!
# `Correctness.ActiveRestore` — which restore a pass takes for the active one

A pass takes the first Active restore of the list for the active one.  For the whole grace period
after a switchover two restores are Active, and the list is in no order that puts the current one
first: what the pass reads from its "active" restore may be the outgoing one's.
-/

namespace RestoreOperator

open Calls

/-- **A restore is used as the active one**: it is the source of the migration and the one marked
    outgoing by a switchover, and its snapshot is the one the replica is taken to carry. -/
structure UsedAsActive (ctx : Context) (p : ReplicaPass) (replica : Replica)
    (restores : List Restore) (r : Restore) : Prop where
  picked : activeRestore restores = some r
  switchover : ∀ switching, switchingRestore restores = some switching →
    reconcileSwitchover ctx p replica restores = do
      let open_ ← switchoverGates ctx p replica switching (some r)
      if !open_ then return some ⟨30⟩
      else do
        let action ← switchover p replica switching (some r)
        return some action
  snapshot : effectiveCurrentSnapshot replica.status restores = some r.spec.snapshot

/-- Everything follows from which restore is picked. -/
theorem usedAsActive_iff {ctx : Context} {p : ReplicaPass} {replica : Replica}
    {restores : List Restore} {r : Restore} :
    UsedAsActive ctx p replica restores r ↔ activeRestore restores = some r := by
  refine ⟨UsedAsActive.picked, fun h => ⟨h, ?_, ?_⟩⟩
  · intro switching hs
    simp only [reconcileSwitchover, hs, h]
  · simp only [effectiveCurrentSnapshot, h]

/-- Among items of different keys, the first one that passes a test is a given one exactly when none
    before it passes. -/
theorem find?_eq_some_iff_before {α κ : Type} [DecidableEq κ] {f : α → κ} {l : List α} {r : α}
    {test : α → Bool} (hkeys : (l.map f).Nodup) (hr : r ∈ l) (htest : test r = true) :
    l.find? test = some r ↔
      ∀ x ∈ l.takeWhile (fun x => f x ≠ f r), test x = false := by
  obtain ⟨before, after, rfl⟩ := List.append_of_mem hr
  rw [List.map_append, List.map_cons, List.nodup_middle, List.nodup_cons, List.mem_append] at hkeys
  have hne : ∀ x ∈ before, f x ≠ f r := fun x hx heq =>
    hkeys.1 (.inl (heq ▸ List.mem_map_of_mem hx))
  have htake : (before ++ r :: after).takeWhile (fun x => f x ≠ f r) = before := by
    rw [List.takeWhile_append_of_pos fun x hx => decide_eq_true (hne x hx)]
    simp
  rw [htake, List.find?_append, List.find?_cons_of_pos htest]
  cases hfound : before.find? test with
  | none =>
    refine ⟨?_, fun _ => rfl⟩
    intro _ x hx
    exact Bool.eq_false_iff.mpr (List.find?_eq_none.mp hfound x hx)
  | some y =>
    have hy := List.mem_of_find?_eq_some hfound
    constructor
    · intro heq
      obtain rfl : y = r := Option.some.inj heq
      exact absurd rfl (hne y hy)
    · intro hnone
      have htrue := List.find?_some hfound
      rw [hnone y hy] at htrue
      cases htrue

/-- **The current restore is used as the active one exactly when no other Active restore is listed
    before it.** -/
theorem current_is_active_iff (ctx : Context) (p : ReplicaPass) (replica : Replica)
    (restores : List Restore) (r : Restore) (hnames : (restores.map (·.name)).Nodup)
    (hr : r ∈ restores) (hcurrent : replica.status.currentRestore = some r.name)
    (hactive : r.inPhase .active = true) :
    UsedAsActive ctx p replica restores r ↔
      ∀ x ∈ restores.takeWhile (fun x => some x.name ≠ replica.status.currentRestore),
        x.inPhase .active = false := by
  rw [usedAsActive_iff, hcurrent]
  simp only [ne_eq, Option.some.injEq]
  exact find?_eq_some_iff_before (f := fun x : Restore => x.name) hnames hr hactive

/-! ## Two Active restores -/

/-- An Active restore of a snapshot. -/
def activeOf (uid : Nat) (name snapshot : String) : Restore :=
  plainRestore uid name snapshot { phase := some .active }

/-- The replica after its second switchover. -/
def switchedReplica : Replica :=
  { name := "r"
    spec := { kopiaSecretRef := some "kopia", schedule := "H" }
    status := { currentRestore := some "r-4010", previousRestore := some "r-10" } }

theorem current_listed_first_is_active :
    UsedAsActive .hourly { now := 4040 } switchedReplica
      [activeOf 4 "r-4010" "b", activeOf 1 "r-10" "a"] (activeOf 4 "r-4010" "b") :=
  (current_is_active_iff .hourly { now := 4040 } switchedReplica
    [activeOf 4 "r-4010" "b", activeOf 1 "r-10" "a"] (activeOf 4 "r-4010" "b") (by decide) (by simp)
    rfl (by decide)).mpr (by decide)

/-- The API server lists by name: the outgoing restore comes first, and is used as the active one. -/
theorem outgoing_listed_first_is_active :
    hasMatchingCurrent "r-4010" [activeOf 1 "r-10" "a", activeOf 4 "r-4010" "b"] = true ∧
      UsedAsActive .hourly { now := 4040 } switchedReplica
        [activeOf 1 "r-10" "a", activeOf 4 "r-4010" "b"] (activeOf 1 "r-10" "a") ∧
      ¬ UsedAsActive .hourly { now := 4040 } switchedReplica
        [activeOf 1 "r-10" "a", activeOf 4 "r-4010" "b"] (activeOf 4 "r-4010" "b") := by
  refine ⟨by decide, usedAsActive_iff.mpr (by decide), ?_⟩
  intro h
  have hpicked := h.picked
  revert hpicked
  decide

end RestoreOperator
