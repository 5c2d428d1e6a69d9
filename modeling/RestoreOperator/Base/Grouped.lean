import Mathlib.Data.List.Flatten
import Mathlib.Data.List.Nodup
import Mathlib.Data.List.Perm.Basic
import Mathlib.Order.Lattice

/-!
# `Base.Grouped` — lists grouped by a key, in key order

An ordered map from keys to lists, filled by pushing one element after another under its own key.
Every element pushed is in exactly one group, and a group holds only elements of its key.
-/

namespace Grouped

variable {κ α : Type} [LinearOrder κ]

/-- Push an element into the group of a key; a key not met yet gets a group of its own. -/
def insert (k : κ) (a : α) : List (κ × List α) → List (κ × List α)
  | [] => [(k, [a])]
  | (j, as) :: rest =>
    if k < j then (k, [a]) :: (j, as) :: rest
    else if k = j then (j, as ++ [a]) :: rest
    else (j, as) :: insert k a rest

/-- A pushed element is the only thing that changes in what the groups hold. -/
theorem flatMap_insert (k : κ) (a : α) (groups : List (κ × List α)) :
    ((insert k a groups).flatMap Prod.snd).Perm (groups.flatMap Prod.snd ++ [a]) := by
  induction groups with
  | nil => simp [insert]
  | cons group rest ih =>
    obtain ⟨j, as⟩ := group
    unfold insert
    split
    · simp only [List.flatMap_cons]
      exact List.perm_append_comm
    · split
      · simp only [List.flatMap_cons, List.append_assoc]
        exact List.Perm.append_left as List.perm_append_comm
      · simp only [List.flatMap_cons, List.append_assoc]
        exact List.Perm.append_left as ih

/-- A group after a push is one from before, or the pushed element's. -/
theorem mem_insert {k : κ} {a : α} {groups : List (κ × List α)} {group : κ × List α}
    (h : group ∈ insert k a groups) :
    group ∈ groups ∨
      (group.1 = k ∧ (group.2 = [a] ∨ ∃ as, (k, as) ∈ groups ∧ group.2 = as ++ [a])) := by
  induction groups with
  | nil =>
    have hgroup : group = (k, [a]) := by simpa [insert] using h
    subst hgroup
    exact Or.inr ⟨rfl, Or.inl rfl⟩
  | cons head rest ih =>
    obtain ⟨j, as⟩ := head
    unfold insert at h
    split at h
    · rcases List.mem_cons.mp h with rfl | hrest
      · exact Or.inr ⟨rfl, Or.inl rfl⟩
      · exact Or.inl hrest
    · split at h
      · rename_i hkey
        subst hkey
        rcases List.mem_cons.mp h with rfl | hrest
        · exact Or.inr ⟨rfl, Or.inr ⟨as, List.mem_cons_self, rfl⟩⟩
        · exact Or.inl (List.mem_cons_of_mem _ hrest)
      · rcases List.mem_cons.mp h with rfl | hrest
        · exact Or.inl List.mem_cons_self
        · rcases ih hrest with hold | ⟨hk, hone | ⟨bs, hbs, hlist⟩⟩
          · exact Or.inl (List.mem_cons_of_mem _ hold)
          · exact Or.inr ⟨hk, Or.inl hone⟩
          · exact Or.inr ⟨hk, Or.inr ⟨bs, List.mem_cons_of_mem _ hbs, hlist⟩⟩

/-- A push keeps the groups in the order of their keys. -/
theorem sorted_insert (k : κ) (a : α) {groups : List (κ × List α)}
    (h : groups.Pairwise fun x y => x.1 < y.1) :
    (insert k a groups).Pairwise fun x y => x.1 < y.1 := by
  induction groups with
  | nil => simp [insert]
  | cons head rest ih =>
    obtain ⟨j, as⟩ := head
    obtain ⟨hhead, hrest⟩ := List.pairwise_cons.mp h
    unfold insert
    split
    · rename_i hlt
      apply List.pairwise_cons.mpr
      constructor
      · intro y hy
        rcases List.mem_cons.mp hy with rfl | hy
        · exact hlt
        · exact lt_trans hlt (hhead y hy)
      · exact h
    · rename_i hnlt
      split
      · exact List.pairwise_cons.mpr ⟨hhead, hrest⟩
      · rename_i hne
        apply List.pairwise_cons.mpr
        refine ⟨?_, ih hrest⟩
        intro y hy
        rcases mem_insert hy with hold | ⟨hk, _⟩
        · exact hhead y hold
        · rw [hk]
          exact lt_of_le_of_ne (not_lt.mp hnlt) (Ne.symm hne)

end Grouped

/-- **Lists grouped by a key**, the groups in key order and none of them empty. -/
structure GroupedBy {κ α : Type} [LinearOrder κ] (key : α → κ) where
  groups : List (κ × List α)
  sorted : groups.Pairwise fun x y => x.1 < y.1
  keyed : ∀ group ∈ groups, ∀ a ∈ group.2, key a = group.1
  inhabited : ∀ group ∈ groups, group.2 ≠ []

namespace GroupedBy

variable {κ α : Type} [LinearOrder κ] {key : α → κ}

/-- No groups. -/
def empty : GroupedBy key where
  groups := []
  sorted := List.Pairwise.nil
  keyed := by simp
  inhabited := by simp

/-- Push an element under its own key. -/
def push (g : GroupedBy key) (a : α) : GroupedBy key where
  groups := Grouped.insert (key a) a g.groups
  sorted := Grouped.sorted_insert (key a) a g.sorted
  keyed := by
    intro group hgroup b hb
    rcases Grouped.mem_insert hgroup with hold | ⟨hk, hone | ⟨as, has, hlist⟩⟩
    · exact g.keyed group hold b hb
    · rw [hone, List.mem_singleton] at hb
      rw [hb, hk]
    · rw [hlist, List.mem_append, List.mem_singleton] at hb
      rcases hb with hb | rfl
      · rw [hk]
        exact g.keyed _ has b hb
      · exact hk.symm
  inhabited := by
    intro group hgroup
    rcases Grouped.mem_insert hgroup with hold | ⟨_, hone | ⟨as, _, hlist⟩⟩
    · exact g.inhabited group hold
    · simp [hone]
    · simp [hlist]

/-- Everything in the groups, in their order. -/
def elems (g : GroupedBy key) : List α := g.groups.flatMap Prod.snd

@[simp] theorem elems_empty : (empty : GroupedBy key).elems = [] := rfl

theorem elems_push (g : GroupedBy key) (a : α) : (g.push a).elems.Perm (g.elems ++ [a]) :=
  Grouped.flatMap_insert (key a) a g.groups

/-- An element is in the group of its key. -/
theorem mem_group {g : GroupedBy key} {a : α} (h : a ∈ g.elems) :
    ∃ as, (key a, as) ∈ g.groups ∧ a ∈ as := by
  obtain ⟨⟨k, as⟩, hgroup, ha⟩ := List.mem_flatMap.mp h
  have hkey : key a = k := g.keyed _ hgroup a ha
  exact ⟨as, hkey ▸ hgroup, ha⟩

end GroupedBy
