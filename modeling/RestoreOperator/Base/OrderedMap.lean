import Mathlib.Data.List.Basic
import Mathlib.Order.Lattice

/-!
# `Base.OrderedMap` — maps as lists in the order of their keys

Every key has at most one value, so a key that is put in again is found where it was.
-/

/-- **A map**: its entries, in the order of the keys. -/
@[ext]
structure OrderedMap (K V : Type) [LinearOrder K] where
  entries : List (K × V)
  sorted : (entries.map Prod.fst).Pairwise (· < ·)
  deriving DecidableEq

namespace OrderedMap

variable {K V : Type} [LinearOrder K]

/-! ## Entries -/

/-- Change the value of a key, or put one in. -/
def putEntry (f : Option V → V) (k : K) : List (K × V) → List (K × V)
  | [] => [(k, f none)]
  | e :: rest =>
    if k < e.1 then (k, f none) :: e :: rest
    else if k = e.1 then (k, f (some e.2)) :: rest
    else e :: putEntry f k rest

variable {f : Option V → V} {k : K} {entries : List (K × V)}

theorem mem_keys_putEntry {k' : K} :
    k' ∈ (putEntry f k entries).map Prod.fst ↔ k' = k ∨ k' ∈ entries.map Prod.fst := by
  induction entries with
  | nil => simp [putEntry]
  | cons e rest ih =>
    unfold putEntry
    by_cases hlt : k < e.1
    · rw [if_pos hlt, List.map_cons, List.mem_cons]
    · rw [if_neg hlt]
      by_cases heq : k = e.1
      · rw [if_pos heq, List.map_cons, List.map_cons, List.mem_cons, List.mem_cons, heq]
        exact ⟨fun h => h.imp_right Or.inr, fun h => h.elim Or.inl id⟩
      · rw [if_neg heq, List.map_cons, List.map_cons, List.mem_cons, List.mem_cons, ih]
        exact or_left_comm

theorem sorted_putEntry (h : (entries.map Prod.fst).Pairwise (· < ·)) :
    ((putEntry f k entries).map Prod.fst).Pairwise (· < ·) := by
  induction entries with
  | nil => exact List.pairwise_singleton _ _
  | cons e rest ih =>
    obtain ⟨hfirst, hrest⟩ := List.pairwise_cons.mp h
    unfold putEntry
    by_cases hlt : k < e.1
    · rw [if_pos hlt, List.map_cons, List.pairwise_cons]
      refine ⟨fun k' hk' => ?_, h⟩
      rcases List.mem_cons.mp hk' with rfl | hk'
      · exact hlt
      · exact hlt.trans (hfirst k' hk')
    · rw [if_neg hlt]
      by_cases heq : k = e.1
      · rw [if_pos heq, heq]
        exact h
      · rw [if_neg heq, List.map_cons, List.pairwise_cons]
        refine ⟨fun k' hk' => ?_, ih hrest⟩
        rcases mem_keys_putEntry.mp hk' with rfl | hk'
        · exact lt_of_le_of_ne (not_lt.mp hlt) (Ne.symm heq)
        · exact hfirst k' hk'

/-- A value that stays as it is leaves the entries as they are. -/
theorem putEntry_eq_self {v : V} (h : (entries.map Prod.fst).Pairwise (· < ·)) (hmem : (k, v) ∈ entries)
    (hf : f (some v) = v) : putEntry f k entries = entries := by
  induction entries with
  | nil => cases hmem
  | cons e rest ih =>
    obtain ⟨hfirst, hrest⟩ := List.pairwise_cons.mp h
    unfold putEntry
    rcases List.mem_cons.mp hmem with rfl | hmem
    · rw [if_neg (lt_irrefl k), if_pos rfl, hf]
    · have hlt : e.1 < k := hfirst k (List.mem_map_of_mem hmem)
      rw [if_neg (not_lt.mpr hlt.le), if_neg hlt.ne', ih hrest hmem]

/-! ## Maps -/

instance : EmptyCollection (OrderedMap K V) := ⟨[], List.Pairwise.nil⟩

/-- The value of a key. -/
def get (m : OrderedMap K V) (k : K) : Option V := m.entries.lookup k

/-- Whether there are no keys. -/
def isEmpty (m : OrderedMap K V) : Bool := m.entries.isEmpty

/-- Set the value of a key. -/
def insert (m : OrderedMap K V) (k : K) (v : V) : OrderedMap K V :=
  ⟨putEntry (fun _ => v) k m.entries, sorted_putEntry m.sorted⟩

/-- Set the value of a key that has none. -/
def orInsert (m : OrderedMap K V) (k : K) (v : V) : OrderedMap K V :=
  ⟨putEntry (fun old => old.getD v) k m.entries, sorted_putEntry m.sorted⟩

/-- The map of a list of entries, where a later one replaces an earlier one. -/
def ofList (entries : List (K × V)) : OrderedMap K V :=
  entries.foldl (fun m e => m.insert e.1 e.2) ∅

/-- Fill in what a map has for the keys without a value. -/
def fill (m defaults : OrderedMap K V) : OrderedMap K V :=
  defaults.entries.foldl (fun m e => m.orInsert e.1 e.2) m

/-- Set every key of another map to its value there. -/
def overlay (m applied : OrderedMap K V) : OrderedMap K V :=
  applied.entries.foldl (fun m e => m.insert e.1 e.2) m

/-- The entries that pass a test. -/
def filter (m : OrderedMap K V) (p : K → V → Bool) : OrderedMap K V :=
  ⟨m.entries.filter fun e => p e.1 e.2, m.sorted.sublist (List.filter_sublist.map Prod.fst)⟩

/-! ## What a map holds -/

theorem lookup_cons_self (k : K) (v : V) (entries : List (K × V)) :
    ((k, v) :: entries).lookup k = some v := by
  rw [List.lookup_cons, BEq.refl]

theorem lookup_cons_ne {a : K} (h : a ≠ k) (v : V) (entries : List (K × V)) :
    ((k, v) :: entries).lookup a = entries.lookup a := by
  rw [List.lookup_cons, beq_false_of_ne h]

theorem lookup_eq_none {a : K} (h : a ∉ entries.map Prod.fst) : entries.lookup a = none := by
  induction entries with
  | nil => rfl
  | cons e rest ih =>
    obtain ⟨k', v'⟩ := e
    rw [List.map_cons, List.mem_cons, not_or] at h
    rw [lookup_cons_ne h.1, ih h.2]

theorem mem_of_lookup {a : K} {v : V} (h : entries.lookup a = some v) : (a, v) ∈ entries := by
  induction entries with
  | nil => cases h
  | cons e rest ih =>
    obtain ⟨k', v'⟩ := e
    by_cases ha : a = k'
    · rw [ha, lookup_cons_self] at h
      rw [ha, ← Option.some.inj h]
      exact List.mem_cons_self
    · rw [lookup_cons_ne ha] at h
      exact List.mem_cons_of_mem _ (ih h)

theorem lookup_ne_none {a : K} (h : a ∈ entries.map Prod.fst) : entries.lookup a ≠ none := by
  induction entries with
  | nil => cases h
  | cons e rest ih =>
    obtain ⟨k', v'⟩ := e
    by_cases ha : a = k'
    · rw [ha, lookup_cons_self]
      exact Option.some_ne_none v'
    · rw [lookup_cons_ne ha]
      exact ih ((List.mem_cons.mp h).resolve_left ha)

/-- **What is put in is found**, and the rest is as it was. -/
theorem lookup_putEntry (h : (entries.map Prod.fst).Pairwise (· < ·)) (a : K) :
    (putEntry f k entries).lookup a = if a = k then some (f (entries.lookup k)) else entries.lookup a := by
  induction entries with
  | nil =>
    by_cases ha : a = k
    · rw [if_pos ha, ha]
      exact lookup_cons_self k _ []
    · rw [if_neg ha]
      exact lookup_cons_ne ha _ []
  | cons e rest ih =>
    obtain ⟨k', v'⟩ := e
    obtain ⟨hfirst, hrest⟩ := List.pairwise_cons.mp h
    unfold putEntry
    dsimp only at hfirst ⊢
    by_cases hlt : k < k'
    · -- the key is new
      have hnone : ((k', v') :: rest).lookup k = none := by
        apply lookup_eq_none
        rw [List.map_cons, List.mem_cons, not_or]
        exact ⟨ne_of_lt hlt, fun hmem => lt_asymm hlt (hfirst k hmem)⟩
      rw [if_pos hlt, hnone]
      by_cases ha : a = k
      · rw [if_pos ha, ha, lookup_cons_self]
      · rw [if_neg ha, lookup_cons_ne ha]
    · rw [if_neg hlt]
      by_cases heq : k = k'
      · rw [if_pos heq, heq]
        by_cases ha : a = k'
        · rw [if_pos ha, ha, lookup_cons_self, lookup_cons_self]
        · rw [if_neg ha, lookup_cons_ne ha, lookup_cons_ne ha]
      · rw [if_neg heq, lookup_cons_ne heq]
        by_cases ha : a = k'
        · have hne : k' ≠ k := Ne.symm heq
          rw [ha, if_neg hne, lookup_cons_self, lookup_cons_self]
        · rw [lookup_cons_ne ha, lookup_cons_ne ha]
          exact ih hrest

variable {m defaults : OrderedMap K V} {v : V}

/-- The keys of a map are those that have a value. -/
theorem get_ne_none_iff {k : K} : m.get k ≠ none ↔ k ∈ m.entries.map Prod.fst := by
  constructor
  · intro h
    by_contra hnone
    exact h (lookup_eq_none hnone)
  · exact lookup_ne_none

theorem get_orInsert (m : OrderedMap K V) (k : K) (v : V) (a : K) :
    (m.orInsert k v).get a = if a = k then some ((m.get k).getD v) else m.get a :=
  lookup_putEntry m.sorted a

/-- A key that has a value keeps it, in a map that does not change. -/
theorem orInsert_eq_self (h : m.get k ≠ none) (v : V) : m.orInsert k v = m := by
  obtain ⟨old, hold⟩ := Option.ne_none_iff_exists'.mp h
  apply OrderedMap.ext
  exact putEntry_eq_self m.sorted (mem_of_lookup hold) rfl

theorem get_foldl_orInsert (m : OrderedMap K V) (entries : List (K × V)) (a : K) :
    (entries.foldl (fun m e => m.orInsert e.1 e.2) m).get a = (m.get a).or (entries.lookup a) := by
  induction entries generalizing m with
  | nil => exact (Option.or_none).symm
  | cons e rest ih =>
    obtain ⟨k', v'⟩ := e
    rw [List.foldl_cons, ih, get_orInsert]
    by_cases ha : a = k'
    · rw [if_pos ha, ha, lookup_cons_self]
      cases m.get k' <;> rfl
    · rw [if_neg ha, lookup_cons_ne ha]

/-- **A filled map** has its own values, and where it has none the default ones. -/
theorem get_fill (m defaults : OrderedMap K V) (a : K) :
    (m.fill defaults).get a = (m.get a).or (defaults.get a) :=
  get_foldl_orInsert m defaults.entries a

theorem fill_isEmpty (h : defaults.isEmpty = true) : m.fill defaults = m := by
  unfold fill
  rw [List.isEmpty_iff.mp h, List.foldl_nil]

/-- A map that has values for all the keys is not changed. -/
theorem fill_eq_self (h : ∀ k ∈ defaults.entries.map Prod.fst, m.get k ≠ none) : m.fill defaults = m := by
  unfold fill
  generalize defaults.entries = entries at h
  induction entries with
  | nil => rfl
  | cons e rest ih =>
    rw [List.foldl_cons, orInsert_eq_self (h e.1 List.mem_cons_self)]
    exact ih fun k hk => h k (List.mem_cons_of_mem _ hk)

/-- **Filling twice is filling once.** -/
theorem fill_fill (m defaults : OrderedMap K V) :
    (m.fill defaults).fill defaults = m.fill defaults := by
  apply fill_eq_self
  intro k hk hnone
  rw [get_fill, Option.or_eq_none_iff] at hnone
  exact get_ne_none_iff.mpr hk hnone.2

theorem get_insert (m : OrderedMap K V) (k : K) (v : V) (a : K) :
    (m.insert k v).get a = if a = k then some v else m.get a :=
  lookup_putEntry m.sorted a

/-- A key that has the value already keeps it, in a map that does not change. -/
theorem insert_eq_self {k : K} (h : m.get k = some v) : m.insert k v = m :=
  OrderedMap.ext (putEntry_eq_self m.sorted (mem_of_lookup h) rfl)

/-- What a map holds is in the list of its entries. -/
theorem get_eq_some_of_mem {k : K} (h : (k, v) ∈ m.entries) : m.get k = some v := by
  obtain ⟨entries, hsorted⟩ := m
  show entries.lookup k = some v
  induction entries with
  | nil => cases h
  | cons e rest ih =>
    obtain ⟨k', v'⟩ := e
    obtain ⟨hfirst, hrest⟩ := List.pairwise_cons.mp hsorted
    rcases List.mem_cons.mp h with heq | hmem
    · cases heq
      exact lookup_cons_self k v rest
    · have hlt : k' < k := hfirst k (List.mem_map_of_mem hmem)
      rw [lookup_cons_ne hlt.ne']
      exact ih hrest hmem

theorem get_foldl_insert (m : OrderedMap K V) {entries : List (K × V)}
    (hsorted : (entries.map Prod.fst).Pairwise (· < ·)) (a : K) :
    (entries.foldl (fun m e => m.insert e.1 e.2) m).get a = (entries.lookup a).or (m.get a) := by
  induction entries generalizing m with
  | nil => rfl
  | cons e rest ih =>
    obtain ⟨k', v'⟩ := e
    obtain ⟨hfirst, hrest⟩ := List.pairwise_cons.mp hsorted
    rw [List.foldl_cons, ih _ hrest, get_insert]
    by_cases ha : a = k'
    · -- the key comes only once
      have hnone : rest.lookup k' = none := lookup_eq_none fun hmem => lt_irrefl k' (hfirst k' hmem)
      rw [if_pos ha, ha, lookup_cons_self, hnone]
      rfl
    · rw [if_neg ha, lookup_cons_ne ha]

/-- **An overlaid map** has the applied values, and elsewhere its own. -/
theorem get_overlay (m applied : OrderedMap K V) (a : K) :
    (m.overlay applied).get a = (applied.get a).or (m.get a) :=
  get_foldl_insert m applied.sorted a

/-- A map that has all the applied values is not changed. -/
theorem overlay_eq_self {applied : OrderedMap K V}
    (h : ∀ k v, applied.get k = some v → m.get k = some v) : m.overlay applied = m := by
  have hentries : ∀ e ∈ applied.entries, m.get e.1 = some e.2 := fun e he =>
    h e.1 e.2 (get_eq_some_of_mem he)
  unfold overlay
  generalize applied.entries = entries at hentries
  induction entries with
  | nil => rfl
  | cons e rest ih =>
    rw [List.foldl_cons, insert_eq_self (hentries e List.mem_cons_self)]
    exact ih fun e' he' => hentries e' (List.mem_cons_of_mem _ he')

/-- **A filtered map** has the values that pass. -/
theorem get_filter (m : OrderedMap K V) (p : K → V → Bool) (a : K) :
    (m.filter p).get a = (m.get a).filter (p a) := by
  obtain ⟨entries, hsorted⟩ := m
  show (entries.filter fun e => p e.1 e.2).lookup a = (entries.lookup a).filter (p a)
  induction entries with
  | nil => rfl
  | cons e rest ih =>
    obtain ⟨k, v⟩ := e
    obtain ⟨hfirst, hrest⟩ := List.pairwise_cons.mp hsorted
    by_cases ha : a = k
    · subst ha
      rw [lookup_cons_self, List.filter_cons]
      by_cases hp : p a v = true
      · rw [if_pos hp, lookup_cons_self, Option.filter_some, if_pos hp]
      · -- the key comes only once
        rw [if_neg hp, Option.filter_some, if_neg hp]
        apply lookup_eq_none
        intro hmem
        obtain ⟨e, he, hkey⟩ := List.mem_map.mp hmem
        have hlt : a < e.1 := hfirst e.1 (List.mem_map_of_mem (List.mem_of_mem_filter he))
        exact hlt.ne' hkey
    · rw [lookup_cons_ne ha, List.filter_cons, ← ih hrest]
      split
      · exact lookup_cons_ne ha _ _
      · rfl

theorem filter_eq_self {p : K → V → Bool} (h : ∀ k v, m.get k = some v → p k v = true) : m.filter p = m := by
  apply OrderedMap.ext
  exact List.filter_eq_self.mpr fun e he => h e.1 e.2 (get_eq_some_of_mem he)

/-- A map is made of no entries only if it is empty. -/
theorem ofList_isEmpty {entries : List (K × V)} (h : (ofList entries).isEmpty = true) : entries = [] := by
  rcases List.eq_nil_or_concat entries with hnil | ⟨init, last, rfl⟩
  · exact hnil
  · unfold ofList at h
    rw [List.concat_eq_append, List.foldl_append, List.foldl_cons, List.foldl_nil] at h
    have hnil := List.isEmpty_iff.mp h
    -- the last entry was put in
    have hlast : last.1 ∈ ([] : List (K × V)).map Prod.fst := by
      rw [← hnil]
      exact mem_keys_putEntry.mpr (Or.inl rfl)
    cases hlast

end OrderedMap
