import RestoreOperator.Base.Delimited
import RestoreOperator.Base.Hex

/-!
# `Objects.Uuid` — ids of sixteen bytes
-/

namespace RestoreOperator

open Hex

/-- **An id**: canopy's groups, runs and replicas have one, and so have callback tokens. -/
structure Uuid where
  bytes : Vector UInt8 16
  deriving Repr, DecidableEq

namespace Uuid

/-- The groups of an id's bytes that are written with a hyphen between them. -/
def groups (u : Uuid) : List (List UInt8) :=
  let bytes := u.bytes.toList
  [bytes.take 4, (bytes.drop 4).take 2, (bytes.drop 6).take 2, (bytes.drop 8).take 2, bytes.drop 10]

/-- **The hyphenated form of an id.** -/
def display (u : Uuid) : String :=
  Delimited.join '-' (u.groups.map fun group => String.ofList (hex group))

theorem groups_flatten (u : Uuid) : u.groups.flatten = u.bytes.toList := by
  have hjoin (l : List UInt8) (n m : Nat) : (l.drop n).take m ++ l.drop (n + m) = l.drop n := by
    rw [← List.drop_drop]
    exact List.take_append_drop m (l.drop n)
  unfold groups
  simp only [List.flatten_cons, List.flatten_nil, List.append_nil]
  rw [hjoin _ 8 2, hjoin _ 6 2, hjoin _ 4 2, List.take_append_drop]

theorem mem_display {u : Uuid} {c : Char} (h : c ∈ u.display.toList) : c ∈ alphabet ∨ c = '-' := by
  by_contra hnot
  rw [not_or] at hnot
  refine Delimited.not_mem_join hnot.2 ?_ h
  intro part hpart
  obtain ⟨group, _, rfl⟩ := List.mem_map.mp hpart
  rw [String.toList_ofList]
  exact fun hmem => hnot.1 (mem_hex hmem)

theorem split_display (u : Uuid) :
    Delimited.split '-' u.display = u.groups.map fun group => String.ofList (hex group) := by
  unfold display
  rw [Delimited.split_join_iff (by simp [groups])]
  intro part hpart hmem
  obtain ⟨group, _, rfl⟩ := List.mem_map.mp hpart
  rw [String.toList_ofList] at hmem
  exact absurd (mem_hex hmem) (by decide)

theorem display_ne_empty (u : Uuid) : u.display ≠ "" := by
  intro hempty
  have hparts := congrArg List.length (split_display u)
  rw [hempty, List.length_map] at hparts
  exact absurd hparts (by simp [groups, Delimited.split])

/-- **The hyphenated form tells the id.** -/
theorem display_inj {u v : Uuid} (h : u.display = v.display) : u = v := by
  have hgroups : u.groups = v.groups := by
    have hparts := congrArg (Delimited.split '-') h
    rw [split_display, split_display] at hparts
    refine List.map_injective_iff.mpr ?_ hparts
    intro a b hab
    exact hex_inj (String.ofList_inj.mp hab)
  have hbytes : u.bytes.toList = v.bytes.toList := by
    rw [← groups_flatten, ← groups_flatten, hgroups]
  obtain ⟨ubytes⟩ := u
  obtain ⟨vbytes⟩ := v
  exact congrArg Uuid.mk (Vector.toList_inj.mp hbytes)

/-! ## Reading an id -/

/-- The id of sixteen bytes. -/
def ofBytes (bytes : List UInt8) : Option Uuid :=
  if h : bytes.length = 16 then some ⟨⟨bytes.toArray, by simpa using h⟩⟩ else none

/-- Read an id with hyphens between its groups. -/
def parseHyphenated (cs : List Char) : Option Uuid :=
  if cs[8]? = some '-' ∧ cs[13]? = some '-' ∧ cs[18]? = some '-' ∧ cs[23]? = some '-' then
    (unhex (cs.take 8 ++ (cs.drop 9).take 4 ++ (cs.drop 14).take 4 ++ (cs.drop 19).take 4 ++
      cs.drop 24)).bind ofBytes
  else none

/-- **Read an id**: with hyphens or without, and with hyphens also in braces or as a URN. -/
def parse (s : String) : Option Uuid :=
  let cs := s.toList
  if cs.length = 32 then (unhex cs).bind ofBytes
  else if cs.length = 36 then parseHyphenated cs
  else if cs.length = 38 ∧ cs.head? = some '{' ∧ cs.getLast? = some '}' then
    parseHyphenated ((cs.drop 1).take 36)
  else if cs.length = 45 ∧ cs.take 9 = "urn:uuid:".toList then parseHyphenated (cs.drop 9)
  else none

theorem ofBytes_bytes (u : Uuid) : ofBytes u.bytes.toList = some u := by
  unfold ofBytes
  rw [dif_pos (Vector.length_toList)]
  obtain ⟨⟨bytes, hsize⟩⟩ := u
  rfl

theorem toList_display (u : Uuid) :
    u.display.toList =
      hex (u.bytes.toList.take 4) ++ '-' :: (hex ((u.bytes.toList.drop 4).take 2) ++ '-' ::
        (hex ((u.bytes.toList.drop 6).take 2) ++ '-' :: (hex ((u.bytes.toList.drop 8).take 2) ++ '-' ::
          hex (u.bytes.toList.drop 10)))) := by
  unfold display groups
  rw [Delimited.toList_join]
  simp [List.intercalate]

theorem parseHyphenated_groups {g₁ g₂ g₃ g₄ : List Char} (h₁ : g₁.length = 8) (h₂ : g₂.length = 4)
    (h₃ : g₃.length = 4) (h₄ : g₄.length = 4) (g₅ : List Char) :
    parseHyphenated (g₁ ++ '-' :: (g₂ ++ '-' :: (g₃ ++ '-' :: (g₄ ++ '-' :: g₅)))) =
      (unhex (g₁ ++ g₂ ++ g₃ ++ g₄ ++ g₅)).bind ofBytes := by
  have hdrop {g : List Char} {n m : Nat} (hg : g.length = n) (hm : n ≤ m) : g.drop m = [] :=
    List.drop_eq_nil_of_le (hg ▸ hm)
  unfold parseHyphenated
  simp [List.getElem?_append, List.drop_append, h₁, h₂, h₃, h₄, hdrop h₁, hdrop h₂,
    hdrop h₃, hdrop h₄]

/-- **An id that was written is read back.** -/
theorem parse_display (u : Uuid) : parse u.display = some u := by
  have hwritten := toList_display u
  have hbytes := ofBytes_bytes u
  have hlength : u.bytes.toList.length = 16 := Vector.length_toList
  have hgroups := groups_flatten u
  simp only [groups, List.flatten_cons, List.flatten_nil, List.append_nil] at hgroups
  generalize u.bytes.toList = bytes at hwritten hbytes hlength hgroups
  -- the five groups of digits, by their lengths
  have h₁ : (hex (bytes.take 4)).length = 8 := by simp [hlength]
  have h₂ : (hex ((bytes.drop 4).take 2)).length = 4 := by simp [hlength]
  have h₃ : (hex ((bytes.drop 6).take 2)).length = 4 := by simp [hlength]
  have h₄ : (hex ((bytes.drop 8).take 2)).length = 4 := by simp [hlength]
  have h₅ : (hex (bytes.drop 10)).length = 12 := by simp [hlength]
  have hall : hex (bytes.take 4) ++ hex ((bytes.drop 4).take 2) ++ hex ((bytes.drop 6).take 2) ++
      hex ((bytes.drop 8).take 2) ++ hex (bytes.drop 10) = hex bytes := by
    simp only [← hex_append, List.append_assoc, hgroups]
  generalize hex (bytes.take 4) = g₁ at *
  generalize hex ((bytes.drop 4).take 2) = g₂ at *
  generalize hex ((bytes.drop 6).take 2) = g₃ at *
  generalize hex ((bytes.drop 8).take 2) = g₄ at *
  generalize hex (bytes.drop 10) = g₅ at *
  have hcount : u.display.toList.length = 36 := by
    rw [hwritten]
    simp [h₁, h₂, h₃, h₄, h₅]
  unfold parse
  rw [if_neg (by rw [hcount]; decide), if_pos hcount]
  rw [hwritten, parseHyphenated_groups h₁ h₂ h₃ h₄, hall, unhex_hex]
  exact hbytes

end Uuid

end RestoreOperator
