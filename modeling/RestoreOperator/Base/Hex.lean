import Mathlib.Data.List.Basic

/-!
# `Base.Hex` — bytes in hexadecimal

Every byte is two lower-case digits, so a text of them stands for one sequence of bytes only.  Read back,
a digit may be in either case.
-/

namespace Hex

/-- The digits. -/
def alphabet : List Char := "0123456789abcdef".toList

/-- The digits of a byte. -/
def hexByte (b : UInt8) : List Char := [Nat.digitChar (b.toNat / 16), Nat.digitChar (b.toNat % 16)]

/-- The digits of a sequence of bytes. -/
def hex (bytes : List UInt8) : List Char := bytes.flatMap hexByte

variable {bytes other : List UInt8}

theorem digitChar_mem : ∀ {d : Nat}, d < 16 → Nat.digitChar d ∈ alphabet := by
  decide

theorem digitChar_inj : ∀ {d : Nat}, d < 16 → ∀ {e : Nat}, e < 16 →
    (Nat.digitChar d = Nat.digitChar e ↔ d = e) := by
  decide

theorem div_lt_sixteen (b : UInt8) : b.toNat / 16 < 16 := by
  have hlt : b.toNat < 256 := b.toNat_lt
  omega

theorem mem_hex {c : Char} (h : c ∈ hex bytes) : c ∈ alphabet := by
  obtain ⟨b, _, hc⟩ := List.mem_flatMap.mp h
  rcases List.mem_cons.mp hc with rfl | hc
  · exact digitChar_mem (div_lt_sixteen b)
  · rw [List.mem_singleton.mp hc]
    exact digitChar_mem (Nat.mod_lt _ (by decide))

@[simp] theorem length_hex (bytes : List UInt8) : (hex bytes).length = 2 * bytes.length := by
  induction bytes with
  | nil => rfl
  | cons b bytes ih =>
    rw [hex, List.flatMap_cons, List.length_append, List.length_cons]
    show 2 + (hex bytes).length = _
    omega

/-- **The digits tell the bytes.** -/
theorem hex_inj (h : hex bytes = hex other) : bytes = other := by
  induction bytes generalizing other with
  | nil =>
    cases other with
    | nil => rfl
    | cons b rest => simp [hex, hexByte] at h
  | cons a bytes ih =>
    cases other with
    | nil => simp [hex, hexByte] at h
    | cons b rest =>
      have hcons : Nat.digitChar (a.toNat / 16) :: Nat.digitChar (a.toNat % 16) :: hex bytes =
          Nat.digitChar (b.toNat / 16) :: Nat.digitChar (b.toNat % 16) :: hex rest := h
      obtain ⟨hhigh, hrest⟩ := List.cons.inj hcons
      obtain ⟨hlow, hrest⟩ := List.cons.inj hrest
      have hdiv := (digitChar_inj (div_lt_sixteen a) (div_lt_sixteen b)).mp hhigh
      have hmod := (digitChar_inj (Nat.mod_lt _ (by decide)) (Nat.mod_lt _ (by decide))).mp hlow
      have hbyte : a = b := by
        apply UInt8.toNat_inj.mp
        omega
      rw [hbyte, ih hrest]

/-! ## Reading digits -/

/-- The value of a digit, in either case. -/
def digitValue (c : Char) : Option Nat :=
  if '0' ≤ c ∧ c ≤ '9' then some (c.toNat - 48)
  else if 'a' ≤ c ∧ c ≤ 'f' then some (c.toNat - 87)
  else if 'A' ≤ c ∧ c ≤ 'F' then some (c.toNat - 55)
  else none

/-- **The bytes of a text of digits**, two for each. -/
def unhex : List Char → Option (List UInt8)
  | [] => some []
  | [_] => none
  | high :: low :: rest =>
    match digitValue high, digitValue low, unhex rest with
    | some h, some l, some bytes => some (UInt8.ofNat (16 * h + l) :: bytes)
    | _, _, _ => none

theorem digitValue_digitChar : ∀ {d : Nat}, d < 16 → digitValue (Nat.digitChar d) = some d := by
  decide

/-- **Digits that were written are read back.** -/
theorem unhex_hex (bytes : List UInt8) : unhex (hex bytes) = some bytes := by
  induction bytes with
  | nil => rfl
  | cons b bytes ih =>
    have hwritten : hex (b :: bytes) =
        Nat.digitChar (b.toNat / 16) :: Nat.digitChar (b.toNat % 16) :: hex bytes := rfl
    have hbyte : UInt8.ofNat (16 * (b.toNat / 16) + b.toNat % 16) = b := by
      rw [Nat.div_add_mod]
      exact UInt8.ofNat_toNat
    rw [hwritten]
    simp only [unhex, digitValue_digitChar (div_lt_sixteen b),
      digitValue_digitChar (Nat.mod_lt b.toNat (by decide : 16 > 0)), ih, hbyte]

theorem hex_append (bytes other : List UInt8) : hex (bytes ++ other) = hex bytes ++ hex other :=
  List.flatMap_append

end Hex
