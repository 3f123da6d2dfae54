import Mathlib.Data.Nat.Bitwise
import SdCard.Register.Field

/-!
# Fields of a register as numbers

A field is read by shifting the bytes that hold it into a word, shifting out what lies below the
field, and masking what lies above it. Seen from the number that the whole register spells, this is
a quotient and a remainder.

* `toNat_foldl_shiftIn`: bytes shifted into a word give their value, as far as it fits;
* `toNat_field`: the bits `high` down to `low` of a register of any length;
* `toNat_field_lt`: a field has no more bits than its name says.
-/

namespace SdCard

/-! ## Words -/

/-- A byte shifted into a word becomes its last digit to the base 256; the first digit may drop
out. -/
theorem toNat_shiftIn (word : UInt64) (byte : UInt8) :
    ((word <<< 8) ||| byte.toUInt64).toNat = (word.toNat * 256 + byte.toNat) % 2 ^ 64 := by
  have hbyte := byte.toNat_lt
  have hshift : (word <<< 8).toNat = word.toNat % 2 ^ 56 * 2 ^ 8 := by
    rw [UInt64.toNat_shiftLeft, Nat.shiftLeft_eq]
    have h8 : (8 : UInt64).toNat % 64 = 8 := by decide
    rw [h8]
    omega
  -- the byte lies below the bits that were shifted, so joining them is adding them
  rw [UInt64.toNat_or, hshift, UInt8.toNat_toUInt64, ← Nat.shiftLeft_eq,
    ← Nat.shiftLeft_add_eq_or_of_lt hbyte, Nat.shiftLeft_eq]
  omega

/-- Bytes shifted into a word give their value, as far as it fits. -/
theorem toNat_foldl_shiftIn (bytes : List UInt8) {word : UInt64} {value : Nat}
    (h : word.toNat = value % 2 ^ 64) :
    (bytes.foldl (fun (word : UInt64) byte => (word <<< 8) ||| byte.toUInt64) word).toNat =
      bytes.foldl (fun value byte => value * 256 + byte.toNat) value % 2 ^ 64 := by
  induction bytes generalizing word value with
  | nil => exact h
  | cons byte bytes ih =>
    rw [List.foldl_cons, List.foldl_cons]
    apply ih
    rw [toNat_shiftIn, h]
    omega

/-- A shift within a word is a product, where nothing drops out. -/
theorem toNat_shiftLeft {word : UInt64} {count : Nat} (hcount : count < 64)
    (h : word.toNat * 2 ^ count < 2 ^ 64) :
    (word <<< UInt64.ofNat count).toNat = word.toNat * 2 ^ count := by
  have hmod : (UInt64.ofNat count).toNat % 64 = count := by
    rw [UInt64.toNat_ofNat']
    omega
  rw [UInt64.toNat_shiftLeft, hmod, Nat.shiftLeft_eq, Nat.mod_eq_of_lt h]

/-- A shift to the right within a word is a quotient. -/
theorem toNat_shiftRight {word : UInt64} {count : Nat} (hcount : count < 64) :
    (word >>> UInt64.ofNat count).toNat = word.toNat / 2 ^ count := by
  have hmod : (UInt64.ofNat count).toNat % 64 = count := by
    rw [UInt64.toNat_ofNat']
    omega
  rw [UInt64.toNat_shiftRight, hmod, Nat.shiftRight_eq_div_pow]

theorem toNat_mask {width : Nat} (h : width < 64) :
    ((1 : UInt64) <<< UInt64.ofNat width - 1).toNat = 2 ^ width - 1 := by
  have hpow : 2 ^ width < 2 ^ 64 := Nat.pow_lt_pow_right (by decide) h
  have hshift : ((1 : UInt64) <<< UInt64.ofNat width).toNat = 2 ^ width := by
    have hone : (1 : UInt64).toNat * 2 ^ width = 2 ^ width := Nat.one_mul _
    rw [toNat_shiftLeft h (by rwa [hone]), hone]
  have hle : (1 : UInt64) ≤ (1 : UInt64) <<< UInt64.ofNat width := by
    rw [UInt64.le_iff_toNat_le, hshift]
    exact Nat.one_le_two_pow
  rw [UInt64.toNat_sub_of_le _ _ hle, hshift]
  rfl

/-! ## Byte strings -/

/-- Digits that come first are worth as much more as digits follow. -/
theorem foldl_digits (bytes : List UInt8) (value : Nat) :
    bytes.foldl (fun value byte => value * 256 + byte.toNat) value =
      value * 256 ^ bytes.length + bigEndian bytes := by
  induction bytes generalizing value with
  | nil => simp [bigEndian]
  | cons byte bytes ih =>
    have hbytes : bigEndian (byte :: bytes) =
        (0 * 256 + byte.toNat) * 256 ^ bytes.length + bigEndian bytes := ih _
    rw [List.foldl_cons, ih, hbytes, List.length_cons, Nat.pow_succ']
    simp only [Nat.add_mul, Nat.zero_mul, Nat.zero_add, Nat.mul_assoc, Nat.add_assoc]

theorem bigEndian_append (bytes rest : List UInt8) :
    bigEndian (bytes ++ rest) = bigEndian bytes * 256 ^ rest.length + bigEndian rest := by
  rw [bigEndian, List.foldl_append, foldl_digits]
  rfl

theorem bigEndian_lt (bytes : List UInt8) : bigEndian bytes < 256 ^ bytes.length := by
  induction bytes with
  | nil => simp [bigEndian]
  | cons byte bytes ih =>
    have hbyte := byte.toNat_lt
    have hfirst : bigEndian [byte] = byte.toNat := by simp [bigEndian]
    have hbytes := bigEndian_append [byte] bytes
    rw [List.singleton_append, hfirst] at hbytes
    rw [hbytes, List.length_cons, Nat.pow_succ']
    calc byte.toNat * 256 ^ bytes.length + bigEndian bytes
      _ < byte.toNat * 256 ^ bytes.length + 256 ^ bytes.length := by omega
      _ = (byte.toNat + 1) * 256 ^ bytes.length := (Nat.succ_mul ..).symm
      _ ≤ 256 * 256 ^ bytes.length := Nat.mul_le_mul_right _ (by omega)

/-- Bits of a number that lie within some of its bytes are bits of these bytes alone. -/
theorem bigEndian_window (before window behind : List UInt8) {shift width : Nat}
    (h : shift + width ≤ 8 * window.length) :
    bigEndian (before ++ (window ++ behind)) / 2 ^ (8 * behind.length + shift) % 2 ^ width =
      bigEndian window / 2 ^ shift % 2 ^ width := by
  have hbehind := bigEndian_lt behind
  have hbase : ∀ count, 256 ^ count = 2 ^ (8 * count) := fun count => by rw [Nat.pow_mul]
  -- the bytes behind the window are divided away
  have hquotient : bigEndian (before ++ (window ++ behind)) / 256 ^ behind.length =
      bigEndian before * 256 ^ window.length + bigEndian window := by
    rw [bigEndian_append, bigEndian_append, List.length_append, Nat.pow_add, ← Nat.mul_assoc,
      ← Nat.add_assoc, ← Nat.add_mul, Nat.mul_comm, Nat.mul_add_div (Nat.pow_pos (by decide)),
      Nat.div_eq_of_lt hbehind, Nat.add_zero]
  -- those before it are a multiple of what the remainder is taken of
  obtain ⟨rest, hrest⟩ := Nat.exists_eq_add_of_le h
  have hsplit : bigEndian before * 256 ^ window.length =
      2 ^ shift * (2 ^ width * (2 ^ rest * bigEndian before)) := by
    rw [hbase, hrest, Nat.pow_add, Nat.pow_add, Nat.mul_comm, Nat.mul_assoc, Nat.mul_assoc]
  rw [Nat.pow_add, ← hbase, ← Nat.div_div_eq_div_mul, hquotient, hsplit,
    Nat.mul_add_div (Nat.pow_pos (by decide)), Nat.mul_add_mod]

/-! ## Fields -/

/-- A field has no more bits than its name says. -/
theorem toNat_field_lt (register : List UInt8) {high low : Nat} (h : high - low < 32) :
    (field register high low).toNat < 2 ^ (high - low + 1) := by
  -- the mask is the last thing that is done to the word, but for its being cut to 32 bits
  unfold field
  dsimp only
  rw [UInt64.toNat_toUInt32, UInt64.toNat_and, toNat_mask (by omega),
    Nat.and_two_pow_sub_one_eq_mod]
  exact Nat.lt_of_le_of_lt (Nat.mod_le _ _) (Nat.mod_lt _ Nat.one_le_two_pow)

/-- The window is a part of the register, with a byte behind it for each eight bits below the
field. -/
theorem fieldWindow_split {register : List UInt8} {high low : Nat}
    (hhigh : high < 8 * register.length) (hlow : low ≤ high) :
    ∃ before behind, register = before ++ (fieldWindow register high low ++ behind) ∧
      (fieldWindow register high low).length = high / 8 - low / 8 + 1 ∧
      behind.length = low / 8 := by
  let first := (register.length * 8 - 1 - high) / 8
  let last := (register.length * 8 - 1 - low) / 8
  have hfirst : register.length - 1 - first = high / 8 := by omega
  have hlast : register.length - 1 - last = low / 8 := by omega
  have hle : first ≤ last := by omega
  have hlt : last < register.length := by omega
  refine ⟨register.take first, register.drop (last + 1), ?_, ?_, ?_⟩
  · have hdrop : register.drop (last + 1) = (register.drop first).drop (last + 1 - first) := by
      rw [List.drop_drop]
      congr 1
      omega
    rw [hdrop]
    unfold fieldWindow
    rw [List.take_append_drop, List.take_append_drop]
  · unfold fieldWindow
    rw [List.length_take, List.length_drop]
    omega
  · rw [List.length_drop]
    omega

/-- The bits of a field in the number that the register spells are found in the window. -/
theorem bigEndian_fieldWindow {register : List UInt8} {high low : Nat}
    (hhigh : high < 8 * register.length) (hlow : low ≤ high) :
    bigEndian (fieldWindow register high low) / 2 ^ (low % 8) % 2 ^ (high - low + 1) =
      bigEndian register / 2 ^ low % 2 ^ (high - low + 1) := by
  obtain ⟨before, behind, hregister, hwindow, hbehind⟩ := fieldWindow_split hhigh hlow
  have hnumber := bigEndian_window before (fieldWindow register high low) behind
    (show low % 8 + (high - low + 1) ≤ 8 * (fieldWindow register high low).length by omega)
  rw [← hregister, hbehind, Nat.div_add_mod] at hnumber
  exact hnumber.symm

/-- Five bytes hold 32 bits wherever they begin. -/
theorem length_fieldWindow_le {register : List UInt8} {high low : Nat}
    (hhigh : high < 8 * register.length) (hlow : low ≤ high) (hwidth : high - low < 32) :
    (fieldWindow register high low).length ≤ 5 := by
  obtain ⟨before, behind, -, hwindow, -⟩ := fieldWindow_split hhigh hlow
  omega

/-- The bits `high` down to `low` of a register are those of the number that it spells. -/
theorem toNat_field {register : List UInt8} {high low : Nat}
    (hhigh : high < 8 * register.length) (hlow : low ≤ high) (hwidth : high - low < 32) :
    (field register high low).toNat =
      bigEndian register / 2 ^ low % 2 ^ (high - low + 1) := by
  -- nothing drops out of the word that the window is shifted into
  have hfold : ((fieldWindow register high low).foldl
      (fun (word : UInt64) byte => (word <<< 8) ||| byte.toUInt64) 0).toNat =
        bigEndian (fieldWindow register high low) := by
    have hzero : (0 : UInt64).toNat = 0 % 2 ^ 64 := rfl
    have hlt := bigEndian_lt (fieldWindow register high low)
    have hfits : 256 ^ (fieldWindow register high low).length ≤ 256 ^ 5 :=
      Nat.pow_le_pow_right (by decide) (length_fieldWindow_le hhigh hlow hwidth)
    rw [toNat_foldl_shiftIn _ hzero]
    exact Nat.mod_eq_of_lt (by unfold bigEndian at hlt; omega)
  have hshift :
      low - (register.length - 1 - (register.length * 8 - 1 - low) / 8) * 8 = low % 8 := by
    omega
  have hlt : bigEndian register / 2 ^ low % 2 ^ (high - low + 1) < 2 ^ 32 :=
    Nat.lt_of_lt_of_le (Nat.mod_lt _ Nat.one_le_two_pow)
      (Nat.pow_le_pow_right (by decide) (by omega))
  unfold field
  dsimp only
  rw [UInt64.toNat_toUInt32, UInt64.toNat_and, toNat_mask (by omega),
    Nat.and_two_pow_sub_one_eq_mod, toNat_shiftRight (by omega), hfold, hshift,
    bigEndian_fieldWindow hhigh hlow]
  exact Nat.mod_eq_of_lt hlt

end SdCard
