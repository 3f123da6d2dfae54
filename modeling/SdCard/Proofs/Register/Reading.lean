import SdCard.Proofs.Register.Capacity

/-!
# Reading a field of any register

A field is read by way of the bytes that hold it. These are found by counting bits from the front
of the register, and the field within them by counting bits from its end. For every register whose
bits a word of 32 bits can count, and every field of it that such a word can hold, both counts stay
within the register, and what is read is the field: `field_of_number`.
-/

namespace SdCard

/-- The bytes `first` to `last` of a register, refused where the register does not have them. -/
def slice? (register : List UInt8) (first last : Nat) : Option (List UInt8) :=
  if first ≤ last ∧ last < register.length then
    some ((register.drop first).take (last + 1 - first))
  else none

/-- The bytes that hold a field of the register are bytes of the register. -/
theorem slice?_fieldWindow {register : List UInt8} {high low : Nat} (hhigh : high < 8 * register.length)
    (hlow : low ≤ high) :
    slice? register ((register.length * 8 - 1 - high) / 8) ((register.length * 8 - 1 - low) / 8) =
      some (fieldWindow register high low) := by
  have hle : (register.length * 8 - 1 - high) / 8 ≤ (register.length * 8 - 1 - low) / 8 :=
    Nat.div_le_div_right (Nat.sub_le_sub_left hlow _)
  have hlt : (register.length * 8 - 1 - low) / 8 < register.length := by omega
  exact if_pos ⟨hle, hlt⟩

/-- A field of a register is a range of the bits of the number that the register spells, and while
it is read no slice is out of range and no number fails to fit its word. -/
theorem field_of_number {register : List UInt8} {high low : Nat}
    (hlength : 8 * register.length < 2 ^ 32) (hhigh : high < 8 * register.length)
    (hlow : low ≤ high) (hwidth : high - low < 32) :
    (field register high low).toNat = bigEndian register / 2 ^ low % 2 ^ (high - low + 1) ∧
    slice? register ((register.length * 8 - 1 - high) / 8) ((register.length * 8 - 1 - low) / 8) =
      some (fieldWindow register high low) ∧
    exactField? register high low = some (field register high low).toNat := by
  refine ⟨toNat_field hhigh hlow hwidth, slice?_fieldWindow hhigh hlow, ?_⟩
  exact exactField?_eq (by omega) hhigh hlow hwidth

/-- A field of 32 bits that begins and ends within a byte is read from five of them. -/
theorem field_of_number_straddling :
    let register : List UInt8 := [0xFF, 0x12, 0x34, 0x56, 0x78, 0x9A, 0xFF]
    (field register 43 12).toNat = 0x23456789 ∧
    slice? register 1 5 = some [0x12, 0x34, 0x56, 0x78, 0x9A] ∧
    exactField? register 43 12 = some 0x23456789 := by
  intro register
  have hhigh : 43 < 8 * register.length := by decide
  obtain ⟨hvalue, hslice, hexact⟩ := field_of_number (by decide) hhigh (show 12 ≤ 43 by decide)
    (by decide)
  have hnumber : bigEndian register / 2 ^ 12 % 2 ^ (43 - 12 + 1) = 0x23456789 := by decide
  have hfirst : (register.length * 8 - 1 - 43) / 8 = 1 := by decide
  have hlast : (register.length * 8 - 1 - 12) / 8 = 5 := by decide
  have hwindow : fieldWindow register 43 12 = [0x12, 0x34, 0x56, 0x78, 0x9A] := by decide
  rw [hnumber] at hvalue
  rw [hfirst, hlast, hwindow] at hslice
  rw [hvalue] at hexact
  exact ⟨hvalue, hslice, hexact⟩

end SdCard
