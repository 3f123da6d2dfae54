import SdCard.Proofs.Register.Field
import SdCard.Register.Csd

/-!
# The size in the CSD as a number

The size of a card is a product of fields of its register. This is said here without words and
shifts.

* `Csd.toNat_sectors`: the size, for each of the two layouts;
* `Csd.toNat_sectorCount`: what is told of it.
-/

namespace SdCard

namespace Csd

/-- The number that the bits `high` down to `low` of the register spell. -/
def bits (csd : Csd) (high low : Nat) : Nat := (field csd.toList high low).toNat

/-- The size of a card: blocks of a length that the register tells, or units of 512 KiB. -/
theorem toNat_sectors {csd : Csd} {sectors : UInt64} (h : csd.sectors? = some sectors) :
    (csd.bits 127 126 = 0 ∧ ∃ shift, shift + 7 = csd.bits 49 47 + csd.bits 83 80 ∧
      sectors.toNat = (csd.bits 73 62 + 1) * 2 ^ shift) ∨
    (csd.bits 127 126 = 1 ∧ sectors.toNat = (csd.bits 69 48 + 1) * 2 ^ 10) := by
  have hblocks : csd.bits 73 62 < 2 ^ 12 := toNat_field_lt _ (by decide)
  have hmult : csd.bits 49 47 < 2 ^ 3 := toNat_field_lt _ (by decide)
  have hlength : csd.bits 83 80 < 2 ^ 4 := toNat_field_lt _ (by decide)
  have hunits : csd.bits 69 48 < 2 ^ 22 := toNat_field_lt _ (by decide)
  have hsucc : ∀ high low, csd.bits high low < 2 ^ 22 →
      ((field csd.toList high low).toUInt64 + 1).toNat = csd.bits high low + 1 := by
    intro high low hlt
    rw [UInt64.toNat_add, UInt32.toNat_toUInt64]
    change (csd.bits high low + 1) % 2 ^ 64 = _
    omega
  unfold sectors? at h
  dsimp only at h
  split at h
  · rename_i hlayout
    left
    split at h
    · rename_i hle
      cases h
      change 9 ≤ csd.bits 49 47 + 2 + csd.bits 83 80 at hle
      obtain ⟨shift, hshift⟩ : ∃ shift, shift + 9 = csd.bits 49 47 + 2 + csd.bits 83 80 :=
        ⟨csd.bits 49 47 + 2 + csd.bits 83 80 - 9, by omega⟩
      have hexponent : (field csd.toList 49 47).toNat + 2 + (field csd.toList 83 80).toNat -
          sectorShift = shift := by
        change csd.bits 49 47 + 2 + csd.bits 83 80 - 9 = shift
        omega
      have hfits : (csd.bits 73 62 + 1) * 2 ^ shift < 2 ^ 64 := by
        calc (csd.bits 73 62 + 1) * 2 ^ shift
          _ ≤ 2 ^ 12 * 2 ^ 15 := Nat.mul_le_mul hblocks (Nat.pow_le_pow_right (by decide) (by omega))
          _ < 2 ^ 64 := by decide
      have hcount := hsucc 73 62 (by omega)
      refine ⟨hlayout, shift, by omega, ?_⟩
      rw [hexponent, ← hcount]
      exact toNat_shiftLeft (by omega) (by rwa [hcount])
    · cases h
  · rename_i hlayout
    right
    cases h
    have hcount := hsucc 69 48 hunits
    refine ⟨hlayout, ?_⟩
    rw [← hcount]
    apply toNat_shiftLeft (by decide)
    rw [hcount]
    change (csd.bits 69 48 + 1) * 2 ^ 10 < 2 ^ 64
    omega
  · cases h

/-- A size that is told is a 32-bit number. -/
theorem toNat_sectorCount {csd : Csd} {count : UInt32} (h : csd.sectorCount? = some count) :
    ∃ sectors, csd.sectors? = some sectors ∧ count.toNat = sectors.toNat := by
  unfold sectorCount? at h
  rw [Option.bind_eq_bind, Option.bind_eq_some_iff] at h
  obtain ⟨sectors, hsectors, h⟩ := h
  split at h
  · rename_i hfits
    cases h
    refine ⟨sectors, hsectors, ?_⟩
    rw [UInt64.toNat_toUInt32]
    exact Nat.mod_eq_of_lt hfits
  · cases h

end Csd

end SdCard
