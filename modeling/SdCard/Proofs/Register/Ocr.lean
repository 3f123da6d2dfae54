import SdCard.Proofs.Register.Field
import SdCard.Register.Ocr

/-!
# The OCR as a number

The register is looked at through masks. Here this is said in numbers: the word has the value of the
four bytes, and a flag is a bit of that value.
-/

namespace SdCard

/-- All 32 bits of a register of four bytes are its value. -/
theorem toNat_field_all {register : List UInt8} (h : register.length = 4) :
    (field register 31 0).toNat = bigEndian register := by
  have hvalue : bigEndian register < 256 ^ 4 := h ▸ bigEndian_lt register
  rw [toNat_field (by omega) (by decide) (by decide), Nat.pow_zero, Nat.div_one]
  exact Nat.mod_eq_of_lt hvalue

namespace OcrFlag

/-- The number of the bit, from the low end. -/
def bit : OcrFlag → Nat
  | poweredUp => 31
  | highCapacity => 30
  | voltage33To34 => 21
  | voltage32To33 => 20

theorem toNat_mask (flag : OcrFlag) : flag.mask.toNat = 2 ^ flag.bit := by
  cases flag <;> rfl

end OcrFlag

namespace Ocr

/-- A flag is a bit of the value. -/
theorem has_eq_testBit (ocr : Ocr) (flag : OcrFlag) :
    ocr.has flag = ocr.bits.toNat.testBit flag.bit := by
  have hand : (ocr.bits &&& flag.mask).toNat =
      2 ^ flag.bit * (ocr.bits.toNat.testBit flag.bit).toNat := by
    rw [UInt32.toNat_and, OcrFlag.toNat_mask, Nat.and_comm, Nat.two_pow_and]
  unfold has
  rw [Bool.eq_iff_iff, decide_eq_true_iff, ne_eq, ← UInt32.toNat_inj, hand]
  cases ocr.bits.toNat.testBit flag.bit
  · simp
  · simp

/-- The bits of a register that came with a response. -/
theorem has_ofResponse (response : Bytes 5) (flag : OcrFlag) :
    (ofResponse response).has flag = (bigEndian response.toList.tail).testBit flag.bit := by
  rw [has_eq_testBit, ofResponse, toNat_field_all (by simp)]

end Ocr

end SdCard
