import SdCard.Register.Field

/-!
# The operating conditions register

The OCR tells the supply voltages that a card accepts and, once it has powered up, whether it is
addressed by the sector.
-/

namespace SdCard

/-- A bit of the OCR that a session looks at. -/
inductive OcrFlag
  | poweredUp
  | highCapacity
  | voltage33To34
  | voltage32To33
deriving DecidableEq

namespace OcrFlag

/-- The word in which only this bit is set. -/
def mask : OcrFlag → UInt32
  | poweredUp => 0x80000000
  | highCapacity => 0x40000000
  | voltage33To34 => 0x00200000
  | voltage32To33 => 0x00100000

/-- All flags, highest first. -/
def all : List OcrFlag := [poweredUp, highCapacity, voltage33To34, voltage32To33]

theorem mem_all (flag : OcrFlag) : flag ∈ all := by
  cases flag <;> simp [all]

end OcrFlag

/-- The contents of the register. -/
structure Ocr where
  bits : UInt32
deriving DecidableEq

namespace Ocr

/-- The register as it follows R1 in a response. -/
def ofResponse (response : Bytes 5) : Ocr := ⟨field response.toList.tail 31 0⟩

/-- The bit is set. -/
def has (ocr : Ocr) (flag : OcrFlag) : Bool := ocr.bits &&& flag.mask ≠ 0

/-- The card accepts one of the two ranges around 3.3 volts. -/
def supports33 (ocr : Ocr) : Bool := ocr.has .voltage32To33 || ocr.has .voltage33To34

/-- The flags set in a register, highest first. -/
def flags (ocr : Ocr) : List OcrFlag := OcrFlag.all.filter ocr.has

/-- A flag is listed if and only if its bit is set. -/
theorem mem_flags {ocr : Ocr} {flag : OcrFlag} : flag ∈ ocr.flags ↔ ocr.has flag = true := by
  simp [flags, OcrFlag.mem_all]

end Ocr

end SdCard
