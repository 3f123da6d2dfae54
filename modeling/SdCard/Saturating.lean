/-!
# Saturating arithmetic

Budgets and byte addresses are 32-bit words. A product that does not fit is replaced by the
largest word, so that it is never smaller than either of two non-zero factors.
-/

namespace SdCard

/-- `a * b`, or the largest 32-bit word where that does not fit. -/
def saturatingMul (a b : UInt32) : UInt32 := .ofNat (min (a.toNat * b.toNat) (UInt32.size - 1))

/-- The product is exact up to the largest word and stops there. -/
theorem toNat_saturatingMul (a b : UInt32) :
    (saturatingMul a b).toNat = min (a.toNat * b.toNat) (UInt32.size - 1) := by
  simp only [saturatingMul, UInt32.toNat_ofNat', UInt32.size]
  omega

end SdCard
