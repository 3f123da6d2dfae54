import SdCard.Bytes
import SdCard.Card.State
import SdCard.Saturating

/-!
# Sector addresses

A high-capacity card is addressed by the sector, any other by the byte.
-/

namespace SdCard

/-- The argument that names sector `lba` to a card. Where a byte address does not fit, it is the
largest one. -/
def blockAddress (capacity : Capacity) (lba : UInt32) : UInt32 :=
  match capacity with
  | .high => lba
  | .standard => saturatingMul lba (.ofNat sectorSize)

end SdCard
