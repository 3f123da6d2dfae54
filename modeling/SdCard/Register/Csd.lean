import SdCard.Register.Field

/-!
# The card-specific data register

The CSD tells the size of a card. Its first two bits choose between two layouts: the first counts
blocks whose length is part of the register, the second counts units of 512 KiB.

Sizes are counted in sectors, so a size of the first layout is known only where a block group is
no smaller than a sector.
-/

namespace SdCard

/-- The contents of the register. -/
abbrev Csd := Bytes 16

namespace Csd

/-- A sector is `2 ^ sectorShift` bytes. -/
def sectorShift : Nat := 9

/-- The second layout counts units of `2 ^ unitSectorShift` sectors. -/
def unitSectorShift : Nat := 10

/-- The size of a card in sectors, where the register's layout is known and tells it. -/
def sectors? (csd : Csd) : Option UInt64 :=
  let bits := field csd.toList
  match (bits 127 126).toNat with
  | 0 =>
    let blocks := (bits 73 62).toUInt64 + 1
    let shift := (bits 49 47).toNat + 2 + (bits 83 80).toNat
    if sectorShift ≤ shift then some (blocks <<< UInt64.ofNat (shift - sectorShift)) else none
  | 1 =>
    let units := (bits 69 48).toUInt64 + 1
    some (units <<< UInt64.ofNat unitSectorShift)
  | _ => none

/-- The size of a card in bytes. -/
def capacityBytes? (csd : Csd) : Option UInt64 := do
  let sectors ← csd.sectors?
  let bytes := sectors.toNat * sectorSize
  if bytes < UInt64.size then some (.ofNat bytes) else none

/-- The size of a card in sectors, where it fits a 32-bit address. -/
def sectorCount? (csd : Csd) : Option UInt32 := do
  let sectors ← csd.sectors?
  if sectors.toNat < UInt32.size then some sectors.toUInt32 else none

end Csd

end SdCard
