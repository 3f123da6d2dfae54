import SdCard.Bytes

/-!
# The store of a card

The contents of a card: a sector for each address, zero where nothing was written.
-/

namespace SdCard

/-- Sectors by their wire address. -/
structure SectorStore where
  entries : List (UInt32 × Sector) := []
deriving DecidableEq, Inhabited

namespace SectorStore

/-- The sector at an address. -/
def get (store : SectorStore) (address : UInt32) : Sector :=
  (store.entries.lookup address).getD (Bytes.zero sectorSize)

/-- Replaces the sector at an address. -/
def insert (store : SectorStore) (address : UInt32) (sector : Sector) : SectorStore :=
  ⟨(address, sector) :: store.entries⟩

/-- An insertion is seen at its own address and nowhere else. -/
theorem get_insert (store : SectorStore) (address other : UInt32) (sector : Sector) :
    (store.insert address sector).get other =
      if other = address then sector else store.get other := by
  by_cases h : other = address
  · simp [get, insert, h]
  · simp [get, insert, List.lookup_cons, h, beq_false_of_ne h]

end SectorStore

end SdCard
