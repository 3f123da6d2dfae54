import SdCard.Proofs.Register.Csd
import SdCard.Proofs.Session.Refinement

/-!
# The addresses of the sectors that a card reports

The size of a card comes from its CSD, and the mode in which it is addressed from the handshake. The
two are not compared anywhere: a card that is addressed by the byte may report more sectors than
32-bit byte addresses reach. Those from `2 ^ 23` on then have the largest word for their address,
all of them the same.

* `Csd.sectorCount_ne`: no register tells of exactly one sector more than can be reached;
* `sectorCount_addresses`: which of the reported sectors share an address;
* `sectorCount_shared`: a card that reports sectors of one address.
-/

namespace SdCard

variable {ε : Type}

namespace Csd

/-- A size is a multiple of 1024, or a number of at most twelve bits and zeros behind them. -/
theorem sectorCount_ne {csd : Csd} {count : UInt32} (h : csd.sectorCount? = some count) :
    count.toNat ≠ 2 ^ 23 + 1 := by
  obtain ⟨sectors, hsectors, hcount⟩ := toNat_sectorCount h
  have hblocks : csd.bits 73 62 < 2 ^ 12 := toNat_field_lt _ (by decide)
  rcases toNat_sectors hsectors with ⟨-, shift, -, hsize⟩ | ⟨-, hsize⟩
  · cases shift with
    | zero => omega
    | succ shift =>
      rw [Nat.pow_succ', ← Nat.mul_assoc, Nat.mul_comm _ 2, Nat.mul_assoc] at hsize
      omega
  · omega

/-- The first layout reaches no further than byte addresses do, with the block lengths of up to
2048 bytes that it is made for. -/
theorem sectorCount_le {csd : Csd} {count : UInt32} (h : csd.sectorCount? = some count)
    (hlayout : csd.bits 127 126 = 0) (hlength : csd.bits 83 80 ≤ 11) : count.toNat ≤ 2 ^ 23 := by
  obtain ⟨sectors, hsectors, hcount⟩ := toNat_sectorCount h
  have hblocks : csd.bits 73 62 < 2 ^ 12 := toNat_field_lt _ (by decide)
  have hmult : csd.bits 49 47 < 2 ^ 3 := toNat_field_lt _ (by decide)
  rcases toNat_sectors hsectors with ⟨-, shift, hshift, hsize⟩ | ⟨hother, -⟩
  · rw [hcount, hsize]
    calc (csd.bits 73 62 + 1) * 2 ^ shift
      _ ≤ 2 ^ 12 * 2 ^ 11 := Nat.mul_le_mul hblocks (Nat.pow_le_pow_right (by decide) (by omega))
      _ = 2 ^ 23 := by decide
  · omega

end Csd

section Addresses

variable {capacity : Capacity} {count a b lba : UInt32}

/-- The sector lies beyond what a 32-bit byte address reaches. -/
def Beyond (lba : UInt32) : Prop := 2 ^ 23 ≤ lba.toNat

/-- Two sectors have one address only where both are beyond the reach of byte addresses. -/
theorem blockAddress_eq_iff_beyond :
    blockAddress capacity a = blockAddress capacity b ↔
      a = b ∨ (capacity = .standard ∧ Beyond a ∧ Beyond b) := by
  have hreach : ∀ sector : UInt32, UInt32.size ≤ sector.toNat * sectorSize ↔ Beyond sector := by
    intro sector
    unfold UInt32.size sectorSize Beyond
    omega
  rw [blockAddress_eq_iff, hreach, hreach]

/-- A sector within reach has the address of its first byte. -/
theorem toNat_blockAddress_standard (h : ¬ Beyond lba) :
    (blockAddress .standard lba).toNat = lba.toNat * 512 := by
  have hsize : (UInt32.ofNat sectorSize).toNat = 512 := rfl
  unfold Beyond at h
  rw [blockAddress, toNat_saturatingMul, hsize]
  unfold UInt32.size
  omega

/-- All sectors below a count have different addresses, or there are two of them out of reach. -/
theorem blockAddress_injOn_iff (hcount : count.toNat ≠ 2 ^ 23 + 1) :
    (∀ a b, a < count → b < count → blockAddress capacity a = blockAddress capacity b → a = b) ↔
      capacity = .high ∨ count.toNat ≤ 2 ^ 23 := by
  constructor
  · intro hinj
    cases capacity with
    | high => exact .inl rfl
    | standard =>
      right
      by_contra hlarge
      -- the first two sectors out of reach are both counted
      have hfirst : (8388608 : UInt32) < count := by
        rw [UInt32.lt_iff_toNat_lt]
        change 8388608 < count.toNat
        omega
      have hsecond : (8388609 : UInt32) < count := by
        rw [UInt32.lt_iff_toNat_lt]
        change 8388609 < count.toNat
        omega
      have hsame := hinj _ _ hfirst hsecond (by decide)
      exact absurd hsame (by decide)
  · intro h a b ha hb haddress
    rcases blockAddress_eq_iff_beyond.mp haddress with rfl | ⟨rfl, hbeyond, -⟩
    · rfl
    · rw [UInt32.lt_iff_toNat_lt] at ha
      unfold Beyond at hbeyond
      rcases h with h | h
      · cases h
      · omega

end Addresses

namespace Session

/-- A size that is returned was in the register that has been read. -/
theorem traces_sectorCount {s s' : Session} {t : List (Event ε)} {count : UInt32}
    (h : Program.Traces ((sectorCount : Action ε Session UInt32).exec s) t (.ok count, s')) :
    ∃ csd, Program.Traces ((readCsd : Action ε Session Csd).exec s) t (.ok csd, s') ∧
      csd.sectorCount? = some count := by
  unfold sectorCount at h
  rw [Action.exec_bind, Program.traces_bind_iff] at h
  obtain ⟨t₁, t₂, ⟨first, between⟩, rfl, hcsd, hrest⟩ := h
  cases first with
  | error error => cases hrest
  | ok csd =>
    dsimp only at hrest
    cases hsize : csd.sectorCount? with
    | none =>
      -- the failure is noted with one record, and there is no size
      rw [hsize] at hrest
      cases hrest with
      | log hrest => cases hrest
    | some size =>
      rw [hsize] at hrest
      cases hrest
      rw [List.append_nil]
      exact ⟨csd, hcsd, hsize⟩

/-- Of the sectors that a card reports, those within the reach of byte addresses have an address of
their own, and so have all of a card that is addressed by the sector. -/
theorem sectorCount_addresses {s s' : Session} {t : List (Event ε)} {count : UInt32}
    (h : Program.Traces ((sectorCount : Action ε Session UInt32).exec s) t (.ok count, s')) :
    ∃ mode csd, s.state = .ready mode ∧ s'.state = .ready mode ∧
      Program.Traces ((readCsd : Action ε Session Csd).exec s) t (.ok csd, s') ∧
      csd.sectorCount? = some count ∧
      (∀ a b, a < count → b < count →
        (blockAddress mode.capacity a = blockAddress mode.capacity b ↔
          a = b ∨ (mode.capacity = .standard ∧ Beyond a ∧ Beyond b))) ∧
      (mode.capacity = .standard → ∀ lba, lba < count → ¬ Beyond lba →
        (blockAddress mode.capacity lba).toNat = lba.toNat * 512) ∧
      ((∀ a b, a < count → b < count →
        blockAddress mode.capacity a = blockAddress mode.capacity b → a = b) ↔
          mode.capacity = .high ∨ count.toNat ≤ 2 ^ 23) ∧
      (csd.bits 127 126 = 0 → csd.bits 83 80 ≤ 11 → count.toNat ≤ 2 ^ 23) := by
  obtain ⟨csd, hcsd, hsize⟩ := traces_sectorCount h
  cases outcome_sectorCount s t _ s' h with
  | @carriedOut mode _ _ _ hmode hrecorded =>
    obtain ⟨kept, hkept, hleft⟩ := hrecorded.left
    have hstate : s'.state = s.state := (congrArg Session.state hleft).trans hkept.state
    refine ⟨mode, csd, hmode, hstate.trans hmode, hcsd, hsize,
      fun _ _ _ _ => blockAddress_eq_iff_beyond, ?_,
      blockAddress_injOn_iff (Csd.sectorCount_ne hsize), Csd.sectorCount_le hsize⟩
    intro hcapacity lba _ hwithin
    rw [hcapacity]
    exact toNat_blockAddress_standard hwithin

/-- A card of standard capacity that tells its size by the second layout: 8193 units of 512 KiB. -/
def largeStandardCard : CardModel :=
  { CardModel.ofKind (.v2 false) with
    csd := #v[0x40, 0, 0, 0, 0, 0, 0, 0, 0x20, 0, 0, 0, 0, 0, 0, 0] }

/-- The last sector within reach of such a card, once it has been brought up and asked for its
size. -/
theorem sectorCount_addresses_card :
    let started := (start.exec (fresh 0 { powerUpBytes := 1 })).run (CardModel.bus ())
      largeStandardCard
    let counted := (sectorCount.exec started.value.2).run (CardModel.bus ()) started.bus
    counted.value.1.toOption = some 8389632 ∧
      ∃ mode, started.value.2.state = .ready mode ∧ (mode.capacity = .standard →
        (blockAddress mode.capacity 8388607).toNat = 8388607 * 512) := by
  have haddress : ∀ (card : CardModel) (count : UInt32),
      let started := (start.exec (fresh 0 { powerUpBytes := 1 })).run (CardModel.bus ()) card
      let counted := (sectorCount.exec started.value.2).run (CardModel.bus ()) started.bus
      counted.value.1.toOption = some count → 8388607 < count →
      counted.value.1.toOption = some count ∧
        ∃ mode, started.value.2.state = .ready mode ∧ (mode.capacity = .standard →
          (blockAddress mode.capacity 8388607).toNat = 8388607 * 512) := by
    intro card count started counted hcounted hlt
    have htraces : Program.Traces (sectorCount.exec started.value.2) counted.events.toList
        (counted.value.1, counted.value.2) := Program.run_traces (CardModel.bus ()) _ started.bus
    refine ⟨hcounted, ?_⟩
    cases hresult : counted.value.1 with
    | error error =>
      rw [hresult] at hcounted
      cases hcounted
    | ok answer =>
      rw [hresult] at hcounted htraces
      cases hcounted
      obtain ⟨mode, -, hready, -, -, -, -, hexact, -⟩ := sectorCount_addresses htraces
      have hvalue : (8388607 : UInt32).toNat = 8388607 := by simp
      refine ⟨mode, hready, fun hcapacity => ?_⟩
      rw [hexact hcapacity 8388607 hlt (by simp [Beyond]), hvalue]
  exact haddress largeStandardCard 8389632 (by decide +kernel) (by decide)

/-- Sectors 8388608 and 8388609 are both reported by the card, and both have the largest word for
their address. -/
theorem sectorCount_shared :
    let started := (start.exec (fresh 0 { powerUpBytes := 1 })).run (CardModel.bus ())
      largeStandardCard
    let counted := (sectorCount.exec started.value.2).run (CardModel.bus ()) started.bus
    started.value.2.state = .ready .standardCapacityV2 ∧
      counted.value.1.toOption = some 8389632 ∧
      (8388608 : UInt32) < 8389632 ∧ (8388609 : UInt32) < 8389632 ∧
      (8388608 : UInt32) ≠ 8388609 ∧
      blockAddress .standard 8388608 = blockAddress .standard 8388609 := by
  decide +kernel

end Session

end SdCard
