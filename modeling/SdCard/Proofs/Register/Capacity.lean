import SdCard.Proofs.Register.Csd

/-!
# The size of a card as a function of one number

The CSD is a number of 128 bits, and its fields are ranges of these bits. `bytesOf` tells the size
of a card from that number, as the tables of the specification do. The register is decoded in words,
so the decoding is also done once more on numbers, where a sum, a difference, a product or a shift
is refused if it does not fit the word it belongs in: `exactField?`, `exactSectors?` and
`exactBytes?` give `none` at the first of these.

* `exactField?_eq`: nothing is refused while a field is read;
* `bytesOf_eq`: the size that the number tells is what is decoded;
* `exactSectors?_eq`, `exactBytes?_eq`: nothing is refused while the size is decoded;
* `capacity_of_number`: both sizes that are told of a register.
-/

namespace SdCard

/-- The bits `high` down to `low` of a number. -/
def bitRange (number high low : Nat) : Nat := number / 2 ^ low % 2 ^ (high - low + 1)

/-! ## Arithmetic that is refused where it does not fit -/

/-- A number that a word of `width` bits holds. -/
def held (width value : Nat) : Option Nat := if value < 2 ^ width then some value else none

/-- What is left of a number when another is taken away. -/
def less (value taken : Nat) : Option Nat := if taken ≤ value then some (value - taken) else none

/-- A number shifted to the left in a word of `width` bits, with none of its bits lost. -/
def shiftedLeft (width value count : Nat) : Option Nat :=
  if count < width then held width (value * 2 ^ count) else none

/-- A number shifted to the right in a word of `width` bits. -/
def shiftedRight (width value count : Nat) : Option Nat :=
  if count < width then some (value / 2 ^ count) else none

/-- Bytes shifted one by one into a word of 64 bits. -/
def exactWord? (bytes : List UInt8) (word : Nat) : Option Nat :=
  bytes.foldlM (fun word byte => return (← shiftedLeft 64 word 8) ||| byte.toNat) word

/-- The bits `high` down to `low` of a register. -/
def exactField? (register : List UInt8) (high low : Nat) : Option Nat := do
  let top ← less (← held 32 (register.length * 8)) 1
  let first := (← less top high) / 8
  let last := (← less top low) / 8
  let window ← exactWord? ((register.drop first).take (last + 1 - first)) 0
  let behind ← held 32 ((← less (← less register.length 1) last) * 8)
  let width ← held 32 ((← less high low) + 1)
  let mask ← less (← shiftedLeft 64 1 width) 1
  held 32 ((← shiftedRight 64 window (← less low behind)) &&& mask)

theorem held_eq {width value : Nat} (h : value < 2 ^ width) : held width value = some value :=
  if_pos h

theorem less_eq {value taken : Nat} (h : taken ≤ value) :
    less value taken = some (value - taken) := if_pos h

theorem shiftedLeft_eq {width value count : Nat} (hcount : count < width)
    (h : value * 2 ^ count < 2 ^ width) :
    shiftedLeft width value count = some (value * 2 ^ count) := by
  rw [shiftedLeft, if_pos hcount, held_eq h]

theorem shiftedRight_eq {width value count : Nat} (h : count < width) :
    shiftedRight width value count = some (value / 2 ^ count) := if_pos h

/-- Bytes are shifted into a word that has room for them. -/
theorem exactWord?_eq (bytes : List UInt8) {word : Nat}
    (h : (word + 1) * 256 ^ bytes.length ≤ 2 ^ 64) :
    exactWord? bytes word =
      some (bytes.foldl (fun value byte => value * 256 + byte.toNat) word) := by
  induction bytes generalizing word with
  | nil => rfl
  | cons byte bytes ih =>
    have hbyte := byte.toNat_lt
    rw [List.length_cons, Nat.pow_succ', ← Nat.mul_assoc] at h
    have hroom : (word + 1) * 256 ≤ 2 ^ 64 :=
      Nat.le_trans (Nat.le_mul_of_pos_right _ (Nat.pow_pos (by decide))) h
    have hjoin : word * 2 ^ 8 ||| byte.toNat = word * 256 + byte.toNat := by
      rw [← Nat.shiftLeft_eq, ← Nat.shiftLeft_add_eq_or_of_lt hbyte, Nat.shiftLeft_eq]
    rw [exactWord?, List.foldlM_cons, shiftedLeft_eq (by decide) (by omega), List.foldl_cons]
    change exactWord? bytes (word * 2 ^ 8 ||| byte.toNat) = _
    rw [hjoin]
    exact ih (Nat.le_trans (Nat.mul_le_mul_right _ (by omega)) h)

/-- Nothing is refused while a field is read. -/
theorem exactField?_eq {register : List UInt8} {high low : Nat}
    (hlength : register.length * 8 < 2 ^ 32) (hhigh : high < 8 * register.length)
    (hlow : low ≤ high) (hwidth : high - low < 32) :
    exactField? register high low = some (field register high low).toNat := by
  have htop : less (register.length * 8) 1 = some (register.length * 8 - 1) := less_eq (by omega)
  have hfirst : less (register.length * 8 - 1) high = some (register.length * 8 - 1 - high) :=
    less_eq (by omega)
  have hlast : less (register.length * 8 - 1) low = some (register.length * 8 - 1 - low) :=
    less_eq (by omega)
  have hwindow : exactWord? ((register.drop ((register.length * 8 - 1 - high) / 8)).take
      ((register.length * 8 - 1 - low) / 8 + 1 - (register.length * 8 - 1 - high) / 8)) 0 =
        some (bigEndian (fieldWindow register high low)) := by
    have hroom : 256 ^ (fieldWindow register high low).length ≤ 256 ^ 5 :=
      Nat.pow_le_pow_right (by decide) (length_fieldWindow_le hhigh hlow hwidth)
    exact exactWord?_eq (fieldWindow register high low) (by omega)
  have hbytes : less register.length 1 = some (register.length - 1) := less_eq (by omega)
  have hbehind : less (register.length - 1) ((register.length * 8 - 1 - low) / 8) =
      some (low / 8) := by
    rw [less_eq (by omega)]
    congr 1
    omega
  have hshift : less low (low / 8 * 8) = some (low % 8) := by
    rw [less_eq (by omega)]
    congr 1
    omega
  have hmask : shiftedLeft 64 1 (high - low + 1) = some (2 ^ (high - low + 1)) := by
    have hpow : 2 ^ (high - low + 1) ≤ 2 ^ 32 := Nat.pow_le_pow_right (by decide) (by omega)
    rw [shiftedLeft_eq (by omega) (by omega), Nat.one_mul]
  have hfield : bigEndian (fieldWindow register high low) / 2 ^ (low % 8) &&&
      (2 ^ (high - low + 1) - 1) = (field register high low).toNat := by
    rw [Nat.and_two_pow_sub_one_eq_mod, bigEndian_fieldWindow hhigh hlow,
      toNat_field hhigh hlow hwidth]
  simp only [exactField?, Option.bind_eq_bind, Option.bind_some, held_eq hlength, htop, hfirst,
    hlast, hwindow, hbytes, hbehind, held_eq (show low / 8 * 8 < 2 ^ 32 by omega), less_eq hlow,
    held_eq (show high - low + 1 < 2 ^ 32 by omega), hmask, less_eq Nat.one_le_two_pow, hshift,
    shiftedRight_eq (show low % 8 < 64 by omega), hfield]
  exact held_eq (field register high low).toNat_lt

namespace Csd

/-! ## The tables -/

/-- Which of the layouts the register has. -/
def layoutOf (number : Nat) : Nat := bitRange number 127 126

/-- The size in blocks of the first layout, less one, before it is scaled. -/
def blocksOf (number : Nat) : Nat := bitRange number 73 62

/-- The binary logarithm of what a block of the first layout is scaled to in bytes. -/
def exponentOf (number : Nat) : Nat := bitRange number 49 47 + 2 + bitRange number 83 80

/-- The size in units of the second layout, less one. -/
def unitsOf (number : Nat) : Nat := bitRange number 69 48

/-- The size of a card in bytes, where it is a number of sectors. -/
def bytesOf (number : Nat) : Option Nat :=
  if layoutOf number = 0 ∧ 9 ≤ exponentOf number then
    some ((blocksOf number + 1) * 2 ^ exponentOf number)
  else if layoutOf number = 1 then
    some ((unitsOf number + 1) * 2 ^ 19)
  else
    none

/-! ## The decoding with every step refused that does not fit -/

/-- The size in sectors. -/
def exactSectors? (csd : Csd) : Option (Option Nat) := do
  let bits := exactField? csd.toList
  match ← bits 127 126 with
  | 0 =>
    let blocks ← held 64 ((← bits 73 62) + 1)
    let scale ← held 32 ((← bits 49 47) + 2)
    let exponent ← held 32 (scale + (← bits 83 80))
    if 9 ≤ exponent then
      return some (← shiftedLeft 64 blocks (exponent - 9))
    else
      return none
  | 1 =>
    let units ← held 64 ((← bits 69 48) + 1)
    return some (← shiftedLeft 64 units 10)
  | _ => return none

/-- The size in bytes. -/
def exactBytes? (csd : Csd) : Option (Option Nat) := do
  match ← csd.exactSectors? with
  | some sectors => return some (← held 64 (sectors * 512))
  | none => return none

section Decoding

variable (csd : Csd)

/-- The fields are ranges of the bits of the number that the register spells. -/
theorem bits_eq {high low : Nat} (hhigh : high < 128) (hlow : low ≤ high) (h : high - low < 32) :
    csd.bits high low = bitRange (bigEndian csd.toList) high low := by
  have hlength : csd.toList.length = 16 := Vector.length_toList
  exact toNat_field (by omega) hlow h

theorem layout_eq : csd.bits 127 126 = layoutOf (bigEndian csd.toList) :=
  bits_eq csd (by decide) (by decide) (by decide)

theorem blocks_eq : csd.bits 73 62 = blocksOf (bigEndian csd.toList) :=
  bits_eq csd (by decide) (by decide) (by decide)

theorem exponent_eq : csd.bits 49 47 + 2 + csd.bits 83 80 = exponentOf (bigEndian csd.toList) := by
  rw [bits_eq csd (by decide) (by decide) (by decide),
    bits_eq csd (by decide) (by decide) (by decide)]
  rfl

theorem units_eq : csd.bits 69 48 = unitsOf (bigEndian csd.toList) :=
  bits_eq csd (by decide) (by decide) (by decide)

/-- A size is told by the first layout for block groups of a sector at least, and by the second one
always. -/
theorem isSome_sectors : csd.sectors?.isSome = true ↔
    csd.bits 127 126 = 0 ∧ 9 ≤ csd.bits 49 47 + 2 + csd.bits 83 80 ∨ csd.bits 127 126 = 1 := by
  unfold sectors?
  dsimp only
  split
  · rename_i hlayout
    change csd.bits 127 126 = 0 at hlayout
    change (if 9 ≤ csd.bits 49 47 + 2 + csd.bits 83 80 then _ else none).isSome = true ↔ _
    split
    · exact iff_of_true rfl (.inl ⟨hlayout, ‹_›⟩)
    · exact iff_of_false Bool.false_ne_true (by omega)
  · rename_i hlayout
    exact iff_of_true rfl (.inr hlayout)
  · rename_i hfirst hsecond
    change csd.bits 127 126 ≠ 0 at hfirst
    change csd.bits 127 126 ≠ 1 at hsecond
    exact iff_of_false Bool.false_ne_true (by omega)

/-- The size that the number tells is what is decoded. -/
theorem bytesOf_eq : bytesOf (bigEndian csd.toList) =
    csd.sectors?.map fun sectors => sectors.toNat * 512 := by
  have hsome := isSome_sectors csd
  rw [exponent_eq, layout_eq] at hsome
  unfold bytesOf
  cases hsectors : csd.sectors? with
  | none =>
    have hnone : ¬ (layoutOf (bigEndian csd.toList) = 0 ∧
        9 ≤ exponentOf (bigEndian csd.toList) ∨ layoutOf (bigEndian csd.toList) = 1) := by
      rw [← hsome, hsectors]
      exact Bool.false_ne_true
    rw [if_neg fun h => hnone (.inl h), if_neg fun h => hnone (.inr h)]
    rfl
  | some sectors =>
    rcases toNat_sectors hsectors with ⟨hlayout, shift, hshift, hsize⟩ | ⟨hlayout, hsize⟩
    · have hexponent : exponentOf (bigEndian csd.toList) = shift + 9 := by
        rw [← exponent_eq]
        omega
      rw [layout_eq] at hlayout
      rw [if_pos ⟨hlayout, by omega⟩, Option.map_some, hsize, blocks_eq, hexponent, Nat.pow_add,
        ← Nat.mul_assoc]
    · rw [layout_eq] at hlayout
      rw [if_neg (by omega), if_pos hlayout, Option.map_some, hsize, units_eq, Nat.mul_assoc]
      rfl

variable {csd}

/-- A size in sectors fits a word of 32 bits, but for the largest one of the second layout. -/
theorem toNat_sectors_lt_iff {sectors : UInt64} (h : csd.sectors? = some sectors) :
    sectors.toNat < 2 ^ 32 ↔ ¬ (layoutOf (bigEndian csd.toList) = 1 ∧
      unitsOf (bigEndian csd.toList) = 2 ^ 22 - 1) := by
  have hblocks : csd.bits 73 62 < 2 ^ 12 := toNat_field_lt _ (by decide)
  have hmult : csd.bits 49 47 < 2 ^ 3 := toNat_field_lt _ (by decide)
  have hlength : csd.bits 83 80 < 2 ^ 4 := toNat_field_lt _ (by decide)
  have hunits : csd.bits 69 48 < 2 ^ 22 := toNat_field_lt _ (by decide)
  rw [← layout_eq, ← units_eq]
  rcases toNat_sectors h with ⟨hlayout, shift, hshift, hsize⟩ | ⟨hlayout, hsize⟩
  · have hle : sectors.toNat ≤ 2 ^ 12 * 2 ^ 15 := by
      rw [hsize]
      exact Nat.mul_le_mul hblocks (Nat.pow_le_pow_right (by decide) (by omega))
    omega
  · omega

theorem toNat_sectors_le {sectors : UInt64} (h : csd.sectors? = some sectors) :
    sectors.toNat ≤ 2 ^ 32 := by
  have hunits : csd.bits 69 48 < 2 ^ 22 := toNat_field_lt _ (by decide)
  have hlt := toNat_sectors_lt_iff h
  rw [← layout_eq, ← units_eq] at hlt
  rcases toNat_sectors h with ⟨hlayout, -⟩ | ⟨-, hsize⟩
  · exact Nat.le_of_lt (hlt.mpr (by omega))
  · omega

variable (csd)

/-- A size in sectors is always a size in bytes. -/
theorem capacityBytes?_eq : csd.capacityBytes?.map UInt64.toNat =
    csd.sectors?.map fun sectors => sectors.toNat * 512 := by
  unfold capacityBytes?
  cases hsectors : csd.sectors? with
  | none => rfl
  | some sectors =>
    have hle := toNat_sectors_le hsectors
    have hfits : sectors.toNat * sectorSize < UInt64.size := by
      unfold sectorSize UInt64.size
      omega
    change (if sectors.toNat * sectorSize < UInt64.size then _ else none).map UInt64.toNat = _
    rw [if_pos hfits, Option.map_some, Option.map_some, UInt64.toNat_ofNat_of_lt' hfits]
    rfl

theorem sectorCount?_eq : csd.sectorCount?.map UInt32.toNat =
    csd.sectors?.bind fun sectors =>
      if sectors.toNat < 2 ^ 32 then some sectors.toNat else none := by
  unfold sectorCount?
  cases csd.sectors? with
  | none => rfl
  | some sectors =>
    change (if sectors.toNat < UInt32.size then _ else none).map UInt32.toNat =
      if sectors.toNat < UInt32.size then _ else none
    split
    · rename_i hfits
      rw [Option.map_some, UInt64.toNat_toUInt32]
      exact congrArg some (Nat.mod_eq_of_lt hfits)
    · rfl

/-- Every field of the register can be read. -/
theorem exactBits_eq {high low : Nat} (hhigh : high < 128) (hlow : low ≤ high)
    (h : high - low < 32) : exactField? csd.toList high low = some (csd.bits high low) := by
  have hlength : csd.toList.length = 16 := Vector.length_toList
  exact exactField?_eq (by omega) (by omega) hlow h

/-- Nothing is refused while the size is decoded. -/
theorem exactSectors?_eq : csd.exactSectors? = some (csd.sectors?.map UInt64.toNat) := by
  have hblocks : csd.bits 73 62 < 2 ^ 12 := toNat_field_lt _ (by decide)
  have hmult : csd.bits 49 47 < 2 ^ 3 := toNat_field_lt _ (by decide)
  have hlength : csd.bits 83 80 < 2 ^ 4 := toNat_field_lt _ (by decide)
  have hunits : csd.bits 69 48 < 2 ^ 22 := toNat_field_lt _ (by decide)
  have hsome := isSome_sectors csd
  simp only [exactSectors?, exactBits_eq csd, Option.bind_eq_bind, Option.bind_some,
    Nat.reduceLT, Nat.reduceLeDiff, Nat.reduceSub,
    held_eq (show csd.bits 73 62 + 1 < 2 ^ 64 by omega),
    held_eq (show csd.bits 49 47 + 2 < 2 ^ 32 by omega),
    held_eq (show csd.bits 49 47 + 2 + csd.bits 83 80 < 2 ^ 32 by omega),
    held_eq (show csd.bits 69 48 + 1 < 2 ^ 64 by omega)]
  cases hsectors : csd.sectors? with
  | none =>
    have hnone : ¬ (csd.bits 127 126 = 0 ∧ 9 ≤ csd.bits 49 47 + 2 + csd.bits 83 80 ∨
        csd.bits 127 126 = 1) := by
      rw [← hsome, hsectors]
      exact Bool.false_ne_true
    split
    · rename_i hlayout
      rw [if_neg fun hle => hnone (.inl ⟨hlayout, hle⟩)]
      rfl
    · rename_i hlayout
      exact absurd (.inr hlayout) hnone
    · rfl
  | some sectors =>
    have hfits := sectors.toNat_lt
    rcases toNat_sectors hsectors with ⟨hlayout, shift, hshift, hsize⟩ | ⟨hlayout, hsize⟩
    · have hexponent : csd.bits 49 47 + 2 + csd.bits 83 80 - 9 = shift := by omega
      rw [hsize] at hfits
      rw [hlayout, hexponent]
      change (if 9 ≤ csd.bits 49 47 + 2 + csd.bits 83 80 then _ else _) = _
      rw [if_pos (by omega), shiftedLeft_eq (by omega) hfits, Option.map_some, hsize]
      rfl
    · rw [hsize] at hfits
      rw [hlayout]
      change (shiftedLeft 64 (csd.bits 69 48 + 1) 10).bind _ = _
      rw [shiftedLeft_eq (by decide) hfits, Option.map_some, hsize]
      rfl

/-- Nor while it is counted in bytes. -/
theorem exactBytes?_eq : csd.exactBytes? = some (csd.capacityBytes?.map UInt64.toNat) := by
  rw [capacityBytes?_eq, exactBytes?, exactSectors?_eq, Option.bind_eq_bind, Option.bind_some]
  cases hsectors : csd.sectors? with
  | none => rfl
  | some sectors =>
    have hle := toNat_sectors_le hsectors
    change (held 64 (sectors.toNat * 512)).bind _ = _
    rw [held_eq (by omega), Option.map_some]
    rfl

/-- The two sizes that are told of a register, as the number that it spells tells them: in bytes,
and in sectors where a word of 32 bits holds their count. Every number that comes up on the way fits
its word. -/
theorem capacity_of_number :
    csd.capacityBytes?.map UInt64.toNat = bytesOf (bigEndian csd.toList) ∧
    (∀ bytes, bytesOf (bigEndian csd.toList) = some bytes →
      512 ∣ bytes ∧ (bytes / 512 < 2 ^ 32 ↔
        ¬ (layoutOf (bigEndian csd.toList) = 1 ∧
          unitsOf (bigEndian csd.toList) = 2 ^ 22 - 1))) ∧
    csd.sectorCount?.map UInt32.toNat =
      ((bytesOf (bigEndian csd.toList)).bind fun bytes =>
        if bytes / 512 < 2 ^ 32 then some (bytes / 512) else none) ∧
    csd.exactSectors? = some (csd.sectors?.map UInt64.toNat) ∧
    csd.exactBytes? = some (csd.capacityBytes?.map UInt64.toNat) := by
  refine ⟨?bytes, ?sectors, ?count, exactSectors?_eq csd, exactBytes?_eq csd⟩
  case bytes => rw [capacityBytes?_eq, bytesOf_eq]
  case sectors =>
    intro bytes hbytes
    rw [bytesOf_eq, Option.map_eq_some_iff] at hbytes
    obtain ⟨sectors, hsectors, rfl⟩ := hbytes
    rw [Nat.mul_div_cancel _ (by decide)]
    exact ⟨Nat.dvd_mul_left .., toNat_sectors_lt_iff hsectors⟩
  case count =>
    rw [sectorCount?_eq, bytesOf_eq]
    cases csd.sectors? with
    | none => rfl
    | some sectors =>
      rw [Option.map_some, Option.bind_some, Option.bind_some, Nat.mul_div_cancel _ (by decide)]

/-- The largest size of the second layout can be told in bytes, but not in sectors. -/
example :
    let csd : Csd := ⟨#[0x40, 0, 0, 0, 0, 0, 0, 0x3F, 0xFF, 0xFF, 0, 0, 0, 0, 0, 0], rfl⟩
    csd.capacityBytes? = some (2 ^ 41) ∧ csd.sectorCount? = none := by decide

end Decoding

end Csd

end SdCard
