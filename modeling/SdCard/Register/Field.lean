import SdCard.Bytes

/-!
# Fields of a register

The tables of the specification number the bits of a register from the low bit of its last byte.
`field register high low` reads the bits `high` down to `low` by looking only at the bytes that
hold them.
-/

namespace SdCard

/-- The bytes of a register that hold the bits `high` down to `low`. -/
def fieldWindow (register : List UInt8) (high low : Nat) : List UInt8 :=
  let top := register.length * 8 - 1
  let first := (top - high) / 8
  let last := (top - low) / 8
  (register.drop first).take (last + 1 - first)

/-- The bits `high` down to `low` of a register, at most 32 of them. -/
def field (register : List UInt8) (high low : Nat) : UInt32 :=
  let top := register.length * 8 - 1
  let last := (top - low) / 8
  let window := (fieldWindow register high low).foldl
    (fun (word : UInt64) (byte : UInt8) => (word <<< 8) ||| byte.toUInt64) 0
  -- the last byte of the window may hold bits below `low`
  let shift := low - (register.length - 1 - last) * 8
  let mask : UInt64 := (1 <<< UInt64.ofNat (high - low + 1)) - 1
  ((window >>> UInt64.ofNat shift) &&& mask).toUInt32

end SdCard
