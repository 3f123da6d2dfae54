import SdCard.Bus.Program

/-!
# Hardware under a bus

A serial peripheral that shifts bytes, and an output pin that is wired to a card's select line.
`Hardware` says how they answer from a state of their own; every access may fail, and the pin and
the peripheral have faults of different types. `Hardware.recorded` keeps a record of the accesses
beside the state.
-/

namespace SdCard

/-- How hardware with states `σ` answers. Faults of the peripheral are `φ`, of the pin `π`. -/
structure Hardware (φ π σ : Type) where
  setPin : (high : Bool) → σ → Except π Unit × σ
  reconfigure : SpiMode → (hz : UInt32) → σ → Except φ Unit × σ
  shift : UInt8 → σ → Except φ UInt8 × σ
  flush : σ → Except φ Unit × σ

/-- One access to the hardware with its answer. -/
inductive Access (φ π : Type)
  | setPin (high : Bool) (answer : Except π Unit)
  | reconfigure (mode : SpiMode) (hz : UInt32) (answer : Except φ Unit)
  | shift (byte : UInt8) (answer : Except φ UInt8)
  | flush (answer : Except φ Unit)

/-- The same hardware, with the accesses so far kept beside its state. -/
def Hardware.recorded {φ π σ : Type} (hardware : Hardware φ π σ) :
    Hardware φ π (σ × Array (Access φ π)) where
  setPin high := fun (s, accesses) =>
    let (answer, s) := hardware.setPin high s
    (answer, s, accesses.push (.setPin high answer))
  reconfigure mode hz := fun (s, accesses) =>
    let (answer, s) := hardware.reconfigure mode hz s
    (answer, s, accesses.push (.reconfigure mode hz answer))
  shift byte := fun (s, accesses) =>
    let (answer, s) := hardware.shift byte s
    (answer, s, accesses.push (.shift byte answer))
  flush := fun (s, accesses) =>
    let (answer, s) := hardware.flush s
    (answer, s, accesses.push (.flush answer))

end SdCard
