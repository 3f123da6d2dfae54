import SdCard.Bus.Run
import SdCard.PinBus.Hardware

/-!
# A bus with one select pin

A serial peripheral and one output pin make a bus for a single card. The index of a chip select is
not decoded, since there is only one line. The line is active low: it is pulled low only while the
card is both named and forced, and it goes high before anything is shifted for another purpose.

Mode and clock rate are set apart but take effect together, so neither reaches the peripheral
before a rate is known.
-/

namespace SdCard

/-- A fault of the hardware under a bus. -/
inductive PinBusFault (φ π : Type)
  | peripheral (fault : φ)
  | pin (fault : π)
deriving DecidableEq

instance {φ π : Type} [ToString φ] [ToString π] : ToString (PinBusFault φ π) where
  toString
    | .peripheral fault => s!"Spi({fault})"
    | .pin fault => s!"Pin({fault})"

/-- The state of the bus, over hardware with states `σ`. -/
structure PinBus (σ : Type) where
  hardware : σ
  mode : SpiMode
  /-- The clock rate, or zero before one is set. -/
  hz : UInt32
  /-- The last chip select was active. -/
  selected : Bool
  /-- The last force select was active. -/
  forced : Bool

namespace PinBus

variable {φ π σ α : Type}

/-- A step of the bus, which may fail and changes the state either way. -/
abbrev Step (φ π σ α : Type) := ExceptT (PinBusFault φ π) (StateM (PinBus σ)) α

namespace Step

/-- The outcome of a step from a state. -/
def exec (step : Step φ π σ α) (bus : PinBus σ) : Except (PinBusFault φ π) α × PinBus σ :=
  (step.run.run bus)

/-- One access to the hardware. -/
def access {δ : Type} (wrap : δ → PinBusFault φ π) (call : σ → Except δ α × σ) : Step φ π σ α :=
  ExceptT.mk fun bus =>
    let (answer, hardware) := call bus.hardware
    (answer.mapError wrap, { bus with hardware })

@[simp] theorem exec_pure (value : α) (bus : PinBus σ) :
    (pure value : Step φ π σ α).exec bus = (.ok value, bus) := rfl

@[simp] theorem exec_get (bus : PinBus σ) :
    (get : Step φ π σ (PinBus σ)).exec bus = (.ok bus, bus) := rfl

@[simp] theorem exec_modify (f : PinBus σ → PinBus σ) (bus : PinBus σ) :
    (modify f : Step φ π σ Unit).exec bus = (.ok (), f bus) := rfl

@[simp] theorem exec_access {δ : Type} (wrap : δ → PinBusFault φ π)
    (call : σ → Except δ α × σ) (bus : PinBus σ) :
    (access wrap call).exec bus =
      ((call bus.hardware).1.mapError wrap, { bus with hardware := (call bus.hardware).2 }) := rfl

/-- The second step is taken only after a success, from where the first one has left the bus. -/
@[simp] theorem exec_bind {β : Type} (step : Step φ π σ α) (f : α → Step φ π σ β)
    (bus : PinBus σ) :
    (step >>= f).exec bus =
      match (step.exec bus).1 with
      | .ok value => (f value).exec (step.exec bus).2
      | .error fault => (.error fault, (step.exec bus).2) := by
  unfold Step.exec
  rw [ExceptT.run_bind, StateT.run_bind]
  generalize step.run.run bus = outcome
  obtain ⟨result, after⟩ := outcome
  cases result <;> rfl

end Step

variable (hardware : Hardware φ π σ)

/-- Drives the pin. -/
def setPin (high : Bool) : Step φ π σ Unit := Step.access .pin (hardware.setPin high)

/-- Waits until all bytes have left the peripheral. -/
def flush : Step φ π σ Unit := Step.access .peripheral hardware.flush

/-- Hands mode and rate to the peripheral, once a rate is known. -/
def configure : Step φ π σ Unit := do
  let bus ← get
  if bus.hz = 0 then pure ()
  else Step.access .peripheral (hardware.reconfigure bus.mode bus.hz)

/-- Keeps mode, rate, and the two parts of the select line, and lets the hardware follow. -/
def control : Control → Step φ π σ Unit
  | .mode mode => do
    modify fun bus => { bus with mode }
    configure hardware
  | .clock hz => do
    modify fun bus => { bus with hz }
    configure hardware
  | .chipSelect _ active => do
    modify fun bus => { bus with selected := active }
    if active then
      if (← get).forced then setPin hardware false else pure ()
    else
      setPin hardware true
  | .forceSelect active => do
    modify fun bus => { bus with forced := active }
    if active && (← get).selected then
      setPin hardware false
    else
      -- bytes under way leave before the line goes high
      flush hardware
      setPin hardware true

/-- Shifts one byte and waits until it has left the peripheral. -/
def transfer (byte : UInt8) : Step φ π σ UInt8 := do
  let reply ← Step.access .peripheral (hardware.shift byte)
  flush hardware
  return reply

/-- The bus, as programs use it. Its output queue is never busy, since every transfer waits. -/
def bus : Bus (PinBusFault φ π) (PinBus σ) where
  control call := (control hardware call).exec
  transfer byte := (transfer hardware byte).exec
  fifoBusy s := (false, s)

/-- A bus on hardware in a given state, with the pin high. -/
def ofHardware (s : σ) (mode : SpiMode) : Except (PinBusFault φ π) (PinBus σ) :=
  match hardware.setPin true s with
  | (.ok (), s) => .ok ⟨s, mode, 0, false, false⟩
  | (.error fault, _) => .error (.pin fault)

end PinBus

end SdCard
