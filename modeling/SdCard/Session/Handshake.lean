import SdCard.Register.Ocr
import SdCard.Session.Command

/-!
# The handshake

A card wakes up in a mode of its own and has to be led, step by step, into one where it can be
read and written. `Session.start` forgets all that was known and goes through the steps in order:

1. `reset`: with the slow clock, CMD0 until the card is idle, each time after some clocks with no
   card selected;
2. `findVersion`: CMD8, which only cards of version 2 know;
3. with the fast clock, `checkVoltage`: CMD58 for the supply range;
4. `leaveIdle`: ACMD41 until the card has started up;
5. `findMode`: how the card is addressed, by CMD58 for version 2, while CMD16 fixes the length of
   a block for version 1.
-/

namespace SdCard

namespace Session

variable {ε : Type}

/-- Clocks for the card to wake up, with its select line idle. -/
def powerUp : Action ε Session Unit := do
  let session ← get
  Action.exchange do
    Exchange.control (.chipSelect session.chipSelect false)
    Exchange.sendIdle session.config.powerUpBytes
    Exchange.control (.chipSelect session.chipSelect true)

/-- Brings the card into its idle state, within a number of attempts. -/
def goIdle : (attempts : Nat) → Action ε Session Unit
  | 0 => throw (.card .resetIgnored)
  | attempts + 1 => do
    powerUp
    let response ← command .goIdle
    if response = Response.idle then pure () else goIdle attempts

/-- Asks for the version of the card. -/
def findVersion : Action ε Session Version := do
  let response ← commandWithPayload .sendInterfaceCondition 4
  if response[0] = Response.idle then
    Action.require (response[3] &&& 0x0F = 0x01) .voltageNotEchoed
    Action.require (response[4] = 0xAA) .patternMismatch
    return .v2
  else if response[0] = Response.idleIllegal then
    -- version 1 does not know the command
    return .v1
  else
    throw (.card .interfaceRejected)

/-- Asks for R1 and the OCR. -/
def readOcr : Action ε Session (UInt8 × Ocr) := do
  let response ← commandWithPayload .readOcr 4
  return (response[0], .ofResponse response)

/-- Makes sure that the card runs at 3.3 volts. -/
def checkVoltage : Action ε Session Unit := do
  let (response, ocr) ← readOcr
  Action.require (Response.isClean response ∧ ocr.supports33) .voltageUnsupported

/-- Takes the card out of its idle state, within a number of rounds. -/
def leaveIdle (version : Version) : (rounds : Nat) → Action ε Session Unit
  | 0 => throw (.card .stayedIdle)
  | rounds + 1 => do
    let response ← applicationCommand (.sendOperatingCondition (version = .v2))
    if response = 0 then pure () else leaveIdle version rounds

/-- Settles how the card is addressed. -/
def findMode (version : Version) : Action ε Session ReadyMode := do
  if version = .v2 then
    let (response, ocr) ← readOcr
    Action.require (response = 0 ∧ ocr.has .poweredUp) .notPoweredUp
    return if ocr.has .highCapacity then .highCapacityV2 else .standardCapacityV2
  else
    let response ← command (.setBlockLength (.ofNat sectorSize))
    Action.require (response = 0) .blockLengthRejected
    return .standardCapacityV1

/-- All steps of the handshake. -/
def handshake : Action ε Session ReadyMode := do
  let session ← get
  let config := session.config
  Action.exchange <| Exchange.control (.mode .mode0)
  Action.exchange <| Exchange.control (.clock config.initialHz)
  modify fun session => { session with state := .initializing .unknown }
  goIdle (atLeastOnce config.resetAttempts)
  let version ← findVersion
  modify fun session => { session with version, state := .initializing version }
  Action.log (.versionFound session.chipSelect version)
  Action.exchange <| Exchange.control (.clock config.dataHz)
  checkVoltage
  leaveIdle version config.readyRounds.toNat
  let mode ← findMode version
  modify fun session =>
    { session with state := .ready mode, lastResponse := 0, lastToken := 0, lastChecksum := 0 }
  Action.log (.becameReady session.chipSelect mode)
  return mode

/-- Brings the card up, whatever was known of it before. -/
def start : Action ε Session ReadyMode := do
  modify reset
  recording handshake

end Session

end SdCard
