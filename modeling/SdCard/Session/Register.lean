import SdCard.Register.Csd
import SdCard.Session.Command

/-!
# Registers and settings of a card

What a ready card tells about itself: its status by CMD13, its CSD register by CMD9, and the
number of sectors that the register gives. ACMD42 sets the pull-up of the card-detect line.
-/

namespace SdCard

namespace Session

variable {ε : Type}

/-- The status of the card; the high byte, which is R1, is zero. -/
def status : Action ε Session UInt16 := do
  let _ ← requireReady
  recording do
    let response ← commandWithPayload .sendStatus 1
    Action.require (field response.toList 15 8 = 0) .statusReported
    return (field response.toList 15 0).toUInt16

/-- Reads the CSD register, with its check sum. -/
def readCsdSelected : Action ε Session (Csd × UInt16) := do
  let config := (← get).config
  let response ← Action.exchange do
    Exchange.sendCommand .sendCsd
    Exchange.poll config.responsePolls
  keepResponse response
  Action.require (response = 0) .csdUnreadable
  let token ← Action.exchange (Exchange.poll config.tokenPolls)
  keepToken token
  Action.require (token = startToken) .csdUnreadable
  let csd ← Action.exchange (Exchange.receive 16)
  let checksum ← Action.exchange (Exchange.receive 2)
  return (csd, checksum.half)

/-- The CSD register. -/
def readCsd : Action ε Session Csd := do
  let _ ← requireReady
  recording do
    let (csd, checksum) ← Action.whileSelected readCsdSelected
    modify fun session => { session with lastChecksum := checksum }
    return csd

/-- The size of the card in sectors. -/
def sectorCount : Action ε Session UInt32 := do
  let csd ← readCsd
  match csd.sectorCount? with
  | some count => return count
  -- the register came over the bus, but it tells no size
  | none => recording (throw (.card .csdUnreadable))

/-- Connects or disconnects the pull-up of the card-detect line. -/
def setCardDetectPullup (connect : Bool) : Action ε Session Unit := do
  let _ ← requireReady
  recording do
    let response ← applicationCommand (.setCardDetect connect)
    Action.require (response = 0) .pullupUnchanged

end Session

end SdCard
