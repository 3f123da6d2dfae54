import SdCard.Command.Address
import SdCard.Session.Command

/-!
# Writing a sector

The card answers CMD24 and then takes one block: an idle byte, the start token, 512 bytes and two
bytes in place of a check sum. It judges the block by a data response and signals busy until the
block is stored.
-/

namespace SdCard

namespace Session

variable {ε : Type}

/-- The bytes of a data block on the wire. -/
def blockImage (sector : Sector) : List UInt8 :=
  idleByte :: startToken :: sector.toList ++ [idleByte, idleByte]

/-- Writes the sector at a wire address, up to the end of the card's busy signal. -/
def writeSelected (address : UInt32) (sector : Sector) : Action ε Session Unit := do
  let config := (← get).config
  let response ← Action.exchange do
    Exchange.sendCommand (.writeBlock address)
    Exchange.poll config.responsePolls
  keepResponse response
  Action.require (response = 0) .writeRejected
  let token ← Action.exchange do
    Exchange.send (blockImage sector)
    Exchange.receiveByte
  keepToken token
  Action.require (isDataAccepted token) .writeDataRejected
  let released ← Action.exchange (Exchange.waitReleased config.busyPolls)
  Action.require released .writeBusyTimeout

/-- Writes sector `lba`. Data shorter than a sector is followed by zeros. -/
def writeBlock (lba : UInt32) (data : List UInt8) : Action ε Session Unit := do
  let mode ← requireReady
  if data.length ≤ sectorSize then
    recording <| Action.whileSelected <|
      writeSelected (blockAddress mode.capacity lba) (.ofList sectorSize data)
  else
    throw (.outOfRange 0 data.length)

end Session

end SdCard
