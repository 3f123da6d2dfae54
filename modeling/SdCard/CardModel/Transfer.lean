import SdCard.Bus.Run
import SdCard.CardModel.Command

/-!
# The model card on the bus

A selected card shifts its next reply out while it takes a byte in. Between writes it waits for a
byte whose first bits are `01`, which starts a frame of six bytes; after CMD24 it waits for a start
token and takes the block that follows it.
-/

namespace SdCard

namespace CardModel

/-- Takes a whole block. The data response decides whether it is stored. -/
def receiveBlock (card : CardModel) (address : UInt32) (sector : Sector) : CardModel :=
  let card := if isDataAccepted card.dataResponse then
    { card with store := card.store.insert address sector } else card
  let card := { card with written := card.written.push (address, sector) }
  if card.stuckBusy then { card.queue [card.dataResponse] with link.idleReply := 0 }
  else card.queue (card.dataResponse :: List.replicate card.busyBytes 0)

/-- Takes a byte between writes: it starts a frame, or is part of one. -/
def receiveFrameByte (card : CardModel) (byte : UInt8) : CardModel :=
  -- outside a frame, idle bytes and all else that starts no frame are dropped
  if card.link.frame.isEmpty && byte &&& 0xC0 ≠ 0x40 then card
  else
    match card.link.frame ++ [byte] with
    | [first, a, b, c, d, _] =>
      { card with link.frame := [] }.receiveCommand (first &&& 0x3F) (Bytes.word #v[a, b, c, d])
    | frame => { card with link.frame := frame }

/-- Takes a byte from the host. -/
def receiveByte (card : CardModel) (byte : UInt8) : CardModel :=
  match card.link.phase with
  | .command => card.receiveFrameByte byte
  | .writeToken address =>
    if byte = startToken then { card with link.phase := .writeData address #[] } else card
  | .writeData address bytes =>
    let bytes := bytes.push byte
    -- two bytes of check sum follow the sector
    if bytes.size < sectorSize + 2 then { card with link.phase := .writeData address bytes }
    else { card with link.phase := .command }.receiveBlock address (.ofList sectorSize bytes.toList)

/-- Takes the next reply from the queue. -/
def nextReply (card : CardModel) : UInt8 × CardModel :=
  match card.link.replies with
  | [] => (card.link.idleReply, card)
  | reply :: rest => (reply, { card with link.replies := rest })

/-- Shifts one byte in each direction, for a bus that has not broken. -/
def shift (card : CardModel) (byte : UInt8) : UInt8 × CardModel :=
  let card := { card with clocked := card.clocked + 1 }
  if card.isSelected then
    let (reply, card) := card.nextReply
    (reply, card.receiveByte byte)
  else
    let card := if card.isNamed then card
      else { card with deselectedBytes := card.deselectedBytes + 1 }
    (0xFF, card)

/-- Takes note of how the bus is driven. The clock of the bus does not matter to the card. -/
def control (card : CardModel) : Control → CardModel
  | .mode _ | .clock _ => card
  | .chipSelect index active => { card with chipSelect := some (index, active) }
  | .forceSelect true => { card with forced := true, forceCount := card.forceCount + 1 }
  | .forceSelect false => { card with forced := false, link := {} }

/-- The bus that the card hangs on, every fault of which is `fault`. -/
def bus {ε : Type} (fault : ε) : Bus ε CardModel where
  control call card := (.ok (), card.control call)
  transfer byte card :=
    let card := { card with transfers := card.transfers + 1 }
    if card.failAfter.any (· < card.transfers) then (.error fault, card)
    else
      let (reply, card) := card.shift byte
      (.ok reply, card)
  fifoBusy card := (false, card)

end CardModel

end SdCard
