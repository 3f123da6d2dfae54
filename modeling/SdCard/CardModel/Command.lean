import SdCard.CardModel.Basic
import SdCard.Command.Response

/-!
# How the model card answers

Every answer to a command begins with one byte in which the card still thinks, and that reads as
idle. `CardModel.execute` is the table of commands.
-/

namespace SdCard

namespace CardModel

/-- The check sum that follows every block of data read. -/
def readChecksum : List UInt8 := [0x12, 0x34]

/-- Queues bytes for the host. -/
def queue (card : CardModel) (bytes : List UInt8) : CardModel :=
  { card with link.replies := card.link.replies ++ bytes }

/-- Queues an answer to a command. -/
def respond (card : CardModel) (bytes : List UInt8) : CardModel := card.queue (0xFF :: bytes)

/-- R1 of a card that reports no error. -/
def response (card : CardModel) : UInt8 := if card.inIdle then Response.idle else 0

/-- The OCR as the card reports it now. Once started, a card adds the power-up bit and, if it is of
high capacity, the capacity bit. -/
def reportedOcr (card : CardModel) : UInt32 :=
  if card.inIdle then card.ocr
  else card.readyOcr.getD <|
    card.ocr ||| 0x80000000 ||| (if card.kind = .v2 true then 0x40000000 else 0)

/-- The effect of a command and the answer to it. -/
def execute (card : CardModel) (index : UInt8) (argument : UInt32) (application : Bool) :
    CardModel :=
  match index.toNat, application with
  | 0, _ =>
    if card.resetsIgnored = 0 then { card with inIdle := true }.respond [Response.idle]
    else
      -- an ignored reset draws no answer at all
      { card with resetsIgnored := card.resetsIgnored - 1 }
  | 8, _ =>
    match card.kind with
    | .v2 _ =>
      let (voltage, pattern) := card.echo.getD
        (((argument >>> 8) &&& 0x0F).toUInt8, argument.toUInt8)
      card.respond [Response.idle, 0, 0, voltage, pattern]
    | _ => card.respond [Response.idleIllegal]
  | 9, _ => card.respond ([0, 0xFF, startToken] ++ card.csd.toList ++ readChecksum)
  | 13, _ => card.respond card.status.toList
  | 16, _ => card.respond [card.response]
  | 17, _ =>
    -- any other token stands for an error, and no data follows it
    let data := if card.readToken = startToken then
      (card.store.get argument).toList ++ readChecksum else []
    card.respond ([0, 0xFF, card.readToken] ++ data)
  | 24, _ => { card.respond [0] with link.phase := .writeToken argument }
  | 41, true =>
    if card.busyRounds = 0 then { card with inIdle := false }.respond [0]
    else { card with busyRounds := card.busyRounds - 1 }.respond [Response.idle]
  | 42, true => card.respond [0]
  | 55, _ => { card with link.applicationNext := true }.respond [card.response]
  | 58, _ => card.respond (card.response :: (Bytes.ofWord card.reportedOcr).toList)
  | _, _ => card.respond [card.response ||| StatusFlag.illegalCommand.mask]

/-- Takes a whole command. An absent card takes none, but what was sent is observed. -/
def receiveCommand (card : CardModel) (index : UInt8) (argument : UInt32) : CardModel :=
  let card := { card with commands := card.commands.push (index, argument) }
  if card.kind = .absent then card
  else
    let application := card.link.applicationNext
    let card := { card with link.applicationNext := false }
    match card.fixedResponses.lookup index with
    | some response => card.respond [response]
    | none => card.execute index argument application

end CardModel

end SdCard
