import SdCard.Bus.Program
import SdCard.CardModel.Store
import SdCard.Register.Csd

/-!
# A model card

A card at the far end of the bus, which assembles command frames from the bytes shifted to it and
answers the commands of the handshake, of block transfer, and of the registers. How it answers can
be set: it can be of any kind, ignore its first resets, echo CMD8 wrongly, start up slowly, refuse
commands or data, or stay busy; and the bus under it can break after a number of transfers.

The fields come in three groups: how the card is set up, what has been observed of it, and what
the card itself keeps. Of the last, `link` is what a transaction builds up; releasing the select
line throws it away.
-/

namespace SdCard

namespace CardModel

/-- What is in the socket. -/
inductive Kind
  | absent
  | v1
  | v2 (highCapacity : Bool)
deriving DecidableEq, Inhabited

/-- What the next byte from the host is part of. -/
inductive Phase
  | command
  /-- A write to an address was accepted, and its start token is awaited. -/
  | writeToken (address : UInt32)
  /-- The bytes of a write so far. -/
  | writeData (address : UInt32) (bytes : Array UInt8)
deriving DecidableEq, Inhabited

/-- What one transaction builds up. -/
structure Link where
  /-- The bytes of a command frame so far. -/
  frame : List UInt8 := []
  /-- Bytes that wait to be shifted to the host. -/
  replies : List UInt8 := []
  phase : Phase := .command
  /-- The reply while no byte waits. -/
  idleReply : UInt8 := 0xFF
  /-- CMD55 was taken, so the next command is an application command. -/
  applicationNext : Bool := false
deriving DecidableEq, Inhabited

end CardModel

open CardModel in
/-- A card with its settings, what has been observed of it, and what it keeps. -/
structure CardModel where
  kind : Kind
  /-- Resets that are still to be ignored. -/
  resetsIgnored : Nat := 0
  /-- Rounds of ACMD41 that are still to be answered as idle. -/
  busyRounds : Nat := 2
  /-- Voltage and pattern given back for CMD8, where they are not the true ones. -/
  echo : Option (UInt8 × UInt8) := none
  ocr : UInt32 := 0x00FF8000
  /-- The OCR of the started card, where it is not the usual one. -/
  readyOcr : Option UInt32 := none
  /-- Commands that are answered with a fixed R1 and nothing else. -/
  fixedResponses : List (UInt8 × UInt8) := []
  readToken : UInt8 := 0xFE
  dataResponse : UInt8 := 0xE5
  /-- Busy bytes after a write. -/
  busyBytes : Nat := 3
  /-- The card stays busy after a write until it is released. -/
  stuckBusy : Bool := false
  store : SectorStore := {}
  csd : Csd := Bytes.zero 16
  status : Bytes 2 := Bytes.zero 2
  /-- Transfers after which the bus breaks. -/
  failAfter : Option Nat := none
  /-- Commands received: index and argument. -/
  commands : Array (UInt8 × UInt32) := #[]
  /-- Blocks received: address and data. -/
  written : Array (UInt32 × Sector) := #[]
  /-- The last chip select. -/
  chipSelect : Option (UInt8 × Bool) := none
  /-- The select line is driven. -/
  forced : Bool := false
  /-- How often the select line was driven. -/
  forceCount : Nat := 0
  /-- Bytes shifted while no card was named. -/
  deselectedBytes : Nat := 0
  /-- Bytes shifted at all. -/
  clocked : Nat := 0
  link : Link := {}
  inIdle : Bool := false
  /-- Transfers asked of the bus. -/
  transfers : Nat := 0
deriving DecidableEq

namespace CardModel

/-- A card of a kind that behaves well and holds nothing. -/
def ofKind (kind : Kind) : CardModel where
  kind := kind

/-- The card is named by the last chip select. -/
def isNamed (card : CardModel) : Bool := card.chipSelect.any (·.2)

/-- The card listens to the bus. -/
def isSelected (card : CardModel) : Bool := card.forced && card.isNamed

end CardModel

end SdCard
