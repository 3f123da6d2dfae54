import SdCard.Bytes

/-!
# Commands

A command goes to the card as six bytes: the bits `01` and the command's index, its argument,
and a check sum of seven bits with a stop bit. A card checks the sum only until it has entered
its idle state in serial mode, so only the first commands of a handshake need a true one.
-/

namespace SdCard

/-- A command with its argument and the byte that carries its check sum. -/
structure Command where
  index : UInt8
  argument : UInt32 := 0
  checksum : UInt8 := 0
deriving DecidableEq

namespace Command

/-- The bytes of a command on the wire. -/
def frame (command : Command) : Bytes 6 :=
  let argument := Bytes.ofWord command.argument
  #v[0x40 ||| (command.index &&& 0x3F), argument[0], argument[1], argument[2], argument[3],
    command.checksum ||| 0x01]

/-- The bits that start a frame are set in its first byte, and the others give the index back. -/
theorem frame_bits (index : UInt8) :
    (0x40 ||| (index &&& 0x3F)) &&& 0xC0 = 0x40 ∧
    (0x40 ||| (index &&& 0x3F)) &&& 0x3F = index &&& 0x3F := by
  have hall : ∀ n : Fin 256, (0x40 ||| (UInt8.ofFin n &&& 0x3F)) &&& 0xC0 = 0x40 ∧
      (0x40 ||| (UInt8.ofFin n &&& 0x3F)) &&& 0x3F = UInt8.ofFin n &&& 0x3F := by decide +kernel
  exact hall index.toFin

/-- CMD0, with which a card enters its idle state. -/
def goIdle : Command := ⟨0, 0, 0x94⟩

/-- CMD8, which asks for a supply of 2.7 to 3.6 volts and for the echo of the pattern `AA`. -/
def sendInterfaceCondition : Command := ⟨8, 0x1AA, 0x86⟩

/-- CMD9, which asks for the CSD register. -/
def sendCsd : Command := ⟨9, 0, 0⟩

/-- CMD13, which asks for the status of the card. -/
def sendStatus : Command := ⟨13, 0, 0⟩

/-- CMD16, which sets the length of a block. -/
def setBlockLength (length : UInt32) : Command := ⟨16, length, 0⟩

/-- CMD17, which reads one block. -/
def readBlock (address : UInt32) : Command := ⟨17, address, 0⟩

/-- CMD24, which writes one block. -/
def writeBlock (address : UInt32) : Command := ⟨24, address, 0⟩

/-- ACMD41, which starts the card up and may announce support for high capacity. -/
def sendOperatingCondition (highCapacity : Bool) : Command :=
  ⟨41, if highCapacity then 0x40000000 else 0, 0⟩

/-- ACMD42, which connects or disconnects the pull-up of the card-detect line. -/
def setCardDetect (connect : Bool) : Command := ⟨42, if connect then 1 else 0, 0⟩

/-- CMD55, which announces an application command. -/
def applicationCommand : Command := ⟨55, 0, 0⟩

/-- CMD58, which asks for the OCR register. -/
def readOcr : Command := ⟨58, 0, 0⟩

end Command

end SdCard
