import SdCard.Bytes

/-!
# Responses and tokens

Every response starts with one byte of status bits, R1. Data follows a start token, and the card
answers a written block with a data response, of which the low five bits count.
-/

namespace SdCard

/-- A status bit of R1. -/
inductive StatusFlag
  | inIdleState
  | eraseReset
  | illegalCommand
  | checksumError
  | eraseSequenceError
  | addressError
  | parameterError
deriving DecidableEq

namespace StatusFlag

/-- The byte in which only this bit is set. -/
def mask : StatusFlag → UInt8
  | inIdleState => 0x01
  | eraseReset => 0x02
  | illegalCommand => 0x04
  | checksumError => 0x08
  | eraseSequenceError => 0x10
  | addressError => 0x20
  | parameterError => 0x40

/-- All status bits, lowest first. -/
def all : List StatusFlag :=
  [inIdleState, eraseReset, illegalCommand, checksumError, eraseSequenceError, addressError,
    parameterError]

theorem mem_all (flag : StatusFlag) : flag ∈ all := by
  cases flag <;> simp [all]

end StatusFlag

namespace Response

/-- R1 of a card that is in its idle state and reports nothing else. -/
def idle : UInt8 := StatusFlag.inIdleState.mask

/-- R1 of an idle card that does not know the command. -/
def idleIllegal : UInt8 := StatusFlag.inIdleState.mask ||| StatusFlag.illegalCommand.mask

/-- The response reports no error; the card may be idle. -/
def isClean (response : UInt8) : Bool := response &&& ~~~StatusFlag.inIdleState.mask = 0

/-- The status bits set in a response, lowest first. -/
def flags (response : UInt8) : List StatusFlag :=
  StatusFlag.all.filter fun flag => response &&& flag.mask ≠ 0

/-- A flag is listed if and only if its bit is set. -/
theorem mem_flags {response : UInt8} {flag : StatusFlag} :
    flag ∈ flags response ↔ response &&& flag.mask ≠ 0 := by
  simp [flags, StatusFlag.mem_all]

end Response

/-- The byte in front of a block of data. -/
def startToken : UInt8 := 0xFE

/-- The data response of a card that took a block. -/
def isDataAccepted (token : UInt8) : Bool := token &&& 0x1F = 0x05

/-- Data is sent with checking off, so a card's check sum of it is taken as it comes. -/
def isChecksumAccepted (_checksum : UInt16) : Bool := true

end SdCard
