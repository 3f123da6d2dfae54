import SdCard.Command.Address
import SdCard.Session.Command
import SdCard.Window

/-!
# Reading a sector

The card answers CMD17, sends a start token when it has found the sector, and then the 512 bytes
and their check sum. All of them are taken off the wire, whatever the reader wants of them: the
window decides which are kept, and keeps what has passed even if the bus fails later.
-/

namespace SdCard

/-- The state of a read: the session, and the window that the sector passes by. -/
structure Reading (n : Nat) where
  session : Session
  window : Window n

namespace Reading

variable {ε α : Type} {n : Nat}

/-- Runs an action of the session while a read is under way. -/
def inSession (action : Action ε Session α) : Action ε (Reading n) α :=
  action.onPart Reading.session fun session reading => { reading with session }

/-- Passes `count` bytes of a sector by the window, from byte `index` on. -/
def receiveInto (index : Nat) : (count : Nat) → Action ε (Reading n) Unit
  | 0 => pure ()
  | count + 1 => do
    let byte ← Action.exchange Exchange.receiveByte
    modify fun reading => { reading with window := reading.window.store index byte }
    receiveInto (index + 1) count

/-- Reads the sector at a wire address, up to its check sum. -/
def readSelected (address : UInt32) : Action ε (Reading n) UInt16 := do
  let config := (← get).session.config
  let response ← Action.exchange do
    Exchange.sendCommand (.readBlock address)
    Exchange.poll config.responsePolls
  inSession (Session.keepResponse response)
  Action.require (response = 0) .readUnanswered
  let token ← Action.exchange (Exchange.poll config.tokenPolls)
  inSession (Session.keepToken token)
  Action.require (token = startToken) .readNotStarted
  -- the card cannot be stopped within a block, so all of it is clocked out
  receiveInto 0 sectorSize
  let checksum ← Action.exchange (Exchange.receive 2)
  return checksum.half

/-- Reads the sector at a wire address. -/
def readAddress (address : UInt32) : Action ε (Reading n) Unit := do
  let checksum ← Action.whileSelected (readSelected address)
  inSession <| modify fun session => { session with lastChecksum := checksum }
  Action.require (isChecksumAccepted checksum) .readChecksumRejected

/-- Reads sector `lba` through the window. -/
def readWindow (lba : UInt32) : Action ε (Reading n) Unit := do
  let mode ← inSession Session.requireReady
  let window := (← get).window
  if window.InSector then
    Action.noting (fun error => inSession (Session.record error)) <|
      readAddress (blockAddress mode.capacity lba)
  else
    throw (.outOfRange window.offset window.count)

end Reading

namespace Session

variable {ε : Type} {n : Nat}

/-- Reads the bytes of sector `lba` from `offset` on, as many as the buffer takes. -/
def readRange (lba : UInt32) (offset : Nat) (buffer : Bytes n) : Action ε Session (Bytes n) :=
  .ofProgram fun session => do
    let (result, reading) ← (Reading.readWindow lba).exec ⟨session, .full offset buffer⟩
    return (result.map fun _ => reading.window.bytes, reading.session)

/-- Reads sector `lba`. -/
def readBlock (lba : UInt32) : Action ε Session Sector :=
  readRange lba 0 (Bytes.zero sectorSize)

end Session

end SdCard
