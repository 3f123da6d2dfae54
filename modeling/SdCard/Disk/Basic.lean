import SdCard.Session.Handshake
import SdCard.Session.Read
import SdCard.Session.Register
import SdCard.Session.Write

/-!
# Disks

A file system sees a card as a disk: it reads parts of sectors, and it writes a sector in two
steps, first naming it and then handing over its data. The disk remembers the sector that was
named and answers with a result code instead of an error.

Arguments that do not describe bytes of one sector are refused before the card is asked.
-/

namespace SdCard

/-- Result codes of a disk. -/
inductive DiskResult
  | ok
  | error
  | notReady
  | parameterError
deriving DecidableEq

namespace DiskResult

/-- The number by which a file system knows a result. -/
def code : DiskResult → Nat
  | ok => 0
  | error => 1
  | notReady => 2
  | parameterError => 3

/-- The result that an error of the session becomes. -/
def ofError {ε : Type} : Error ε → DiskResult
  | .notReady => notReady
  | .outOfRange .. => parameterError
  | .transport _ | .card _ => error

/-- The code for the result of an operation of the session. -/
def ofExcept {ε α : Type} : Except (Error ε) α → DiskResult
  | .ok _ => ok
  | .error e => ofError e

end DiskResult

/-- What keeps a disk from being used. -/
structure DiskStatus where
  /-- The disk has not been brought up. -/
  notInitialized : Bool
  /-- There is no card in the socket. -/
  noDisk : Bool
deriving DecidableEq

namespace DiskStatus

/-- Nothing keeps the disk from being used. -/
def usable : DiskStatus := ⟨false, false⟩

/-- The status as a bit set. -/
def bits (status : DiskStatus) : UInt8 :=
  (if status.notInitialized then 0x01 else 0) ||| (if status.noDisk then 0x02 else 0)

end DiskStatus

/-- A session with the state of a write in two steps. -/
structure Disk where
  session : Session
  /-- The sector that the next data goes to. -/
  pending : Option UInt32
deriving DecidableEq

namespace Disk

variable {ε α : Type}

/-- A disk on a session, with no sector named. -/
def ofSession (session : Session) : Disk := ⟨session, none⟩

/-- No card answered: the last CMD0 was given up without any response. -/
def isEmptySocket (disk : Disk) : Bool :=
  disk.session.state = .failed .resetIgnored && disk.session.lastResponse = idleByte

/-- Whether the disk can be used now. -/
def status (disk : Disk) : DiskStatus :=
  if disk.session.state.isReady then .usable else ⟨true, disk.isEmptySocket⟩

/-- Runs an operation of the session. -/
def inSession (action : Action ε Session α) (disk : Disk) :
    Program ε (Except (Error ε) α × Disk) := do
  let (result, session) ← action.exec disk.session
  return (result, { disk with session })

/-- Brings the card up and forgets the sector that was named. -/
def start (disk : Disk) : Program ε (DiskStatus × Disk) := do
  let (result, disk) ← inSession Session.start { disk with pending := none }
  match result with
  | .ok _ => return (.usable, disk)
  | .error error =>
    Program.emit (.diskFailed disk.session.chipSelect error disk.session.state)
    return (disk.status, disk)

/-- Reads `count` bytes of a sector, from byte `offset` on, to the front of a buffer. -/
def readPartial {n : Nat} (buffer : Bytes n) (sector : UInt32) (offset count : Nat) (disk : Disk) :
    Program ε (DiskResult × Bytes n × Disk) :=
  if h : offset + count ≤ sectorSize ∧ count ≤ n then do
    let window : Window n := ⟨offset, count, buffer, h.2⟩
    let (result, reading) ← (Reading.readWindow sector).exec ⟨disk.session, window⟩
    return (.ofExcept result, reading.window.bytes, { disk with session := reading.session })
  else
    return (.parameterError, buffer, disk)

/-- Names the sector that the next data goes to. -/
def writeBegin (sector : UInt32) (disk : Disk) : Program ε (DiskResult × Disk) :=
  return (.ok, { disk with pending := some sector })

/-- Writes the first `count` bytes of `data` to the sector that was named. -/
def writeData (data : List UInt8) (count : Nat) (disk : Disk) : Program ε (DiskResult × Disk) :=
  match disk.pending with
  | some sector =>
    if count ≤ sectorSize ∧ count ≤ data.length then do
      let (result, disk) ← inSession (Session.writeBlock sector (data.take count)) disk
      return (.ofExcept result, disk)
    else
      return (.parameterError, disk)
  | none => return (.parameterError, disk)

/-- Ends the writing of a sector. -/
def writeFinish (disk : Disk) : Program ε (DiskResult × Disk) :=
  return (.ok, { disk with pending := none })

/-- The three steps of writing in one call: data is written, a number without data names a sector,
and zero without data ends the writing. -/
def writePartial (data : Option (List UInt8)) (number : UInt32) (disk : Disk) :
    Program ε (DiskResult × Disk) :=
  match data with
  | some data => writeData data number.toNat disk
  | none => if number = 0 then writeFinish disk else writeBegin number disk

/-- The size of the disk in sectors. -/
def sectorCount (disk : Disk) : Program ε (Except DiskResult UInt32 × Disk) := do
  let (result, disk) ← inSession Session.sectorCount disk
  return (result.mapError .ofError, disk)

end Disk

end SdCard
