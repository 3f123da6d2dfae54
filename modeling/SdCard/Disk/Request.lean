import SdCard.Disk.Basic

/-!
# Requests to a disk

Every operation of a disk as a value, so that a sequence of operations is a list. `perform`
carries one out.
-/

namespace SdCard

namespace Disk

/-- One operation with its arguments. -/
inductive Request
  | start
  | status
  | readPartial (buffer : Array UInt8) (sector : UInt32) (offset count : Nat)
  | writeBegin (sector : UInt32)
  | writeData (data : List UInt8) (count : Nat)
  | writeFinish
  | writePartial (data : Option (List UInt8)) (number : UInt32)
  | sectorCount

/-- What an operation gives back. -/
inductive Answer
  | status (status : DiskStatus)
  | result (result : DiskResult)
  /-- The result of a read, with the buffer that it leaves. -/
  | read (result : DiskResult) (buffer : Array UInt8)
  | sectors (count : UInt32)
deriving DecidableEq

variable {ε : Type}

/-- A result code as an answer. -/
def answered (program : Program ε (DiskResult × Disk)) : Program ε (Answer × Disk) := do
  let (result, disk) ← program
  return (.result result, disk)

/-- Carries out one operation. -/
def perform (request : Request) (disk : Disk) : Program ε (Answer × Disk) :=
  match request with
  | .start => do
    let (status, disk) ← start disk
    return (.status status, disk)
  | .status => return (.status disk.status, disk)
  | .readPartial buffer sector offset count => do
    let (result, buffer, disk) ← readPartial buffer.toVector sector offset count disk
    return (.read result buffer.toArray, disk)
  | .writeBegin sector => answered (writeBegin sector disk)
  | .writeData data count => answered (writeData data count disk)
  | .writeFinish => answered (writeFinish disk)
  | .writePartial data number => answered (writePartial data number disk)
  | .sectorCount => do
    let (count, disk) ← sectorCount disk
    match count with
    | .ok count => return (.sectors count, disk)
    | .error result => return (.result result, disk)

end Disk

end SdCard
