import SdCard.Session.Handshake
import SdCard.Session.Read
import SdCard.Session.Register
import SdCard.Session.Write

/-!
# Requests to a session

Every operation of a session as a value, so that a sequence of operations is a list. `perform`
carries one out.
-/

namespace SdCard

namespace Session

/-- One operation with its arguments. -/
inductive Request
  | start
  | readRange (lba : UInt32) (offset : Nat) (buffer : Array UInt8)
  | readBlock (lba : UInt32)
  | writeBlock (lba : UInt32) (data : List UInt8)
  | status
  | readCsd
  | sectorCount
  | setCardDetectPullup (connect : Bool)

/-- What an operation that succeeds gives back. -/
inductive Answer
  | ready (mode : ReadyMode)
  | bytes (bytes : Array UInt8)
  | status (status : UInt16)
  | sectors (count : UInt32)
  | done
deriving DecidableEq

/-- Carries out one operation. -/
def perform {ε : Type} : Request → Action ε Session Answer
  | .start => return .ready (← start)
  | .readRange lba offset buffer => return .bytes (← readRange lba offset buffer.toVector).toArray
  | .readBlock lba => return .bytes (← readBlock lba).toArray
  | .writeBlock lba data => do
    writeBlock lba data
    return .done
  | .status => return .status (← status)
  | .readCsd => return .bytes (← readCsd).toArray
  | .sectorCount => return .sectors (← sectorCount)
  | .setCardDetectPullup connect => do
    setCardDetectPullup connect
    return .done

end Session

end SdCard
