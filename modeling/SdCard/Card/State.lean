/-!
# Card states

What is known about a card: its version of the physical layer, how it is addressed once it is
ready, and, when an operation did not succeed, which step of the protocol it failed at.

* `State.label` is the text shown to a person;
* `State.readyMode` gives the mode of a ready card and nothing otherwise.
-/

namespace SdCard

/-- Generation of the physical layer specification that a card follows. -/
inductive Version
  | unknown
  | v1
  | v2
deriving DecidableEq, Inhabited

namespace Version

def name : Version → String
  | unknown => "Unknown"
  | v1 => "V1"
  | v2 => "V2"

end Version

/-- How a card counts addresses: by the byte, or by the sector. -/
inductive Capacity
  | standard
  | high
deriving DecidableEq, Inhabited

/-- What the handshake settled on. A high-capacity card always follows version 2. -/
inductive ReadyMode
  | highCapacityV2
  | standardCapacityV2
  | standardCapacityV1
deriving DecidableEq, Inhabited

namespace ReadyMode

def name : ReadyMode → String
  | highCapacityV2 => "HighCapacityV2"
  | standardCapacityV2 => "StandardCapacityV2"
  | standardCapacityV1 => "StandardCapacityV1"

/-- The version that a card in this mode follows. -/
def version : ReadyMode → Version
  | highCapacityV2 | standardCapacityV2 => .v2
  | standardCapacityV1 => .v1

/-- How a card in this mode is addressed. -/
def capacity : ReadyMode → Capacity
  | highCapacityV2 => .high
  | standardCapacityV2 | standardCapacityV1 => .standard

end ReadyMode

/-- The step at which a card let an operation down. -/
inductive Failure
  /-- No attempt of CMD0 brought the card into its idle state. -/
  | resetIgnored
  /-- CMD8 drew neither acceptance nor the refusal of a version 1 card. -/
  | interfaceRejected
  /-- CMD8 did not echo the supply voltage. -/
  | voltageNotEchoed
  /-- The first CMD58 failed, or its register lacks the 3.3 V range. -/
  | voltageUnsupported
  /-- CMD8 did not echo the check pattern. -/
  | patternMismatch
  /-- CMD16 was refused. -/
  | blockLengthRejected
  /-- The second CMD58 failed, or its register lacks the power-up bit. -/
  | notPoweredUp
  /-- No round of ACMD41 took the card out of its idle state. -/
  | stayedIdle
  /-- ACMD42 was refused. -/
  | pullupUnchanged
  /-- CMD17 was refused or drew no response. -/
  | readUnanswered
  /-- No start token followed the response to CMD17. -/
  | readNotStarted
  /-- The check sum of a sector was refused. -/
  | readChecksumRejected
  /-- CMD24 was refused or drew no response. -/
  | writeRejected
  /-- The card did not accept the data of a write. -/
  | writeDataRejected
  /-- The card kept signalling busy after a write. -/
  | writeBusyTimeout
  /-- CMD13 reported an error or drew no response. -/
  | statusReported
  /-- The CSD register could not be read or decoded. -/
  | csdUnreadable
  /-- The bus itself failed, so the step is not known. -/
  | unknown
deriving DecidableEq, Inhabited

namespace Failure

/-- The short name used in logs. -/
def name : Failure → String
  | resetIgnored => "Cmd0Fail"
  | interfaceRejected => "Cmd8Fail"
  | voltageNotEchoed => "VoltageSetFail"
  | voltageUnsupported => "VoltageRangeFail"
  | patternMismatch => "CheckPatternFail"
  | blockLengthRejected => "Cmd16Fail"
  | notPoweredUp => "Cmd58Fail"
  | stayedIdle => "Acmd41Fail"
  | pullupUnchanged => "Acmd42Fail"
  | readUnanswered => "ReadFailTimeout"
  | readNotStarted => "ReadFailStart"
  | readChecksumRejected => "ReadFailCrc"
  | writeRejected => "WriteFailCommand"
  | writeDataRejected => "WriteFailData"
  | writeBusyTimeout => "WriteBusyTimeout"
  | statusReported => "StatusFail"
  | csdUnreadable => "CsdFail"
  | unknown => "UnknownFail"

/-- What went wrong, for a person to read. -/
def label : Failure → String
  | resetIgnored => "cmd0 failed: card never entered idle"
  | interfaceRejected => "cmd8 failed: unexpected response"
  | voltageNotEchoed => "cmd8 failed: voltage not echoed"
  | voltageUnsupported => "ocr rejected: 3.3v range missing"
  | patternMismatch => "cmd8 failed: check pattern mismatch"
  | blockLengthRejected => "cmd16 failed: block length rejected"
  | notPoweredUp => "cmd58 failed: card not powered up"
  | stayedIdle => "acmd41 failed: card stayed idle"
  | pullupUnchanged => "acmd42 failed: pull-up not changed"
  | readUnanswered => "read failed: no command response"
  | readNotStarted => "read failed: no start token"
  | readChecksumRejected => "read failed: data crc rejected"
  | writeRejected => "write failed: command rejected"
  | writeDataRejected => "write failed: data rejected"
  | writeBusyTimeout => "write failed: card stayed busy"
  | statusReported => "status failed: card reported error"
  | csdUnreadable => "csd read failed"
  | unknown => "unknown failure"

end Failure

/-- Where a session with a card stands. -/
inductive State
  | notReady
  | initializing (version : Version)
  | ready (mode : ReadyMode)
  | failed (failure : Failure)
deriving DecidableEq, Inhabited

namespace State

/-- The mode of a ready card. -/
def readyMode : State → Option ReadyMode
  | ready mode => some mode
  | _ => none

/-- The step that failed, where one did. -/
def failure : State → Option Failure
  | failed failure => some failure
  | _ => none

def isReady (state : State) : Bool := state.readyMode.isSome

/-- The state, for a person to read. -/
def label : State → String
  | notReady => "not ready"
  | initializing .unknown => "initializing"
  | initializing .v1 => "initializing v1"
  | initializing .v2 => "initializing v2"
  | ready .highCapacityV2 => "ready: high capacity v2"
  | ready .standardCapacityV2 => "ready: standard capacity v2"
  | ready .standardCapacityV1 => "ready: standard capacity v1"
  | failed failure => failure.label

/-- Only a ready state has a mode, and it is the one it was made with. -/
theorem readyMode_eq_some_iff {state : State} {mode : ReadyMode} :
    state.readyMode = some mode ↔ state = .ready mode := by
  cases state <;> simp [readyMode]

/-- The ready states are those with a mode. -/
theorem isReady_iff {state : State} : state.isReady = true ↔ ∃ mode, state = .ready mode := by
  cases state <;> simp [isReady, readyMode]

end State

end SdCard
