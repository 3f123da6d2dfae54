import SdCard.Error
import SdCard.Hex

/-!
# Log records

What a session and a disk report while they work. A record carries the values it reports;
`LogRecord.level` and `LogRecord.text` say how it is written out.
-/

namespace SdCard

/-- How much a record matters. -/
inductive LogLevel
  | warn
  | debug
deriving DecidableEq

/-- One record, with the chip-select index of the session that made it. -/
inductive LogRecord (ε : Type)
  /-- An operation failed at a step of the protocol, with the last response and data token. -/
  | cardFailed (chipSelect : UInt8) (failure : Failure) (response token : UInt8)
  /-- A call of the bus failed. -/
  | transportFailed (chipSelect : UInt8) (fault : ε)
  /-- CMD8 told the version of the card. -/
  | versionFound (chipSelect : UInt8) (version : Version)
  /-- The handshake succeeded. -/
  | becameReady (chipSelect : UInt8) (mode : ReadyMode)
  /-- A disk could not be brought up, with the state in which that left its session. -/
  | diskFailed (chipSelect : UInt8) (error : Error ε) (state : State)
deriving DecidableEq

namespace LogRecord

variable {ε : Type}

/-- Failures are warnings. -/
def level : LogRecord ε → LogLevel
  | cardFailed .. | transportFailed .. | diskFailed .. => .warn
  | versionFound .. | becameReady .. => .debug

/-- The record as one line. -/
def text [ToString ε] : LogRecord ε → String
  | cardFailed cs failure response token =>
    s!"sdcard[cs{cs}]: failed state={failure.label} r1=0x{hex response} token=0x{hex token}"
  | transportFailed cs fault => s!"sdcard[cs{cs}]: transport_error={fault}"
  | versionFound cs version => s!"sdcard[cs{cs}]: cmd8 version={version.name}"
  | becameReady cs mode => s!"sdcard[cs{cs}]: ready mode={mode.name}"
  | diskFailed cs error state => s!"diskio[cs{cs}]: init_error={error.detail} state={state.label}"

end LogRecord

end SdCard
