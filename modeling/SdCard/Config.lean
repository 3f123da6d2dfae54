import SdCard.Saturating

/-!
# Budgets of a session

A session never waits for a clock: every wait is a number of bytes to shift, and a byte takes
eight periods of the bus clock. `bytesForMillis` turns a time into such a number, and the
`…Polls` and `…Rounds` of a configuration are its time limits as counts.
-/

namespace SdCard

/-- Bytes that fit into a number of milliseconds at a clock rate, and at least one. -/
def bytesForMillis (hz millis : UInt32) : UInt32 :=
  let bytes := saturatingMul (hz / 8 / 1000) millis
  if bytes = 0 then 1 else bytes

/-- How fast a session drives the bus, and how long it waits for a card. -/
structure Config where
  /-- Clock rate up to the answer to CMD8. -/
  initialHz : UInt32 := 400000
  /-- Clock rate from then on. -/
  dataHz : UInt32 := 20000000
  /-- Bytes shifted with no card selected before each CMD0. -/
  powerUpBytes : Nat := 10
  /-- Bytes polled for the response to a command. -/
  responsePolls : UInt32 := 8
  /-- Attempts of CMD0. -/
  resetAttempts : UInt32 := 10
  /-- Time for the card to leave its idle state. -/
  readyMillis : UInt32 := 1000
  /-- Time for the start token of a read. -/
  readMillis : UInt32 := 100
  /-- Time for the card to finish a write. -/
  writeMillis : UInt32 := 500
deriving DecidableEq, Inhabited

/-- The bytes of one round of CMD55 and ACMD41: two frames, each with eight bytes of polling. -/
def readyRoundBytes : UInt32 := 2 * (6 + 8)

namespace Config

/-- Bytes polled for the start token of a read. -/
def tokenPolls (config : Config) : UInt32 := bytesForMillis config.dataHz config.readMillis

/-- Bytes polled for the end of a write. -/
def busyPolls (config : Config) : UInt32 := bytesForMillis config.dataHz config.writeMillis

/-- Rounds of CMD55 and ACMD41, and at least one. -/
def readyRounds (config : Config) : UInt32 :=
  let rounds := bytesForMillis config.dataHz config.readyMillis / readyRoundBytes
  if rounds = 0 then 1 else rounds

end Config

end SdCard
