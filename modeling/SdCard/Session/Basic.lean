import SdCard.Card.State
import SdCard.Config

/-!
# Sessions

A session is what is remembered about one card between operations: where it stands, and the last
bytes the card answered with. The bus is not part of it.
-/

namespace SdCard

/-- What is remembered about a card, with the budgets that its operations keep to. -/
structure Session where
  config : Config
  /-- Index by which the bus knows the card. -/
  chipSelect : UInt8
  version : Version
  state : State
  /-- First byte of the response to the last command. -/
  lastResponse : UInt8
  /-- Last start token or data response. -/
  lastToken : UInt8
  /-- Check sum of the last block of data read. -/
  lastChecksum : UInt16
deriving DecidableEq, Inhabited

namespace Session

/-- A session with a card that has not been spoken to. -/
def fresh (chipSelect : UInt8) (config : Config) : Session where
  config := config
  chipSelect := chipSelect
  version := .unknown
  state := .notReady
  lastResponse := 0
  lastToken := 0
  lastChecksum := 0

/-- Forgets the card, but not how to reach it. -/
def reset (session : Session) : Session := fresh session.chipSelect session.config

/-- How the card is addressed, once it is ready. -/
def capacity? (session : Session) : Option Capacity :=
  session.state.readyMode.map ReadyMode.capacity

end Session

end SdCard
