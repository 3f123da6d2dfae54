import SdCard.Bus.Action
import SdCard.Command.Exchange
import SdCard.Session.Basic

/-!
# Commands of a session

Each command is one exchange under the select line, after which the session keeps the first byte
of the response. The session also takes note of every error of the bus or the card: `record` puts
the failure into the session and warns about it. An operation that was turned away before it
touched the bus leaves no note.
-/

namespace SdCard

namespace Session

variable {ε α : Type}

/-- Notes an error in the session and in the log. -/
def record (error : Error ε) : Action ε Session Unit := do
  let session ← get
  match error with
  | .card failure =>
    set { session with state := .failed failure }
    Action.log (.cardFailed session.chipSelect failure session.lastResponse session.lastToken)
  | .transport fault =>
    Action.log (.transportFailed session.chipSelect fault)
    set { session with state := .failed .unknown }
  | .notReady | .outOfRange .. => pure ()

/-- Runs an action and notes the error that it ends with, if it does. -/
def recording (body : Action ε Session α) : Action ε Session α := Action.noting record body

/-- The mode of a card that is ready; any other turns an operation away. -/
def requireReady : Action ε Session ReadyMode := do
  match (← get).state.readyMode with
  | some mode => pure mode
  | none => throw .notReady

/-- Keeps the first byte of a response. -/
def keepResponse (response : UInt8) : Action ε Session Unit :=
  modify fun session => { session with lastResponse := response }

/-- Keeps a start token or a data response. -/
def keepToken (token : UInt8) : Action ε Session Unit :=
  modify fun session => { session with lastToken := token }

/-- Sends a command whose response is R1 alone. -/
def command (command : Command) : Action ε Session UInt8 := do
  let polls := (← get).config.responsePolls
  let response ← Action.exchange <| Exchange.whileSelected do
    Exchange.sendCommand command
    Exchange.poll polls
  keepResponse response
  return response

/-- Sends a command whose response is R1 and `n` bytes more. -/
def commandWithPayload (command : Command) (n : Nat) : Action ε Session (Bytes (n + 1)) := do
  let polls := (← get).config.responsePolls
  let response ← Action.exchange <| Exchange.whileSelected do
    Exchange.sendCommand command
    Exchange.receiveResponse polls (Bytes.zero (n + 1))
  keepResponse (response.get ⟨0, n.succ_pos⟩)
  return response

/-- Sends an application command after its announcement, both in one exchange. -/
def applicationCommand (command : Command) : Action ε Session UInt8 := do
  let polls := (← get).config.responsePolls
  let response ← Action.exchange <| Exchange.whileSelected <|
    Exchange.sendApplicationCommand polls command
  keepResponse response
  return response

end Session

end SdCard
