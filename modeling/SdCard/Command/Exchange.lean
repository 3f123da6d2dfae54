import SdCard.Bus.Exchange
import SdCard.Command.Frame
import SdCard.Command.Response

/-!
# Talking to a selected card

A card takes a few bytes before it answers a command, and reads as idle until then. The polls
below wait for that: each shifts at least one byte, stops at the first byte of the kind it waits
for, and never looks further than its bound. A poll that runs out of bytes gives the idle byte,
which no card sends as a response.
-/

namespace SdCard

/-- A bound on polls as a count: a bound of zero still allows one. -/
def atLeastOnce (bound : UInt32) : Nat := max bound.toNat 1

namespace Exchange

variable {ε : Type}

/-- Shifts out the frame of a command. -/
def sendCommand (command : Command) : Exchange ε Unit := send command.frame.toList

/-- Reads bytes up to the first that is not idle, at most `polls` of them. -/
def pollWithin : (polls : Nat) → Exchange ε UInt8
  | 0 => pure idleByte
  | polls + 1 => do
    let reply ← receiveByte
    if reply = idleByte then pollWithin polls else pure reply

/-- Reads bytes up to the first that is not zero, at most `polls` of them, and says whether there
was one. -/
def waitWithin : (polls : Nat) → Exchange ε Bool
  | 0 => pure false
  | polls + 1 => do
    let reply ← receiveByte
    if reply = 0 then waitWithin polls else pure true

/-- Waits for a response or a token. -/
def poll (bound : UInt32) : Exchange ε UInt8 := pollWithin (atLeastOnce bound)

/-- Waits for the end of a write, while which the card holds the data line low. -/
def waitReleased (bound : UInt32) : Exchange ε Bool := waitWithin (atLeastOnce bound)

/-- Reads a response into a buffer. Only its first byte is waited for; if it does not come, the
rest of the buffer stays as it is. -/
def receiveResponse (bound : UInt32) : {n : Nat} → Bytes n → Exchange ε (Bytes n)
  | 0, buffer => pure buffer
  | n + 1, buffer => do
    let first ← poll bound
    if first = idleByte then
      return buffer.set 0 first
    else
      let rest ← receive n
      return rest.cons first

/-- Sends an application command after its announcement. If the announcement draws an error, that
is the response and the command is not sent. -/
def sendApplicationCommand (bound : UInt32) (command : Command) : Exchange ε UInt8 := do
  sendCommand .applicationCommand
  let announced ← poll bound
  if Response.isClean announced then
    sendCommand command
    poll bound
  else
    pure announced

end Exchange

end SdCard
