/-!
# Scripted answers

A script answers calls without a card behind them: it has a queue of reply bytes, and a list of
the calls that fail, told by their numbers.
-/

namespace SdCard

/-- What is left of the replies, and which calls fail. -/
structure Script where
  replies : List UInt8
  /-- The reply once the queue is empty. -/
  idleReply : UInt8
  /-- Numbers of calls that fail, counted from one. -/
  failing : List Nat
  /-- The number from which on every call fails. -/
  failingFrom : Option Nat
  /-- Calls so far, failed ones too. -/
  calls : Nat := 0

namespace Script

/-- Counts one call, and says whether it fails. -/
def count (script : Script) : Bool × Script :=
  let number := script.calls + 1
  (script.failing.contains number || script.failingFrom.any (· ≤ number),
    { script with calls := number })

/-- A call without a reply. -/
def call {ε : Type} (fault : ε) (script : Script) : Except ε Unit × Script :=
  let (fails, script) := script.count
  (if fails then .error fault else .ok (), script)

/-- A call that takes the next reply, unless it fails. -/
def reply {ε : Type} (fault : ε) (script : Script) : Except ε UInt8 × Script :=
  let (fails, script) := script.count
  if fails then (.error fault, script)
  else match script.replies with
    | [] => (.ok script.idleReply, script)
    | byte :: rest => (.ok byte, { script with replies := rest })

end Script

end SdCard
