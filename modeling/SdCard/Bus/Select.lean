import SdCard.Bus.Program

/-!
# Selecting a card

A card takes part in a program while its select line is driven. `Program.whileSelected` holds the
line for the time of a body and lets go of it on every way out of the body: it waits a bounded
time for the output queue to empty, releases the line, and shifts one more idle byte, which a card
needs to let go of the data line. Faults met while letting go are passed over; the result is the
body's.
-/

namespace SdCard

/-- What an idle data line reads as, and what is shifted out to read. -/
def idleByte : UInt8 := 0xFF

/-- Queries of the output queue that are made again before the select line is released. -/
def drainPolls : Nat := 1024

namespace Program

variable {ε α : Type}

/-- Asks whether the output queue is busy until it is not, at most `polls + 1` times. -/
def drain : (polls : Nat) → Program ε Unit
  | 0 => fifoBusy fun _ => done ()
  | polls + 1 => fifoBusy fun busy => if busy then drain polls else done ()

/-- Lets go of the card. -/
def release : Program ε Unit := do
  drain drainPolls
  -- the idle byte follows even where the line could not be released
  control (.forceSelect false) fun _ => transfer idleByte fun _ => done ()

/-- Runs a body with the card selected. If selecting fails there is no body and no release. -/
def whileSelected (refused : ε → α) (body : Program ε α) : Program ε α :=
  control (.forceSelect true) fun
    | .error fault => done (refused fault)
    | .ok () => do
      let result ← body
      release
      return result

end Program

end SdCard
