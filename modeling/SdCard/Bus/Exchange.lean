import SdCard.Bytes
import SdCard.Bus.Select

/-!
# Exchanges

An `Exchange` is a program on the bus that stops at the first fault. Reading a byte means
shifting an idle byte out, since the bus has no other way to clock a byte in.
-/

namespace SdCard

/-- A program on the bus that ends at the first fault. -/
abbrev Exchange (ε α : Type) := ExceptT ε (Program ε) α

namespace Exchange

variable {ε α : Type}

/-- Makes one call that changes how the bus is driven. -/
def control (call : Control) : Exchange ε Unit :=
  ExceptT.mk (Program.control call .done)

/-- Shifts one byte out and gives back the byte shifted in. -/
def transfer (byte : UInt8) : Exchange ε UInt8 :=
  ExceptT.mk (Program.transfer byte .done)

/-- Shifts one byte out and ignores the byte shifted in. -/
def sendByte (byte : UInt8) : Exchange ε Unit := do
  let _ ← transfer byte

/-- Shifts an idle byte out for the byte shifted in. -/
def receiveByte : Exchange ε UInt8 := transfer idleByte

/-- Shifts a string out and ignores the bytes shifted in. -/
def send : List UInt8 → Exchange ε Unit
  | [] => pure ()
  | byte :: bytes => do
    sendByte byte
    send bytes

/-- Shifts a string out and gives back the bytes shifted in. -/
def transferAll : List UInt8 → Exchange ε (List UInt8)
  | [] => pure []
  | byte :: bytes => do
    let reply ← transfer byte
    let replies ← transferAll bytes
    return reply :: replies

/-- Receives `n` bytes, the first one first. -/
def receive : (n : Nat) → Exchange ε (Bytes n)
  | 0 => pure #v[]
  | n + 1 => do
    let byte ← receiveByte
    let bytes ← receive n
    return bytes.cons byte

/-- Shifts out a number of idle bytes. -/
def sendIdle : Nat → Exchange ε Unit
  | 0 => pure ()
  | n + 1 => do
    sendByte idleByte
    sendIdle n

/-- Holds the select line for the time of an exchange. -/
def whileSelected (body : Exchange ε α) : Exchange ε α :=
  ExceptT.mk (Program.whileSelected .error body.run)

@[simp] theorem run_control (call : Control) :
    (control call : Exchange ε Unit).run = .control call .done := rfl

@[simp] theorem run_transfer (byte : UInt8) :
    (transfer byte : Exchange ε UInt8).run = .transfer byte .done := rfl

@[simp] theorem run_whileSelected (body : Exchange ε α) :
    (whileSelected body).run = Program.whileSelected .error body.run := rfl

/-- A string is sent by sending its parts in turn. -/
theorem send_append (bytes rest : List UInt8) :
    (send (bytes ++ rest) : Exchange ε Unit) = (do
      send bytes
      send rest) := by
  induction bytes with
  | nil => simp [send]
  | cons byte bytes ih => simp [send, ih]

end Exchange

end SdCard
