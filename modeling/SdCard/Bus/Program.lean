import SdCard.Log

/-!
# Programs on a serial bus

A card hangs on a bus that shifts a byte out and a byte in at the same time. Everything that is
done to a card is a `Program`: a tree whose nodes are calls of the bus, with one branch for each
answer that the call may get. A program is data; `SdCard.Bus.Run` gives it a bus to work on, and
`SdCard.Bus.Trace` describes its runs without one.

Two things shape the definition. Every call but the query of the output queue may fail, so the
branch is taken on an `Except`: nothing is assumed of a program after a fault, and what it does
then is written down like everything else. And logging is a node of its own, so that the order of
records and calls is part of a program's meaning.
-/

namespace SdCard

/-- Clock polarity and phase of the bus, numbered as usual. -/
inductive SpiMode
  | mode0
  | mode1
  | mode2
  | mode3
deriving DecidableEq, Inhabited

/-- Calls that change how the bus is driven. -/
inductive Control
  /-- Sets the clock's polarity and phase. -/
  | mode (mode : SpiMode)
  /-- Sets the clock's rate. -/
  | clock (hz : UInt32)
  /-- Names the card to be selected, or names none. -/
  | chipSelect (index : UInt8) (active : Bool)
  /-- Drives the select line of the named card: a card listens only while it is driven. -/
  | forceSelect (active : Bool)
deriving DecidableEq

/-- A computation that calls the bus and ends with an `α`; a fault of the bus is an `ε`. -/
inductive Program (ε α : Type) : Type
  | done (value : α)
  | control (call : Control) (next : Except ε Unit → Program ε α)
  /-- Shifts one byte out and goes on with the byte shifted in. -/
  | transfer (byte : UInt8) (next : Except ε UInt8 → Program ε α)
  /-- Asks whether bytes are still waiting to be shifted out. -/
  | fifoBusy (next : Bool → Program ε α)
  | log (record : LogRecord ε) (next : Program ε α)

namespace Program

variable {ε α β : Type}

/-- Runs `p`, then the program that `f` chooses by its value. -/
def bind (p : Program ε α) (f : α → Program ε β) : Program ε β :=
  match p with
  | done value => f value
  | control call next => control call fun answer => (next answer).bind f
  | transfer byte next => transfer byte fun answer => (next answer).bind f
  | fifoBusy next => fifoBusy fun answer => (next answer).bind f
  | log record next => log record (next.bind f)

instance : Monad (Program ε) where
  pure := done
  bind := bind

theorem bind_eq (p : Program ε α) (f : α → Program ε β) : p >>= f = p.bind f := rfl

theorem bind_done (p : Program ε α) : p.bind done = p := by
  induction p with
  | done => rfl
  | control call next ih => simp [bind, ih]
  | transfer byte next ih => simp [bind, ih]
  | fifoBusy next ih => simp [bind, ih]
  | log record next ih => simp [bind, ih]

/-- Sequences may be grouped either way. -/
theorem bind_bind {γ : Type} (p : Program ε α) (f : α → Program ε β) (g : β → Program ε γ) :
    (p.bind f).bind g = p.bind fun value => (f value).bind g := by
  induction p with
  | done => rfl
  | control call next ih => simp [bind, ih]
  | transfer byte next ih => simp [bind, ih]
  | fifoBusy next ih => simp [bind, ih]
  | log record next ih => simp [bind, ih]

instance : LawfulMonad (Program ε) :=
  LawfulMonad.mk' (Program ε) bind_done (fun _ _ => rfl) bind_bind

/-- Makes one log record. -/
def emit (record : LogRecord ε) : Program ε Unit := log record (done ())

end Program

end SdCard
