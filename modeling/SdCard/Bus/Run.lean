import SdCard.Bus.Trace

/-!
# Running a program on a bus

A `Bus` answers calls from a state of its own. `Program.run` works a program off against a bus
and gives back the value, the state the bus is left in, and the events in order.

`run_traces` connects this with `Traces`: a run is one of the program's traces, so what holds of
every trace holds on every bus.
-/

namespace SdCard

/-- How a bus with states `σ` answers; a fault is an `ε`. -/
structure Bus (ε σ : Type) where
  control : Control → σ → Except ε Unit × σ
  transfer : UInt8 → σ → Except ε UInt8 × σ
  fifoBusy : σ → Bool × σ

/-- What a run leaves behind. -/
structure Run (ε σ α : Type) where
  value : α
  bus : σ
  events : Array (Event ε)

namespace Program

variable {ε σ α β : Type}

/-- Works `p` off from the state `s`, adding to the events made so far. -/
def runFrom (bus : Bus ε σ) (p : Program ε α) (s : σ) (events : Array (Event ε)) : Run ε σ α :=
  match p with
  | done value => ⟨value, s, events⟩
  | control call next =>
    let (answer, s) := bus.control call s
    (next answer).runFrom bus s (events.push (.control call answer))
  | transfer byte next =>
    let (answer, s) := bus.transfer byte s
    (next answer).runFrom bus s (events.push (.transfer byte answer))
  | fifoBusy next =>
    let (answer, s) := bus.fifoBusy s
    (next answer).runFrom bus s (events.push (.fifoBusy answer))
  | log record next => next.runFrom bus s (events.push (.log record))

/-- Works `p` off on a bus that is in the state `s`. -/
def run (bus : Bus ε σ) (p : Program ε α) (s : σ) : Run ε σ α := p.runFrom bus s #[]

/-- A run adds a trace of the program to the events made so far. -/
theorem runFrom_traces (bus : Bus ε σ) (p : Program ε α) (s : σ) (events : Array (Event ε)) :
    ∃ t, (p.runFrom bus s events).events.toList = events.toList ++ t ∧
      Traces p t (p.runFrom bus s events).value := by
  induction p generalizing s events with
  | done value => exact ⟨[], by simp [runFrom], .done value⟩
  | control call next ih =>
    obtain ⟨t, h, ht⟩ := ih _ (bus.control call s).2
      (events.push (.control call (bus.control call s).1))
    exact ⟨_ :: t, by simpa [runFrom] using h, .control ht⟩
  | transfer byte next ih =>
    obtain ⟨t, h, ht⟩ := ih _ (bus.transfer byte s).2
      (events.push (.transfer byte (bus.transfer byte s).1))
    exact ⟨_ :: t, by simpa [runFrom] using h, .transfer ht⟩
  | fifoBusy next ih =>
    obtain ⟨t, h, ht⟩ := ih _ (bus.fifoBusy s).2 (events.push (.fifoBusy (bus.fifoBusy s).1))
    exact ⟨_ :: t, by simpa [runFrom] using h, .fifoBusy ht⟩
  | log record next ih =>
    obtain ⟨t, h, ht⟩ := ih s (events.push (.log record))
    exact ⟨_ :: t, by simpa [runFrom] using h, .log ht⟩

/-- The events of a run are a trace of the program that ends with the run's value. -/
theorem run_traces (bus : Bus ε σ) (p : Program ε α) (s : σ) :
    Traces p (p.run bus s).events.toList (p.run bus s).value := by
  obtain ⟨t, h, ht⟩ := runFrom_traces bus p s #[]
  rw [run, h]
  simpa using ht

/-- A sequence runs its second part where the first part left the bus. -/
theorem runFrom_bind (bus : Bus ε σ) (p : Program ε α) (f : α → Program ε β) (s : σ)
    (events : Array (Event ε)) :
    (p >>= f).runFrom bus s events =
      (f (p.runFrom bus s events).value).runFrom bus (p.runFrom bus s events).bus
        (p.runFrom bus s events).events := by
  rw [bind_eq]
  induction p generalizing s events with
  | done value => rfl
  | control call next ih => simp only [Program.bind, runFrom, ih]
  | transfer byte next ih => simp only [Program.bind, runFrom, ih]
  | fifoBusy next ih => simp only [Program.bind, runFrom, ih]
  | log record next ih => simp only [Program.bind, runFrom, ih]

end Program

end SdCard
