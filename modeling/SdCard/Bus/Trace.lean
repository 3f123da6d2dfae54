import SdCard.Bus.Program

/-!
# Runs of a program

What a program does can be told without saying what is at the other end of the bus: `Traces p t a`
holds when the calls of `p`, answered as the trace `t` says, make exactly `t` and end with `a`. A
statement about every bus is a statement about every trace. The traces of a sequence are those of
its parts, one after the other (`traces_bind_iff`).
-/

namespace SdCard

/-- One call with its answer, or one log record. -/
inductive Event (ε : Type)
  | control (call : Control) (answer : Except ε Unit)
  | transfer (byte : UInt8) (answer : Except ε UInt8)
  | fifoBusy (answer : Bool)
  | log (record : LogRecord ε)

namespace Program

variable {ε α β : Type}

/-- The program `p` can go through the events `t` and end with the value `a`. -/
inductive Traces : Program ε α → List (Event ε) → α → Prop
  | done (value : α) : Traces (done value) [] value
  | control {call next answer t a} :
      Traces (next answer) t a → Traces (control call next) (.control call answer :: t) a
  | transfer {byte next answer t a} :
      Traces (next answer) t a → Traces (transfer byte next) (.transfer byte answer :: t) a
  | fifoBusy {next answer t a} :
      Traces (next answer) t a → Traces (fifoBusy next) (.fifoBusy answer :: t) a
  | log {record next t a} :
      Traces next t a → Traces (log record next) (.log record :: t) a

/-- Traces of two programs join to a trace of their sequence. -/
theorem Traces.bind {p : Program ε α} {f : α → Program ε β} {t u : List (Event ε)} {a : α} {b : β}
    (hp : Traces p t a) (hf : Traces (f a) u b) : Traces (p >>= f) (t ++ u) b := by
  induction hp with
  | done => exact hf
  | control _ ih => exact .control (ih hf)
  | transfer _ ih => exact .transfer (ih hf)
  | fifoBusy _ ih => exact .fifoBusy (ih hf)
  | log _ ih => exact .log (ih hf)

/-- A trace of a sequence is a trace of its first part followed by one of its second. -/
theorem traces_bind_iff {p : Program ε α} {f : α → Program ε β} {t : List (Event ε)} {b : β} :
    Traces (p >>= f) t b ↔ ∃ t₁ t₂ a, t = t₁ ++ t₂ ∧ Traces p t₁ a ∧ Traces (f a) t₂ b := by
  constructor
  · intro h
    rw [bind_eq] at h
    induction p generalizing t with
    | done value => exact ⟨[], t, value, rfl, .done value, h⟩
    | control call next ih =>
      cases h with
      | control h =>
        obtain ⟨t₁, t₂, a, rfl, hp, hf⟩ := ih _ h
        exact ⟨_ :: t₁, t₂, a, rfl, .control hp, hf⟩
    | transfer byte next ih =>
      cases h with
      | transfer h =>
        obtain ⟨t₁, t₂, a, rfl, hp, hf⟩ := ih _ h
        exact ⟨_ :: t₁, t₂, a, rfl, .transfer hp, hf⟩
    | fifoBusy next ih =>
      cases h with
      | fifoBusy h =>
        obtain ⟨t₁, t₂, a, rfl, hp, hf⟩ := ih _ h
        exact ⟨_ :: t₁, t₂, a, rfl, .fifoBusy hp, hf⟩
    | log record next ih =>
      cases h with
      | log h =>
        obtain ⟨t₁, t₂, a, rfl, hp, hf⟩ := ih h
        exact ⟨_ :: t₁, t₂, a, rfl, .log hp, hf⟩
  · rintro ⟨t₁, t₂, a, rfl, hp, hf⟩
    exact hp.bind hf

end Program

end SdCard
