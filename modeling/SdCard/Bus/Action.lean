import SdCard.Bus.Exchange

/-!
# Actions

An `Action` is a program on the bus that reads and changes a state while it runs, and that may
end with an error. It keeps the state when it ends with an error, so what a failed operation
leaves behind is part of its meaning. `Action.exec` shows all of it: from a state, a program that
gives the result together with the state left behind.

An exchange is taken into an action by `Action.exchange`; a fault of the bus is then a transport
error.
-/

namespace SdCard

/-- A program on the bus that works on a state `σ` and may end with an error. -/
abbrev Action (ε σ α : Type) := ExceptT (Error ε) (StateT σ (Program ε)) α

namespace Action

variable {ε σ τ α β : Type}

/-- The program of an action, from a state to its result and the state it leaves. -/
def exec (action : Action ε σ α) (s : σ) : Program ε (Except (Error ε) α × σ) := action.run.run s

/-- The action with a given program. -/
def ofProgram (program : σ → Program ε (Except (Error ε) α × σ)) : Action ε σ α :=
  ExceptT.mk program

/-- Runs an exchange, which leaves the state alone. -/
def exchange (exchange : Exchange ε α) : Action ε σ α := ofProgram fun s => do
  let result ← exchange.run
  return (result.mapError .transport, s)

/-- Makes one log record. -/
def log (record : LogRecord ε) : Action ε σ Unit := ofProgram fun s => do
  Program.emit record
  return (.ok (), s)

/-- Fails at a step of the protocol where a condition does not hold. -/
def require (condition : Prop) [Decidable condition] (failure : Failure) : Action ε σ Unit :=
  if condition then pure () else throw (.card failure)

/-- Holds the select line for the time of an action. -/
def whileSelected (body : Action ε σ α) : Action ε σ α := ofProgram fun s =>
  Program.whileSelected (fun fault => (.error (.transport fault), s)) (body.exec s)

/-- Lets an action work on a part of a larger state. -/
def onPart (get : τ → σ) (set : σ → τ → τ) (action : Action ε σ α) : Action ε τ α :=
  ofProgram fun t => do
    let (result, s) ← action.exec (get t)
    return (result, set s t)

/-- Takes note of the error of an action that ends with one. -/
def noting (note : Error ε → Action ε σ Unit) (body : Action ε σ α) : Action ε σ α :=
  tryCatch body fun error => do
    note error
    throw error

/-! ## What each form of action does -/

@[simp] theorem exec_ofProgram (program : σ → Program ε (Except (Error ε) α × σ)) (s : σ) :
    (ofProgram program).exec s = program s := rfl

@[simp] theorem exec_pure (value : α) (s : σ) :
    (pure value : Action ε σ α).exec s = pure (.ok value, s) := rfl

@[simp] theorem exec_throw (error : Error ε) (s : σ) :
    (throw error : Action ε σ α).exec s = pure (.error error, s) := rfl

/-- The second action runs only after a success, on the state that the first one left. -/
@[simp] theorem exec_bind (action : Action ε σ α) (f : α → Action ε σ β) (s : σ) :
    (action >>= f).exec s = (do
      let (result, s) ← action.exec s
      match result with
      | .ok value => (f value).exec s
      | .error error => pure (.error error, s)) := by
  change (action.exec s).bind _ = (action.exec s).bind _
  congr 1
  funext ⟨result, s⟩
  cases result <;> rfl

/-- The handler runs only after an error, on the state that the failed action left. -/
@[simp] theorem exec_tryCatch (action : Action ε σ α) (handle : Error ε → Action ε σ α) (s : σ) :
    (tryCatch action handle).exec s = (do
      let (result, s) ← action.exec s
      match result with
      | .ok value => pure (.ok value, s)
      | .error error => (handle error).exec s) := by
  change (action.exec s).bind _ = (action.exec s).bind _
  congr 1
  funext ⟨result, s⟩
  cases result <;> rfl

@[simp] theorem exec_exchange (exchange : Exchange ε α) (s : σ) :
    (Action.exchange exchange).exec s = (do
      let result ← exchange.run
      return (result.mapError .transport, s)) := rfl

@[simp] theorem exec_get (s : σ) : (get : Action ε σ σ).exec s = pure (.ok s, s) := rfl

@[simp] theorem exec_set (s' s : σ) : (set s' : Action ε σ Unit).exec s = pure (.ok (), s') := rfl

@[simp] theorem exec_modify (f : σ → σ) (s : σ) :
    (modify f : Action ε σ Unit).exec s = pure (.ok (), f s) := rfl

@[simp] theorem exec_log (record : LogRecord ε) (s : σ) :
    (log record : Action ε σ Unit).exec s = (do
      Program.emit record
      return (.ok (), s)) := rfl

@[simp] theorem exec_require (condition : Prop) [Decidable condition] (failure : Failure) (s : σ) :
    (require condition failure : Action ε σ Unit).exec s =
      pure (if condition then .ok () else .error (.card failure), s) := by
  by_cases h : condition <;> simp [require, h]

@[simp] theorem exec_whileSelected (body : Action ε σ α) (s : σ) :
    (whileSelected body).exec s =
      Program.whileSelected (fun fault => (.error (.transport fault), s)) (body.exec s) := rfl

@[simp] theorem exec_onPart (get : τ → σ) (set : σ → τ → τ) (action : Action ε σ α) (t : τ) :
    (onPart get set action).exec t = (do
      let (result, s) ← action.exec (get t)
      return (result, set s t)) := rfl

/-- Noting an error changes neither a result nor the state left by a success. -/
theorem exec_noting (note : Error ε → Action ε σ Unit) (body : Action ε σ α) (s : σ) :
    (noting note body).exec s = (do
      let (result, s) ← body.exec s
      match result with
      | .ok value => pure (.ok value, s)
      | .error error => (do
          note error
          throw error : Action ε σ α).exec s) := by
  rw [noting, exec_tryCatch]

end Action

end SdCard
