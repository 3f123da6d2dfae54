import SdCard.Bus.Action
import SdCard.Bus.Run
import SdCard.Command.Exchange
import SdCard.Proofs.Bus.Faults
import SdCard.Proofs.Bus.Message

/-!
# What can happen on a bus

A contract says what every run keeps to. Whether a bound can be reached is a question about one run,
and `Can` answers it: without any fault, a program can end with a value when it has sent so many
bytes. Runs are put together from their parts, as contracts are.

* `replayBus` and `Traces.run_replay`: what can happen does happen on some bus;
* `Exchange.can_pollWithin`: a poll can use up its bound and then hear any byte;
* `Exchange.Can.whileSelected`: a release costs one byte more.
-/

namespace SdCard

variable {ε σ α β : Type}

/-- A string that is not empty has a first byte. -/
theorem Bytes.exists_cons {n : Nat} (bytes : Bytes (n + 1)) :
    ∃ first rest, bytes = Bytes.cons first rest := by
  refine ⟨bytes[0], Vector.ofFn fun index : Fin n => bytes[index.val + 1], ?_⟩
  rw [← Vector.toList_inj, Bytes.toList_cons]
  apply List.ext_getElem
  · simp
  · intro index h h'
    cases index with
    | zero => simp
    | succ index => simp

theorem Bytes.getElem_cons_zero {n : Nat} (first : UInt8) (others : Bytes n) (h : 0 < n + 1) :
    (Bytes.cons first others)[0] = first := by simp [Bytes.cons]

/-! ## Any run on a bus of its own -/

/-- A bus that gives the answers of a run, one after the other. -/
def replayBus : Bus ε (List (Event ε)) where
  control _ calls :=
    match calls with
    | .control _ answer :: calls => (answer, calls)
    | calls => (.ok (), calls)
  transfer _ calls :=
    match calls with
    | .transfer _ answer :: calls => (answer, calls)
    | calls => (.ok idleByte, calls)
  fifoBusy calls :=
    match calls with
    | .fifoBusy answer :: calls => (answer, calls)
    | calls => (false, calls)

namespace Program

/-- On the bus that replays its calls, a program goes through the run again. -/
theorem Traces.runFrom_replay {p : Program ε α} {t : List (Event ε)} {value : α}
    (h : Traces p t value) (events : Array (Event ε)) :
    (p.runFrom replayBus (busCalls t) events).value = value ∧
    (p.runFrom replayBus (busCalls t) events).events.toList = events.toList ++ t := by
  induction h generalizing events with
  | done value => exact ⟨rfl, by simp [runFrom]⟩
  | control _ ih =>
    obtain ⟨hvalue, hevents⟩ := ih (events.push _)
    exact ⟨hvalue, hevents.trans (by simp)⟩
  | transfer _ ih =>
    obtain ⟨hvalue, hevents⟩ := ih (events.push _)
    exact ⟨hvalue, hevents.trans (by simp)⟩
  | fifoBusy _ ih =>
    obtain ⟨hvalue, hevents⟩ := ih (events.push _)
    exact ⟨hvalue, hevents.trans (by simp)⟩
  | log _ ih =>
    obtain ⟨hvalue, hevents⟩ := ih (events.push _)
    exact ⟨hvalue, hevents.trans (by simp)⟩

/-- Every trace is a run on some bus. -/
theorem Traces.run_replay {p : Program ε α} {t : List (Event ε)} {value : α}
    (h : Traces p t value) :
    (p.run replayBus (busCalls t)).value = value ∧
    (p.run replayBus (busCalls t)).events.toList = t := by
  simpa [run] using h.runFrom_replay #[]

/-- Without any fault, the program can end with the value after so many bytes. -/
def Can (p : Program ε α) (count : Nat) (value : α) : Prop :=
  ∃ t, Traces p t value ∧ faults t = [] ∧ (sent t).length = count

theorem can_pure (value : α) : Can (pure value : Program ε α) 0 value :=
  ⟨[], .done value, rfl, rfl⟩

theorem Can.bind {p : Program ε α} {f : α → Program ε β} {count more total : Nat} {value : α}
    {result : β} (hp : Can p count value) (hf : Can (f value) more result)
    (htotal : total = count + more) : Can (p >>= f) total result := by
  obtain ⟨t, ht, hfaults, rfl⟩ := hp
  obtain ⟨u, hu, hfaults', rfl⟩ := hf
  exact ⟨t ++ u, ht.bind hu, by rw [faults_append, hfaults, hfaults']; rfl, by simp [htotal]⟩

theorem can_control (call : Control) :
    Can (control call done : Program ε (Except ε Unit)) 0 (.ok ()) :=
  ⟨[.control call (.ok ())], .control (.done _), rfl, rfl⟩

theorem can_transfer (byte reply : UInt8) :
    Can (transfer byte done : Program ε (Except ε UInt8)) 1 (.ok reply) :=
  ⟨[.transfer byte (.ok reply)], .transfer (.done _), rfl, rfl⟩

/-- The output queue can be empty at once. -/
theorem can_drain (polls : Nat) : Can (drain polls : Program ε Unit) 0 () := by
  cases polls with
  | zero => exact ⟨[.fifoBusy false], .fifoBusy (.done ()), rfl, rfl⟩
  | succ polls => exact ⟨[.fifoBusy false], .fifoBusy (.done ()), rfl, rfl⟩

theorem can_release : Can (release : Program ε Unit) 1 () := by
  unfold release
  refine Can.bind (can_drain drainPolls) ?_ (Nat.zero_add 1).symm
  exact ⟨[.control (.forceSelect false) (.ok ()), .transfer idleByte (.ok idleByte)],
    .control (.transfer (.done ())), rfl, rfl⟩

/-- A release costs one byte more. -/
theorem Can.whileSelected {body : Program ε α} {refused : ε → α} {count : Nat} {value : α}
    (h : Can body count value) : Can (whileSelected refused body) (count + 1) value := by
  have hheld : Can (body >>= fun result => release >>= fun _ => pure result) (count + 1) value :=
    h.bind (can_release.bind (can_pure value) rfl) rfl
  obtain ⟨t, ht, hfaults, hcount⟩ := hheld
  exact ⟨.control (.forceSelect true) (.ok ()) :: t, .control ht, hfaults, hcount⟩

end Program

namespace Exchange

/-- Without any fault, the exchange can end with the value after so many bytes. -/
def Can (exchange : Exchange ε α) (count : Nat) (value : α) : Prop :=
  Program.Can exchange.run count (.ok value)

theorem can_pure (value : α) : (pure value : Exchange ε α).Can 0 value := Program.can_pure _

theorem Can.bind {exchange : Exchange ε α} {f : α → Exchange ε β} {count more total : Nat}
    {value : α} {result : β} (hexchange : exchange.Can count value)
    (hf : (f value).Can more result) (htotal : total = count + more) :
    (exchange >>= f).Can total result :=
  Program.Can.bind hexchange hf htotal

theorem Can.whileSelected {body : Exchange ε α} {count : Nat} {value : α}
    (h : body.Can count value) : (Exchange.whileSelected body).Can (count + 1) value :=
  Program.Can.whileSelected h

theorem can_control (call : Control) : (control call : Exchange ε Unit).Can 0 () :=
  Program.can_control call

theorem can_receiveByte (reply : UInt8) : (receiveByte : Exchange ε UInt8).Can 1 reply :=
  Program.can_transfer idleByte reply

theorem can_sendByte (byte : UInt8) : (sendByte byte : Exchange ε Unit).Can 1 () := by
  have htransfer : (transfer byte : Exchange ε UInt8).Can 1 idleByte :=
    Program.can_transfer byte idleByte
  exact Can.bind htransfer (can_pure ()) rfl

theorem can_send (bytes : List UInt8) : (send bytes : Exchange ε Unit).Can bytes.length () := by
  induction bytes with
  | nil => exact can_pure ()
  | cons byte bytes ih => exact Can.bind (can_sendByte byte) ih (Nat.add_comm ..)

theorem can_sendIdle (count : Nat) : (sendIdle count : Exchange ε Unit).Can count () := by
  induction count with
  | zero => exact can_pure ()
  | succ count ih => exact Can.bind (can_sendByte idleByte) ih (Nat.add_comm ..)

/-- Any bytes can be received. -/
theorem can_receive {n : Nat} (bytes : Bytes n) :
    (receive n : Exchange ε (Bytes n)).Can n bytes := by
  induction n with
  | zero =>
    rw [show bytes = #v[] from Vector.eq_empty]
    exact can_pure _
  | succ n ih =>
    obtain ⟨first, rest, rfl⟩ := bytes.exists_cons
    exact Can.bind (can_receiveByte first) (Can.bind (ih rest) (can_pure _) rfl) (Nat.add_comm ..)

/-- A poll can use up its bound, and then hear any byte. -/
theorem can_pollWithin (polls : Nat) (reply : UInt8) :
    (pollWithin (polls + 1) : Exchange ε UInt8).Can (polls + 1) reply := by
  induction polls with
  | zero =>
    have hlast : (if reply = idleByte then pollWithin 0 else pure reply : Exchange ε UInt8).Can 0
        reply := by
      split
      · rename_i hidle
        rw [hidle]
        exact can_pure idleByte
      · exact can_pure reply
    exact Can.bind (can_receiveByte reply) hlast rfl
  | succ polls ih =>
    exact Can.bind (can_receiveByte idleByte) ih (Nat.add_comm ..)

theorem atLeastOnce_eq_succ (bound : UInt32) : ∃ polls, atLeastOnce bound = polls + 1 :=
  ⟨atLeastOnce bound - 1, by have : 1 ≤ atLeastOnce bound := Nat.le_max_right ..; omega⟩

theorem can_poll (bound : UInt32) (reply : UInt8) :
    (poll bound : Exchange ε UInt8).Can (atLeastOnce bound) reply := by
  obtain ⟨polls, hpolls⟩ := atLeastOnce_eq_succ bound
  rw [poll, hpolls]
  exact can_pollWithin polls reply

/-- A card can be busy until the last poll. -/
theorem can_waitReleased (bound : UInt32) :
    (waitReleased bound : Exchange ε Bool).Can (atLeastOnce bound) true := by
  obtain ⟨polls, hpolls⟩ := atLeastOnce_eq_succ bound
  rw [waitReleased, hpolls]
  clear hpolls
  induction polls with
  | zero => exact Can.bind (can_receiveByte 1) (can_pure true) rfl
  | succ polls ih => exact Can.bind (can_receiveByte 0) ih (Nat.add_comm ..)

theorem can_sendCommand (cmd : Command) : (sendCommand cmd : Exchange ε Unit).Can 6 () :=
  can_send cmd.frame.toList

theorem can_sendAndPoll (cmd : Command) (polls : UInt32) (reply : UInt8) :
    (do
      sendCommand cmd
      poll polls : Exchange ε UInt8).Can (6 + atLeastOnce polls) reply :=
  Can.bind (can_sendCommand cmd) (can_poll polls reply) rfl

/-- A response can be any that does not start with the idle byte. -/
theorem can_receiveResponse (bound : UInt32) {n : Nat} (buffer : Bytes (n + 1)) {first : UInt8}
    (rest : Bytes n) (hfirst : first ≠ idleByte) :
    (receiveResponse bound buffer : Exchange ε (Bytes (n + 1))).Can (atLeastOnce bound + n)
      (rest.cons first) := by
  have hrest : (if first = idleByte then return buffer.set 0 first else do
        let rest ← receive n
        return rest.cons first : Exchange ε (Bytes (n + 1))).Can n (rest.cons first) := by
    rw [if_neg hfirst]
    exact Can.bind (can_receive rest) (can_pure _) rfl
  exact Can.bind (can_poll bound first) hrest rfl

/-- An announcement can be accepted at the last poll, and the command answered at the last one. -/
theorem can_sendApplicationCommand (bound : UInt32) (cmd : Command) (reply : UInt8) :
    (sendApplicationCommand bound cmd : Exchange ε UInt8).Can
      (6 + (atLeastOnce bound + (6 + atLeastOnce bound))) reply :=
  Can.bind (can_sendCommand _) (Can.bind (can_poll bound 0) (can_sendAndPoll cmd bound reply) rfl)
    rfl

end Exchange

namespace Action

/-- Without any fault, from one state, the action can end with the value and leave the other state
after so many bytes. -/
def Can (action : Action ε σ α) (s : σ) (count : Nat) (value : α) (s' : σ) : Prop :=
  Program.Can (action.exec s) count (.ok value, s')

theorem can_pure (value : α) (s : σ) : (pure value : Action ε σ α).Can s 0 value s :=
  Program.can_pure _

theorem Can.bind {action : Action ε σ α} {f : α → Action ε σ β} {count more total : Nat}
    {s s' s'' : σ} {value : α} {result : β} (haction : action.Can s count value s')
    (hf : (f value).Can s' more result s'') (htotal : total = count + more) :
    (action >>= f).Can s total result s'' := by
  unfold Can
  rw [exec_bind]
  exact Program.Can.bind haction hf htotal

theorem can_get_bind {f : σ → Action ε σ α} {s s' : σ} {count : Nat} {value : α}
    (h : (f s).Can s count value s') : (get >>= f).Can s count value s' := h

theorem can_modify_bind {g : σ → σ} {f : Unit → Action ε σ α} {s s' : σ} {count : Nat} {value : α}
    (h : (f ()).Can (g s) count value s') : (modify g >>= f).Can s count value s' := h

theorem can_require {condition : Prop} [Decidable condition] {failure : Failure}
    (hcondition : condition) (s : σ) :
    (require condition failure : Action ε σ Unit).Can s 0 () s := by
  unfold require
  rw [if_pos hcondition]
  exact can_pure () s

theorem can_require_bind {condition : Prop} [Decidable condition] {failure : Failure}
    {f : Unit → Action ε σ α} {s s' : σ} {count : Nat} {value : α} (hcondition : condition)
    (h : (f ()).Can s count value s') : (require condition failure >>= f).Can s count value s' := by
  unfold require
  rw [if_pos hcondition]
  exact h

theorem can_log (record : LogRecord ε) (s : σ) : (log record : Action ε σ Unit).Can s 0 () s :=
  ⟨[.log record], .log (.done _), rfl, rfl⟩

theorem can_exchange {exchange : Exchange ε α} {count : Nat} {value : α}
    (h : exchange.Can count value) (s : σ) :
    (Action.exchange exchange : Action ε σ α).Can s count value s :=
  Program.Can.bind h (Program.can_pure _) rfl

theorem Can.whileSelected {action : Action ε σ α} {count : Nat} {s s' : σ} {value : α}
    (h : action.Can s count value s') : (Action.whileSelected action).Can s (count + 1) value s' :=
  Program.Can.whileSelected h

/-- Nothing is noted of a success. -/
theorem Can.noting {action : Action ε σ α} {note : Error ε → Action ε σ Unit} {count : Nat}
    {s s' : σ} {value : α} (h : action.Can s count value s') :
    (Action.noting note action).Can s count value s' := by
  unfold Can
  rw [exec_noting]
  exact Program.Can.bind h (Program.can_pure _) rfl

theorem Can.onPart {τ : Type} {get : τ → σ} {set : σ → τ → τ} {action : Action ε σ α} {count : Nat}
    {t : τ} {s' : σ} {value : α} (h : action.Can (get t) count value s') :
    (Action.onPart get set action).Can t count value (set s' t) := by
  unfold Can
  rw [exec_onPart]
  exact Program.Can.bind h (Program.can_pure _) rfl

end Action

end SdCard
