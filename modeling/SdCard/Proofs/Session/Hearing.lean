import SdCard.Proofs.Command.Hearing
import SdCard.Proofs.Session.Conduct

/-!
# What the actions of a session make of replies

Where no call of the bus fails, an action of a session is driven by the replies too. It can end with
a failure then, but not with a fault, so its turn has an `Except Failure` for a value. Turns of this
kind follow each other by `Turn.andThen`, and `Turn.retry` is a turn that is taken again until it is
accepted.
-/

namespace SdCard

variable {ε α β : Type}

namespace Turn

/-- A turn with more sent in front of it. -/
def preceded (sent : List Signal) (turn : Turn α) : Turn α :=
  ⟨turn.value, sent ++ turn.signals, turn.rest⟩

theorem preceded_preceded (sent before : List Signal) (turn : Turn α) :
    (turn.preceded sent).preceded before = turn.preceded (before ++ sent) := by
  simp [preceded]

/-- One turn after another, unless the first one fails. -/
def andThen (turn : Turn (Except Failure α)) (f : α → Replies → Turn (Except Failure β)) :
    Turn (Except Failure β) :=
  match turn.value with
  | .ok value => (f value turn.rest).preceded turn.signals
  | .error failure => ⟨.error failure, turn.signals, turn.rest⟩

theorem andThen_ok {turn : Turn (Except Failure α)} {value : α}
    (f : α → Replies → Turn (Except Failure β)) (h : turn.value = .ok value) :
    turn.andThen f = (f value turn.rest).preceded turn.signals := by
  unfold andThen
  rw [h]

theorem andThen_error {turn : Turn (Except Failure α)} {failure : Failure}
    (f : α → Replies → Turn (Except Failure β)) (h : turn.value = .error failure) :
    turn.andThen f = ⟨.error failure, turn.signals, turn.rest⟩ := by
  unfold andThen
  rw [h]

/-- A turn is not changed by handing its value on. -/
theorem andThen_pure (turn : Turn (Except Failure α)) :
    (turn.andThen fun value replies => ⟨.ok value, [], replies⟩) = turn := by
  obtain ⟨value, signals, rest⟩ := turn
  cases value with
  | ok value => simp [andThen, preceded]
  | error failure => rfl

/-- The replies that a step leaves when it has been taken `n` times. -/
def left (step : Replies → Turn α) : (n : Nat) → Replies → Replies
  | 0, replies => replies
  | n + 1, replies => left step n (step replies).rest

/-- A step when it has been taken `k` times before. -/
def nth (step : Replies → Turn α) (replies : Replies) (k : Nat) : Turn α := step (left step k replies)

/-- What is said when a step is taken `n` times. -/
def said (step : Replies → Turn α) (replies : Replies) (n : Nat) : List Signal :=
  (List.range n).flatMap fun k => (nth step replies k).signals

/-- A step that is taken until its value is accepted, at most `n` times. -/
def retry (accepts : α → Bool) (failure : Failure) (n : Nat) (step : Replies → Turn α)
    (replies : Replies) : Turn (Except Failure Unit) :=
  match (List.range n).find? fun k => accepts (nth step replies k).value with
  | some k => ⟨.ok (), said step replies (k + 1), left step (k + 1) replies⟩
  | none => ⟨.error failure, said step replies n, left step n replies⟩

theorem said_succ (step : Replies → Turn α) (replies : Replies) (n : Nat) :
    said step replies (n + 1) = (step replies).signals ++ said step (step replies).rest n := by
  unfold said
  rw [List.range_succ_eq_map, List.flatMap_cons, List.flatMap_map]
  rfl

section Retry

variable {accepts : α → Bool} {failure : Failure} {n : Nat} {step : Replies → Turn α}
  {replies : Replies}

theorem retry_some {k : Nat}
    (h : (List.range n).find? (fun k => accepts (nth step replies k).value) = some k) :
    retry accepts failure n step replies =
      ⟨.ok (), said step replies (k + 1), left step (k + 1) replies⟩ := by
  unfold retry
  rw [h]

theorem retry_none
    (h : (List.range n).find? (fun k => accepts (nth step replies k).value) = none) :
    retry accepts failure n step replies =
      ⟨.error failure, said step replies n, left step n replies⟩ := by
  unfold retry
  rw [h]

theorem find?_nth_succ :
    (List.range (n + 1)).find? (fun k => accepts (nth step replies k).value) =
      if accepts (step replies).value then some 0
      else ((List.range n).find? fun k => accepts (nth step (step replies).rest k).value).map
        Nat.succ := by
  have hrest : (fun k => accepts (nth step replies k).value) ∘ Nat.succ =
      fun k => accepts (nth step (step replies).rest k).value := rfl
  have hzero : nth step replies 0 = step replies := rfl
  rw [List.range_succ_eq_map, List.find?_cons, List.find?_map, hrest, hzero]
  cases accepts (step replies).value with
  | true => rfl
  | false => rfl

/-- The first attempt decides, or it is followed by the others. -/
theorem retry_succ :
    retry accepts failure (n + 1) step replies =
      if accepts (step replies).value then ⟨.ok (), (step replies).signals, (step replies).rest⟩
      else (step replies).bind fun _ => retry accepts failure n step := by
  have hfind : (List.range (n + 1)).find? (fun k => accepts (nth step replies k).value) = _ :=
    find?_nth_succ
  split
  · rename_i h
    rw [if_pos h] at hfind
    rw [retry_some hfind, said_succ]
    simp [said, left]
  -- attempt `k` of the others is attempt `k + 1` of all
  · rename_i h
    rw [if_neg h] at hfind
    unfold Turn.bind
    dsimp only
    cases hrest : (List.range n).find? fun k => accepts (nth step (step replies).rest k).value with
    | none =>
      rw [hrest] at hfind
      rw [retry_none hfind, retry_none hrest, said_succ]
      rfl
    | some k =>
      rw [hrest] at hfind
      rw [retry_some hfind, retry_some hrest, said_succ]
      rfl

end Retry

end Turn

namespace Session

/-- Where no call fails, the action makes of every stream what the turn says. A turn depends on how
the session drives the bus, and the action keeps that. -/
def Hears (config : Config) (chipSelect : UInt8) (action : Action ε Session α)
    (turn : Replies → Turn (Except Failure α)) : Prop :=
  action.Satisfies fun s t result s' => s.config = config ∧ s.chipSelect = chipSelect →
    ∀ replies rest, Heard t replies rest → (s'.config = config ∧ s'.chipSelect = chipSelect) ∧
      ∃ value, result = value.mapError .card ∧ (turn replies).Tells t value rest

section Rules

variable {config : Config} {chipSelect : UInt8}

theorem Hears.of_eq {action : Action ε Session α} {turn other : Replies → Turn (Except Failure α)}
    (h : Hears config chipSelect action turn) (heq : ∀ replies, turn replies = other replies) :
    Hears config chipSelect action other := by
  have hother : other = turn := funext fun replies => (heq replies).symm
  rwa [hother]

theorem hears_pure (value : α) :
    Hears config chipSelect (pure value : Action ε Session α) fun replies =>
      ⟨.ok value, [], replies⟩ := by
  apply Action.satisfies_pure
  intro s hs replies rest h
  cases h
  exact ⟨hs, .ok value, rfl, rfl, rfl, rfl⟩

theorem hears_throw (failure : Failure) :
    Hears config chipSelect (throw (.card failure) : Action ε Session α) fun replies =>
      ⟨.error failure, [], replies⟩ := by
  apply Action.satisfies_throw
  intro s hs replies rest h
  cases h
  exact ⟨hs, .error failure, rfl, rfl, rfl, rfl⟩

theorem hears_require (condition : Prop) [Decidable condition] (failure : Failure) :
    Hears config chipSelect (Action.require condition failure : Action ε Session Unit)
      fun replies => ⟨if condition then .ok () else .error failure, [], replies⟩ := by
  unfold Action.require
  split
  · exact hears_pure ()
  · exact hears_throw failure

theorem hears_modify {f : Session → Session} (hconfig : ∀ s, (f s).config = s.config)
    (hchipSelect : ∀ s, (f s).chipSelect = s.chipSelect) :
    Hears config chipSelect (modify f : Action ε Session Unit) fun replies =>
      ⟨.ok (), [], replies⟩ := by
  apply Action.satisfies_modify
  intro s hs replies rest h
  cases h
  rw [hconfig, hchipSelect]
  exact ⟨hs, .ok (), rfl, rfl, rfl, rfl⟩

theorem hears_log (record : LogRecord ε) :
    Hears config chipSelect (Action.log record : Action ε Session Unit) fun replies =>
      ⟨.ok (), [], replies⟩ := by
  apply Action.satisfies_log
  intro s hs replies rest h
  cases h with
  | log h =>
    cases h
    exact ⟨hs, .ok (), rfl, rfl, rfl, rfl⟩

theorem hears_exchange {exchange : Exchange ε α} {turn : Replies → Turn α}
    (h : exchange.Hears turn) :
    Hears config chipSelect (Action.exchange exchange : Action ε Session α) fun replies =>
      (turn replies).map .ok := by
  refine Action.satisfies_exchange h fun s t result hresult hs replies rest hheard => ?_
  obtain ⟨value, rfl, hturn⟩ := hresult replies rest hheard
  refine ⟨hs, .ok value, rfl, ?_, hturn.signals, hturn.rest⟩
  rw [hturn.value]
  rfl

/-- Turns follow each other as actions do. -/
theorem Hears.bind {action : Action ε Session α} {f : α → Action ε Session β}
    {turn : Replies → Turn (Except Failure α)} {next : α → Replies → Turn (Except Failure β)}
    (haction : Hears config chipSelect action turn)
    (hf : ∀ value, Hears config chipSelect (f value) (next value)) :
    Hears config chipSelect (action >>= f) fun replies => (turn replies).andThen next := by
  refine Action.Satisfies.bind haction hf ?_ ?_
  · intro s t error s' h hs replies rest hheard
    obtain ⟨hs', value, hvalue, hturn⟩ := h hs replies rest hheard
    cases value with
    | ok => cases hvalue
    | error failure =>
      cases hvalue
      refine ⟨hs', .error failure, rfl, ?_⟩
      dsimp only
      rw [Turn.andThen_error next hturn.value.symm]
      exact ⟨rfl, hturn.signals, hturn.rest⟩
  · intro s t value s' u result s'' h hnext hs replies rest hheard
    obtain ⟨middle, ht, hu⟩ := heard_append.mp hheard
    obtain ⟨hs', value', hvalue, hturn⟩ := h hs replies middle ht
    cases value' with
    | error => cases hvalue
    | ok value' =>
      cases hvalue
      obtain ⟨hs'', value'', hvalue'', hturn''⟩ := hnext hs' middle rest hu
      -- the second action hears the stream from where the first one has left it
      rw [hturn.rest] at hturn''
      refine ⟨hs'', value'', hvalue'', ?_⟩
      dsimp only
      rw [Turn.andThen_ok next hturn.value.symm]
      refine ⟨hturn''.value, ?_, hturn''.rest⟩
      rw [signals_append, hturn.signals, hturn''.signals]
      rfl

/-- What the bus does not notice makes no difference to the turn. -/
theorem hears_silent_bind {action : Action ε Session α} {f : α → Action ε Session β} {value : α}
    {turn : Replies → Turn (Except Failure β)}
    (haction : Hears config chipSelect action fun replies => ⟨.ok value, [], replies⟩)
    (hf : ∀ value, Hears config chipSelect (f value) turn) :
    Hears config chipSelect (action >>= f) turn := (haction.bind hf).of_eq fun _ => rfl

/-- A call that drives the bus is sent ahead of the turn that follows. -/
theorem hears_control_bind (call : Control) {f : Unit → Action ε Session α}
    {turn : Replies → Turn (Except Failure α)} (hf : ∀ value, Hears config chipSelect (f value) turn) :
    Hears config chipSelect (Action.exchange (Exchange.control call) >>= f) fun replies =>
      (turn replies).preceded [.control call] :=
  ((hears_exchange (Exchange.hears_control call)).bind hf).of_eq fun _ => rfl

/-- A value that the bus does not notice being judged. -/
theorem Hears.judge {action : Action ε Session α} {f : α → Action ε Session β}
    {turn : Replies → Turn α} {verdict : α → Except Failure β}
    (haction : Hears config chipSelect action fun replies => (turn replies).map .ok)
    (hf : ∀ value, Hears config chipSelect (f value) fun replies => ⟨verdict value, [], replies⟩) :
    Hears config chipSelect (action >>= f) fun replies => (turn replies).map verdict := by
  refine (haction.bind hf).of_eq fun replies => ?_
  simp [Turn.andThen, Turn.map, Turn.preceded]

/-- What comes after a look at the session depends on how it drives the bus at most. -/
theorem hears_get_bind {f : Session → Action ε Session α}
    {turn : Replies → Turn (Except Failure α)}
    (h : ∀ seen, seen.config = config → seen.chipSelect = chipSelect →
      Hears config chipSelect (f seen) turn) :
    Hears config chipSelect (get >>= f) turn := by
  intro s t result s' ht hs
  exact h s hs.1 hs.2 s t result s' ht hs

/-- A step that is taken again until its value is as it should be. -/
theorem hears_retry {γ : Type} {action : Action ε Session α} {others : Action ε Session Unit}
    {turn : Replies → Turn γ} {view : γ → α} {accepts : γ → Bool} {failure : Failure} {n : Nat}
    (done : α → Prop) [DecidablePred done]
    (haction : Hears config chipSelect action fun replies => ((turn replies).map view).map .ok)
    (hdone : ∀ replies, accepts (turn replies).value = true ↔ done (view (turn replies).value))
    (hothers : Hears config chipSelect others (Turn.retry accepts failure n turn)) :
    Hears config chipSelect (action >>= fun value => if done value then pure () else others)
      (Turn.retry accepts failure (n + 1) turn) := by
  have hrest : ∀ value, Hears config chipSelect (if done value then pure () else others)
      fun replies => if done value then ⟨.ok (), [], replies⟩
        else Turn.retry accepts failure n turn replies := by
    intro value
    split
    · exact hears_pure ()
    · exact hothers
  refine (haction.bind hrest).of_eq fun replies => ?_
  -- the program judges a view of the value, and the turn the value itself
  rw [Turn.retry_succ]
  by_cases h : done (view (turn replies).value)
  · rw [if_pos ((hdone replies).mpr h)]
    simp [Turn.andThen, Turn.map, Turn.preceded, h]
  · rw [if_neg fun haccepts => h ((hdone replies).mp haccepts)]
    simp [Turn.andThen, Turn.map, Turn.bind, Turn.preceded, h]

/-! ## Commands -/

theorem hears_keepResponse (response : UInt8) :
    Hears config chipSelect (keepResponse response : Action ε Session Unit) fun replies =>
      ⟨.ok (), [], replies⟩ := hears_modify (fun _ => rfl) fun _ => rfl

/-- What is kept of a response makes no difference to the turn. -/
theorem hears_keeping {action : Action ε Session α} {turn : Replies → Turn α} (first : α → UInt8)
    (h : Hears config chipSelect action fun replies => (turn replies).map .ok) :
    Hears config chipSelect (do
      let response ← action
      keepResponse (first response)
      return response) fun replies => (turn replies).map .ok := by
  have hstep := h.bind fun response =>
    (hears_keepResponse (ε := ε) (first response)).bind fun _ => hears_pure response
  refine hstep.of_eq fun replies => ?_
  simp [Turn.andThen, Turn.map, Turn.preceded]

theorem hears_command (cmd : Command) :
    Hears config chipSelect (command cmd : Action ε Session UInt8) fun replies =>
      (Turn.command cmd.frame.toList (atLeastOnce config.responsePolls) replies).held.map .ok := by
  refine hears_get_bind fun seen hconfig _ => ?_
  rw [hconfig]
  exact hears_keeping id (hears_exchange
    (Exchange.hears_whileSelected (Exchange.hears_sendAndPoll cmd config.responsePolls)))

theorem hears_commandWithPayload (cmd : Command) (n : Nat) :
    Hears config chipSelect (commandWithPayload cmd n : Action ε Session (Bytes (n + 1)))
      fun replies => (Turn.longCommand cmd.frame.toList (atLeastOnce config.responsePolls) n
        replies).held.map .ok := by
  refine hears_get_bind fun seen hconfig _ => ?_
  rw [hconfig]
  have hexchange := Exchange.hears_whileSelected (ε := ε)
    (Exchange.hears_sendAndReceive cmd config.responsePolls n)
  exact (hears_keeping (fun response => response.get ⟨0, n.succ_pos⟩) (hears_exchange hexchange) :)

theorem hears_applicationCommand (cmd : Command) :
    Hears config chipSelect (applicationCommand cmd : Action ε Session UInt8) fun replies =>
      ((Turn.applicationCommand cmd.frame.toList (atLeastOnce config.responsePolls)
        replies).held.map fun responses => responses.2.getD responses.1).map .ok := by
  refine hears_get_bind fun seen hconfig _ => ?_
  rw [hconfig]
  have hexchange := Exchange.hears_whileSelected (ε := ε)
    (Exchange.hears_sendApplicationCommand cmd config.responsePolls)
  simp only [Turn.held_map] at hexchange
  exact hears_keeping id (hears_exchange hexchange)

end Rules

end Session

end SdCard
