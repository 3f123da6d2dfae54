import SdCard.Proofs.Session.Negotiation
import SdCard.Proofs.Session.Operation

/-!
# What actions make of replies and of their state

`Session.Hears` tells of every stream of replies what an action says and how it ends, whatever the
session remembers. Where the state that is left behind counts as well, `Action.Makes` tells the
same of one state and one stream: the turn of the action then has for its value how the action
ends, and the state that it leaves.

* `Replies.Polled`: what a poll finds in a stream, told by the positions of the stream;
* `Action.Makes.bind_ok`, `Action.Makes.bind_error`: an action goes on after a success only;
* `Action.Makes.whileSelected`: a release takes one reply more and changes nothing else.
-/

namespace SdCard

variable {ε σ τ α β : Type}

open Negotiation (IsFirst)

/-! ## Polls -/

/-- What a poll of at most `polls` replies gives, and how many replies it takes: all up to the
first one that is not idle, or all that it may, and then it gives the idle byte. -/
inductive Replies.Polled (replies : Replies) (polls : Nat) : UInt8 → Nat → Prop
  | answered {i} : IsFirst (fun k => replies k ≠ 0xFF) polls i →
      Replies.Polled replies polls (replies i) (i + 1)
  | unanswered : (∀ k < polls, replies k = 0xFF) → Replies.Polled replies polls 0xFF polls

namespace Replies

variable {replies : Replies} {polls heard : Nat} {response : UInt8}

/-- Every poll finds something. -/
theorem exists_polled (replies : Replies) (polls : Nat) :
    ∃ response heard, Polled replies polls response heard := by
  rcases Negotiation.isFirst_or_forall (fun k => replies k ≠ 0xFF) polls with ⟨i, hi⟩ | hnone
  · exact ⟨_, _, .answered hi⟩
  · exact ⟨_, _, .unanswered fun k hk => Decidable.not_not.mp (hnone k hk)⟩

/-- What a poll finds is what the exchange makes of the stream. -/
theorem Polled.eq (h : Polled replies polls response heard) :
    replies.answer polls = response ∧ replies.polled polls = heard := by
  cases h with
  | @answered i h =>
    obtain ⟨hi, hbyte, hfirst⟩ := h
    induction i generalizing replies polls with
    | zero =>
      obtain ⟨polls, rfl⟩ : ∃ fewer, polls = fewer + 1 := ⟨polls - 1, by omega⟩
      have hanswered : ¬ replies 0 = idleByte := hbyte
      rw [answer_succ, polled_succ, if_neg hanswered, if_neg hanswered]
      exact ⟨rfl, rfl⟩
    | succ i ih =>
      -- the first reply is idle, so the poll goes on with the others
      obtain ⟨polls, rfl⟩ : ∃ fewer, polls = fewer + 1 := ⟨polls - 1, by omega⟩
      have hidle : replies 0 = idleByte := Decidable.not_not.mp (hfirst 0 (by omega))
      have hafter : ∀ k, replies.after 1 k = replies (k + 1) := fun k => by
        rw [after, Nat.add_comm]
      have hlater : ∀ k < i, ¬ replies.after 1 k ≠ 0xFF := fun k hk => by
        rw [hafter]
        exact hfirst (k + 1) (by omega)
      have hrest := @ih (replies.after 1) polls (by omega) (by rw [hafter]; exact hbyte) hlater
      rw [answer_succ, polled_succ, if_pos hidle, if_pos hidle, hrest.1, hrest.2, hafter]
      exact ⟨rfl, rfl⟩
  | unanswered h =>
    induction polls generalizing replies with
    | zero => exact ⟨rfl, rfl⟩
    | succ polls ih =>
      have hidle : replies 0 = idleByte := h 0 (by omega)
      have hrest := @ih (replies.after 1) fun k hk => h (1 + k) (by omega)
      rw [answer_succ, polled_succ, if_pos hidle, if_pos hidle, hrest.1, hrest.2]
      exact ⟨rfl, rfl⟩

end Replies

/-! ## The rules -/

namespace Action

/-- Where no call fails, the action ends as the turn says, leaves the state that it says, and has
said and heard the same. -/
def Makes (action : Action ε σ α) (s : σ) (replies : Replies)
    (turn : Turn (Except Failure α × σ)) : Prop :=
  ∀ t result s' rest, Program.Traces (action.exec s) t (result, s') → Heard t replies rest →
    ∃ verdict : Except Failure α, result = verdict.mapError .card ∧ turn.Tells t (verdict, s') rest

section Rules

variable {s s' : σ} {replies middle rest : Replies} {sent : List Signal} {failure : Failure}

theorem makes_pure (value : α) (s : σ) (replies : Replies) :
    (pure value : Action ε σ α).Makes s replies ⟨(.ok value, s), [], replies⟩ := by
  intro t result s' rest ht h
  cases ht
  cases h
  exact ⟨.ok value, rfl, rfl, rfl, rfl⟩

theorem makes_throw (failure : Failure) (s : σ) (replies : Replies) :
    (throw (.card failure) : Action ε σ α).Makes s replies ⟨(.error failure, s), [], replies⟩ := by
  intro t result s' rest ht h
  cases ht
  cases h
  exact ⟨.error failure, rfl, rfl, rfl, rfl⟩

theorem makes_modify (f : σ → σ) (s : σ) (replies : Replies) :
    (modify f : Action ε σ Unit).Makes s replies ⟨(.ok (), f s), [], replies⟩ := by
  intro t result s' rest ht h
  cases ht
  cases h
  exact ⟨.ok (), rfl, rfl, rfl, rfl⟩

theorem makes_require_ok {condition : Prop} [Decidable condition] {failure : Failure}
    (h : condition) (s : σ) (replies : Replies) :
    (require condition failure : Action ε σ Unit).Makes s replies ⟨(.ok (), s), [], replies⟩ := by
  unfold require
  rw [if_pos h]
  exact makes_pure () s replies

theorem makes_require_error {condition : Prop} [Decidable condition] {failure : Failure}
    (h : ¬ condition) (s : σ) (replies : Replies) :
    (require condition failure : Action ε σ Unit).Makes s replies
      ⟨(.error failure, s), [], replies⟩ := by
  unfold require
  rw [if_neg h]
  exact makes_throw failure s replies

theorem makes_exchange {exchange : Exchange ε α} {turn : Replies → Turn α}
    (h : exchange.Hears turn) (s : σ) (replies : Replies) :
    (Action.exchange exchange).Makes s replies ((turn replies).map fun value => (.ok value, s)) := by
  intro t result s' rest ht hheard
  rw [exec_exchange, Program.traces_bind_iff] at ht
  obtain ⟨t₁, t₂, value, rfl, hrun, hdone⟩ := ht
  cases hdone
  rw [List.append_nil] at hheard ⊢
  obtain ⟨value, rfl, hturn⟩ := h t₁ _ hrun replies rest hheard
  refine ⟨.ok value, rfl, ?_, hturn.signals, hturn.rest⟩
  rw [hturn.value]
  rfl

/-- A turn may be told in another way. -/
theorem Makes.of_eq {action : Action ε σ α} {turn other : Turn (Except Failure α × σ)}
    (h : action.Makes s replies turn) (heq : turn = other) : action.Makes s replies other := by
  rwa [← heq]

/-- After a success the second action goes on from the state and the replies that are left. -/
theorem Makes.bind_ok {action : Action ε σ α} {f : α → Action ε σ β} {value : α}
    {turn : Turn (Except Failure β × σ)}
    (h : action.Makes s replies ⟨(.ok value, s'), sent, middle⟩)
    (hf : (f value).Makes s' middle turn) :
    (action >>= f).Makes s replies (turn.preceded sent) := by
  intro t result s'' rest ht hheard
  rw [exec_bind, Program.traces_bind_iff] at ht
  obtain ⟨t₁, t₂, ⟨first, between⟩, rfl, hfirst, hnext⟩ := ht
  obtain ⟨heard, hheard₁, hheard₂⟩ := heard_append.mp hheard
  obtain ⟨verdict, rfl, hvalue, hsignals, hrest⟩ := h t₁ first between heard hfirst hheard₁
  cases hvalue
  cases hrest
  obtain ⟨verdict, rfl, hturn⟩ := hf t₂ result s'' rest hnext hheard₂
  refine ⟨verdict, rfl, hturn.value, ?_, hturn.rest⟩
  rw [signals_append, hsignals, hturn.signals]
  rfl

/-- After a failure there is no second action. -/
theorem Makes.bind_error {action : Action ε σ α} {f : α → Action ε σ β}
    (h : action.Makes s replies ⟨(.error failure, s'), sent, rest⟩) :
    (action >>= f).Makes s replies ⟨(.error failure, s'), sent, rest⟩ := by
  intro t result s'' rest' ht hheard
  rw [exec_bind, Program.traces_bind_iff] at ht
  obtain ⟨t₁, t₂, ⟨first, between⟩, rfl, hfirst, hnext⟩ := ht
  obtain ⟨heard, hheard₁, hheard₂⟩ := heard_append.mp hheard
  obtain ⟨verdict, rfl, hvalue, hsignals, hrest⟩ := h t₁ first between heard hfirst hheard₁
  cases hvalue
  cases hnext
  cases hheard₂
  rw [List.append_nil]
  exact ⟨.error failure, rfl, rfl, hsignals, hrest⟩

/-- A step that the bus does not notice. -/
theorem Makes.bind_silent {action : Action ε σ α} {f : α → Action ε σ β} {value : α}
    {turn : Turn (Except Failure β × σ)}
    (h : action.Makes s replies ⟨(.ok value, s'), [], replies⟩)
    (hf : (f value).Makes s' replies turn) : (action >>= f).Makes s replies turn := h.bind_ok hf

/-- What comes after a look at the state starts from the state that was seen. -/
theorem makes_get_bind {f : σ → Action ε σ α} {turn : Turn (Except Failure α × σ)}
    (h : (f s).Makes s replies turn) : (get >>= f).Makes s replies turn := h

theorem Makes.whileSelected {body : Action ε σ α} {turn : Turn (Except Failure α × σ)}
    (h : body.Makes s replies turn) : (whileSelected body).Makes s replies turn.held := by
  intro t result s' rest ht hheard
  rw [exec_whileSelected] at ht
  rcases traces_whileSelected ht with ⟨fault, -, rfl⟩ |
    ⟨talk, queries, released, reply, hrun, hdrained, rfl⟩
  · cases hheard
  · cases hheard with
    | control hheard =>
      rw [List.append_assoc, heard_append] at hheard
      obtain ⟨middle, htalk, hheard⟩ := hheard
      obtain ⟨last, hqueries, hrelease⟩ := heard_append.mp hheard
      obtain ⟨verdict, hverdict, hturn⟩ := h talk result s' middle hrun htalk
      -- the queries are not heard, so the release goes on where the talk has ended
      obtain ⟨hsilent, hlast⟩ := hdrained.heard hqueries
      rw [hlast, hturn.rest] at hrelease
      cases hrelease with
      | control hrelease =>
        cases hrelease with
        | transfer hrelease =>
          cases hrelease
          refine ⟨verdict, hverdict, hturn.value, ?_, rfl⟩
          simp [hturn.signals, hsilent, Turn.held]

/-- On a part of a larger state, an action does to the part what it does alone. -/
theorem Makes.onPart {get : τ → σ} {set : σ → τ → τ} {action : Action ε σ α} {whole : τ}
    {verdict : Except Failure α} (h : action.Makes (get whole) replies ⟨(verdict, s'), sent, rest⟩) :
    (onPart get set action).Makes whole replies ⟨(verdict, set s' whole), sent, rest⟩ := by
  intro t result left rest' ht hheard
  rw [exec_onPart, Program.traces_bind_iff] at ht
  obtain ⟨t₁, t₂, ⟨first, between⟩, rfl, hfirst, hdone⟩ := ht
  cases hdone
  rw [List.append_nil] at hheard ⊢
  obtain ⟨verdict', hverdict, hvalue, hsignals, hrest⟩ := h t₁ result between rest' hfirst hheard
  cases hvalue
  exact ⟨verdict, hverdict, rfl, hsignals, hrest⟩

/-- Nothing is noted of a success. -/
theorem Makes.noting_ok {note : Error ε → Action ε σ Unit} {body : Action ε σ α} {value : α}
    (h : body.Makes s replies ⟨(.ok value, s'), sent, rest⟩) :
    (noting note body).Makes s replies ⟨(.ok value, s'), sent, rest⟩ := by
  intro t result s'' rest' ht hheard
  rw [exec_noting, Program.traces_bind_iff] at ht
  obtain ⟨t₁, t₂, ⟨first, between⟩, rfl, hfirst, hdone⟩ := ht
  obtain ⟨heard, hheard₁, hheard₂⟩ := heard_append.mp hheard
  obtain ⟨verdict, rfl, hvalue, hsignals, hrest⟩ := h t₁ first between heard hfirst hheard₁
  cases hvalue
  cases hdone
  cases hheard₂
  rw [List.append_nil]
  exact ⟨.ok value, rfl, rfl, hsignals, hrest⟩

/-- A failure is handed on after its note, which the bus does not notice. -/
theorem Makes.noting_error {note : Error ε → Action ε σ Unit} {body : Action ε σ α} {s'' : σ}
    (h : body.Makes s replies ⟨(.error failure, s'), sent, rest⟩)
    (hnote : (note (.card failure)).Makes s' rest ⟨(.ok (), s''), [], rest⟩) :
    (noting note body).Makes s replies ⟨(.error failure, s''), sent, rest⟩ := by
  intro t result left rest' ht hheard
  rw [exec_noting, Program.traces_bind_iff] at ht
  obtain ⟨t₁, t₂, ⟨first, between⟩, rfl, hfirst, hnext⟩ := ht
  obtain ⟨heard, hheard₁, hheard₂⟩ := heard_append.mp hheard
  obtain ⟨verdict, rfl, hvalue, hsignals, hrest⟩ := h t₁ first between heard hfirst hheard₁
  cases hvalue
  cases hrest
  have hthrow : (do
      note (.card failure)
      throw (.card failure) : Action ε σ α).Makes s' rest ⟨(.error failure, s''), [], rest⟩ :=
    hnote.bind_silent (makes_throw failure s'' rest)
  obtain ⟨verdict, hverdict, hvalue, hsilent, hrest⟩ := hthrow t₂ result left rest' hnext hheard₂
  refine ⟨verdict, hverdict, hvalue, ?_, hrest⟩
  rw [signals_append, hsignals, hsilent, List.append_nil]

end Rules

/-! ## Commands and polls -/

variable {replies : Replies} {response : UInt8} {bound : UInt32} {heard : Nat}

theorem makes_poll (h : replies.Polled (atLeastOnce bound) response heard) (s : σ) :
    (Action.exchange (Exchange.poll bound) : Action ε σ UInt8).Makes s replies
      ⟨(.ok response, s), List.replicate heard (.shift 0xFF), replies.after heard⟩ := by
  have hpoll := makes_exchange (ε := ε) (Exchange.hears_poll bound) s replies
  rw [h.eq.1, h.eq.2] at hpoll
  exact hpoll

/-- The poll for a response starts when the six bytes of the frame have been shifted. -/
theorem makes_command (command : Command)
    (h : (replies.after 6).Polled (atLeastOnce bound) response heard) (s : σ) :
    (Action.exchange (do
      Exchange.sendCommand command
      Exchange.poll bound) : Action ε σ UInt8).Makes s replies
      ⟨(.ok response, s), command.frame.toList.map .shift ++
        List.replicate heard (.shift 0xFF), (replies.after 6).after heard⟩ := by
  have hcommand := makes_exchange (ε := ε) (Exchange.hears_sendAndPoll command bound) s replies
  unfold Turn.command Turn.map at hcommand
  dsimp only at hcommand
  rw [Vector.length_toList, h.eq.1, h.eq.2] at hcommand
  exact hcommand

/-- The note of a failure changes the state of the session and is not noticed by the bus. -/
theorem makes_record (failure : Failure) (session : Session) (replies : Replies) :
    (Session.record (.card failure) : Action ε Session Unit).Makes session replies
      ⟨(.ok (), { session with state := .failed failure }), [], replies⟩ := by
  intro t result s' rest ht hheard
  obtain ⟨hcalls, rfl, rfl⟩ := Session.record_noted (.card failure) session t result s' ht
  obtain ⟨hsilent, rfl⟩ := heard_of_busCalls_nil hcalls hheard
  exact ⟨.ok (), rfl, rfl, hsilent, rfl⟩

/-- A card that is ready is taken as it is. -/
theorem makes_requireReady {session : Session} {mode : ReadyMode}
    (h : session.state = .ready mode) (replies : Replies) :
    (Session.requireReady : Action ε Session ReadyMode).Makes session replies
      ⟨(.ok mode, session), [], replies⟩ := by
  intro t result s' rest ht hheard
  rw [Session.exec_requireReady, h] at ht
  cases ht
  cases hheard
  exact ⟨.ok mode, rfl, rfl, rfl, rfl⟩

end Action

end SdCard
