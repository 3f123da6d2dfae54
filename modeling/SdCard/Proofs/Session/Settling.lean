import SdCard.Proofs.CardModel.Dialogue
import SdCard.Proofs.CardModel.Listening
import SdCard.Session.Command

/-!
# What a card says to an action

`Settles` follows an action on the model card to its verdict: a value or a failure, and the card that
is left. There is one rule for each form of action, and one for each form of command, which says what
the session hears of the card's answer:

* `settles_command_silent`: a command that draws no answer reads as idle;
* `settles_command`, `settles_commandWithPayload`: the answer, when the card has thought for a byte;
* `settles_applicationCommand`: two commands in one transaction, and the answer to the second.
-/

namespace SdCard

namespace Session

open CardModel

variable {ε α β : Type} {fault : ε} {config : Config}

/-! ## Actions with a card that is known -/

/-- From a card of which `pre` holds, the action ends as the verdict says and leaves a card of which
`post` holds. The session may remember anything, but drives the bus as configured. -/
def Settles (fault : ε) (config : Config) (pre : CardModel → Prop) (action : Action ε Session α)
    (verdict : Except Failure α) (post : CardModel → Prop) : Prop :=
  ∀ s : Session, s.config = config → Program.Leads (bus fault) pre (action.exec s)
    fun outcome card => outcome.1 = verdict.mapError .card ∧ outcome.2.config = config ∧ post card

section Rules

variable {pre middle post : CardModel → Prop}

theorem settles_pure (value : α) : Settles fault config pre (pure value) (.ok value) pre :=
  fun _ hs _ h => ⟨rfl, hs, h⟩

theorem settles_throw (failure : Failure) :
    Settles fault config pre (throw (.card failure) : Action ε Session α) (.error failure) pre :=
  fun _ hs _ h => ⟨rfl, hs, h⟩

theorem settles_modify {f : Session → Session} (hf : ∀ s, (f s).config = s.config) :
    Settles fault config pre (modify f) (.ok ()) pre :=
  fun s hs _ h => ⟨rfl, (hf s).trans hs, h⟩

theorem settles_log (record : LogRecord ε) :
    Settles fault config pre (Action.log record) (.ok ()) pre :=
  fun _ hs _ h => ⟨rfl, hs, h⟩

theorem settles_require_ok {condition : Prop} [Decidable condition] {failure : Failure}
    (h : condition) :
    Settles fault config pre (Action.require condition failure) (.ok ()) pre := by
  unfold Action.require
  rw [if_pos h]
  exact settles_pure ()

theorem settles_require_error {condition : Prop} [Decidable condition] {failure : Failure}
    (h : ¬ condition) :
    Settles fault config pre (Action.require condition failure) (.error failure) pre := by
  unfold Action.require
  rw [if_neg h]
  exact settles_throw failure

theorem settles_exchange {exchange : Exchange ε α} {value : α}
    (h : Program.Leads (bus fault) pre exchange.run
      fun result card => result = .ok value ∧ post card) :
    Settles fault config pre (Action.exchange exchange) (.ok value) post := by
  intro s hs
  rw [Action.exec_exchange]
  refine Program.Leads.bind h fun result => Program.leads_pure fun card hcard => ?_
  obtain ⟨rfl, hpost⟩ := hcard
  exact ⟨rfl, hs, hpost⟩

/-- The second action starts from the card that the first one leaves. -/
theorem Settles.bind_ok {action : Action ε Session α} {f : α → Action ε Session β} {value : α}
    {verdict : Except Failure β} (h : Settles fault config pre action (.ok value) middle)
    (hf : Settles fault config middle (f value) verdict post) :
    Settles fault config pre (action >>= f) verdict post := by
  intro s hs
  rw [Action.exec_bind]
  refine (h s hs).bind fun outcome => ?_
  rintro card ⟨hresult, hconfig, hmiddle⟩
  obtain ⟨result, s'⟩ := outcome
  cases hresult
  exact hf s' hconfig card hmiddle

/-- After a failure there is no second action. -/
theorem Settles.bind_error {action : Action ε Session α} {f : α → Action ε Session β}
    {failure : Failure} (h : Settles fault config pre action (.error failure) post) :
    Settles fault config pre (action >>= f) (.error failure) post := by
  intro s hs
  rw [Action.exec_bind]
  refine (h s hs).bind fun outcome => ?_
  rintro card ⟨hresult, hconfig, hpost⟩
  obtain ⟨result, s'⟩ := outcome
  cases hresult
  exact ⟨rfl, hconfig, hpost⟩

/-- A second action that hands the value on makes no difference to the verdict. -/
theorem Settles.bind_keep {action : Action ε Session α} {f : α → Action ε Session α}
    {verdict : Except Failure α} (h : Settles fault config pre action verdict post)
    (hf : ∀ value, Settles fault config post (f value) (.ok value) post) :
    Settles fault config pre (action >>= f) verdict post := by
  cases verdict with
  | ok value => exact h.bind_ok (hf value)
  | error failure => exact h.bind_error

theorem settles_modify_bind {g : Session → Session} {f : Unit → Action ε Session α}
    {verdict : Except Failure α} (hg : ∀ s, (g s).config = s.config)
    (hf : Settles fault config pre (f ()) verdict post) :
    Settles fault config pre (modify g >>= f) verdict post := (settles_modify hg).bind_ok hf

theorem settles_log_bind {record : LogRecord ε} {f : Unit → Action ε Session α}
    {verdict : Except Failure α} (hf : Settles fault config pre (f ()) verdict post) :
    Settles fault config pre (Action.log record >>= f) verdict post := (settles_log record).bind_ok hf

theorem settles_get_bind {f : Session → Action ε Session α} {verdict : Except Failure α}
    (h : ∀ seen, seen.config = config → Settles fault config pre (f seen) verdict post) :
    Settles fault config pre (get >>= f) verdict post := fun s hs => h s hs s hs

theorem Settles.mono {action : Action ε Session α} {verdict : Except Failure α}
    {pre' post' : CardModel → Prop} (h : Settles fault config pre action verdict post)
    (hpre : ∀ card, pre' card → pre card) (hpost : ∀ card, post card → post' card) :
    Settles fault config pre' action verdict post' := fun s hs => (h s hs).mono hpre
  fun _ card hcard => ⟨hcard.1, hcard.2.1, hpost card hcard.2.2⟩

/-- The note of a failure is made in the session, and the card does not notice it. -/
theorem settles_recording {action : Action ε Session α} {verdict : Except Failure α}
    (h : Settles fault config pre action verdict post) :
    Settles fault config pre (recording action) verdict post := by
  intro s hs
  unfold recording
  rw [Action.exec_noting]
  refine (h s hs).bind fun outcome => ?_
  rintro card ⟨hresult, hconfig, hpost⟩
  obtain ⟨result, s'⟩ := outcome
  cases verdict with
  | ok value =>
    cases hresult
    exact ⟨rfl, hconfig, hpost⟩
  | error failure =>
    cases hresult
    exact ⟨rfl, hconfig, hpost⟩

end Rules

/-! ## Commands to a card at rest -/

section Commands

variable {c d : CardModel} {cmd : Command}

/-- The response is what the exchange gets, and the session keeps its first byte. -/
theorem settles_transaction {exchange : Exchange ε α} {value : α} (first : α → UInt8)
    (hd : Fresh d) {link : Link} (h : Gets fault c exchange value (d.during link)) :
    Settles fault config (Named c) (do
      let response ← Action.exchange (Exchange.whileSelected exchange)
      keepResponse (first response)
      return response) (.ok value) (Named d) := by
  have hfail : (d.during link).failAfter = none := hd.failAfter
  have hexchange := leads_whileSelected_gets hfail h
  have hkeep : Settles fault config (Named (d.during {})) (keepResponse (ε := ε) (first value))
      (.ok ()) (Named (d.during {})) := settles_modify fun _ => rfl
  rw [← hd.released]
  exact (settles_exchange hexchange).bind_ok (hkeep.bind_ok (settles_pure value))

/-- A command that a card does not answer draws the idle byte. -/
theorem settles_command_silent (hc : Fresh c)
    (hreceive : c.receiveCommand (cmd.index &&& 0x3F) cmd.argument = d) (hd : Fresh d) :
    Settles fault config (Named c) (command cmd) (.ok 0xFF) (Named d) := by
  refine settles_get_bind fun seen _ => ?_
  have hpoll : Gets fault d (.poll seen.config.responsePolls) 0xFF (d.during {}) := by
    rw [hd.released]
    exact gets_poll_silent hd
  exact settles_transaction id hd ((gets_sendCommand_fresh hc hreceive).bind hpoll)

/-- A command that a card answers draws the answer. -/
theorem settles_command {response : UInt8} (hpolls : 2 ≤ config.responsePolls.toNat) (hc : Fresh c)
    (hreceive : c.receiveCommand (cmd.index &&& 0x3F) cmd.argument = d.answering [response])
    (hd : Fresh d) (hresponse : response ≠ 0xFF) :
    Settles fault config (Named c) (command cmd) (.ok response) (Named d) := by
  refine settles_get_bind fun seen hconfig => ?_
  have hpoll : Gets fault (d.answering [response]) (.poll seen.config.responsePolls) response
      (d.during {}) := gets_poll (by rwa [hconfig]) hd hresponse
  exact settles_transaction id hd ((gets_sendCommand_fresh hc hreceive).bind hpoll)

/-- A command with a longer response, of which the card queues the first byte at least. -/
theorem settles_commandWithPayload {n : Nat} {first : UInt8} {rest : List UInt8} {others : Bytes n}
    (hpolls : 2 ≤ config.responsePolls.toNat) (hc : Fresh c)
    (hreceive : c.receiveCommand (cmd.index &&& 0x3F) cmd.argument = d.answering (first :: rest))
    (hd : Fresh d) (hfirst : first ≠ 0xFF)
    (hothers : Gets fault (d.during { replies := rest }) (.receive n) others (d.during {})) :
    Settles fault config (Named c) (commandWithPayload cmd n) (.ok (others.cons first))
      (Named d) := by
  refine settles_get_bind fun seen hconfig => ?_
  have hfail : (d.answering (first :: rest)).failAfter = none := hd.failAfter
  have hresponse : Gets fault (d.answering (first :: rest))
      (.receiveResponse seen.config.responsePolls (Bytes.zero (n + 1))) (others.cons first)
      (d.during {}) :=
    gets_receiveResponse hfail Link.open_replies rfl hfirst (by rwa [hconfig]) hothers
  exact settles_transaction (fun response : Bytes (n + 1) => response.get ⟨0, n.succ_pos⟩) hd
    ((gets_sendCommand_fresh hc hreceive).bind hresponse)

/-- The response is queued whole. -/
theorem settles_commandWithPayload_whole {n : Nat} {first : UInt8} {others : Bytes n}
    (hpolls : 2 ≤ config.responsePolls.toNat) (hc : Fresh c)
    (hreceive : c.receiveCommand (cmd.index &&& 0x3F) cmd.argument =
      d.answering (first :: others.toList))
    (hd : Fresh d) (hfirst : first ≠ 0xFF) :
    Settles fault config (Named c) (commandWithPayload cmd n) (.ok (others.cons first))
      (Named d) := by
  have hfail : (d.during { replies := others.toList }).failAfter = none := hd.failAfter
  have hreplies : (d.during { replies := others.toList }).link.replies = others.toList ++ [] := by
    rw [List.append_nil]
    rfl
  exact settles_commandWithPayload hpolls hc hreceive hd hfirst
    (gets_receive others hfail Link.open_replies hreplies)

/-- Only the first byte of the response is queued. -/
theorem settles_commandWithPayload_short (fault : ε) (n : Nat) {first : UInt8}
    (hpolls : 2 ≤ config.responsePolls.toNat) (hc : Fresh c)
    (hreceive : c.receiveCommand (cmd.index &&& 0x3F) cmd.argument = d.answering [first])
    (hd : Fresh d) (hfirst : first ≠ 0xFF) :
    ∃ others : Bytes n, Settles fault config (Named c) (commandWithPayload cmd n)
      (.ok (others.cons first)) (Named d) := by
  have hfail : (d.during {}).failAfter = none := hd.failAfter
  obtain ⟨others, hothers⟩ := gets_receive_silent fault hfail Link.open_replies rfl n
  exact ⟨others, settles_commandWithPayload hpolls hc hreceive hd hfirst hothers⟩

/-- An application command draws its answer if the announcement draws no error. -/
theorem settles_applicationCommand {announced : CardModel} {first response : UInt8}
    (hpolls : 2 ≤ config.responsePolls.toNat) (hc : Fresh c)
    (hannounce : c.receiveCommand 55 0 =
      announced.during { replies := [0xFF, first], applicationNext := true })
    (hannounced : Fresh announced) (hfirst : first ≠ 0xFF) (hclean : Response.isClean first = true)
    (hreceive : (announced.during { applicationNext := true }).receiveCommand
      (cmd.index &&& 0x3F) cmd.argument = d.answering [response])
    (hd : Fresh d) (hresponse : response ≠ 0xFF) :
    Settles fault config (Named c) (applicationCommand cmd) (.ok response) (Named d) := by
  refine settles_get_bind fun seen hconfig => ?_
  have hpolls : 2 ≤ seen.config.responsePolls.toNat := by rwa [hconfig]
  have hfail : (announced.during { applicationNext := true }).failAfter = none :=
    hannounced.failAfter
  have hsend : Gets fault (announced.during { applicationNext := true }) (.sendCommand cmd) ()
      (d.answering [response]) := by
    rw [← hreceive]
    exact gets_sendCommand hfail Link.open_replies rfl cmd
  have hpoll : Gets fault (d.answering [response]) (.poll seen.config.responsePolls) response
      (d.during {}) := gets_poll hpolls hd hresponse
  have hrest : Gets fault (announced.during { applicationNext := true })
      (if Response.isClean first then do
          Exchange.sendCommand cmd
          Exchange.poll seen.config.responsePolls
        else pure first) response (d.during {}) := by
    rw [if_pos hclean]
    exact hsend.bind hpoll
  have hannouncement : Gets fault c (.sendCommand .applicationCommand) ()
      (announced.during { replies := [0xFF, first], applicationNext := true }) :=
    gets_sendCommand_fresh hc hannounce
  exact settles_transaction id hd
    (hannouncement.bind ((gets_poll hpolls hannounced hfirst).bind hrest))

end Commands

end Session

end SdCard
