import SdCard.Proofs.CardModel.Listening

/-!
# Transactions with the model card

`Calm` is for exchanges that a selected card may hear without harm to what it holds: all of them
but those around a block to be written. However a transaction goes, the release at its end leaves a
card at rest, so that the next transaction finds nothing of this one.

* `calm_sendCommand`: any command but CMD24 is calm;
* `leads_release`: a release throws away what the transaction has built up;
* `leads_whileSelected`: what a transaction does to the contents is what its body does.
-/

namespace SdCard

namespace CardModel

variable {ε α β : Type} {fault : ε} {store : SectorStore}
  {written : Array (UInt32 × Sector)}

/-! ## Exchanges that do no harm -/

/-- A card that is ready for a command is ready for one after the exchange, or there was a fault;
and what it holds is the same. -/
def Calm (fault : ε) (exchange : Exchange ε α) : Prop :=
  ∀ store written, Exchange.Leads (bus fault) (Listening store written) exchange
    (fun _ => Listening store written) (Holds store written)

theorem calm_pure (value : α) : Calm fault (pure value : Exchange ε α) :=
  fun _ _ => Exchange.leads_pure fun _ h => h

theorem Calm.bind {exchange : Exchange ε α} {f : α → Exchange ε β} (h : Calm fault exchange)
    (hf : ∀ value, Calm fault (f value)) : Calm fault (exchange >>= f) :=
  fun store written => (h store written).bind fun value => hf value store written

theorem calm_receiveByte : Calm fault Exchange.receiveByte :=
  fun _ _ => leads_receiveByte_listening

theorem calm_receive (n : Nat) : Calm fault (Exchange.receive n) := by
  induction n with
  | zero => exact calm_pure _
  | succ n ih => exact calm_receiveByte.bind fun _ => ih.bind fun _ => calm_pure _

theorem calm_pollWithin (polls : Nat) : Calm fault (Exchange.pollWithin polls) := by
  induction polls with
  | zero => exact calm_pure _
  | succ polls ih =>
    refine calm_receiveByte.bind fun reply => ?_
    split
    · exact ih
    · exact calm_pure _

theorem calm_poll (bound : UInt32) : Calm fault (Exchange.poll bound) := calm_pollWithin _

theorem calm_waitReleased (bound : UInt32) : Calm fault (Exchange.waitReleased bound) := by
  unfold Exchange.waitReleased
  induction atLeastOnce bound with
  | zero => exact calm_pure _
  | succ polls ih =>
    refine calm_receiveByte.bind fun reply => ?_
    split
    · exact ih
    · exact calm_pure _

theorem calm_receiveResponse (bound : UInt32) {n : Nat} (buffer : Bytes n) :
    Calm fault (Exchange.receiveResponse bound buffer) := by
  cases n with
  | zero => exact calm_pure _
  | succ n =>
    refine (calm_poll bound).bind fun first => ?_
    split
    · exact calm_pure _
    · exact (calm_receive n).bind fun _ => calm_pure _

/-- Any command but CMD24 leaves a card ready for the next one. -/
theorem calm_sendCommand {command : Command} (h : (command.index &&& 0x3F).toNat ≠ 24) :
    Calm fault (Exchange.sendCommand command) := by
  intro store written card hcard
  have hlinked : Linked store written card.isSelected card.link card :=
    ⟨hcard.toHolds, rfl, fun _ => rfl, fun _ => ⟨hcard.phase, hcard.frame⟩⟩
  refine Ending.mono (leads_sendCommand command hcard.phase hcard.frame card hlinked) ?_ id
  rintro _ ⟨heard, hheard, hafter⟩
  rw [hafter]
  cases hsel : card.isSelected with
  | false =>
    -- the card has not heard the command
    obtain ⟨hphase, hframe⟩ := hheard.ready hsel
    exact ⟨hheard.toHolds, hphase, hframe⟩
  | true =>
    have hlink := hheard.link hsel
    refine listening_receiveCommand ⟨hheard.toHolds, ?_, ?_⟩ h _
    · rw [hlink, ← hcard.phase]
    · rw [hlink, ← hcard.frame]

theorem calm_sendAndPoll {command : Command} (h : (command.index &&& 0x3F).toNat ≠ 24)
    (bound : UInt32) :
    Calm fault (do
      Exchange.sendCommand command
      Exchange.poll bound) :=
  (calm_sendCommand h).bind fun _ => calm_poll bound

theorem calm_sendApplicationCommand {command : Command}
    (h : (command.index &&& 0x3F).toNat ≠ 24) (bound : UInt32) :
    Calm fault (Exchange.sendApplicationCommand bound command) := by
  refine (calm_sendCommand (by decide)).bind fun _ => (calm_poll bound).bind fun announced => ?_
  split
  · exact (calm_sendCommand h).bind fun _ => calm_poll bound
  · exact calm_pure _

/-! ## The end of a transaction -/

theorem AtRest.listening {card : CardModel} (h : AtRest store written card) :
    Listening store written card := by
  refine ⟨h.toHolds, ?_, ?_⟩
  · rw [h.link]
  · rw [h.link]

/-- Between transactions idle bytes do nothing, whether the card hears them or not. -/
theorem leads_receiveByte_atRest :
    Exchange.Leads (bus fault) (AtRest store written) .receiveByte
      (fun _ => AtRest store written) (AtRest store written) := by
  refine leads_transfer uncounting_atRest (fun _ h _ => h) (fun _ h _ => h) ?_
  intro card h _
  have hready := h.listening
  rw [receiveByte_idle (.inl ⟨hready.phase, hready.frame⟩), h.link]
  exact ⟨⟨h.store, h.written, h.fixedResponses⟩, rfl⟩

/-- A release throws away what the transaction has built up, and nothing else. -/
theorem leads_release :
    Program.Leads (bus fault) (Holds store written) Program.release
      fun _ => AtRest store written := by
  have hdrain : Program.Leads (bus fault) (Holds store written) (.drain drainPolls)
      fun _ => Holds store written := Program.leads_drain (fun _ h => h) _
  have hcontrol : Program.Leads (bus fault) (Holds store written)
      (.control (.forceSelect false) .done) fun _ => AtRest store written :=
    Program.leads_control fun card h => ⟨⟨h.store, h.written, h.fixedResponses⟩, rfl⟩
  have hidle : Program.Leads (bus fault) (AtRest store written) (.transfer idleByte .done)
      fun _ => AtRest store written :=
    Program.Leads.mono leads_receiveByte_atRest (fun _ h => h) fun _ _ h => ending_both.mp h
  -- the line is let go of first, so the idle byte finds a card at rest
  refine hdrain.bind (f := fun _ => Program.control (.forceSelect false) fun _ =>
    .transfer idleByte fun _ => .done ()) fun _ => ?_
  refine hcontrol.bind (f := fun _ => .transfer idleByte fun _ => .done ()) fun _ => ?_
  exact hidle.bind (f := fun _ => .done ()) fun _ => Program.leads_pure fun _ h => h

/-- What a transaction does to the contents of a card is what its body does. -/
theorem leads_whileSelected {body : Program ε α} {refused : ε → α}
    {effect : α → SectorStore → Array (UInt32 × Sector) → Prop}
    (h : Program.Leads (bus fault) (AtRest store written) body fun value card =>
      ∃ store' written', effect value store' written' ∧ Holds store' written' card) :
    Program.Leads (bus fault) (AtRest store written) (.whileSelected refused body)
      fun value card => ∃ store' written', effect value store' written' ∧
        AtRest store' written' card := by
  -- the model card is always selected when it is asked to be
  refine Program.leads_whileSelected (fun _ _ _ h => nomatch h) ?_ h ?_
  · intro card hcard _
    exact ⟨⟨hcard.store, hcard.written, hcard.fixedResponses⟩, hcard.link⟩
  · rintro value card ⟨store', written', heffect, hcard⟩
    exact ⟨store', written', heffect, leads_release card hcard⟩

/-- A transaction that spares the contents of a card leaves the card at rest with them. -/
theorem leads_whileSelected_holds {body : Program ε α} {refused : ε → α} {property : α → Prop}
    (h : Program.Leads (bus fault) (AtRest store written) body fun value card =>
      property value ∧ Holds store written card) :
    Program.Leads (bus fault) (AtRest store written) (.whileSelected refused body)
      fun value card => property value ∧ AtRest store written card := by
  have hbody : Program.Leads (bus fault) (AtRest store written) body fun value card =>
      ∃ store' written', (store' = store ∧ written' = written ∧ property value) ∧
        Holds store' written' card :=
    h.mono (fun _ hcard => hcard) fun _ _ hcard => ⟨_, _, ⟨rfl, rfl, hcard.1⟩, hcard.2⟩
  refine (leads_whileSelected hbody).mono (fun _ hcard => hcard) fun value card hcard => ?_
  obtain ⟨_, _, ⟨rfl, rfl, hproperty⟩, hrest⟩ := hcard
  exact ⟨hproperty, hrest⟩

end CardModel

end SdCard
