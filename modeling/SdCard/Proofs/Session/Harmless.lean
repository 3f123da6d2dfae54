import SdCard.Proofs.CardModel.Transaction
import SdCard.Session.Request

/-!
# Operations that leave a card's contents alone

Of all that a session does to a card only a write changes what it holds. Two contracts carry this:

* `Quiet`: while the card is selected, an action leaves it ready for a command, or meets an error;
* `Harmless`: outside of transactions, an action leaves the card at rest, whatever it comes to.

What an action is made of decides which of them it satisfies, so each lemma below follows the
action's own text.
-/

namespace SdCard

namespace Session

open CardModel

variable {ε σ α β : Type} {fault : ε}

/-- A card that is ready for a command is ready for one after the action, or there was an error;
and what it holds is the same. -/
def Quiet (fault : ε) (action : Action ε σ α) : Prop :=
  ∀ store written, Action.Leads (bus fault) (fun _ => Listening store written) action
    (fun _ _ => Listening store written) fun _ => Holds store written

/-- A card at rest is at rest after the action, and what it holds is the same. -/
def Harmless (fault : ε) (action : Action ε σ α) : Prop :=
  ∀ store written, Action.Leads (bus fault) (fun _ => AtRest store written) action
    (fun _ _ => AtRest store written) fun _ => AtRest store written

/-! ## Quiet actions -/

theorem quiet_bind {action : Action ε σ α} {f : α → Action ε σ β} (h : Quiet fault action)
    (hf : ∀ value, Quiet fault (f value)) : Quiet fault (action >>= f) :=
  fun store written => (h store written).bind fun value => hf value store written

theorem quiet_pure (value : α) : Quiet fault (pure value : Action ε σ α) :=
  fun _ _ => Action.leads_pure fun _ _ h => h

theorem quiet_modify (f : σ → σ) : Quiet fault (modify f : Action ε σ Unit) :=
  fun _ _ => Action.leads_modify fun _ _ h => h

theorem quiet_require (condition : Prop) [Decidable condition] (failure : Failure) :
    Quiet fault (Action.require condition failure : Action ε σ Unit) :=
  fun _ _ => Action.leads_require (fun _ _ _ h => h) fun _ _ _ h => h.toHolds

theorem quiet_exchange {exchange : Exchange ε α} (h : Calm fault exchange) :
    Quiet fault (Action.exchange exchange : Action ε σ α) :=
  fun store written => Action.leads_exchange fun _ => h store written

theorem quiet_readCsdSelected :
    Quiet fault (readCsdSelected : Action ε Session (Csd × UInt16)) := by
  refine quiet_bind (fun _ _ _ _ h => h) fun session => ?_
  refine quiet_bind (quiet_exchange (calm_sendAndPoll (by decide) _)) fun response => ?_
  refine quiet_bind (quiet_modify _) fun _ => ?_
  refine quiet_bind (quiet_require _ _) fun _ => ?_
  refine quiet_bind (quiet_exchange (calm_poll _)) fun token => ?_
  refine quiet_bind (quiet_modify _) fun _ => ?_
  refine quiet_bind (quiet_require _ _) fun _ => ?_
  refine quiet_bind (quiet_exchange (calm_receive 16)) fun csd => ?_
  exact quiet_bind (quiet_exchange (calm_receive 2)) fun _ => quiet_pure _

/-! ## Harmless actions -/

theorem harmless_bind {action : Action ε σ α} {f : α → Action ε σ β} (h : Harmless fault action)
    (hf : ∀ value, Harmless fault (f value)) : Harmless fault (action >>= f) :=
  fun store written => (h store written).bind fun value => hf value store written

theorem harmless_pure (value : α) : Harmless fault (pure value : Action ε σ α) :=
  fun _ _ => Action.leads_pure fun _ _ h => h

theorem harmless_throw (error : Error ε) : Harmless fault (throw error : Action ε σ α) :=
  fun _ _ => Action.leads_throw fun _ _ h => h

theorem harmless_get : Harmless fault (get : Action ε σ σ) := fun _ _ _ _ h => h

theorem harmless_modify (f : σ → σ) : Harmless fault (modify f : Action ε σ Unit) :=
  fun _ _ => Action.leads_modify fun _ _ h => h

theorem harmless_log (record : LogRecord ε) :
    Harmless fault (Action.log record : Action ε σ Unit) :=
  fun _ _ => Action.leads_log fun _ _ h => h

theorem harmless_require (condition : Prop) [Decidable condition] (failure : Failure) :
    Harmless fault (Action.require condition failure : Action ε σ Unit) :=
  fun _ _ => Action.leads_require (fun _ _ _ h => h) fun _ _ _ h => h

theorem harmless_noting {note : Error ε → Action ε σ Unit} {body : Action ε σ α}
    (hbody : Harmless fault body) (hnote : ∀ error, Harmless fault (note error)) :
    Harmless fault (Action.noting note body) :=
  fun store written => Action.leads_noting (hbody store written) fun error =>
    hnote error store written

theorem harmless_record (error : Error ε) : Harmless fault (record error) := by
  refine harmless_bind harmless_get fun session => ?_
  cases error with
  | card failure => exact harmless_bind (fun _ _ _ _ h => h) fun _ => harmless_log _
  | transport fault => exact harmless_bind (harmless_log _) fun _ => fun _ _ _ _ h => h
  | notReady => exact harmless_pure ()
  | outOfRange => exact harmless_pure ()

theorem harmless_recording {body : Action ε Session α} (h : Harmless fault body) :
    Harmless fault (recording body) := harmless_noting h harmless_record

theorem harmless_requireReady : Harmless fault (requireReady : Action ε Session ReadyMode) := by
  refine harmless_bind harmless_get fun session => ?_
  split
  · exact harmless_pure _
  · exact harmless_throw _

/-- A call that does not concern the select line. -/
theorem leads_control_atRest {store : SectorStore} {written : Array (UInt32 × Sector)}
    {call : Control} (h : ∀ active, call ≠ .forceSelect active) :
    Exchange.Leads (bus fault) (AtRest store written) (.control call)
      (fun _ => AtRest store written) (AtRest store written) := by
  refine Exchange.leads_control fun card hcard => ?_
  cases call with
  | mode => exact hcard
  | clock => exact hcard
  | chipSelect index active =>
    exact ⟨⟨hcard.store, hcard.written, hcard.fixedResponses⟩, hcard.link⟩
  | forceSelect active => exact absurd rfl (h active)

theorem harmless_control {call : Control} (h : ∀ active, call ≠ .forceSelect active) :
    Harmless fault (Action.exchange (Exchange.control call) : Action ε σ Unit) :=
  fun _ _ => Action.leads_exchange fun _ => leads_control_atRest h

theorem harmless_exchange_whileSelected {body : Exchange ε α} (h : Calm fault body) :
    Harmless fault (Action.exchange (Exchange.whileSelected body) : Action ε σ α) := by
  intro store written
  refine Action.leads_exchange fun _ => ?_
  -- whatever the body comes to, the release brings a card that holds the same to rest
  have hbody : Program.Leads (bus fault) (AtRest store written) body.run fun _ card =>
      True ∧ Holds store written card :=
    Program.Leads.mono (h store written) (fun _ hcard => hcard.listening) fun _ _ hcard =>
      ⟨trivial, ending_both.mp (hcard.mono (fun _ hlistening => hlistening.toHolds) id)⟩
  exact Program.Leads.mono (leads_whileSelected_holds hbody) (fun _ hcard => hcard)
    fun _ _ hcard => ending_both.mpr hcard.2

/-- What an action under the select line learns, and the contents of the card that it spares. -/
theorem leads_whileSelected_spared {store : SectorStore} {written : Array (UInt32 × Sector)}
    {body : Action ε σ α} {known : σ → Prop} {learned : α → σ → Prop}
    (h : Action.Leads (bus fault) (fun s card => known s ∧ AtRest store written card) body
      (fun value s card => learned value s ∧ Holds store written card)
      fun _ => Holds store written) :
    Action.Leads (bus fault) (fun s card => known s ∧ AtRest store written card)
      (Action.whileSelected body)
      (fun value s card => learned value s ∧ AtRest store written card)
      fun _ => AtRest store written := by
  rintro s card ⟨hknown, hcard⟩
  have hbody : Program.Leads (bus fault) (AtRest store written) (body.exec s)
      fun outcome card => (∀ value, outcome.1 = .ok value → learned value outcome.2) ∧
        Holds store written card :=
    (h s).mono (fun _ hcard => ⟨hknown, hcard⟩) fun _ _ hcard => ending_and.mp hcard
  exact ending_and.mpr (leads_whileSelected_holds hbody card hcard)

theorem harmless_whileSelected {body : Action ε σ α} (h : Quiet fault body) :
    Harmless fault (Action.whileSelected body) := by
  intro store written
  have hbody : Action.Leads (bus fault) (fun _ card => True ∧ AtRest store written card) body
      (fun _ _ card => True ∧ Holds store written card) fun _ => Holds store written :=
    (h store written).mono (fun _ _ hcard => hcard.2.listening)
      (fun _ _ _ hcard => ⟨trivial, hcard.toHolds⟩) fun _ _ hcard => hcard
  exact (leads_whileSelected_spared hbody).mono (fun _ _ hcard => ⟨trivial, hcard⟩)
    (fun _ _ _ hcard => hcard.2) fun _ _ hcard => hcard

theorem harmless_command {cmd : Command} (h : (cmd.index &&& 0x3F).toNat ≠ 24) :
    Harmless fault (command cmd : Action ε Session UInt8) := by
  refine harmless_bind harmless_get fun session => ?_
  refine harmless_bind (harmless_exchange_whileSelected (calm_sendAndPoll h _)) fun response => ?_
  exact harmless_bind (harmless_modify _) fun _ => harmless_pure response

theorem harmless_commandWithPayload {cmd : Command} (h : (cmd.index &&& 0x3F).toNat ≠ 24)
    (n : Nat) : Harmless fault (commandWithPayload cmd n : Action ε Session (Bytes (n + 1))) := by
  refine harmless_bind harmless_get fun session => ?_
  refine harmless_bind (harmless_exchange_whileSelected ((calm_sendCommand h).bind fun _ =>
    calm_receiveResponse _ _)) fun response => ?_
  exact harmless_bind (harmless_modify _) fun _ => harmless_pure response

theorem harmless_applicationCommand {cmd : Command} (h : (cmd.index &&& 0x3F).toNat ≠ 24) :
    Harmless fault (applicationCommand cmd : Action ε Session UInt8) := by
  refine harmless_bind harmless_get fun session => ?_
  refine harmless_bind (harmless_exchange_whileSelected
    (calm_sendApplicationCommand h _)) fun response => ?_
  exact harmless_bind (harmless_modify _) fun _ => harmless_pure response

/-- A part of a larger state is changed, and the card is not concerned. -/
theorem harmless_inSession {n : Nat} {action : Action ε Session α} (h : Harmless fault action) :
    Harmless fault (Reading.inSession action : Action ε (Reading n) α) :=
  fun store written => Action.leads_onPart fun _ =>
    (h store written).mono (fun _ _ hcard => hcard.2) (fun _ _ _ hcard => hcard)
      fun _ _ hcard => hcard

/-! ### The handshake -/

theorem harmless_powerUp : Harmless fault (powerUp : Action ε Session Unit) := by
  refine harmless_bind harmless_get fun session => fun store written => ?_
  refine Action.leads_exchange fun _ => ?_
  have hidle : ∀ count, Exchange.Leads (bus fault) (AtRest store written)
      (.sendIdle count) (fun _ => AtRest store written) (AtRest store written) := by
    intro count
    induction count with
    | zero => exact Exchange.leads_pure fun _ h => h
    | succ count ih =>
      have hbyte : Exchange.Leads (bus fault) (AtRest store written) (.sendByte idleByte)
          (fun _ => AtRest store written) (AtRest store written) :=
        leads_receiveByte_atRest.bind fun _ => Exchange.leads_pure fun _ h => h
      exact hbyte.bind fun _ => ih
  -- a card that is not selected does not take the bytes for a command
  refine (leads_control_atRest (by simp)).bind fun _ => ?_
  exact (hidle _).bind fun _ => leads_control_atRest (by simp)

theorem harmless_goIdle (attempts : Nat) :
    Harmless fault (goIdle attempts : Action ε Session Unit) := by
  induction attempts with
  | zero => exact harmless_throw _
  | succ attempts ih =>
    refine harmless_bind harmless_powerUp fun _ => ?_
    refine harmless_bind (harmless_command (by decide)) fun response => ?_
    split
    · exact harmless_pure ()
    · exact ih

theorem harmless_findVersion : Harmless fault (findVersion : Action ε Session Version) := by
  refine harmless_bind (harmless_commandWithPayload (by decide) 4) fun response => ?_
  split
  · refine harmless_bind (harmless_require _ _) fun _ => ?_
    exact harmless_bind (harmless_require _ _) fun _ => harmless_pure _
  · split
    · exact harmless_pure _
    · exact harmless_throw _

theorem harmless_readOcr : Harmless fault (readOcr : Action ε Session (UInt8 × Ocr)) :=
  harmless_bind (harmless_commandWithPayload (by decide) 4) fun _ => harmless_pure _

theorem harmless_leaveIdle (version : Version) (rounds : Nat) :
    Harmless fault (leaveIdle version rounds : Action ε Session Unit) := by
  have hindex : ((41 : UInt8) &&& 0x3F).toNat ≠ 24 := by decide
  induction rounds with
  | zero => exact harmless_throw _
  | succ rounds ih =>
    refine harmless_bind (harmless_applicationCommand hindex) fun response => ?_
    split
    · exact harmless_pure ()
    · exact ih

theorem harmless_findMode (version : Version) :
    Harmless fault (findMode version : Action ε Session ReadyMode) := by
  unfold findMode
  split
  · refine harmless_bind harmless_readOcr fun _ => ?_
    exact harmless_bind (harmless_require _ _) fun _ => harmless_pure _
  · refine harmless_bind (harmless_command (by decide)) fun response => ?_
    exact harmless_bind (harmless_require _ _) fun _ => harmless_pure _

theorem harmless_handshake : Harmless fault (handshake : Action ε Session ReadyMode) := by
  refine harmless_bind harmless_get fun session => ?_
  refine harmless_bind (harmless_control (by simp)) fun _ => ?_
  refine harmless_bind (harmless_control (by simp)) fun _ => ?_
  refine harmless_bind (harmless_modify _) fun _ => ?_
  refine harmless_bind (harmless_goIdle _) fun _ => ?_
  refine harmless_bind harmless_findVersion fun version => ?_
  refine harmless_bind (harmless_modify _) fun _ => ?_
  refine harmless_bind (harmless_log _) fun _ => ?_
  refine harmless_bind (harmless_control (by simp)) fun _ => ?_
  refine harmless_bind (harmless_bind harmless_readOcr fun _ => harmless_require _ _) fun _ => ?_
  refine harmless_bind (harmless_leaveIdle version _) fun _ => ?_
  refine harmless_bind (harmless_findMode version) fun mode => ?_
  refine harmless_bind (harmless_modify _) fun _ => ?_
  exact harmless_bind (harmless_log _) fun _ => harmless_pure mode

/-! ### Operations -/

theorem harmless_start : Harmless fault (start : Action ε Session ReadyMode) :=
  harmless_bind (harmless_modify _) fun _ => harmless_recording harmless_handshake

theorem harmless_status : Harmless fault (status : Action ε Session UInt16) := by
  refine harmless_bind harmless_requireReady fun _ => harmless_recording ?_
  refine harmless_bind (harmless_commandWithPayload (by decide) 1) fun response => ?_
  exact harmless_bind (harmless_require _ _) fun _ => harmless_pure _

theorem harmless_readCsd : Harmless fault (readCsd : Action ε Session Csd) := by
  refine harmless_bind harmless_requireReady fun _ => harmless_recording ?_
  refine harmless_bind (harmless_whileSelected quiet_readCsdSelected) fun _ => ?_
  exact harmless_bind (harmless_modify _) fun _ => harmless_pure _

theorem harmless_sectorCount : Harmless fault (sectorCount : Action ε Session UInt32) := by
  refine harmless_bind harmless_readCsd fun csd => ?_
  split
  · exact harmless_pure _
  · exact harmless_recording (harmless_throw _)

theorem harmless_setCardDetectPullup (connect : Bool) :
    Harmless fault (setCardDetectPullup connect : Action ε Session Unit) := by
  have hindex : ((42 : UInt8) &&& 0x3F).toNat ≠ 24 := by decide
  refine harmless_bind harmless_requireReady fun _ => harmless_recording ?_
  exact harmless_bind (harmless_applicationCommand hindex) fun _ => harmless_require _ _

end Session

end SdCard
