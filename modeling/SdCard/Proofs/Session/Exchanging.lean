import SdCard.Proofs.Session.Passage

/-!
# Operations are exchanges

An operation on a card that is ready does not touch the clock, and names no card: as long as no call
fails, all that the bus is told is one exchange after the other. `Exchanging` is the contract, and
`exchanges_perform` says that every operation other than the handshake satisfies it.
-/

namespace SdCard

variable {ε σ τ α β : Type}

/-- If no call fails, the bus is told exchanges. -/
def Exchanging (chipSelect : UInt8) (t : List (Event ε)) : Prop :=
  (∀ event ∈ t, event.isFault = false) → ∃ exchanges : List (List UInt8),
    signals t = (exchanges.map .exchange).flatMap (Passage.signals chipSelect)

namespace Exchanging

variable {chipSelect : UInt8} {t u : List (Event ε)}

/-- Nothing is told in no exchange. -/
theorem of_silent (h : signals t = []) : Exchanging chipSelect t := fun _ => ⟨[], h⟩

theorem append (ht : Exchanging chipSelect t) (hu : Exchanging chipSelect u) :
    Exchanging chipSelect (t ++ u) := by
  intro hfault
  obtain ⟨exchanges, hexchanges⟩ := ht fun event h => hfault event (List.mem_append_left u h)
  obtain ⟨more, hmore⟩ := hu fun event h => hfault event (List.mem_append_right t h)
  refine ⟨exchanges ++ more, ?_⟩
  rw [signals_append, hexchanges, hmore]
  simp

end Exchanging

/-- Bytes that met no fault are told as they are. -/
theorem Shifted.exists_signals {t : List (Event ε)} (h : Shifted t) :
    ∃ bytes : List UInt8, signals t = bytes.map .shift := by
  induction t with
  | nil => exact ⟨[], rfl⟩
  | cons event t ih =>
    obtain ⟨byte, reply, rfl⟩ := h event List.mem_cons_self
    obtain ⟨bytes, hbytes⟩ := ih fun event hevent => h event (List.mem_cons_of_mem _ hevent)
    exact ⟨byte :: bytes, congrArg _ hbytes⟩

/-- One use of the select line is one exchange. -/
theorem Bracket.exchanging {t : List (Event ε)} {ending : Option ε} (h : Bracket t ending)
    (chipSelect : UInt8) : Exchanging chipSelect t := by
  intro hfault
  cases h with
  | @held talk queries released reply ending htalk hdrained =>
    cases htalk with
    | whole hshifted =>
      obtain ⟨bytes, hbytes⟩ := hshifted.exists_signals
      refine ⟨[bytes], ?_⟩
      simp [Passage.signals, hbytes, hdrained.signals_nil]
    | @broken shifted byte fault hshifted =>
      have hbroken := hfault (.transfer byte (.error fault)) (by simp)
      cases hbroken
  | @refused fault =>
    have hrefused := hfault (.control (.forceSelect true) (.error fault)) List.mem_cons_self
    cases hrefused

namespace Action

/-- Every run of the action is exchanges, as long as no call fails. -/
def Exchanges (action : Action ε σ α) (chipSelect : UInt8) : Prop :=
  action.Satisfies fun _ t _ _ => Exchanging chipSelect t

variable {chipSelect : UInt8}

theorem Exchanges.bind {action : Action ε σ α} {f : α → Action ε σ β}
    (haction : action.Exchanges chipSelect) (hf : ∀ value, (f value).Exchanges chipSelect) :
    (action >>= f).Exchanges chipSelect :=
  Satisfies.bind haction hf (fun _ _ _ _ ht => ht) fun _ _ _ _ _ _ _ ht hu => ht.append hu

theorem exchanges_pure (value : α) : (pure value : Action ε σ α).Exchanges chipSelect :=
  satisfies_pure fun _ => .of_silent rfl

theorem exchanges_throw (error : Error ε) : (throw error : Action ε σ α).Exchanges chipSelect :=
  satisfies_throw fun _ => .of_silent rfl

theorem exchanges_get : (get : Action ε σ σ).Exchanges chipSelect :=
  satisfies_get fun _ => .of_silent rfl

theorem exchanges_modify (f : σ → σ) : (modify f : Action ε σ Unit).Exchanges chipSelect :=
  satisfies_modify fun _ => .of_silent rfl

theorem exchanges_require {condition : Prop} [Decidable condition] {failure : Failure} :
    (require condition failure : Action ε σ Unit).Exchanges chipSelect :=
  satisfies_require (fun _ _ => .of_silent rfl) fun _ _ => .of_silent rfl

theorem exchanges_exchange_whileSelected {body : Exchange ε α} (h : body.Talks) :
    (Action.exchange (Exchange.whileSelected body) : Action ε σ α).Exchanges chipSelect :=
  satisfies_exchange (Exchange.bracket_whileSelected h) fun _ _ _ ht => ht.exchanging chipSelect

theorem exchanges_whileSelected {view : σ → Session} {body : Action ε σ α}
    (h : body.Satisfies (Session.Steady view)) :
    (Action.whileSelected body).Exchanges chipSelect := by
  intro s t result s' ht
  rw [exec_whileSelected] at ht
  rcases traces_whileSelected ht with ⟨fault, -, rfl⟩ |
    ⟨talk, queries, released, reply, hrun, hdrained, rfl⟩
  · exact Bracket.exchanging .refused chipSelect
  · exact Bracket.exchanging (.held (h _ _ _ _ hrun).talk hdrained) chipSelect

theorem Exchanges.onPart {get : τ → σ} {set : σ → τ → τ} {action : Action ε σ α}
    (h : action.Exchanges chipSelect) : (action.onPart get set).Exchanges chipSelect :=
  satisfies_onPart h fun _ _ _ _ ht => ht

theorem Exchanges.noting {note : Error ε → Action ε σ Unit} {body : Action ε σ α}
    (hbody : body.Exchanges chipSelect) (hnote : ∀ error, (note error).Exchanges chipSelect) :
    (noting note body).Exchanges chipSelect :=
  satisfies_noting hbody hnote (fun _ _ _ _ ht => ht) fun _ _ _ _ _ _ _ ht hu => ht.append hu

end Action

namespace Session

open SdCard.Action

variable {chipSelect : UInt8}

theorem exchanges_record (error : Error ε) :
    (record error : Action ε Session Unit).Exchanges chipSelect :=
  (record_noted error).mono fun _ _ _ _ h => .of_silent (signals_of_busCalls_nil h.1)

theorem exchanges_recording {body : Action ε Session α} (h : body.Exchanges chipSelect) :
    (recording body).Exchanges chipSelect := h.noting exchanges_record

theorem exchanges_requireReady :
    (requireReady : Action ε Session ReadyMode).Exchanges chipSelect := by
  intro s t result s' ht
  rw [exec_requireReady] at ht
  cases ht
  exact .of_silent rfl

/-- An operation on a ready card does nothing else where the card is not ready. -/
theorem exchanges_ready {body : Action ε Session α} (h : body.Exchanges chipSelect) :
    (requireReady >>= fun _ => recording body).Exchanges chipSelect :=
  exchanges_requireReady.bind fun _ => exchanges_recording h

theorem exchanges_commandWithPayload (command : Command) (n : Nat) :
    (commandWithPayload command n : Action ε Session (Bytes (n + 1))).Exchanges chipSelect :=
  exchanges_get.bind fun _ => (exchanges_exchange_whileSelected
    (Exchange.Talks.bind (Exchange.talks_sendCommand command) fun _ =>
      Exchange.talks_receiveResponse _ _)).bind fun _ =>
    (exchanges_modify _).bind fun _ => exchanges_pure _

theorem exchanges_applicationCommand (command : Command) :
    (applicationCommand command : Action ε Session UInt8).Exchanges chipSelect :=
  exchanges_get.bind fun _ => (exchanges_exchange_whileSelected
    (Exchange.talks_sendApplicationCommand _ command)).bind fun _ =>
    (exchanges_modify _).bind fun _ => exchanges_pure _

theorem exchanges_status : (status : Action ε Session UInt16).Exchanges chipSelect :=
  exchanges_ready <| (exchanges_commandWithPayload _ 1).bind fun _ =>
    exchanges_require.bind fun _ => exchanges_pure _

theorem exchanges_readCsd : (readCsd : Action ε Session Csd).Exchanges chipSelect :=
  exchanges_ready <| (exchanges_whileSelected steady_readCsdSelected).bind fun (csd, _) =>
    (exchanges_modify _).bind fun _ => exchanges_pure csd

theorem exchanges_sectorCount : (sectorCount : Action ε Session UInt32).Exchanges chipSelect := by
  refine exchanges_readCsd.bind fun csd => ?_
  split
  · exact exchanges_pure _
  · exact exchanges_recording (exchanges_throw _)

theorem exchanges_setCardDetectPullup (connect : Bool) :
    (setCardDetectPullup connect : Action ε Session Unit).Exchanges chipSelect :=
  exchanges_ready <| (exchanges_applicationCommand _).bind fun _ => exchanges_require

theorem exchanges_writeBlock (lba : UInt32) (data : List UInt8) :
    (writeBlock lba data : Action ε Session Unit).Exchanges chipSelect := by
  refine exchanges_requireReady.bind fun mode => ?_
  split
  · exact exchanges_recording (exchanges_whileSelected (steady_writeSelected _ _))
  · exact exchanges_throw _

theorem exchanges_readWindow {n : Nat} (lba : UInt32) :
    (Reading.readWindow lba : Action ε (Reading n) Unit).Exchanges chipSelect := by
  refine exchanges_requireReady.onPart.bind fun mode => exchanges_get.bind fun reading => ?_
  dsimp only
  split
  · have hread : (Reading.readAddress (blockAddress mode.capacity lba) :
        Action ε (Reading n) Unit).Exchanges chipSelect :=
      (exchanges_whileSelected (steady_readSelected _)).bind fun _ =>
        (exchanges_modify _).onPart.bind fun _ => exchanges_require
    exact hread.noting fun error => (exchanges_record error).onPart
  · exact exchanges_throw _

theorem exchanges_readRange {n : Nat} (lba : UInt32) (offset : Nat) (buffer : Bytes n) :
    (readRange lba offset buffer : Action ε Session (Bytes n)).Exchanges chipSelect := by
  intro s t result s' ht
  rw [readRange, exec_ofProgram, Program.traces_bind_iff] at ht
  obtain ⟨t₁, t₂, ⟨result, reading⟩, rfl, hread, hdone⟩ := ht
  cases hdone
  rw [List.append_nil]
  exact exchanges_readWindow lba _ _ _ _ hread

/-- Every operation other than the handshake is exchanges. -/
theorem exchanges_perform {request : Request} (h : request ≠ .start) :
    (perform request : Action ε Session Answer).Exchanges chipSelect := by
  cases request with
  | start => exact absurd rfl h
  | readRange lba offset buffer =>
    exact (exchanges_readRange lba offset _).bind fun _ => exchanges_pure _
  | readBlock lba => exact (exchanges_readRange lba 0 _).bind fun _ => exchanges_pure _
  | writeBlock lba data => exact (exchanges_writeBlock lba data).bind fun _ => exchanges_pure _
  | status => exact exchanges_status.bind fun _ => exchanges_pure _
  | readCsd => exact exchanges_readCsd.bind fun _ => exchanges_pure _
  | sectorCount => exact exchanges_sectorCount.bind fun _ => exchanges_pure _
  | setCardDetectPullup connect =>
    exact (exchanges_setCardDetectPullup connect).bind fun _ => exchanges_pure _

end Session

end SdCard
