import SdCard.Proofs.CardModel.Block
import SdCard.Proofs.Session.Harmless
import SdCard.Proofs.Session.Operation

/-!
# Reads and writes of the model card

What a session reads from a card that is at rest, and what a write leaves there.

* `leads_readRange`: a read that succeeds gives the part of the sector that was asked for;
* `leads_writeBlock`: a write that succeeds stores the sector, and one that does not stores it or
  nothing.

Of a read it is the window that has to be followed. `Window.storeAll` is what a whole sector does to
it, so that the loop over the bytes is left behind before the bytes are looked at.
-/

namespace SdCard

namespace Window

variable {n : Nat}

/-- A string of bytes passes by, the first of them as byte `index` of the sector. -/
def storeAll (window : Window n) (index : Nat) : List UInt8 → Window n
  | [] => window
  | byte :: bytes => (window.store index byte).storeAll (index + 1) bytes

/-- Where the window is reached, the buffer takes the byte that passes. -/
theorem getElem_storeAll (window : Window n) (index : Nat) (bytes : List UInt8) (k : Nat)
    (hk : k < n) :
    (window.storeAll index bytes).bytes[k] =
      if k < window.count ∧ index ≤ window.offset + k then
        (bytes[window.offset + k - index]?).getD window.bytes[k]
      else window.bytes[k] := by
  induction bytes generalizing window index with
  | nil => simp [storeAll]
  | cons byte bytes ih =>
    -- place `k` is that of the first byte, of a later one, or of one that has passed before
    rw [storeAll, ih, count_store, offset_store, getElem_store]
    by_cases hcount : k < window.count
    · by_cases hfirst : window.offset + k = index
      · have hindex : ¬ index + 1 ≤ window.offset + k := by omega
        rw [if_neg fun h => hindex h.2, if_pos ⟨hcount, hfirst⟩,
          if_pos ⟨hcount, Nat.le_of_eq hfirst.symm⟩, hfirst, Nat.sub_self]
        rfl
      · by_cases hlater : index ≤ window.offset + k
        · have hnext : window.offset + k - index = window.offset + k - (index + 1) + 1 := by omega
          have hindex : index + 1 ≤ window.offset + k := by omega
          simp [hcount, hfirst, hlater, hindex, hnext]
        · have hindex : ¬ index + 1 ≤ window.offset + k := by omega
          simp [hfirst, hlater, hindex]
    · simp [hcount]

/-- When a sector has passed a full window, the buffer holds the part of it that was asked for. -/
theorem toList_storeAll_full (offset : Nat) (buffer : Bytes n) (sector : Sector)
    (h : offset + n ≤ sectorSize) :
    ((full offset buffer).storeAll 0 sector.toList).bytes.toList =
      (sector.toList.drop offset).take n := by
  apply List.ext_getElem
  · simp
    omega
  · intro k hk hk'
    have hkn : k < n := by simpa using hk
    have hsector : offset + k < sectorSize := by omega
    rw [Vector.getElem_toList, getElem_storeAll]
    simp [full, hkn, hsector]

end Window

namespace Session

open CardModel

variable {ε σ α : Type} {fault : ε} {n : Nat} {store : SectorStore}
  {written : Array (UInt32 × Sector)}

/-- What comes after a look for the mode of the card finds it ready. -/
theorem leads_ready (view : σ → Session) {action : Action ε σ ReadyMode}
    (h : ∀ s, action.exec s = pure ((view s).state.readyMode.elim (.error .notReady) .ok, s))
    (first : σ) :
    Action.Leads (bus fault) (fun s card => s = first ∧ AtRest store written card) action
      (fun mode s card => ((view first).state = .ready mode ∧ s = first) ∧
        AtRest store written card)
      (fun _ => AtRest store written) := by
  intro s
  rw [h s]
  refine Program.leads_pure fun card hcard => ?_
  obtain ⟨rfl, hcard⟩ := hcard
  cases hmode : (view s).state.readyMode with
  | none => exact hcard
  | some mode => exact ⟨⟨State.readyMode_eq_some_iff.mp hmode, rfl⟩, hcard⟩

/-! ## Reading -/

/-- The bytes that the card gives pass by the window. -/
theorem leads_receiveInto {count : Nat} (index : Nat) {bytes : List UInt8}
    (hcount : bytes.length = count) (rest : List UInt8) (window : Window n) :
    Action.Leads (bus fault)
      (fun reading card => reading.window = window ∧
        Linked store written true { replies := bytes ++ rest } card)
      (Reading.receiveInto index count)
      (fun _ reading card => reading.window = window.storeAll index bytes ∧
        Linked store written true { replies := rest } card)
      (fun _ => Holds store written) := by
  subst hcount
  induction bytes generalizing index window with
  | nil => exact Action.leads_pure fun _ _ h => h
  | cons byte bytes ih =>
    have hbyte : Action.Leads (bus fault)
        (fun reading card => reading.window = window ∧
          Linked store written true { replies := byte :: bytes ++ rest } card)
        (Action.exchange Exchange.receiveByte)
        (fun reply (reading : Reading n) card => reading.window = window ∧ reply = byte ∧
          Linked store written true { replies := bytes ++ rest } card)
        (fun _ => Holds store written) := by
      refine Action.leads_exchange fun reading => ?_
      rintro card ⟨hwindow, hlinked⟩
      refine (leads_receiveByte_linked (.inl ⟨rfl, rfl⟩) card hlinked).mono ?_ id
      rintro reply ⟨hreply, h⟩
      exact ⟨hwindow, hreply, h⟩
    refine hbyte.bind fun reply => ?_
    refine Action.Leads.bind (Action.leads_modify ?_) fun _ => ih (index + 1) _
    rintro reading card ⟨rfl, rfl, h⟩
    exact ⟨rfl, h⟩

theorem leads_readSelected (address : UInt32) (window : Window n) :
    Action.Leads (bus fault)
      (fun reading card => reading.window = window ∧ AtRest store written card)
      (Reading.readSelected address)
      (fun _ reading card => reading.window = window.storeAll 0 (store.get address).toList ∧
        Holds store written card)
      (fun _ => Holds store written) := by
  have hkeep : ∀ (f : Session → Session) (property : CardModel → Prop), Action.Leads (bus fault)
      (fun reading card => reading.window = window ∧ property card)
      (Reading.inSession (modify f) : Action ε (Reading n) Unit)
      (fun _ reading card => reading.window = window ∧ property card)
      (fun _ => Holds store written) := fun _ _ _ _ h => h
  have hchecksum : Exchange.Leads (bus fault)
      (Linked store written true { replies := readChecksum }) (.receive 2)
      (fun _ => Holds store written) (Holds store written) :=
    (calm_receive 2 store written).mono (fun _ h => h.listening) (fun _ _ h => h.toHolds)
      fun _ h => h
  refine Action.leads_get_keep fun reading => ?_
  refine (Action.leads_exchange_of (leads_askForBlock address _)).bind fun response => ?_
  refine (hkeep _ _).bind fun _ => ?_
  refine Action.leads_require_of.bind fun _ => ?_
  refine (Action.leads_exchange_of (leads_poll_token address _)).bind fun token => ?_
  refine (hkeep _ _).bind fun _ => ?_
  refine Action.leads_require_of.bind fun _ => ?_
  -- past the token the whole sector waits in the queue, with its check sum behind it
  refine (leads_receiveInto 0 (by simp) readChecksum window).bind fun _ => ?_
  exact (Action.leads_exchange_of hchecksum).bind fun _ => Action.leads_pure fun _ _ h => h

theorem leads_readAddress (address : UInt32) (window : Window n) :
    Action.Leads (bus fault)
      (fun reading card => reading.window = window ∧ AtRest store written card)
      (Reading.readAddress address)
      (fun _ reading card => reading.window = window.storeAll 0 (store.get address).toList ∧
        AtRest store written card)
      (fun _ => AtRest store written) := by
  refine (leads_whileSelected_spared (leads_readSelected address window)).bind fun checksum => ?_
  have hkeep : ∀ f : Session → Session, Action.Leads (bus fault)
      (fun reading card => reading.window = window.storeAll 0 (store.get address).toList ∧
        AtRest store written card)
      (Reading.inSession (modify f) : Action ε (Reading n) Unit)
      (fun _ reading card => reading.window = window.storeAll 0 (store.get address).toList ∧
        AtRest store written card)
      (fun _ => AtRest store written) := fun _ _ _ h => h
  exact (hkeep _).bind fun _ => Action.leads_require (fun _ _ _ h => h) fun _ _ _ h => h.2

/-- A read that succeeds finds the card ready, and shows the window the sector. -/
theorem leads_readWindow (lba : UInt32) (first : Reading n) :
    Action.Leads (bus fault)
      (fun reading card => reading = first ∧ AtRest store written card)
      (Reading.readWindow lba)
      (fun _ reading card => (∃ mode, first.session.state = .ready mode ∧ first.window.InSector ∧
        reading.window = first.window.storeAll 0
          (store.get (blockAddress mode.capacity lba)).toList) ∧ AtRest store written card)
      (fun _ => AtRest store written) := by
  refine (leads_ready Reading.session exec_inSession_requireReady first).bind fun mode => ?_
  refine Action.leads_get_bind fun reading => ?_
  by_cases hin : reading.window.InSector
  · simp only [hin, if_true]
    -- the window has not changed since the read began
    rintro _ card ⟨rfl, ⟨hstate, hfirst⟩, hcard⟩
    subst hfirst
    refine Ending.mono (Action.leads_noting (leads_readAddress _ _) (fun error =>
      harmless_inSession (harmless_record error) store written) _ card ⟨rfl, hcard⟩) ?_ id
    exact fun _ h => ⟨⟨mode, hstate, hin, h.1⟩, h.2⟩
  · simp only [hin, if_false]
    exact Action.leads_throw fun _ _ h => h.2.2

/-- A read that succeeds gives the part of the sector that was asked for. -/
theorem leads_readRange (lba : UInt32) (offset : Nat) (buffer : Bytes n) (session : Session) :
    Action.Leads (bus fault)
      (fun s card => s = session ∧ AtRest store written card)
      (readRange lba offset buffer)
      (fun bytes _ card => (∃ mode, session.state = .ready mode ∧ offset + n ≤ sectorSize ∧
        bytes.toList =
          ((store.get (blockAddress mode.capacity lba)).toList.drop offset).take n) ∧
        AtRest store written card)
      (fun _ => AtRest store written) := by
  rintro s card ⟨rfl, hcard⟩
  have hwhole : Program.Leads (bus fault) (AtRest store written)
      ((readRange lba offset buffer).exec s) fun outcome => Ending (fun bytes card =>
        (∃ mode, s.state = .ready mode ∧ offset + n ≤ sectorSize ∧ bytes.toList =
          ((store.get (blockAddress mode.capacity lba)).toList.drop offset).take n) ∧
        AtRest store written card) (AtRest store written) outcome.1 := by
    rw [readRange, Action.exec_ofProgram]
    refine Program.Leads.bind ((leads_readWindow lba _ _).mono (fun _ hcard => ⟨rfl, hcard⟩)
      fun _ _ h => h) fun outcome => Program.leads_pure fun card h => ?_
    obtain ⟨result, reading⟩ := outcome
    cases result with
    | error error => exact h
    | ok =>
      obtain ⟨⟨mode, hstate, hin, hwindow⟩, hcard⟩ := h
      refine ⟨⟨mode, hstate, hin, ?_⟩, hcard⟩
      rw [hwindow]
      exact Window.toList_storeAll_full offset buffer _ hin
  exact hwhole card hcard

/-! ## Writing -/

/-- A write that succeeds changes the card as it should, and any other does so or changes nothing. -/
theorem leads_writeSelected (address : UInt32) (sector : Sector) :
    Action.Leads (bus fault) (fun _ => AtRest store written) (writeSelected address sector)
      (fun _ _ => Holds (store.insert address sector) (written.push (address, sector)))
      (fun _ => Attempted store address sector) := by
  -- an error before the data response leaves the store, and one after it may leave the sector
  have hunchanged : ∀ {written' : Array (UInt32 × Sector)} {card}, Holds store written' card →
      Attempted store address sector card := fun h => ⟨store, _, .inl rfl, h⟩
  have hchanged : ∀ {written' : Array (UInt32 × Sector)} {card},
      Holds (store.insert address sector) written' card → Attempted store address sector card :=
    fun h => ⟨_, _, .inr rfl, h⟩
  have hkeep : ∀ (f : Session → Session) (property : CardModel → Prop), Action.Leads (bus fault)
      (fun _ => property) (modify f : Action ε Session Unit) (fun _ _ => property)
      (fun _ => Attempted store address sector) := fun _ _ _ _ h => h
  have hoffer : ∀ bound, Exchange.Leads (bus fault) (AtRest store written) (do
        Exchange.sendCommand (.writeBlock address)
        Exchange.poll bound)
      (fun response card => Holds store written card ∧
        (response = 0 → Linked store written true { phase := .writeToken address } card))
      (Attempted store address sector) :=
    fun bound => (leads_offerBlock address bound).mono (fun _ h => h) (fun _ _ h => h)
      fun _ => hunchanged
  have hanswered : ∀ response : UInt8, Action.Leads (bus fault)
      (fun (_ : Session) card => Holds store written card ∧
        (response = 0 → Linked store written true { phase := .writeToken address } card))
      (Action.require (response = 0) .writeRejected)
      (fun _ _ => Linked store written true { phase := .writeToken address })
      (fun _ => Attempted store address sector) :=
    fun response => Action.leads_require (fun hzero _ _ h => h.2 hzero) fun _ _ _ h =>
      hunchanged h.1
  have haccepted : ∀ token, Action.Leads (bus fault)
      (fun (_ : Session) => Listening
        (if isDataAccepted token then store.insert address sector else store)
        (written.push (address, sector)))
      (Action.require (isDataAccepted token) .writeDataRejected)
      (fun _ _ => Listening (store.insert address sector) (written.push (address, sector)))
      (fun _ => Attempted store address sector) := by
    intro token
    refine Action.leads_require (fun haccepted _ _ h => ?_) fun hrefused _ _ h => ?_
    · rwa [if_pos haccepted] at h
    · rw [if_neg hrefused] at h
      exact hunchanged h.toHolds
  have hwait : ∀ bound, Exchange.Leads (bus fault)
      (Listening (store.insert address sector) (written.push (address, sector)))
      (.waitReleased bound)
      (fun _ => Holds (store.insert address sector) (written.push (address, sector)))
      (Attempted store address sector) :=
    fun bound => (calm_waitReleased bound _ _).mono (fun _ h => h) (fun _ _ h => h.toHolds)
      fun _ => hchanged
  refine Action.leads_get_keep fun session => ?_
  refine (Action.leads_exchange fun _ => hoffer _).bind fun response => ?_
  refine (hkeep _ _).bind fun _ => (hanswered response).bind fun _ => ?_
  refine (Action.leads_exchange fun _ => leads_sendBlock sector).bind fun token => ?_
  refine (hkeep _ _).bind fun _ => (haccepted token).bind fun _ => ?_
  refine (Action.leads_exchange fun _ => hwait _).bind fun released => ?_
  exact Action.leads_require (fun _ _ _ h => h) fun _ _ _ h => hchanged h

/-- A card at rest, after an attempt to write a sector: it holds the sector or has not changed. -/
def Tried (store : SectorStore) (address : UInt32) (sector : Sector) (card : CardModel) : Prop :=
  ∃ store' written', (store' = store ∨ store' = store.insert address sector) ∧
    AtRest store' written' card

theorem leads_whileSelected_writeSelected (address : UInt32) (sector : Sector) :
    Action.Leads (bus fault) (fun _ => AtRest store written)
      (Action.whileSelected (writeSelected address sector))
      (fun _ _ => AtRest (store.insert address sector) (written.push (address, sector)))
      (fun _ => Tried store address sector) := by
  intro s
  have hbody : Program.Leads (bus fault) (AtRest store written)
      ((writeSelected address sector).exec s) fun outcome card => ∃ store' written',
        ((store' = store ∨ store' = store.insert address sector) ∧
          (outcome.1.isOk = true → store' = store.insert address sector ∧
            written' = written.push (address, sector))) ∧
        Holds store' written' card := by
    refine (leads_writeSelected address sector s).mono (fun _ h => h) fun outcome card h => ?_
    obtain ⟨result, s'⟩ := outcome
    cases result with
    | ok => exact ⟨_, _, ⟨.inr rfl, fun _ => ⟨rfl, rfl⟩⟩, h⟩
    | error error =>
      obtain ⟨store', written', hstore, hcard⟩ := h
      exact ⟨store', written', ⟨hstore, fun hok => nomatch hok⟩, hcard⟩
  refine (leads_whileSelected hbody).mono (fun _ h => h) fun outcome card h => ?_
  obtain ⟨store', written', ⟨hstore, hok⟩, hcard⟩ := h
  obtain ⟨result, s'⟩ := outcome
  cases result with
  | ok =>
    obtain ⟨rfl, rfl⟩ := hok rfl
    exact hcard
  | error error => exact ⟨store', written', hstore, hcard⟩

/-- A write that succeeds finds the card ready, and any other that changes the card does too. -/
theorem leads_writeBlock (lba : UInt32) (data : List UInt8) (session : Session) :
    Action.Leads (bus fault) (fun s card => s = session ∧ AtRest store written card)
      (writeBlock lba data)
      (fun _ _ card => ∃ mode, session.state = .ready mode ∧ data.length ≤ sectorSize ∧
        AtRest (store.insert (blockAddress mode.capacity lba) (.ofList sectorSize data))
          (written.push (blockAddress mode.capacity lba, .ofList sectorSize data)) card)
      (fun _ card => AtRest store written card ∨
        ∃ mode, session.state = .ready mode ∧ data.length ≤ sectorSize ∧
          Tried store (blockAddress mode.capacity lba) (.ofList sectorSize data) card) := by
  refine Action.Leads.bind ((leads_ready id exec_requireReady session).mono (fun _ _ h => h)
    (fun _ _ _ h => h) fun _ _ h => .inl h) fun mode => ?_
  by_cases hlength : data.length ≤ sectorSize
  · rw [if_pos hlength]
    rintro s card ⟨⟨hstate, -⟩, hcard⟩
    -- the note of an error does not concern the card, whatever the write has left there
    have hnote : ∀ error, Action.Leads (bus fault)
        (fun _ => Tried store (blockAddress mode.capacity lba) (.ofList sectorSize data))
        (record error)
        (fun _ _ => Tried store (blockAddress mode.capacity lba) (.ofList sectorSize data))
        (fun _ => Tried store (blockAddress mode.capacity lba) (.ofList sectorSize data)) := by
      rintro error s card ⟨store', written', hstore, hcard⟩
      exact (harmless_record error store' written' s card hcard).mono
        (fun _ h => ⟨store', written', hstore, h⟩) fun h => ⟨store', written', hstore, h⟩
    refine Ending.mono (Action.leads_noting (leads_whileSelected_writeSelected _ _) hnote s card
      hcard) ?_ ?_
    · exact fun _ h => ⟨mode, hstate, hlength, h⟩
    · exact fun h => .inr ⟨mode, hstate, hlength, h⟩
  · rw [if_neg hlength]
    exact Action.leads_throw fun _ _ h => .inl h.2

end Session

end SdCard
