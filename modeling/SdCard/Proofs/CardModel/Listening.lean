import SdCard.Proofs.CardModel.Following

/-!
# Assertions about the model card

What the card holds is kept apart from what a transaction builds up. `Holds` speaks of the first,
`AtRest` of a card between transactions; while a card is selected, `Listening` says that it is
ready for a command, and `Linked` how far it is with the transaction.

* `leads_receiveByte_linked`: a card gives its next reply if it is selected;
* `leads_sendCommand`: a card takes a whole command if it is selected;
* `listening_receiveCommand`: no command but CMD24 makes a card wait for data.
-/

namespace SdCard

namespace CardModel

variable {ε : Type} {fault : ε} {store : SectorStore} {written : Array (UInt32 × Sector)}

/-! ## What a card holds -/

/-- The sectors that a card holds and the blocks that it has received; and it answers every command
in earnest. -/
structure Holds (store : SectorStore) (written : Array (UInt32 × Sector)) (card : CardModel) :
    Prop where
  store : card.store = store
  written : card.written = written
  fixedResponses : card.fixedResponses = []

/-- Nothing is left of the last transaction. -/
structure AtRest (store : SectorStore) (written : Array (UInt32 × Sector)) (card : CardModel) :
    Prop extends Holds store written card where
  link : card.link = {}

/-- The next byte may begin a command. -/
structure Listening (store : SectorStore) (written : Array (UInt32 × Sector)) (card : CardModel) :
    Prop extends Holds store written card where
  phase : card.link.phase = .command
  frame : card.link.frame = []

/-- The card is selected, and this far with the transaction; or it is not, and has not begun one. -/
structure Linked (store : SectorStore) (written : Array (UInt32 × Sector)) (selected : Bool)
    (link : Link) (card : CardModel) : Prop extends Holds store written card where
  isSelected : card.isSelected = selected
  link : selected = true → card.link = link
  ready : selected = false → card.link.phase = .command ∧ card.link.frame = []

/-! ## One byte -/

theorem uncounting_atRest : Uncounting (AtRest store written) := by
  rintro card _ ⟨_, _, _, rfl⟩ h
  exact ⟨⟨h.store, h.written, h.fixedResponses⟩, h.link⟩

theorem uncounting_listening : Uncounting (Listening store written) := by
  rintro card _ ⟨_, _, _, rfl⟩ h
  exact ⟨⟨h.store, h.written, h.fixedResponses⟩, h.phase, h.frame⟩

theorem uncounting_linked {selected : Bool} {link : Link} :
    Uncounting (Linked store written selected link) := by
  rintro card _ ⟨_, _, _, rfl⟩ h
  exact ⟨⟨h.store, h.written, h.fixedResponses⟩, h.isSelected, h.link, h.ready⟩

/-- For a card that is not selected there is no transaction to be far with. -/
theorem Linked.unselected {link : Link} {card : CardModel} (h : Linked store written false link card)
    (other : Link) : Linked store written false other card :=
  ⟨h.toHolds, h.isSelected, fun hsel => (nomatch hsel), h.ready⟩

theorem Linked.selected {link : Link} {card : CardModel} (h : Holds store written card)
    (hselected : card.isSelected = true) (hlink : card.link = link) :
    Linked store written true link card :=
  ⟨h, hselected, fun _ => hlink, fun hsel => nomatch hsel⟩

/-- Between a command and the next one only replies are under way. -/
theorem Linked.listening {replies : List UInt8} {idleReply : UInt8} {card : CardModel}
    (h : Linked store written true { replies, idleReply } card) : Listening store written card := by
  refine ⟨h.toHolds, ?_, ?_⟩
  · rw [h.link rfl]
  · rw [h.link rfl]

/-- A card that listens goes on listening. -/
theorem leads_receiveByte_listening :
    Exchange.Leads (bus fault) (Listening store written) .receiveByte
      (fun _ => Listening store written) (Holds store written) := by
  refine leads_transfer uncounting_listening (fun _ h _ => h.toHolds) (fun _ h _ => h) ?_
  intro card h _
  rw [receiveByte_idle (.inl ⟨h.phase, h.frame⟩)]
  exact ⟨⟨h.store, h.written, h.fixedResponses⟩, h.phase, h.frame⟩

/-- A card gives its next reply if it is selected. -/
theorem leads_receiveByte_linked {selected : Bool} {link : Link} (hidle : link.IgnoresIdle) :
    Exchange.Leads (bus fault) (Linked store written selected link) .receiveByte
      (fun reply card => reply = (if selected then link.reply else idleByte) ∧
        Linked store written selected link.replied card) (Holds store written) := by
  refine leads_transfer uncounting_linked (fun _ h _ => h.toHolds) ?_ ?_
  · intro card h hsel
    obtain rfl : selected = false := h.isSelected.symm.trans hsel
    exact ⟨rfl, h.unselected _⟩
  · intro card h hsel
    obtain rfl : selected = true := h.isSelected.symm.trans hsel
    obtain rfl : card.link = link := h.link rfl
    rw [nextReply_fst, receiveByte_idle hidle]
    exact ⟨rfl, .selected ⟨h.store, h.written, h.fixedResponses⟩ hsel rfl⟩

/-! ## Commands -/

/-- A byte for a selected card, or for one that is not and does not hear it. -/
theorem leads_sendByte {selected : Bool} {link : Link} {byte : UInt8} {post : CardModel → Prop}
    (hunselected : ∀ card, selected = false → Linked store written selected link card → post card)
    (hselected : ∀ card, selected = true → Linked store written selected link.replied card →
      post (card.receiveByte byte)) :
    Exchange.Leads (bus fault) (Linked store written selected link) (.sendByte byte)
      (fun _ => post) (Holds store written) := by
  have htransfer : Exchange.Leads (bus fault) (Linked store written selected link)
      (.transfer byte) (fun _ => post) (Holds store written) := by
    refine leads_transfer uncounting_linked (fun _ h _ => h.toHolds) ?_ ?_
    · intro card h hsel
      exact hunselected card (h.isSelected.symm.trans hsel) h
    · intro card h hsel
      obtain rfl : selected = true := h.isSelected.symm.trans hsel
      obtain rfl : card.link = link := h.link rfl
      rw [nextReply_snd]
      exact hselected _ rfl (.selected ⟨h.store, h.written, h.fixedResponses⟩ hsel rfl)
  exact htransfer.bind fun _ => Exchange.leads_pure fun _ h => h

/-- The card has taken a whole command, if it is selected, and has done so this far with the
transaction. -/
def Commanded (store : SectorStore) (written : Array (UInt32 × Sector)) (selected : Bool)
    (link : Link) (index : UInt8) (argument : UInt32) (card : CardModel) : Prop :=
  ∃ heard, Linked store written selected link heard ∧
    card = if selected then heard.receiveCommand index argument else heard

theorem tracks_linked : Tracks (Linked store written true) (Holds store written) where
  uncounting _ := uncounting_linked
  isSelected h := h.isSelected
  link h := h.link rfl
  relink _ h := .selected ⟨h.store, h.written, h.fixedResponses⟩ h.isSelected rfl
  failed h _ := h.toHolds

/-- Nothing that is sent is heard by a card that is not selected. -/
theorem leads_send_unselected {link : Link} (bytes : List UInt8) :
    Exchange.Leads (bus fault) (Linked store written false link) (.send bytes)
      (fun _ => Linked store written false link) (Holds store written) := by
  induction bytes with
  | nil => exact Exchange.leads_pure fun _ h => h
  | cons byte bytes ih =>
    have hbyte : Exchange.Leads (bus fault) (Linked store written false link) (.sendByte byte)
        (fun _ => Linked store written false link) (Holds store written) :=
      leads_sendByte (fun _ _ h => h) fun _ hselected => nomatch hselected
    exact hbyte.bind fun _ => ih

/-- A card that is ready for a command takes it whole. -/
theorem leads_sendCommand {selected : Bool} {link : Link} (command : Command)
    (hphase : link.phase = .command) (hframe : link.frame = []) :
    Exchange.Leads (bus fault) (Linked store written selected link) (.sendCommand command)
      (fun _ => Commanded store written selected { link with replies := link.replies.drop 6 }
        (command.index &&& 0x3F) command.argument) (Holds store written) := by
  cases selected with
  | true => exact tracks_linked.leads_sendCommand command hphase hframe
  | false =>
    refine (leads_send_unselected command.frame.toList).mono (fun _ h => h) (fun _ card h => ?_)
      fun _ h => h
    exact ⟨card, h.unselected _, rfl⟩

/-! ## What a command does -/

/-- A card in the socket that answers in earnest goes by the table of commands. -/
theorem receiveCommand_eq {card : CardModel} (h : card.fixedResponses = []) (index : UInt8)
    (argument : UInt32) :
    card.receiveCommand index argument =
      if card.kind = .absent then { card with commands := card.commands.push (index, argument) }
      else { card with
        commands := card.commands.push (index, argument)
        link.applicationNext := false }.execute index argument card.link.applicationNext := by
  unfold receiveCommand
  dsimp only
  rw [h]
  rfl

theorem holds_receiveCommand {card : CardModel} (h : Holds store written card) (index : UInt8)
    (argument : UInt32) : Holds store written (card.receiveCommand index argument) := by
  rw [receiveCommand_eq h.fixedResponses]
  unfold execute
  split
  · exact ⟨h.store, h.written, h.fixedResponses⟩
  · -- one case for each row of the table
    split <;> try split
    all_goals exact ⟨h.store, h.written, h.fixedResponses⟩

/-- Only CMD24 makes a card wait for anything but a command. -/
theorem listening_receiveCommand {card : CardModel} (h : Listening store written card)
    {index : UInt8} (hindex : index.toNat ≠ 24) (argument : UInt32) :
    Listening store written (card.receiveCommand index argument) := by
  rw [receiveCommand_eq h.fixedResponses]
  unfold execute
  split
  · exact ⟨⟨h.store, h.written, h.fixedResponses⟩, h.phase, h.frame⟩
  · -- the row of CMD24 is the only one that touches the phase
    split <;> try split
    all_goals first
      | exact ⟨⟨h.store, h.written, h.fixedResponses⟩, h.phase, h.frame⟩
      | exact absurd ‹index.toNat = 24› hindex

/-- What a card has ready behind its answer to CMD17: a token, after some thought, and the sector
if the token says so. -/
def sectorReplies (store : SectorStore) (address : UInt32) (token : UInt8) : List UInt8 :=
  idleByte :: token ::
    if token = startToken then (store.get address).toList ++ readChecksum else []

/-- A card that is asked for a block answers and makes the block ready. -/
theorem link_receiveCommand_readBlock {card : CardModel} (h : AtRest store written card)
    (address : UInt32) :
    (card.receiveCommand 17 address).link = {} ∨ ∃ token,
      (card.receiveCommand 17 address).link =
        { replies := idleByte :: 0 :: sectorReplies store address token } := by
  rw [receiveCommand_eq h.fixedResponses]
  split
  · exact .inl h.link
  · right
    refine ⟨card.readToken, ?_⟩
    simp [execute, respond, queue, sectorReplies, h.link, h.store, idleByte]

/-- A card that is to take a block answers, and waits for the block's start token. -/
theorem link_receiveCommand_writeBlock {card : CardModel} (h : AtRest store written card)
    (address : UInt32) :
    (card.receiveCommand 24 address).link = {} ∨
    (card.receiveCommand 24 address).link =
      { replies := [idleByte, 0], phase := .writeToken address } := by
  rw [receiveCommand_eq h.fixedResponses]
  split
  · exact .inl h.link
  · right
    simp [execute, respond, queue, h.link, idleByte]

end CardModel

end SdCard
