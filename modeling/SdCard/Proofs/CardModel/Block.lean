import SdCard.Proofs.CardModel.Transaction
import SdCard.Session.Write

/-!
# Blocks to and from the model card

The two transactions that carry a sector. Host and card go through them byte by byte, each with a
state of its own; the assertions here say, for each point of the host's program, how far the card is
with its side.

* `leads_askForBlock`: a card that answers CMD17 has the sector ready, behind a start token;
* `leads_offerBlock`: a card that answers CMD24 waits for a start token;
* `leads_sendBlock`: it then receives the block whole, and stores it if it says so.
-/

namespace SdCard

namespace CardModel

variable {ε : Type} {fault : ε} {store : SectorStore} {written : Array (UInt32 × Sector)}

/-! ## Polls -/

/-- The replies from the first one on that is not idle. -/
theorem Link.dropWhile_replies {link : Link} (h : link.idleReply = idleByte) :
    link.replies.dropWhile (· = idleByte) =
      if link.reply = idleByte then link.replied.replies.dropWhile (· = idleByte)
      else link.reply :: link.replied.replies := by
  unfold Link.reply Link.replied
  cases link.replies with
  | nil => simp [h]
  | cons first rest => simp [List.dropWhile_cons]

/-- A reply that is not idle is the first such reply of the card, and the ones behind it are still
to come. -/
theorem leads_pollWithin {selected : Bool} {link : Link} (hidle : link.IgnoresIdle)
    (hreply : link.idleReply = idleByte) (polls : Nat) :
    Exchange.Leads (bus fault) (Linked store written selected link) (.pollWithin polls)
      (fun reply card => Holds store written card ∧ (reply ≠ idleByte → ∃ rest,
        link.replies.dropWhile (· = idleByte) = reply :: rest ∧
        Linked store written true { link with replies := rest } card))
      (Holds store written) := by
  induction polls generalizing link with
  | zero => exact Exchange.leads_pure fun _ h => ⟨h.toHolds, fun hreply => absurd rfl hreply⟩
  | succ polls ih =>
    refine (leads_receiveByte_linked hidle).bind fun reply => ?_
    rintro card ⟨hnext, hlinked⟩
    rw [Link.dropWhile_replies hreply]
    cases selected with
    | false =>
      -- a card that is not selected is idle to the end
      rw [if_neg Bool.false_ne_true] at hnext
      rw [if_pos hnext]
      have hrest := @ih {} (.inl ⟨rfl, rfl⟩) rfl card (hlinked.unselected _)
      refine hrest.mono (fun other h => ⟨h.1, fun hother => ?_⟩) id
      obtain ⟨_, hnone, -⟩ := h.2 hother
      cases hnone
    | true =>
      -- the reply is the card's next one, and the poll goes on if it is idle
      rw [if_pos rfl] at hnext
      rw [← hnext]
      split
      · exact @ih link.replied hidle hreply card hlinked
      · exact ⟨hlinked.toHolds, fun _ => ⟨link.replied.replies, rfl, hlinked⟩⟩

/-! ## The way to a block -/

/-- A card at rest answers a command with what the command draws from it, or not at all. The answer
is zero only if it is the card's, and what waits behind it is then still to come. -/
theorem leads_sendAndPoll_atRest {command : Command} {behind : Link → Prop} (bound : UInt32)
    (hdrawn : ∀ heard, AtRest store written heard →
      (heard.receiveCommand (command.index &&& 0x3F) command.argument).link = {} ∨
      ∃ link, behind link ∧
        (heard.receiveCommand (command.index &&& 0x3F) command.argument).link =
          { link with replies := idleByte :: 0 :: link.replies })
    (hbehind : ∀ link, behind link → link.IgnoresIdle ∧ link.idleReply = idleByte) :
    Exchange.Leads (bus fault) (AtRest store written) (do
      Exchange.sendCommand command
      Exchange.poll bound)
      (fun response card => Holds store written card ∧ (response = 0 → ∃ link, behind link ∧
        Linked store written true link card))
      (Holds store written) := by
  have hcommand : Exchange.Leads (bus fault) (AtRest store written) (.sendCommand command)
      (fun _ card => ∃ selected link, Linked store written selected link card ∧
        (link = {} ∨ ∃ next, behind next ∧
          link = { next with replies := idleByte :: 0 :: next.replies }))
      (Holds store written) := by
    intro card hcard
    have hready := hcard.listening
    have hlinked : Linked store written card.isSelected {} card :=
      ⟨hcard.toHolds, rfl, fun _ => hcard.link, fun _ => ⟨hready.phase, hready.frame⟩⟩
    refine Ending.mono (leads_sendCommand command rfl rfl card hlinked) ?_ id
    rintro _ ⟨heard, hheard, hafter⟩
    rw [hafter]
    cases hselected : card.isSelected with
    | false =>
      rw [hselected] at hheard
      exact ⟨false, {}, hheard.unselected _, .inl rfl⟩
    | true =>
      -- whoever heard the command was still at rest, as the frame left no trace
      rw [hselected] at hheard
      have hrest : AtRest store written heard := ⟨hheard.toHolds, hheard.link rfl⟩
      refine ⟨true, _, .selected (holds_receiveCommand hheard.toHolds _ _) ?_ rfl, hdrawn heard hrest⟩
      rw [if_pos rfl, isSelected_receiveCommand]
      exact hheard.isSelected
  refine hcommand.bind fun _ => ?_
  rintro card ⟨selected, link, hlinked, rfl | ⟨next, hnext, rfl⟩⟩
  · -- nothing was drawn, so the poll ends with an idle byte
    refine (leads_pollWithin (.inl ⟨rfl, rfl⟩) rfl _ card hlinked).mono ?_ id
    rintro response ⟨hholds, hresponse⟩
    refine ⟨hholds, fun hzero => ?_⟩
    obtain ⟨_, hnone, -⟩ := hresponse (by rw [hzero]; decide)
    cases hnone
  · -- the card thinks for one byte, and the next one is the answer
    obtain ⟨hidle, hreply⟩ := hbehind next hnext
    refine (leads_pollWithin (by exact hidle) (by exact hreply) _ card hlinked).mono ?_ id
    rintro response ⟨hholds, hresponse⟩
    refine ⟨hholds, fun hzero => ?_⟩
    obtain ⟨rest, hrest, hafter⟩ := hresponse (by rw [hzero]; decide)
    obtain ⟨-, rfl⟩ : 0 = response ∧ next.replies = rest := by
      simpa [idleByte] using hrest
    exact ⟨next, hnext, hafter⟩

/-- The sector at an address is ready for the host, behind a token. -/
def Serving (store : SectorStore) (address : UInt32) (link : Link) : Prop :=
  ∃ token, link = { replies := sectorReplies store address token }

/-- A card that answers CMD17 has the sector ready. -/
theorem leads_askForBlock (address bound : UInt32) :
    Exchange.Leads (bus fault) (AtRest store written) (do
      Exchange.sendCommand (.readBlock address)
      Exchange.poll bound)
      (fun response card => Holds store written card ∧ (response = 0 → ∃ link,
        Serving store address link ∧ Linked store written true link card))
      (Holds store written) := by
  have hindex : (17 : UInt8) &&& 0x3F = 17 := by decide
  refine leads_sendAndPoll_atRest bound (fun heard h => ?_) ?_
  · rw [Command.readBlock, hindex]
    rcases link_receiveCommand_readBlock h address with hsilent | ⟨token, hlink⟩
    · exact .inl hsilent
    · exact .inr ⟨_, ⟨token, rfl⟩, hlink⟩
  · rintro _ ⟨token, rfl⟩
    exact ⟨.inl ⟨rfl, rfl⟩, rfl⟩

/-- A token that begins a block comes with the whole sector behind it. -/
theorem leads_poll_token (address bound : UInt32) :
    Exchange.Leads (bus fault)
      (fun card => ∃ link, Serving store address link ∧ Linked store written true link card)
      (.poll bound)
      (fun reply card => Holds store written card ∧ (reply = startToken →
        Linked store written true
          { replies := (store.get address).toList ++ readChecksum } card))
      (Holds store written) := by
  rintro card ⟨_, ⟨token, rfl⟩, hcard⟩
  refine (leads_pollWithin (.inl ⟨rfl, rfl⟩) rfl _ card hcard).mono ?_ id
  rintro reply ⟨hholds, hreply⟩
  refine ⟨hholds, fun hstart => ?_⟩
  obtain ⟨rest, hrest, hafter⟩ := hreply (by rw [hstart]; decide)
  by_cases htoken : token = startToken
  · obtain ⟨-, rfl⟩ : startToken = reply ∧
        (store.get address).toList ++ readChecksum = rest := by
      simpa [sectorReplies, htoken, idleByte, startToken] using hrest
    exact hafter
  · -- another token is the last reply of the card, so no start token comes
    have hlast : [idleByte, token].dropWhile (· = idleByte) = reply :: rest := by
      simpa [sectorReplies, htoken] using hrest
    have hreply : reply = token := by
      by_cases hidle : token = idleByte
      · simp [hidle] at hlast
      · simp [hidle] at hlast
        exact hlast.1.symm
    exact absurd (hreply.symm.trans hstart) htoken

/-- A card that answers CMD24 waits for a block. -/
theorem leads_offerBlock (address bound : UInt32) :
    Exchange.Leads (bus fault) (AtRest store written) (do
      Exchange.sendCommand (.writeBlock address)
      Exchange.poll bound)
      (fun response card => Holds store written card ∧
        (response = 0 → Linked store written true { phase := .writeToken address } card))
      (Holds store written) := by
  have hindex : (24 : UInt8) &&& 0x3F = 24 := by decide
  have hanswer : Exchange.Leads (bus fault) (AtRest store written) (do
        Exchange.sendCommand (.writeBlock address)
        Exchange.poll bound)
      (fun response card => Holds store written card ∧ (response = 0 → ∃ link,
        link = { phase := .writeToken address } ∧ Linked store written true link card))
      (Holds store written) := by
    refine leads_sendAndPoll_atRest bound (fun heard h => ?_) ?_
    · rw [Command.writeBlock, hindex]
      rcases link_receiveCommand_writeBlock h address with hsilent | hlink
      · exact .inl hsilent
      · exact .inr ⟨_, rfl, hlink⟩
    · rintro _ rfl
      exact ⟨.inr ⟨address, rfl⟩, rfl⟩
  refine hanswer.mono (fun _ h => h) (fun response card h => ⟨h.1, fun hzero => ?_⟩) fun _ h => h
  obtain ⟨_, rfl, hlinked⟩ := h.2 hzero
  exact hlinked

/-! ## A block to the card -/

section Write

variable {address : UInt32}

/-- Before the start token, idle bytes do nothing. -/
theorem leads_sendByte_gap :
    Exchange.Leads (bus fault) (Linked store written true { phase := .writeToken address })
      (.sendByte idleByte)
      (fun _ => Linked store written true { phase := .writeToken address })
      (Holds store written) :=
  (leads_receiveByte_linked (.inr ⟨_, rfl⟩)).bind fun _ => Exchange.leads_pure fun _ h => h.2

/-- The start token begins the block. -/
theorem leads_sendByte_token :
    Exchange.Leads (bus fault) (Linked store written true { phase := .writeToken address })
      (.sendByte startToken)
      (fun _ => Linked store written true { phase := .writeData address #[] })
      (Holds store written) := by
  refine leads_sendByte (fun _ hsel => nomatch hsel) fun card _ h => ?_
  unfold receiveByte
  rw [h.link rfl]
  exact .selected ⟨h.store, h.written, h.fixedResponses⟩ h.isSelected rfl

/-- All bytes of a block but the last are kept for later. -/
theorem leads_send_data (data : List UInt8) (bytes : Array UInt8)
    (hsize : bytes.size + data.length < sectorSize + 2) :
    Exchange.Leads (bus fault) (Linked store written true { phase := .writeData address bytes })
      (.send data)
      (fun _ => Linked store written true { phase := .writeData address (bytes ++ data.toArray) })
      (Holds store written) := by
  induction data generalizing bytes with
  | nil => exact Exchange.leads_pure fun _ h => by simpa using h
  | cons byte data ih =>
    rw [List.length_cons] at hsize
    have hbyte : Exchange.Leads (bus fault)
        (Linked store written true { phase := .writeData address bytes }) (.sendByte byte)
        (fun _ => Linked store written true { phase := .writeData address (bytes.push byte) })
        (Holds store written) := by
      refine leads_sendByte (fun _ hsel => nomatch hsel) fun card _ h => ?_
      unfold receiveByte
      rw [h.link rfl]
      dsimp only [Link.replied]
      -- the block is not whole yet
      rw [if_pos (by rw [Array.size_push]; omega)]
      exact .selected ⟨h.store, h.written, h.fixedResponses⟩ h.isSelected rfl
    have hrest := ih (bytes.push byte) (by rw [Array.size_push]; omega)
    refine hbyte.bind fun _ => hrest.mono (fun _ h => h) (fun _ card h => ?_) fun _ h => h
    simpa using h

/-- The data response goes first, and what the card signals while it is busy comes behind it. -/
theorem linked_judged {card : CardModel} (h : Linked store written true {} card) :
    ∃ rest idleReply, Linked store written true
      { replies := card.dataResponse :: rest, idleReply }
      (if card.stuckBusy then { card.queue [card.dataResponse] with link.idleReply := 0 }
        else card.queue (card.dataResponse :: List.replicate card.busyBytes 0)) := by
  have hlink := h.link rfl
  have hholds := h.toHolds
  by_cases hstuck : card.stuckBusy = true
  · rw [if_pos hstuck]
    refine ⟨[], 0, .selected ⟨hholds.store, hholds.written, hholds.fixedResponses⟩ h.isSelected ?_⟩
    rw [queue, hlink]
    rfl
  · rw [if_neg hstuck]
    refine ⟨List.replicate card.busyBytes 0, idleByte,
      .selected ⟨hholds.store, hholds.written, hholds.fixedResponses⟩ h.isSelected ?_⟩
    rw [queue, hlink]
    rfl

/-- A whole block is received, and stored if the card says so. -/
theorem linked_receiveBlock {card : CardModel} (h : Linked store written true {} card)
    (address : UInt32) (sector : Sector) :
    ∃ response rest idleReply, Linked (if isDataAccepted response then
        store.insert address sector else store) (written.push (address, sector)) true
      { replies := response :: rest, idleReply } (card.receiveBlock address sector) := by
  have hreceived : ∀ store', Linked store' (written.push (address, sector)) true {}
      { card with store := store', written := card.written.push (address, sector) } := by
    intro store'
    have hwritten := h.written
    exact .selected ⟨rfl, by rw [hwritten], h.fixedResponses⟩ h.isSelected (h.link rfl)
  refine ⟨card.dataResponse, ?_⟩
  unfold receiveBlock
  by_cases haccepted : isDataAccepted card.dataResponse = true
  · rw [if_pos haccepted, if_pos haccepted, h.store]
    exact linked_judged (hreceived (store.insert address sector))
  · rw [if_neg haccepted, if_neg haccepted, ← h.store]
    exact linked_judged (hreceived card.store)

/-- With its last byte a block has been received, and it is stored if the card says so. -/
theorem leads_sendByte_end {bytes : Array UInt8} {byte : UInt8}
    (hsize : bytes.size = sectorSize + 1) :
    Exchange.Leads (bus fault) (Linked store written true { phase := .writeData address bytes })
      (.sendByte byte)
      (fun _ card => ∃ response rest idleReply,
        Linked (if isDataAccepted response then
            store.insert address (.ofList sectorSize (bytes.push byte).toList) else store)
          (written.push (address, .ofList sectorSize (bytes.push byte).toList)) true
          { replies := response :: rest, idleReply } card)
      (Holds store written) := by
  refine leads_sendByte (fun _ hsel => nomatch hsel) fun card _ h => ?_
  unfold receiveByte
  rw [h.link rfl]
  dsimp only [Link.replied]
  -- this byte makes the block whole, so the phase is a command's again
  rw [if_neg (by rw [Array.size_push]; omega)]
  have hstart : Linked store written true {} { card with link := { } } :=
    .selected ⟨h.store, h.written, h.fixedResponses⟩ h.isSelected rfl
  exact linked_receiveBlock hstart address _

/-- A card holds a sector or has not changed, after an attempt to write it. -/
def Attempted (store : SectorStore) (address : UInt32) (sector : Sector) (card : CardModel) : Prop :=
  ∃ store' written', (store' = store ∨ store' = store.insert address sector) ∧
    Holds store' written' card

/-- A card that waits for a block receives it, and stores it if the data response says so. -/
theorem leads_sendBlock (sector : Sector) :
    Exchange.Leads (bus fault) (Linked store written true { phase := .writeToken address }) (do
      Exchange.send (Session.blockImage sector)
      Exchange.receiveByte)
      (fun token => Listening
        (if isDataAccepted token then store.insert address sector else store)
        (written.push (address, sector)))
      (Attempted store address sector) := by
  have himage : Session.blockImage sector =
      idleByte :: startToken :: ((sector.toList ++ [idleByte]) ++ [idleByte]) := by
    simp [Session.blockImage]
  have hsector : Bytes.ofList sectorSize
      ((#[] ++ (sector.toList ++ [idleByte]).toArray).push idleByte).toList = sector := by
    rw [← Vector.toList_inj, Bytes.toList_ofList]
    simp
  have hsend : Exchange.Leads (bus fault)
      (Linked store written true { phase := .writeToken address })
      (.send (Session.blockImage sector))
      (fun _ card => ∃ response rest idleReply,
        Linked (if isDataAccepted response then store.insert address sector else store)
          (written.push (address, sector)) true { replies := response :: rest, idleReply } card)
      (Holds store written) := by
    -- the last of the two bytes behind the sector is the one that the card waits for
    rw [himage]
    refine leads_sendByte_gap.bind fun _ => leads_sendByte_token.bind fun _ => ?_
    rw [Exchange.send_append]
    refine (leads_send_data _ #[] (by simp)).bind fun _ => ?_
    refine (leads_sendByte_end (by simp)).bind fun _ => Exchange.leads_pure fun card h => ?_
    rwa [hsector] at h
  have hunchanged : ∀ card, Holds store written card → Attempted store address sector card :=
    fun card h => ⟨store, written, .inl rfl, h⟩
  refine (hsend.mono (fun _ h => h) (fun _ _ h => h) hunchanged).bind fun _ => ?_
  rintro card ⟨response, rest, idleReply, hlinked⟩
  refine (leads_receiveByte_linked (.inl ⟨rfl, rfl⟩) card hlinked).mono ?_ fun h => ?_
  · rintro token ⟨rfl, h⟩
    exact h.listening
  · refine ⟨_, _, ?_, h⟩
    split
    · exact .inr rfl
    · exact .inl rfl

end Write

end CardModel

end SdCard
