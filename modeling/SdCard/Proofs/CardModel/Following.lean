import SdCard.CardModel.Transfer
import SdCard.Command.Exchange
import SdCard.Proofs.Bus.Assertion

/-!
# A card followed byte by byte

What a card makes of the bytes that are shifted to it, up to whole commands. How the card is driven,
and what has been counted of that, makes no difference to its answers but for whether it listens at
all; `core` leaves that out.

* `leads_transfer`: the one rule for a byte, with a case for each thing it can come to;
* `core_receiveCommand`: a command does the same to a card and to its core;
* `Tracks.leads_sendCommand`: the frame of a command is put together byte by byte.
-/

namespace SdCard

namespace CardModel

variable {ε α β : Type} {fault : ε}

/-! ## One byte -/

/-- One card comes from the other by transfers that were counted and did nothing else. -/
def Counted (card card' : CardModel) : Prop :=
  ∃ transfers clocked deselectedBytes, card' = { card with transfers, clocked, deselectedBytes }

/-- The assertion does not speak of counts. -/
def Uncounting (assertion : CardModel → Prop) : Prop :=
  ∀ card card', Counted card card' → assertion card → assertion card'

/-- A transfer meets a fault where the bus breaks, or finds the card not selected, or the card gives
its next reply and takes the byte. -/
theorem leads_transfer {byte : UInt8} {pre failed : CardModel → Prop}
    {post : UInt8 → CardModel → Prop} (huncounting : Uncounting pre)
    (hfailed : ∀ card, pre card → card.failAfter ≠ none → failed card)
    (hunselected : ∀ card, pre card → card.isSelected = false → post idleByte card)
    (hselected : ∀ card, pre card → card.isSelected = true →
      post card.nextReply.1 (card.nextReply.2.receiveByte byte)) :
    Exchange.Leads (bus fault) pre (.transfer byte) post failed := by
  refine Exchange.leads_transfer fun card hcard => ?_
  let counted : CardModel := { card with transfers := card.transfers + 1 }
  let clocked : CardModel := { counted with clocked := counted.clocked + 1 }
  let deselected : CardModel := { clocked with deselectedBytes := clocked.deselectedBytes + 1 }
  -- the card counts a transfer before it knows whether the bus breaks at it
  by_cases hbroken : counted.failAfter.any (· < counted.transfers) = true
  · have htransfer : (bus fault).transfer byte card = (.error fault, counted) := by
      simp only [bus]
      rw [if_pos hbroken]
    rw [htransfer]
    refine hfailed _ (huncounting _ _ ⟨_, _, _, rfl⟩ hcard) fun hnone => ?_
    rw [hnone] at hbroken
    cases hbroken
  · have htransfer : (bus fault).transfer byte card =
        (.ok (counted.shift byte).1, (counted.shift byte).2) := by
      simp only [bus]
      rw [if_neg hbroken]
    rw [htransfer]
    have hclocked : pre clocked := huncounting card _ ⟨_, _, _, rfl⟩ hcard
    change post (counted.shift byte).1 (counted.shift byte).2
    by_cases hsel : clocked.isSelected = true
    · have hshift : counted.shift byte =
          (clocked.nextReply.1, clocked.nextReply.2.receiveByte byte) := by
        unfold shift
        rw [if_pos hsel]
      rw [hshift]
      exact hselected clocked hclocked hsel
    · have hshift : counted.shift byte =
          (idleByte, if clocked.isNamed then clocked else deselected) := by
        unfold shift
        rw [if_neg hsel]
        rfl
      rw [hshift]
      have hsel : clocked.isSelected = false := Bool.eq_false_iff.mpr hsel
      split
      · exact hunselected clocked hclocked hsel
      · exact hunselected deselected (huncounting card _ ⟨_, _, _, rfl⟩ hcard) hsel

/-- The next reply to be shifted to the host. -/
def Link.reply (link : Link) : UInt8 := link.replies.headD link.idleReply

/-- The transaction when its next reply has gone. -/
def Link.replied (link : Link) : Link := { link with replies := link.replies.tail }

theorem nextReply_fst (card : CardModel) : card.nextReply.1 = card.link.reply := by
  unfold nextReply Link.reply
  cases card.link.replies <;> rfl

theorem nextReply_snd (card : CardModel) :
    card.nextReply.2 = { card with link := card.link.replied } := by
  unfold nextReply Link.replied
  cases h : card.link.replies with
  | nil =>
    have hlink : { card.link with replies := [] } = card.link := by rw [← h]
    rw [List.tail_nil, hlink]
  | cons => rfl

/-- An idle byte begins no command and no block. -/
def Link.IgnoresIdle (link : Link) : Prop :=
  (link.phase = .command ∧ link.frame = []) ∨ ∃ address, link.phase = .writeToken address

theorem receiveByte_idle {card : CardModel} (h : card.link.IgnoresIdle) :
    card.nextReply.2.receiveByte idleByte = { card with link := card.link.replied } := by
  rw [nextReply_snd]
  unfold receiveByte Link.replied
  dsimp only
  rcases h with ⟨hphase, hframe⟩ | ⟨address, hphase⟩
  · have hstart : idleByte &&& 0xC0 ≠ 0x40 := by decide
    rw [hphase]
    simp [receiveFrameByte, hframe, hstart]
  · rw [hphase]
    rfl

theorem receiveFrameByte_of_lt {card : CardModel} {byte : UInt8}
    (hlength : card.link.frame.length < 5)
    (hstart : card.link.frame ≠ [] ∨ byte &&& 0xC0 = 0x40) :
    card.receiveFrameByte byte = { card with link.frame := card.link.frame ++ [byte] } := by
  unfold receiveFrameByte
  rw [if_neg]
  · split
    · -- a whole frame has six bytes, and this one has fewer
      rename_i heq
      have hsix := congrArg List.length heq
      simp at hsix
      omega
    · rfl
  · rcases hstart with hframe | hbits
    · simp [hframe]
    · simp [hbits]

/-! ## What a card answers by -/

/-- The card without what it knows of the bus: how it is driven, and what has been counted. -/
def core (card : CardModel) : CardModel :=
  { card with
    chipSelect := none
    forced := false
    forceCount := 0
    deselectedBytes := 0
    clocked := 0
    transfers := 0 }

/-- What a card knows of the bus makes no difference to the effect of a command. -/
theorem core_execute (card : CardModel) (index : UInt8) (argument : UInt32) (application : Bool) :
    (card.execute index argument application).core =
      card.core.execute index argument application := by
  have hignored : card.core.resetsIgnored = card.resetsIgnored := rfl
  have hkind : card.core.kind = card.kind := rfl
  have hbusy : card.core.busyRounds = card.busyRounds := rfl
  unfold execute
  rw [hignored, hkind, hbusy]
  -- the rows of CMD0, CMD8 and ACMD41 look at the card before they answer
  split
  · split
    · rfl
    · rfl
  · cases card.kind <;> rfl
  all_goals try rfl
  · split
    · rfl
    · rfl

theorem core_receiveCommand (card : CardModel) (index : UInt8) (argument : UInt32) :
    (card.receiveCommand index argument).core = card.core.receiveCommand index argument := by
  have hkind : card.core.kind = card.kind := rfl
  have hfixed : card.core.fixedResponses = card.fixedResponses := rfl
  unfold receiveCommand
  dsimp only
  rw [hkind, hfixed]
  split
  · rfl
  · split
    · rfl
    · exact core_execute _ _ _ _

theorem isSelected_execute (card : CardModel) (index : UInt8) (argument : UInt32)
    (application : Bool) :
    (card.execute index argument application).isSelected = card.isSelected := by
  unfold execute
  split <;> try split
  all_goals rfl

theorem isSelected_receiveCommand (card : CardModel) (index : UInt8) (argument : UInt32) :
    (card.receiveCommand index argument).isSelected = card.isSelected := by
  unfold receiveCommand
  dsimp only
  split
  · rfl
  · split
    · rfl
    · exact isSelected_execute _ _ _ _

/-! ## Commands -/

/-- The assertions tell how far a selected card is with a transaction, and nothing else of it that a
transaction or a count changes. -/
structure Tracks (assertion : Link → CardModel → Prop) (failed : CardModel → Prop) : Prop where
  uncounting : ∀ link, Uncounting (assertion link)
  isSelected : ∀ {link card}, assertion link card → card.isSelected = true
  link : ∀ {link card}, assertion link card → card.link = link
  relink : ∀ {link card} (other : Link), assertion link card →
    assertion other { card with link := other }
  failed : ∀ {link card}, assertion link card → card.failAfter ≠ none → failed card

section Commands

variable {assertion : Link → CardModel → Prop} {failed : CardModel → Prop} {link : Link}
  {byte : UInt8}

/-- A selected card takes a byte when its next reply has gone. -/
theorem Tracks.leads_sendByte (h : Tracks assertion failed) {post : CardModel → Prop}
    (hreceive : ∀ card, assertion link.replied card → post (card.receiveByte byte)) :
    Exchange.Leads (bus fault) (assertion link) (.sendByte byte) (fun _ => post) failed := by
  have htransfer : Exchange.Leads (bus fault) (assertion link) (.transfer byte) (fun _ => post)
      failed := by
    refine leads_transfer (h.uncounting link) (fun _ hcard => h.failed hcard) ?_ ?_
    · intro card hcard hunselected
      rw [h.isSelected hcard] at hunselected
      cases hunselected
    · intro card hcard _
      rw [nextReply_snd, h.link hcard]
      exact hreceive _ (h.relink _ hcard)
  exact htransfer.bind fun _ => Exchange.leads_pure fun _ hcard => hcard

theorem receiveByte_eq {card : CardModel} (h : card.link.phase = .command) (byte : UInt8) :
    card.receiveByte byte = card.receiveFrameByte byte := by
  unfold receiveByte
  rw [h]

/-- A byte of a frame before the last one. -/
theorem Tracks.leads_sendByte_frame (h : Tracks assertion failed) (hphase : link.phase = .command)
    (hlength : link.frame.length < 5) (hstart : link.frame ≠ [] ∨ byte &&& 0xC0 = 0x40) :
    Exchange.Leads (bus fault) (assertion link) (.sendByte byte)
      (fun _ => assertion { link.replied with frame := link.frame ++ [byte] }) failed := by
  refine h.leads_sendByte fun card hcard => ?_
  have hlink : card.link = link.replied := h.link hcard
  have hframe : card.link.frame = link.frame := by rw [hlink]; rfl
  rw [receiveByte_eq (by rw [hlink]; exact hphase),
    receiveFrameByte_of_lt (by rwa [hframe]) (by rwa [hframe]), hlink]
  exact h.relink _ hcard

/-- Bytes within a frame. -/
theorem Tracks.leads_send_frame (h : Tracks assertion failed) (bytes : List UInt8)
    (hphase : link.phase = .command) (hlength : link.frame.length + bytes.length ≤ 5)
    (hstart : link.frame ≠ []) :
    Exchange.Leads (bus fault) (assertion link) (.send bytes)
      (fun _ => assertion
        { link with frame := link.frame ++ bytes, replies := link.replies.drop bytes.length })
      failed := by
  induction bytes generalizing link with
  | nil => exact Exchange.leads_pure fun _ hcard => by simpa using hcard
  | cons byte bytes ih =>
    rw [List.length_cons] at hlength
    have hbyte : link.frame.length < 5 := by omega
    have hrest : (link.frame ++ [byte]).length + bytes.length ≤ 5 := by
      rw [List.length_append, List.length_singleton]
      omega
    refine (h.leads_sendByte_frame hphase hbyte (.inl hstart)).bind fun _ => ?_
    refine (@ih { link.replied with frame := link.frame ++ [byte] } hphase hrest (by simp)).mono
      (fun _ hcard => hcard) (fun _ card hcard => ?_) fun _ hcard => hcard
    simpa [Link.replied, ← List.drop_one, Nat.add_comm] using hcard

/-- With the last byte of a frame the command is whole. -/
theorem Tracks.leads_sendByte_last (h : Tracks assertion failed) {first a b c d last : UInt8}
    (hphase : link.phase = .command) (hframe : link.frame = [first, a, b, c, d]) :
    Exchange.Leads (bus fault) (assertion link) (.sendByte last)
      (fun _ card => ∃ heard, assertion { link.replied with frame := [] } heard ∧
        card = heard.receiveCommand (first &&& 0x3F) (Bytes.word #v[a, b, c, d])) failed := by
  refine h.leads_sendByte fun card hcard => ?_
  have hlink : card.link = link.replied := h.link hcard
  refine ⟨{ card with link.frame := [] }, ?_, ?_⟩
  · rw [hlink]
    exact h.relink _ hcard
  · rw [receiveByte_eq (by rw [hlink]; exact hphase)]
    simp [receiveFrameByte, hlink, hframe, Link.replied]

/-- A selected card that is ready for a command takes it whole. -/
theorem Tracks.leads_sendCommand (h : Tracks assertion failed) (command : Command)
    (hphase : link.phase = .command) (hframe : link.frame = []) :
    Exchange.Leads (bus fault) (assertion link) (.sendCommand command)
      (fun _ card => ∃ heard, assertion { link with replies := link.replies.drop 6 } heard ∧
        card = heard.receiveCommand (command.index &&& 0x3F) command.argument) failed := by
  -- the bits that start a frame are set, and the others give the index back
  obtain ⟨hstart, hindex⟩ := Command.frame_bits command.index
  have hword : Bytes.word #v[(Bytes.ofWord command.argument)[0],
      (Bytes.ofWord command.argument)[1], (Bytes.ofWord command.argument)[2],
      (Bytes.ofWord command.argument)[3]] = command.argument := Bytes.word_ofWord command.argument
  have hbytes : command.frame.toList = (0x40 ||| (command.index &&& 0x3F)) ::
      ([(Bytes.ofWord command.argument)[0], (Bytes.ofWord command.argument)[1],
        (Bytes.ofWord command.argument)[2], (Bytes.ofWord command.argument)[3]] ++
        [command.checksum ||| 0x01]) := rfl
  rw [Exchange.sendCommand, hbytes]
  refine (h.leads_sendByte_frame hphase (by simp [hframe]) (.inr hstart)).bind fun _ => ?_
  rw [Exchange.send_append]
  refine (h.leads_send_frame _ (by exact hphase) (by simp [hframe]) (by simp)).bind fun _ => ?_
  refine (h.leads_sendByte_last (by exact hphase) (by rw [hframe]; rfl)).bind fun _ =>
    Exchange.leads_pure fun card hcard => ?_
  obtain ⟨heard, hheard, rfl⟩ := hcard
  rw [hindex, hword]
  refine ⟨heard, ?_, rfl⟩
  simpa [Link.replied, hframe, ← List.drop_one] using hheard

end Commands

end CardModel

end SdCard
