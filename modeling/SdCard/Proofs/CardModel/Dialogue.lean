import SdCard.Proofs.Bus.Possible
import SdCard.Proofs.CardModel.Following

/-!
# What a card says to an exchange

A card on a bus that does not break, told exactly. `Heeds c` and `Named c` hold of a card that is
`c` but for what it knows of the bus: of one that listens, and of one that is named and may be made
to listen. `Gets` says what an exchange gets from such a card, and which card it leaves.

* `gets_sendCommand`: a command does to the card what the table of commands says;
* `gets_poll`, `gets_poll_silent`: a card thinks for one byte before it answers, or says nothing;
* `leads_whileSelected_gets`: the release throws away what the transaction has built up.
-/

namespace SdCard

namespace CardModel

variable {ε α β : Type} {fault : ε}

/-- The card listens, and it is `c` but for what it knows of the bus. -/
def Heeds (c card : CardModel) : Prop := card.core = c ∧ card.isSelected = true

/-- The card is named, and it is `c` but for what it knows of the bus. -/
def Named (c card : CardModel) : Prop := card.core = c ∧ card.isNamed = true

/-- The transaction is at a point where the host may poll or begin a command. -/
structure Link.Open (link : Link) : Prop where
  phase : link.phase = .command
  frame : link.frame = []
  idleReply : link.idleReply = 0xFF

theorem Link.open_replies {replies : List UInt8} {applicationNext : Bool} :
    Link.Open { replies, applicationNext } := ⟨rfl, rfl, rfl⟩

/-- From the card `c`, the exchange gets the value and leaves the card `c'`. -/
def Gets (fault : ε) (c : CardModel) (exchange : Exchange ε α) (value : α) (c' : CardModel) :
    Prop :=
  Exchange.Leads (bus fault) (Heeds c) exchange (fun v card => v = value ∧ Heeds c' card)
    fun _ => False

theorem uncounting_heeds {c : CardModel} : Uncounting (Heeds c) := by
  rintro card _ ⟨_, _, _, rfl⟩ h
  exact h

theorem tracks_heeds {c : CardModel} (hfail : c.failAfter = none) :
    Tracks (fun link => Heeds { c with link }) fun _ => False where
  uncounting _ := uncounting_heeds
  isSelected h := h.2
  link h := congrArg CardModel.link h.1
  relink other h := ⟨congrArg (fun card : CardModel => { card with link := other }) h.1, h.2⟩
  failed h hbroken := by
    have hcore := congrArg CardModel.failAfter h.1
    exact hbroken (hcore.trans hfail)

section Gets

variable {c c' c'' : CardModel}

theorem gets_pure (value : α) : Gets fault c (pure value) value c :=
  Exchange.leads_pure fun _ h => ⟨rfl, h⟩

theorem Gets.bind {exchange : Exchange ε α} {f : α → Exchange ε β} {value : α} {other : β}
    (h : Gets fault c exchange value c') (hf : Gets fault c' (f value) other c'') :
    Gets fault c (exchange >>= f) other c'' := by
  refine Exchange.Leads.bind h fun v card hv => ?_
  obtain ⟨rfl, hcard⟩ := hv
  exact hf card hcard

/-- A card that is asked for a byte gives its next reply. -/
theorem gets_receiveByte (hfail : c.failAfter = none) (hopen : c.link.Open) :
    Gets fault c .receiveByte c.link.reply { c with link := c.link.replied } := by
  refine leads_transfer uncounting_heeds (fun card hcard hbroken => ?_) ?_ ?_
  · exact (tracks_heeds (c := c) hfail).failed hcard hbroken
  · intro card hcard hunselected
    rw [hcard.2] at hunselected
    cases hunselected
  · rintro card ⟨rfl, hselected⟩ _
    have hidle : card.link.IgnoresIdle := .inl ⟨hopen.phase, hopen.frame⟩
    rw [nextReply_fst, receiveByte_idle hidle]
    exact ⟨rfl, rfl, hselected⟩

/-- A card takes a command when what it was about to say has gone. -/
theorem gets_sendCommand (hfail : c.failAfter = none) (hopen : c.link.Open)
    (hreplies : c.link.replies = []) (command : Command) :
    Gets fault c (.sendCommand command) ()
      (c.receiveCommand (command.index &&& 0x3F) command.argument) := by
  refine ((tracks_heeds hfail).leads_sendCommand command hopen.phase hopen.frame).mono
    (fun _ h => h) (fun _ card h => ⟨rfl, ?_⟩) fun _ h => h
  obtain ⟨heard, ⟨hcore, hselected⟩, rfl⟩ := h
  have hlink : { c.link with replies := [] } = c.link := by rw [← hreplies]
  rw [hreplies, List.drop_nil, hlink] at hcore
  refine ⟨?_, ?_⟩
  · rw [core_receiveCommand, hcore]
  · rw [isSelected_receiveCommand, hselected]

/-- A card that has nothing to say reads as idle. -/
theorem gets_receiveByte_silent (hfail : c.failAfter = none) (hopen : c.link.Open)
    (hreplies : c.link.replies = []) : Gets fault c .receiveByte 0xFF c := by
  have hreply : c.link.reply = 0xFF := by simp [Link.reply, hreplies, hopen.idleReply]
  have hreplied : c.link.replied = c.link := by
    unfold Link.replied
    rw [hreplies, List.tail_nil, ← hreplies]
  have hbyte : Gets fault c .receiveByte _ _ := gets_receiveByte hfail hopen
  rwa [hreply, hreplied] at hbyte

/-- It lets every poll run out. -/
theorem gets_pollWithin_silent (hfail : c.failAfter = none) (hopen : c.link.Open)
    (hreplies : c.link.replies = []) (polls : Nat) :
    Gets fault c (.pollWithin polls) 0xFF c := by
  induction polls with
  | zero => exact gets_pure _
  | succ polls ih => exact (gets_receiveByte_silent hfail hopen hreplies).bind ih

/-- A card thinks for one byte, and the next one is its answer. -/
theorem gets_pollWithin {response : UInt8} {rest : List UInt8} (hfail : c.failAfter = none)
    (hopen : c.link.Open) (hreplies : c.link.replies = 0xFF :: response :: rest)
    (hresponse : response ≠ 0xFF) {polls : Nat} (hpolls : 2 ≤ polls) :
    Gets fault c (.pollWithin polls) response { c with link.replies := rest } := by
  obtain ⟨polls, rfl⟩ : ∃ fewer, polls = fewer + 2 := ⟨polls - 2, by omega⟩
  have hfirst : Gets fault c .receiveByte _ _ := gets_receiveByte hfail hopen
  have hsecond : Gets fault { c with link := c.link.replied } .receiveByte _ _ :=
    gets_receiveByte hfail ⟨hopen.phase, hopen.frame, hopen.idleReply⟩
  simp only [Link.reply, Link.replied, hreplies, List.headD_cons, List.tail_cons] at hfirst hsecond
  have hdone : Gets fault { c with link.replies := rest } (if response = idleByte then
      Exchange.pollWithin polls else pure response) response { c with link.replies := rest } := by
    have hidle : ¬ response = idleByte := hresponse
    rw [if_neg hidle]
    exact gets_pure response
  exact hfirst.bind (hsecond.bind hdone)

/-- The bytes behind an answer. -/
theorem gets_receive {n : Nat} (bytes : Bytes n) {rest : List UInt8} (hfail : c.failAfter = none)
    (hopen : c.link.Open) (hreplies : c.link.replies = bytes.toList ++ rest) :
    Gets fault c (.receive n) bytes { c with link.replies := rest } := by
  induction n generalizing c with
  | zero =>
    obtain rfl : bytes = #v[] := Vector.eq_empty
    have hlink : { c with link.replies := rest } = c := by
      rw [show rest = c.link.replies from hreplies.symm]
    rw [hlink]
    exact gets_pure _
  | succ n ih =>
    obtain ⟨first, others, rfl⟩ := Bytes.exists_cons bytes
    rw [Bytes.toList_cons, List.cons_append] at hreplies
    have hbyte : Gets fault c .receiveByte _ _ := gets_receiveByte hfail hopen
    rw [Link.reply, Link.replied, hreplies, List.headD_cons, List.tail_cons] at hbyte
    have hothers := @ih { c with link.replies := others.toList ++ rest } others hfail
      ⟨hopen.phase, hopen.frame, hopen.idleReply⟩ rfl
    exact hbyte.bind (hothers.bind (gets_pure _))

/-- No bytes behind an answer: they read as idle. -/
theorem gets_receive_silent (fault : ε) (hfail : c.failAfter = none) (hopen : c.link.Open)
    (hreplies : c.link.replies = []) (n : Nat) :
    ∃ bytes, Gets fault c (.receive n) bytes c := by
  induction n with
  | zero => exact ⟨#v[], gets_pure _⟩
  | succ n ih =>
    obtain ⟨bytes, hbytes⟩ := ih
    exact ⟨bytes.cons 0xFF,
      (gets_receiveByte_silent hfail hopen hreplies).bind (hbytes.bind (gets_pure _))⟩

/-- A response, of which only the first byte is waited for. -/
theorem gets_receiveResponse {n : Nat} {bound : UInt32} {buffer : Bytes (n + 1)}
    {first : UInt8} {others : Bytes n} {rest : List UInt8} (hfail : c.failAfter = none)
    (hopen : c.link.Open) (hreplies : c.link.replies = 0xFF :: first :: rest)
    (hfirst : first ≠ 0xFF) (hpolls : 2 ≤ bound.toNat)
    (hothers : Gets fault { c with link.replies := rest } (.receive n) others c') :
    Gets fault c (.receiveResponse bound buffer) (others.cons first) c' := by
  have hbound : 2 ≤ atLeastOnce bound := Nat.le_trans hpolls (Nat.le_max_left _ _)
  refine (gets_pollWithin hfail hopen hreplies hfirst hbound).bind ?_
  have hidle : ¬ first = idleByte := hfirst
  rw [if_neg hidle]
  exact hothers.bind (gets_pure _)

end Gets

/-! ## Transactions -/

/-- A release throws away what the transaction has built up. -/
theorem leads_release_named {c : CardModel} (hfail : c.failAfter = none) :
    Program.Leads (bus fault) (Named c) .release fun _ => Named { c with link := {} } := by
  have hdrain : Program.Leads (bus fault) (Named c) (.drain drainPolls) fun _ => Named c :=
    Program.leads_drain (fun _ h => h) _
  let released : CardModel → Prop := fun card =>
    Named { c with link := {} } card ∧ card.forced = false
  have huncounting : Uncounting released := by
    rintro card _ ⟨_, _, _, rfl⟩ h
    exact h
  have hcontrol : Program.Leads (bus fault) (Named c) (.control (.forceSelect false) .done)
      fun _ => released := by
    refine Program.leads_control fun card h => ⟨⟨?_, h.2⟩, rfl⟩
    exact congrArg (fun card : CardModel => { card with link := {} }) h.1
  have hidle : Exchange.Leads (bus fault) released (.transfer idleByte)
      (fun _ => released) fun _ => False := by
    refine leads_transfer huncounting (fun card h hbroken => ?_) (fun _ h _ => h) ?_
    · have hcore := congrArg CardModel.failAfter h.1.1
      exact hbroken (hcore.trans hfail)
    · intro card h hselected
      unfold isSelected at hselected
      rw [h.2] at hselected
      cases hselected
  refine hdrain.bind (f := fun _ => Program.control (.forceSelect false) fun _ =>
    .transfer idleByte fun _ => .done ()) fun _ => ?_
  refine hcontrol.bind (f := fun _ => .transfer idleByte fun _ => .done ()) fun _ => ?_
  refine Program.Leads.bind (f := fun _ => .done ()) hidle fun result => ?_
  cases result with
  | ok => exact Program.leads_pure fun _ h => h.1
  | error => exact Program.leads_pure fun _ h => h.elim

/-- A transaction gets what its exchange gets, and nothing of it is left on the card. -/
theorem leads_whileSelected_gets {c c' : CardModel} {exchange : Exchange ε α} {value : α}
    (hfail : c'.failAfter = none) (h : Gets fault c exchange value c') :
    Program.Leads (bus fault) (Named c) (Exchange.whileSelected exchange).run
      fun result card => result = .ok value ∧ Named { c' with link := {} } card := by
  have hbody : Program.Leads (bus fault) (Heeds c) exchange.run
      fun result card => result = .ok value ∧ Named c' card := by
    refine Program.Leads.mono h (fun _ hcard => hcard) fun result card hresult => ?_
    cases result with
    | ok v =>
      obtain ⟨rfl, hcore, hselected⟩ := hresult
      exact ⟨rfl, hcore, (Bool.and_eq_true_iff.mp hselected).2⟩
    | error => exact hresult.elim
  refine Program.leads_whileSelected (fun _ _ _ h => nomatch h) ?_ hbody fun result card hcard => ?_
  · rintro card ⟨hcore, hnamed⟩ _
    exact ⟨hcore, Bool.and_eq_true_iff.mpr ⟨rfl, hnamed⟩⟩
  · exact ⟨hcard.1, leads_release_named hfail card hcard.2⟩

/-! ## Cards at rest -/

/-- A card that no transaction is under way with, that answers in earnest, and under which the bus
does not break. -/
structure Fresh (c : CardModel) : Prop where
  link : c.link = {}
  fixedResponses : c.fixedResponses = []
  failAfter : c.failAfter = none

/-- The card, this far with a transaction. -/
def during (c : CardModel) (link : Link) : CardModel := { c with link }

/-- The card that has put a response into its queue. -/
def answering (c : CardModel) (response : List UInt8) : CardModel :=
  c.during { replies := 0xFF :: response }

section Fresh

variable {c d : CardModel} {cmd : Command}

/-- What a fresh card has left of a transaction when it is over. -/
theorem Fresh.released (hd : Fresh d) : d.during {} = d := by
  unfold during
  rw [← hd.link]

theorem gets_sendCommand_fresh (hc : Fresh c)
    (hreceive : c.receiveCommand (cmd.index &&& 0x3F) cmd.argument = d) :
    Gets fault c (.sendCommand cmd) () d := by
  have hopen : c.link.Open := by
    rw [hc.link]
    exact Link.open_replies
  have hreplies : c.link.replies = [] := by rw [hc.link]
  rw [← hreceive]
  exact gets_sendCommand hc.failAfter hopen hreplies cmd

theorem gets_poll_silent {polls : UInt32} (hd : Fresh d) : Gets fault d (.poll polls) 0xFF d := by
  have hopen : d.link.Open := by
    rw [hd.link]
    exact Link.open_replies
  have hreplies : d.link.replies = [] := by rw [hd.link]
  exact gets_pollWithin_silent hd.failAfter hopen hreplies _

/-- A card thinks for one byte, and its response of one byte is the next. -/
theorem gets_poll {polls : UInt32} {response : UInt8} {applicationNext : Bool}
    (hpolls : 2 ≤ polls.toNat) (hd : Fresh d) (hresponse : response ≠ 0xFF) :
    Gets fault (d.during { replies := [0xFF, response], applicationNext }) (.poll polls) response
      (d.during { applicationNext }) := by
  have hbound : 2 ≤ atLeastOnce polls := Nat.le_trans hpolls (Nat.le_max_left _ _)
  let asked := d.during { replies := [0xFF, response], applicationNext }
  have hfail : asked.failAfter = none := hd.failAfter
  exact gets_pollWithin hfail Link.open_replies rfl hresponse hbound

end Fresh

end CardModel

end SdCard
