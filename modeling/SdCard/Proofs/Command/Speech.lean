import Mathlib.Algebra.GroupWithZero.Nat
import SdCard.Command.Exchange
import SdCard.Proofs.Bus.Contract
import SdCard.Proofs.Bus.Message
import SdCard.Session.Write

/-!
# What exchanges send

While a card is selected, the host sends commands, listens by shifting idle bytes out, and sends
blocks. A `Speech` lists these in order, and `Exchange.Follows` says that an exchange sends what its
speech spells, or a beginning of it if the bus lets it down. How long a listening takes depends on
the card, so the speech bounds it only.

* `Speech.length_le_cost`: a speech bounds how many bytes are sent;
* `Speech.messages_of_spells`: it tells what is said by them, even where they break off;
* `Exchange.Follows.bind`: speeches follow each other as exchanges do.
-/

namespace SdCard

variable {ε α β : Type}

/-- One thing that a host does while a card is selected. -/
inductive Phrase
  | command (cmd : Command)
  /-- Idle bytes, at most this many. -/
  | listen (count : Nat)
  | block (sector : Sector)

namespace Phrase

/-- The bytes can be what is sent. -/
def Spells : Phrase → List UInt8 → Prop
  | .command cmd, word => word = cmd.frame.toList
  | .listen count, word => ∃ k ≤ count, word = List.replicate k idleByte
  | .block sector, word => word = Session.blockImage sector

/-- The most bytes that are sent. -/
def cost : Phrase → Nat
  | .command _ => 6
  | .listen count => count
  | .block _ => sectorSize + 4

/-- What is said. -/
def message? : Phrase → Option Message
  | .command cmd => some (.command (cmd.index &&& 0x3F) cmd.argument)
  | .listen _ => none
  | .block sector => some (.block sector.toList)

theorem length_le_cost {phrase : Phrase} {word : List UInt8} (h : phrase.Spells word) :
    word.length ≤ phrase.cost := by
  cases phrase with
  | command cmd => simp [show word = _ from h, cost]
  | listen count =>
    obtain ⟨k, hk, rfl⟩ := h
    rwa [List.length_replicate]
  | block sector => simp [show word = _ from h, cost, Session.blockImage]

theorem exists_spells (phrase : Phrase) : ∃ word, phrase.Spells word := by
  cases phrase with
  | command cmd => exact ⟨_, rfl⟩
  | listen count => exact ⟨[], 0, Nat.zero_le _, rfl⟩
  | block sector => exact ⟨_, rfl⟩

end Phrase

/-- What is done under the select line, in order. -/
abbrev Speech := List Phrase

namespace Speech

/-- The bytes can be all that is sent. -/
def Spells : Speech → List UInt8 → Prop
  | [], word => word = []
  | phrase :: speech, word => ∃ u v, word = u ++ v ∧ phrase.Spells u ∧ Spells speech v

/-- The most bytes that are sent. -/
def cost (speech : Speech) : Nat := (speech.map Phrase.cost).sum

/-- All that is said. -/
def messages (speech : Speech) : List Message := speech.filterMap Phrase.message?

/-- Each block comes after a command that announces it. -/
def Proper : (awaiting : Bool) → Speech → Bool
  | _, [] => true
  | _, .command cmd :: speech => Proper (cmd.index &&& 0x3F = writeIndex) speech
  | awaiting, .listen _ :: speech => Proper awaiting speech
  | awaiting, .block _ :: speech => awaiting && Proper false speech

theorem length_le_cost {speech : Speech} {word : List UInt8} (h : speech.Spells word) :
    word.length ≤ speech.cost := by
  induction speech generalizing word with
  | nil =>
    rw [show word = [] from h]
    exact Nat.zero_le _
  | cons phrase speech ih =>
    obtain ⟨u, v, rfl, hu, hv⟩ := h
    have hfirst : u.length ≤ phrase.cost := Phrase.length_le_cost hu
    have hrest : v.length ≤ cost speech := ih hv
    have hcost : cost (phrase :: speech) = phrase.cost + cost speech := by simp [cost]
    rw [hcost, List.length_append]
    omega

theorem exists_spells (speech : Speech) : ∃ word, speech.Spells word := by
  induction speech with
  | nil => exact ⟨[], rfl⟩
  | cons phrase speech ih =>
    obtain ⟨u, hu⟩ := phrase.exists_spells
    obtain ⟨v, hv⟩ := ih
    exact ⟨u ++ v, u, v, rfl, hu, hv⟩

theorem Spells.append {speech more : Speech} {u v : List UInt8} (hu : speech.Spells u)
    (hv : more.Spells v) : Spells (speech ++ more) (u ++ v) := by
  induction speech generalizing u with
  | nil =>
    rw [show u = [] from hu]
    exact hv
  | cons phrase speech ih =>
    obtain ⟨first, rest, rfl, hfirst, hrest⟩ := hu
    exact ⟨first, rest ++ v, List.append_assoc .., hfirst, ih hrest⟩

/-- Whoever listens twice could have listened once. -/
theorem spells_listen {m n : Nat} {word : List UInt8} (h : Spells [.listen m, .listen n] word) :
    Spells [.listen (m + n)] word := by
  obtain ⟨u, v, rfl, ⟨j, hj, rfl⟩, w, x, rfl, ⟨k, hk, rfl⟩, hx⟩ := h
  rw [show x = [] from hx]
  refine ⟨List.replicate (j + k) idleByte, [], ?_, ⟨j + k, by omega, rfl⟩, rfl⟩
  rw [List.append_nil, List.append_nil, List.replicate_append_replicate]

/-! ## What a speech says -/

/-- A listener between messages hears what the phrase says. -/
theorem foldl_shift_phrase {awaiting : Bool} {phrase : Phrase} {speech : Speech}
    {word : List UInt8} (said : List Message) (h : phrase.Spells word)
    (hproper : Proper awaiting (phrase :: speech)) :
    ∃ awaiting', Proper awaiting' speech ∧ word.foldl Listener.shift (.rest awaiting said) =
      .rest awaiting' (said ++ phrase.message?.toList) := by
  cases phrase with
  | command cmd =>
    rw [show word = _ from h]
    exact ⟨_, hproper, Listener.foldl_shift_frame _ _ _⟩
  | listen count =>
    obtain ⟨k, -, rfl⟩ := h
    refine ⟨awaiting, hproper, ?_⟩
    rw [Listener.foldl_shift_idle]
    simp [Phrase.message?]
  | block sector =>
    obtain ⟨rfl, hrest⟩ : awaiting = true ∧ Proper false speech := by
      simpa [Proper] using hproper
    refine ⟨false, hrest, ?_⟩
    have hblock := Listener.foldl_shift_block said idleByte idleByte sector.length_toList
    -- the idle byte in front of the start token means nothing
    have hidle : (Listener.rest true said).shift idleByte = .rest true said := rfl
    rw [show word = _ from h, Session.blockImage, List.cons_append, List.foldl_cons, hidle]
    exact hblock

theorem foldl_shift_spells {awaiting : Bool} {speech : Speech} {word : List UInt8}
    (said : List Message) (h : speech.Spells word) (hproper : Proper awaiting speech) :
    ∃ awaiting', word.foldl Listener.shift (.rest awaiting said) =
      .rest awaiting' (said ++ speech.messages) := by
  induction speech generalizing awaiting word said with
  | nil =>
    rw [show word = [] from h]
    exact ⟨awaiting, by simp [messages]⟩
  | cons phrase speech ih =>
    obtain ⟨u, v, rfl, hu, hv⟩ := h
    obtain ⟨middle, hmiddle, hfirst⟩ := foldl_shift_phrase said hu hproper
    obtain ⟨awaiting', hrest⟩ := ih (said ++ phrase.message?.toList) hv hmiddle
    refine ⟨awaiting', ?_⟩
    have hmessages : messages (phrase :: speech) =
        phrase.message?.toList ++ messages speech := by
      cases hphrase : phrase.message? <;> simp [messages, hphrase]
    rw [List.foldl_append, hfirst, hrest, hmessages, List.append_assoc]

/-- A beginning of what a speech spells says a beginning of what the speech says. -/
theorem messages_of_spells {speech : Speech} {bytes word : List UInt8} (h : speech.Spells word)
    (hproper : Proper false speech) (hbytes : bytes <+: word) :
    ∃ said, said <+: speech.messages ∧ ∀ before,
      (bytes.foldl Listener.shift (.rest false before)).messages = before ++ said := by
  obtain ⟨others, rfl⟩ := hbytes
  obtain ⟨awaiting, hword⟩ := foldl_shift_spells [] h hproper
  refine ⟨(bytes.foldl Listener.shift (.rest false [])).messages, ?_, fun before => ?_⟩
  · -- the bytes that follow take nothing back
    have hall := Listener.messages_foldl_shift (bytes.foldl Listener.shift (.rest false [])) others
    rw [← List.foldl_append, hword] at hall
    exact hall
  · have hbefore : Listener.rest false before = (Listener.rest false []).after before := by
      simp [Listener.rest, Listener.after]
    rw [hbefore, Listener.foldl_shift_after]
    rfl

end Speech

/-! ## Runs that keep to a speech -/

/-- The run sends a beginning of what the speech spells, and all of it if it succeeds. -/
def Keeps (speech : Speech) (t : List (Event ε)) (succeeds : Prop) : Prop :=
  ∃ word, speech.Spells word ∧ sent t <+: word ∧ (succeeds → sent t = word)

theorem Keeps.nil (succeeds : Prop) : Keeps [] ([] : List (Event ε)) succeeds :=
  ⟨[], rfl, List.prefix_rfl, fun _ => rfl⟩

/-- What breaks off keeps to any longer speech. -/
theorem Keeps.broken {speech : Speech} {t : List (Event ε)} {succeeds never : Prop}
    (h : Keeps speech t succeeds) (more : Speech) (hnever : ¬ never) :
    Keeps (speech ++ more) t never := by
  obtain ⟨u, hu, hsent, -⟩ := h
  obtain ⟨v, hv⟩ := Speech.exists_spells more
  exact ⟨u ++ v, hu.append hv, hsent.trans (List.prefix_append u v), fun h => absurd h hnever⟩

theorem Keeps.append {speech more : Speech} {t u : List (Event ε)} {first second : Prop}
    (ht : Keeps speech t first) (hfirst : first) (hu : Keeps more u second) :
    Keeps (speech ++ more) (t ++ u) second := by
  obtain ⟨word, hword, -, hall⟩ := ht
  obtain ⟨rest, hrest, hsent, hdone⟩ := hu
  refine ⟨word ++ rest, hword.append hrest, ?_, fun h => ?_⟩
  · rw [sent_append, hall hfirst]
    exact (List.prefix_append_right_inj word).mpr hsent
  · rw [sent_append, hall hfirst, hdone h]

namespace Exchange

/-- Every run of the exchange, on any bus, keeps to the speech. -/
def Follows (exchange : Exchange ε α) (speech : Speech) : Prop :=
  exchange.Satisfies fun t result => Keeps speech t (result.isOk = true)

theorem follows_pure (value : α) : (pure value : Exchange ε α).Follows [] :=
  satisfies_pure (.nil _)

theorem Follows.bind {exchange : Exchange ε α} {f : α → Exchange ε β} {speech more : Speech}
    (hexchange : exchange.Follows speech) (hf : ∀ value, (f value).Follows more) :
    (exchange >>= f).Follows (speech ++ more) :=
  Satisfies.bind hexchange hf (fun _ _ h => h.broken more Bool.false_ne_true)
    fun _ _ _ _ ht hu => ht.append rfl hu

/-- An exchange that sends nothing listens no more than it may. -/
theorem follows_silent (value : α) (count : Nat) :
    (pure value : Exchange ε α).Follows [.listen count] :=
  satisfies_pure ⟨[], ⟨[], [], rfl, ⟨0, Nat.zero_le _, rfl⟩, rfl⟩, List.prefix_rfl, fun _ => rfl⟩

theorem follows_receiveByte : (receiveByte : Exchange ε UInt8).Follows [.listen 1] := by
  have hspells : Speech.Spells [.listen 1] [idleByte] :=
    ⟨[idleByte], [], rfl, ⟨1, Nat.le_refl 1, rfl⟩, rfl⟩
  exact satisfies_transfer fun answer => ⟨_, hspells, List.prefix_rfl, fun _ => rfl⟩

/-- To listen to one byte more. -/
theorem follows_receiveByte_bind {f : UInt8 → Exchange ε α} {count : Nat}
    (h : ∀ byte, (f byte).Follows [.listen count]) :
    (receiveByte >>= f).Follows [.listen (count + 1)] := by
  intro t result ht
  obtain ⟨word, hspells, hkeeps⟩ := follows_receiveByte.bind h t result ht
  rw [Nat.add_comm]
  exact ⟨word, Speech.spells_listen hspells, hkeeps⟩

theorem follows_receive (n : Nat) : (receive n : Exchange ε (Bytes n)).Follows [.listen n] := by
  induction n with
  | zero => exact follows_silent _ 0
  | succ n ih =>
    refine follows_receiveByte_bind fun byte => ?_
    exact Follows.bind ih fun bytes => follows_pure _

theorem follows_pollWithin (polls : Nat) :
    (pollWithin polls : Exchange ε UInt8).Follows [.listen polls] := by
  induction polls with
  | zero => exact follows_silent _ 0
  | succ polls ih =>
    refine follows_receiveByte_bind fun reply => ?_
    split
    · exact ih
    · exact follows_silent _ _

theorem follows_poll (bound : UInt32) :
    (poll bound : Exchange ε UInt8).Follows [.listen (atLeastOnce bound)] :=
  follows_pollWithin _

theorem follows_waitReleased (bound : UInt32) :
    (waitReleased bound : Exchange ε Bool).Follows [.listen (atLeastOnce bound)] := by
  unfold waitReleased
  induction atLeastOnce bound with
  | zero => exact follows_silent _ 0
  | succ polls ih =>
    refine follows_receiveByte_bind fun reply => ?_
    split
    · exact ih
    · exact follows_silent _ _

/-- A string is sent up to the first fault. -/
theorem sent_send (bytes : List UInt8) :
    (send bytes : Exchange ε Unit).Satisfies fun t result =>
      sent t <+: bytes ∧ (result.isOk = true → sent t = bytes) := by
  induction bytes with
  | nil => exact satisfies_pure ⟨List.prefix_rfl, fun _ => rfl⟩
  | cons byte bytes ih =>
    refine Satisfies.bind (one_sendByte byte) (fun _ => ih) ?_ ?_
    · rintro t fault ⟨answer, rfl, -⟩
      exact ⟨List.prefix_append [byte] bytes, fun h => absurd h Bool.false_ne_true⟩
    · rintro t _ u result ⟨answer, rfl, -⟩ hu
      rw [sent_append]
      refine ⟨(List.prefix_append_right_inj [byte]).mpr hu.1, fun h => ?_⟩
      rw [hu.2 h]
      rfl

theorem follows_send {phrase : Phrase} {bytes : List UInt8} (h : phrase.Spells bytes) :
    (send bytes : Exchange ε Unit).Follows [phrase] := by
  intro t result ht
  obtain ⟨hsent, hall⟩ := sent_send bytes t result ht
  exact ⟨bytes, ⟨bytes, [], (List.append_nil _).symm, h, rfl⟩, hsent, hall⟩

theorem follows_sendCommand (cmd : Command) :
    (sendCommand cmd : Exchange ε Unit).Follows [.command cmd] := follows_send rfl

/-- A command and the wait for its response. -/
theorem follows_sendAndPoll (cmd : Command) (polls : UInt32) :
    (do
      sendCommand cmd
      poll polls : Exchange ε UInt8).Follows [.command cmd, .listen (atLeastOnce polls)] :=
  Follows.bind (follows_sendCommand cmd) fun _ => follows_poll polls

theorem follows_receiveResponse (bound : UInt32) {n : Nat} (buffer : Bytes (n + 1)) :
    (receiveResponse bound buffer : Exchange ε (Bytes (n + 1))).Follows
      [.listen (atLeastOnce bound), .listen n] := by
  refine Follows.bind (follows_poll bound) fun first => ?_
  split
  · exact follows_silent _ n
  · exact Follows.bind (follows_receive n) fun _ => follows_pure _

/-- An application command need not come after its announcement, so a run that succeeds need not be
through with the speech. -/
theorem within_sendApplicationCommand (bound : UInt32) (cmd : Command) :
    (sendApplicationCommand bound cmd : Exchange ε UInt8).Satisfies fun t _ =>
      Keeps [.command .applicationCommand, .listen (atLeastOnce bound), .command cmd,
        .listen (atLeastOnce bound)] t False := by
  have hanswer : ∀ announced : UInt8, (if Response.isClean announced then do
        sendCommand cmd
        poll bound
      else
        pure announced : Exchange ε UInt8).Satisfies fun t _ =>
      Keeps [.command cmd, .listen (atLeastOnce bound)] t False := by
    intro announced
    split
    · exact fun t result ht => (follows_sendAndPoll cmd bound t result ht).broken [] id
    · exact fun t result ht => (follows_pure announced t result ht).broken
        [.command cmd, .listen (atLeastOnce bound)] id
  have hpoll : ∀ _ : Unit, (poll bound >>= fun announced =>
      if Response.isClean announced then do
        sendCommand cmd
        poll bound
      else
        pure announced : Exchange ε UInt8).Satisfies fun t _ =>
      Keeps [.listen (atLeastOnce bound), .command cmd, .listen (atLeastOnce bound)] t False :=
    fun _ => Satisfies.bind (follows_poll bound) hanswer (fun _ _ h => h.broken _ id)
      fun _ _ _ _ ht hu => ht.append rfl hu
  exact Satisfies.bind (follows_sendCommand _) hpoll (fun _ _ h => h.broken _ id)
    fun _ _ _ _ ht hu => ht.append rfl hu

end Exchange

end SdCard
