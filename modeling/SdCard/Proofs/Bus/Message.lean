import SdCard.Bus.Select
import SdCard.Bus.Trace
import SdCard.Bytes
import SdCard.Command.Frame
import SdCard.Command.Response

/-!
# Messages on the line

What a host says to a card can be made out from the bytes that it shifts out, without asking how it
came to shift them. A `Listener` follows the line: a byte whose first bits are `01` starts a frame
of six bytes, which is a command; after CMD24 a start token starts a block; all other bytes mean
nothing. Whenever the select line is driven or let go, what has been begun is dropped.

A byte counts as sent even if its transfer met a fault, since nobody knows what the card has heard.

* `messages`: all that has been said in a run;
* `Listener.messages_foldl_shift`: what has been said once is not taken back.
-/

namespace SdCard

variable {ε : Type}

/-- The bytes that were shifted out, whatever came of it. -/
def sent (t : List (Event ε)) : List UInt8 :=
  t.filterMap fun
    | .transfer byte _ => some byte
    | _ => none

@[simp] theorem sent_nil : sent ([] : List (Event ε)) = [] := rfl

@[simp] theorem sent_append (t u : List (Event ε)) : sent (t ++ u) = sent t ++ sent u :=
  List.filterMap_append ..

@[simp] theorem sent_transfer (byte : UInt8) (answer : Except ε UInt8) (t : List (Event ε)) :
    sent (.transfer byte answer :: t) = byte :: sent t := rfl

@[simp] theorem sent_control (call : Control) (answer : Except ε Unit) (t : List (Event ε)) :
    sent (.control call answer :: t) = sent t := rfl

/-- What can be said to a card. -/
inductive Message
  | command (index : UInt8) (argument : UInt32)
  | block (bytes : List UInt8)
deriving DecidableEq

/-- The command that announces a block. -/
def writeIndex : UInt8 := 24

/-- The message is part of a write. -/
def Message.writes : Message → Bool
  | .command index _ => index = writeIndex
  | .block _ => true

/-- The message that is under way, with its bytes so far. -/
inductive Part
  | nothing
  | frame (bytes : List UInt8)
  | block (bytes : List UInt8)
deriving DecidableEq

/-- What has been made out of the bytes on the line. -/
structure Listener where
  part : Part := .nothing
  /-- A block has been announced. -/
  awaiting : Bool := false
  messages : List Message := []
deriving DecidableEq

namespace Listener

/-- Takes a byte from the line. -/
def shift (listener : Listener) (byte : UInt8) : Listener :=
  match listener.part with
  | .nothing =>
    if byte &&& 0xC0 = 0x40 then { listener with part := .frame [byte] }
    else if listener.awaiting && byte = startToken then { listener with part := .block [] }
    else listener
  | .frame bytes =>
    match bytes ++ [byte] with
    | [first, a, b, c, d, _] =>
      { part := .nothing
        awaiting := first &&& 0x3F = writeIndex
        messages := listener.messages ++
          [.command (first &&& 0x3F) (Bytes.word (.ofList 4 [a, b, c, d]))] }
    | bytes => { listener with part := .frame bytes }
  | .block bytes =>
    let bytes := bytes ++ [byte]
    -- two bytes of check sum follow the sector
    if bytes.length < sectorSize + 2 then { listener with part := .block bytes }
    else
      { part := .nothing
        awaiting := false
        messages := listener.messages ++ [.block (bytes.take sectorSize)] }

/-- Follows one call of the bus. -/
def hear (listener : Listener) : Event ε → Listener
  | .transfer byte _ => listener.shift byte
  | .control (.forceSelect _) _ => { listener with part := .nothing, awaiting := false }
  | _ => listener

/-- A listener between messages, to whom some have been said. -/
def rest (awaiting : Bool) (messages : List Message) : Listener := ⟨.nothing, awaiting, messages⟩

end Listener

/-- All that was said in a run. -/
def messages (t : List (Event ε)) : List Message := (t.foldl Listener.hear {}).messages

namespace Listener

/-! ## Bytes one after the other -/

/-- A byte may complete a message, and takes none back. -/
theorem messages_shift (listener : Listener) (byte : UInt8) :
    listener.messages <+: (listener.shift byte).messages := by
  unfold shift
  split
  · split
    · exact List.prefix_rfl
    · split
      · exact List.prefix_rfl
      · exact List.prefix_rfl
  · split
    · exact List.prefix_append _ _
    · exact List.prefix_rfl
  · dsimp only
    split
    · exact List.prefix_rfl
    · exact List.prefix_append _ _

theorem messages_foldl_shift (listener : Listener) (bytes : List UInt8) :
    listener.messages <+: (bytes.foldl shift listener).messages := by
  induction bytes generalizing listener with
  | nil => exact List.prefix_rfl
  | cons byte bytes ih => exact (messages_shift listener byte).trans (ih (listener.shift byte))

/-- The listener, had it heard some messages before. -/
def after (before : List Message) (listener : Listener) : Listener :=
  { listener with messages := before ++ listener.messages }

/-- What is made out of a byte does not depend on the messages before. -/
theorem shift_after (before : List Message) (listener : Listener) (byte : UInt8) :
    (listener.after before).shift byte = (listener.shift byte).after before := by
  obtain ⟨part, awaiting, messages⟩ := listener
  cases part with
  | nothing =>
    by_cases hframe : byte &&& 0xC0 = 0x40
    · simp [shift, after, hframe]
    · by_cases hblock : (awaiting && byte = startToken) = true
      · simp [shift, after, hframe, hblock]
      · simp [shift, after, hframe, hblock]
  | frame bytes =>
    simp only [shift, after]
    split
    · simp
    · rfl
  | block bytes =>
    simp only [shift, after]
    split
    · rfl
    · simp

theorem foldl_shift_after (before : List Message) (listener : Listener) (bytes : List UInt8) :
    bytes.foldl shift (listener.after before) = (bytes.foldl shift listener).after before := by
  induction bytes generalizing listener with
  | nil => rfl
  | cons byte bytes ih => rw [List.foldl_cons, shift_after, ih, List.foldl_cons]

/-- Idle bytes between messages say nothing. -/
theorem foldl_shift_idle (awaiting : Bool) (said : List Message) (count : Nat) :
    (List.replicate count idleByte).foldl shift (rest awaiting said) = rest awaiting said := by
  induction count with
  | zero => rfl
  | succ count ih =>
    have hidle : (rest awaiting said).shift idleByte = rest awaiting said := by
      cases awaiting <;> rfl
    rw [List.replicate_succ, List.foldl_cons, hidle, ih]

/-- A frame says its command. -/
theorem foldl_shift_frame (awaiting : Bool) (said : List Message) (command : Command) :
    command.frame.toList.foldl shift (rest awaiting said) =
      rest (command.index &&& 0x3F = writeIndex)
        (said ++ [.command (command.index &&& 0x3F) command.argument]) := by
  obtain ⟨hstart, hindex⟩ := Command.frame_bits command.index
  have hword : Bytes.word (.ofList 4 [(Bytes.ofWord command.argument)[0],
      (Bytes.ofWord command.argument)[1], (Bytes.ofWord command.argument)[2],
      (Bytes.ofWord command.argument)[3]]) = command.argument := Bytes.word_ofWord command.argument
  have hbytes : command.frame.toList = (0x40 ||| (command.index &&& 0x3F)) ::
      [(Bytes.ofWord command.argument)[0], (Bytes.ofWord command.argument)[1],
        (Bytes.ofWord command.argument)[2], (Bytes.ofWord command.argument)[3],
        command.checksum ||| 0x01] := rfl
  have hfirst : (rest awaiting said).shift (0x40 ||| (command.index &&& 0x3F)) =
      ⟨.frame [0x40 ||| (command.index &&& 0x3F)], awaiting, said⟩ := by
    simp [shift, rest, hstart]
  rw [hbytes, List.foldl_cons, hfirst]
  simp only [List.foldl_cons, List.foldl_nil, shift, List.cons_append, List.nil_append]
  rw [hindex, hword]
  rfl

/-- Until a block is complete, its bytes are collected. -/
theorem foldl_shift_collect {bytes more : List UInt8} (said : List Message) (awaiting : Bool)
    (h : bytes.length + more.length < sectorSize + 2) :
    more.foldl shift ⟨.block bytes, awaiting, said⟩ = ⟨.block (bytes ++ more), awaiting, said⟩ := by
  induction more generalizing bytes with
  | nil => simp
  | cons byte more ih =>
    rw [List.length_cons] at h
    have hbyte : shift ⟨.block bytes, awaiting, said⟩ byte =
        ⟨.block (bytes ++ [byte]), awaiting, said⟩ := by
      have hlength : (bytes ++ [byte]).length < sectorSize + 2 := by
        rw [List.length_append, List.length_singleton]
        omega
      simp only [shift]
      rw [if_pos hlength]
    rw [List.foldl_cons, hbyte, ih]
    · rw [List.append_assoc, List.singleton_append]
    · rw [List.length_append, List.length_singleton]
      omega

/-- After its start token, a block says its sector; the check sum does not matter. -/
theorem foldl_shift_block (said : List Message) {bytes : List UInt8} (first second : UInt8)
    (h : bytes.length = sectorSize) :
    (startToken :: bytes ++ [first, second]).foldl shift (rest true said) =
      rest false (said ++ [.block bytes]) := by
  have htoken : (rest true said).shift startToken = ⟨.block [], true, said⟩ := rfl
  have hcollect : (bytes ++ [first]).foldl shift ⟨.block [], true, said⟩ =
      ⟨.block (bytes ++ [first]), true, said⟩ :=
    foldl_shift_collect said true (by simp [h])
  have hlast : shift ⟨.block (bytes ++ [first]), true, said⟩ second =
      rest false (said ++ [.block bytes]) := by
    have hlength : ¬ (bytes ++ [first] ++ [second]).length < sectorSize + 2 := by simp [h]
    have htake : (bytes ++ [first] ++ [second]).take sectorSize = bytes := by
      rw [List.append_assoc, ← h, List.take_left]
    simp only [shift]
    rw [if_neg hlength, htake]
    rfl
  rw [List.cons_append, List.foldl_cons, htoken,
    show bytes ++ [first, second] = (bytes ++ [first]) ++ [second] by simp, List.foldl_append,
    hcollect, List.foldl_cons, hlast, List.foldl_nil]

end Listener

/-! ## Uses of the select line -/

/-- A listener between messages hears all of these, and is between messages again. -/
def Says (t : List (Event ε)) (said : List Message) : Prop :=
  ∀ before, t.foldl Listener.hear (.rest false before) = .rest false (before ++ said)

theorem Says.messages {t : List (Event ε)} {said : List Message} (h : Says t said) :
    SdCard.messages t = said := congrArg Listener.messages (h [])

theorem Says.nil : Says ([] : List (Event ε)) [] := by
  intro before
  simp

theorem Says.append {t u : List (Event ε)} {said more : List Message} (ht : Says t said)
    (hu : Says u more) : Says (t ++ u) (said ++ more) := by
  intro before
  rw [List.foldl_append, ht, hu, List.append_assoc]

/-- While nothing but bytes goes over the bus, the listener hears the bytes. -/
theorem foldl_hear {t : List (Event ε)} (listener : Listener)
    (h : ∀ event ∈ t, ∃ byte answer, event = .transfer byte answer) :
    t.foldl Listener.hear listener = (sent t).foldl Listener.shift listener := by
  induction t generalizing listener with
  | nil => rfl
  | cons event t ih =>
    obtain ⟨byte, answer, rfl⟩ := h _ (List.mem_cons_self ..)
    rw [List.foldl_cons, sent_transfer, List.foldl_cons]
    exact ih _ fun event hevent => h event (List.mem_cons_of_mem _ hevent)

end SdCard
