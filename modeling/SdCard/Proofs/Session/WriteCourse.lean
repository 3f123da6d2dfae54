import SdCard.Proofs.Session.ReadCourse

/-!
# What a write puts on the wire

A card answers CMD24 with R1 and then takes one block of data, which it judges by a data response;
after that it holds the data line low until the block is stored. `WriteCourse` tells, from the data
and the bytes shifted in after the frame alone, which bytes are shifted out while the card is
selected. Each of the three waits stops at a reply of its own kind: at one that is not idle, at the
one that follows the block, and at one that is not zero.

* `dataPhase`: all bytes of a block, with the data filled up with zeros;
* `WriteCourse.makes`: a write on a course sends, returns and remembers what the course says;
* `exists_writeCourse`: every stream of replies has a course;
* `writeBlock_course`: the courses are the runs, and a block goes out whole or not at all.
-/

namespace SdCard

variable {ε σ : Type}

open Negotiation (IsFirst)

open SdCard.Action (makes_command makes_exchange makes_get_bind makes_modify makes_record
  makes_requireReady makes_require_error makes_require_ok)

namespace Session

/-- What is sent in a write of sector `lba`: CMD24 with a check sum of zero to the selected card,
then the bytes `talk`, and one idle byte when the card is let go of. -/
def writeSignals (capacity : Capacity) (lba : UInt32) (talk : List UInt8) : List Signal :=
  .control (.forceSelect true) ::
    (((Command.frame ⟨24, blockAddress capacity lba, 0⟩).toList ++ talk).map .shift ++
      [.control (.forceSelect false), .shift 0xFF])

theorem writeSignals_inj {capacity : Capacity} {lba : UInt32} {talk other : List UInt8}
    (h : writeSignals capacity lba talk = writeSignals capacity lba other) : talk = other := by
  unfold writeSignals at h
  have hbytes := List.append_cancel_right (List.cons.inj h).2
  rw [List.map_inj_right fun _ _ hshift => Signal.shift.inj hshift] at hbytes
  exact List.append_cancel_left hbytes

/-- The bytes of a block of data: an idle byte, the start token, the data followed by zeros up to
512 bytes, two bytes in place of the check sum, and the byte for which the data response comes. -/
def dataPhase (data : List UInt8) : List UInt8 :=
  [0xFF, 0xFE] ++ data ++ List.replicate (512 - data.length) 0x00 ++ [0xFF, 0xFF] ++ [0xFF]

/-- How a write of `data` goes with the bytes that follow the frame: what is shifted out after the
frame while the card is selected, how the write ends, and the session that it leaves. The poll is
for R1. The data response is the reply to the last byte of the block, 516 bytes behind R1, and the
replies after it tell whether the card is still busy. -/
inductive WriteCourse (s : Session) (replies : Replies) (data : List UInt8) :
    List UInt8 → Except Failure Unit → Session → Prop
  | rejected {response heard} :
      replies.Polled (atLeastOnce s.config.responsePolls) response heard → response ≠ 0x00 →
      WriteCourse s replies data (List.replicate heard 0xFF) (.error .writeRejected)
        { s with lastResponse := response, state := .failed .writeRejected }
  | dataRejected {heard token} :
      replies.Polled (atLeastOnce s.config.responsePolls) 0x00 heard →
      token = replies (heard + 516) → token &&& 0x1F ≠ 0x05 →
      WriteCourse s replies data (List.replicate heard 0xFF ++ dataPhase data)
        (.error .writeDataRejected)
        { s with lastResponse := 0x00, lastToken := token, state := .failed .writeDataRejected }
  | busy {heard token} :
      replies.Polled (atLeastOnce s.config.responsePolls) 0x00 heard →
      token = replies (heard + 516) → token &&& 0x1F = 0x05 →
      (∀ k < s.config.busyPolls.toNat, replies (heard + 517 + k) = 0x00) →
      WriteCourse s replies data (List.replicate heard 0xFF ++ dataPhase data ++
          List.replicate s.config.busyPolls.toNat 0xFF)
        (.error .writeBusyTimeout)
        { s with lastResponse := 0x00, lastToken := token, state := .failed .writeBusyTimeout }
  | stored {heard token k} :
      replies.Polled (atLeastOnce s.config.responsePolls) 0x00 heard →
      token = replies (heard + 516) → token &&& 0x1F = 0x05 →
      IsFirst (fun k => replies (heard + 517 + k) ≠ 0x00) s.config.busyPolls.toNat k →
      WriteCourse s replies data (List.replicate heard 0xFF ++ dataPhase data ++
          List.replicate (k + 1) 0xFF)
        (.ok ()) { s with lastResponse := 0x00, lastToken := token }

/-- Every stream of replies has a course. -/
theorem exists_writeCourse (s : Session) (replies : Replies) (data : List UInt8) :
    ∃ talk verdict left, WriteCourse s replies data talk verdict left := by
  obtain ⟨response, heard, hresponse⟩ :=
    replies.exists_polled (atLeastOnce s.config.responsePolls)
  by_cases hanswered : response = 0x00
  · subst hanswered
    by_cases haccepted : replies (heard + 516) &&& 0x1F = 0x05
    · rcases Negotiation.isFirst_or_forall (fun k => replies (heard + 517 + k) ≠ 0x00)
        s.config.busyPolls.toNat with ⟨k, hk⟩ | hbusy
      · exact ⟨_, _, _, .stored hresponse rfl haccepted hk⟩
      · have hzero : ∀ k < s.config.busyPolls.toNat, replies (heard + 517 + k) = 0x00 :=
          fun k hk => Decidable.not_not.mp (hbusy k hk)
        exact ⟨_, _, _, .busy hresponse rfl haccepted hzero⟩
    · exact ⟨_, _, _, .dataRejected hresponse rfl haccepted⟩
  · exact ⟨_, _, _, .rejected hresponse hanswered⟩

/-- A write sends no byte of a block, or all of them before anything else after R1. -/
theorem WriteCourse.whole_or_none {s left : Session} {replies : Replies} {data talk : List UInt8}
    {verdict : Except Failure Unit} (h : WriteCourse s replies data talk verdict left) :
    ∃ heard, talk = List.replicate heard 0xFF ∨ ∃ polls,
      talk = List.replicate heard 0xFF ++ dataPhase data ++ List.replicate polls 0xFF := by
  cases h with
  | @rejected response heard => exact ⟨heard, .inl rfl⟩
  | @dataRejected heard => exact ⟨heard, .inr ⟨0, (List.append_nil _).symm⟩⟩
  | @busy heard => exact ⟨heard, .inr ⟨_, rfl⟩⟩
  | @stored heard token k => exact ⟨heard, .inr ⟨k + 1, rfl⟩⟩

end Session

/-! ## While the card is selected -/

namespace Action

variable {replies rest : Replies} {polls heard : Nat}

/-- A reply that is not zero ends the wait. -/
theorem makes_waitWithin_ne (h : replies 0 ≠ 0) (polls : Nat) (s : σ) :
    (Action.exchange (Exchange.waitWithin (polls + 1)) : Action ε σ Bool).Makes s replies
      ⟨(.ok true, s), [.shift 0xFF], replies.after 1⟩ := by
  intro t result s' rest ht hheard
  cases ht with
  | transfer ht =>
    cases hheard with
    | transfer hheard =>
      change Program.Traces (ExceptT.run (if replies 0 = 0 then _ else _) >>= _) _ _ at ht
      rw [if_neg h] at ht
      cases ht
      cases hheard
      exact ⟨.ok true, rfl, rfl, rfl, rfl⟩

/-- After a reply that is zero the wait goes on. -/
theorem makes_waitWithin_zero (h : replies 0 = 0) {s : σ} {verdict : Except Failure Bool}
    (hrest : (Action.exchange (Exchange.waitWithin polls) : Action ε σ Bool).Makes s
      (replies.after 1) ⟨(verdict, s), List.replicate heard (.shift 0xFF), rest⟩) :
    (Action.exchange (Exchange.waitWithin (polls + 1)) : Action ε σ Bool).Makes s replies
      ⟨(verdict, s), List.replicate (heard + 1) (.shift 0xFF), rest⟩ := by
  intro t result s' last ht hheard
  cases ht with
  | transfer ht =>
    cases hheard with
    | transfer hheard =>
      change Program.Traces (ExceptT.run (if replies 0 = 0 then _ else _) >>= _) _ _ at ht
      rw [if_pos h] at ht
      obtain ⟨verdict', hverdict, hturn⟩ := hrest _ result s' last ht hheard
      refine ⟨verdict', hverdict, hturn.value, ?_, hturn.rest⟩
      rw [signals_transfer, hturn.signals]
      rfl

/-- A wait ends at the first reply that is not zero. -/
theorem makes_waitWithin_released {k : Nat} (h : IsFirst (fun k => replies k ≠ 0) polls k) (s : σ) :
    (Action.exchange (Exchange.waitWithin polls) : Action ε σ Bool).Makes s replies
      ⟨(.ok true, s), List.replicate (k + 1) (.shift 0xFF), replies.after (k + 1)⟩ := by
  obtain ⟨hk, hbyte, hfirst⟩ := h
  induction k generalizing replies polls with
  | zero =>
    obtain ⟨polls, rfl⟩ : ∃ fewer, polls = fewer + 1 := ⟨polls - 1, by omega⟩
    exact makes_waitWithin_ne hbyte polls s
  | succ k ih =>
    obtain ⟨polls, rfl⟩ : ∃ fewer, polls = fewer + 1 := ⟨polls - 1, by omega⟩
    have hafter : ∀ i, replies.after 1 i = replies (i + 1) := fun i => by
      rw [Replies.after, Nat.add_comm]
    have hearlier : ∀ i < k, ¬ replies.after 1 i ≠ 0 := fun i hi => by
      rw [hafter]
      exact hfirst (i + 1) (by omega)
    have hlater := @ih (replies.after 1) polls (by omega) (by rw [hafter]; exact hbyte) hearlier
    rw [Replies.after_after, Nat.add_comm 1] at hlater
    exact makes_waitWithin_zero (Decidable.not_not.mp (hfirst 0 (by omega))) hlater

/-- A wait in which every reply is zero ends with its polls. -/
theorem makes_waitWithin_busy (h : ∀ k < polls, replies k = 0) (s : σ) :
    (Action.exchange (Exchange.waitWithin polls) : Action ε σ Bool).Makes s replies
      ⟨(.ok false, s), List.replicate polls (.shift 0xFF), replies.after polls⟩ := by
  induction polls generalizing replies with
  | zero =>
    rw [Replies.after_zero]
    exact makes_exchange (Exchange.hears_pure false) s replies
  | succ polls ih =>
    have hlater := @ih (replies.after 1) fun k hk => h (1 + k) (by omega)
    rw [Replies.after_after, Nat.add_comm 1] at hlater
    exact makes_waitWithin_zero (h 0 (by omega)) hlater

end Action

namespace Session

open SdCard.Action (makes_waitWithin_busy makes_waitWithin_released)

section Selected

variable {s : Session} {replies rest : Replies} {data : List UInt8} {response token : UInt8}
  {heard k : Nat}

/-- What a write has shifted while the card is selected: the frame of CMD24 and some bytes more. -/
def writeTalk (address : UInt32) (talk : List UInt8) : List Signal :=
  ((Command.frame ⟨24, address, 0⟩).toList ++ talk).map .shift

theorem writeTalk_append (address : UInt32) (talk more : List UInt8) :
    writeTalk address talk ++ more.map .shift = writeTalk address (talk ++ more) := by
  unfold writeTalk
  rw [← List.map_append, List.append_assoc]

/-- Data of up to 512 bytes is sent as it is, and zeros after it. -/
theorem blockImage_ofList (h : data.length ≤ 512) :
    blockImage (.ofList sectorSize data) ++ [idleByte] = dataPhase data := by
  unfold blockImage dataPhase
  rw [Bytes.toList_ofList, sectorSize, List.take_of_length_le h]
  simp [idleByte, startToken]

/-- The card is asked to take the block, and answers with R1. -/
theorem makes_writeCommand (address : UInt32) (s : Session)
    (hresponse : (replies.after 6).Polled (atLeastOnce s.config.responsePolls) response heard) :
    (Action.exchange (do
      Exchange.sendCommand (.writeBlock address)
      Exchange.poll s.config.responsePolls) : Action ε Session UInt8).Makes s replies
      ⟨(.ok response, s), writeTalk address (List.replicate heard 0xFF),
        (replies.after 6).after heard⟩ := by
  apply Action.Makes.of_eq
  · exact makes_command (.writeBlock address) hresponse s
  · simp [writeTalk, Command.writeBlock]

/-- The data response comes with the byte after the block. -/
theorem makes_dataPhase (s : Session) (replies : Replies) (h : data.length ≤ 512) :
    (Action.exchange (do
      Exchange.send (blockImage (.ofList sectorSize data))
      Exchange.receiveByte) : Action ε Session UInt8).Makes s replies
      ⟨(.ok (replies 516), s), (dataPhase data).map .shift, replies.after 517⟩ := by
  have hlength : (blockImage (.ofList sectorSize data)).length = 516 := by
    have htotal := congrArg List.length (blockImage_ofList h)
    simp [dataPhase] at htotal
    omega
  apply Action.Makes.of_eq
  · exact makes_exchange ((Exchange.hears_send _).bind fun _ =>
      Exchange.hears_transfer idleByte) s replies
  · rw [← blockImage_ofList h, List.map_append]
    simp only [Turn.bind, Turn.map, hlength, Replies.after_after]
    rfl

theorem makes_writeSelected_rejected (address : UInt32) (s : Session) (data : List UInt8)
    (hresponse : (replies.after 6).Polled (atLeastOnce s.config.responsePolls) response heard)
    (hanswered : response ≠ 0x00) :
    (writeSelected address (.ofList sectorSize data) : Action ε Session Unit).Makes s replies
      ⟨(.error .writeRejected, { s with lastResponse := response }),
        writeTalk address (List.replicate heard 0xFF), (replies.after 6).after heard⟩ := by
  unfold writeSelected
  apply makes_get_bind
  apply Action.Makes.of_eq
  · apply (makes_writeCommand address s hresponse).bind_ok
    apply (makes_modify _ _ _).bind_silent
    exact (makes_require_error hanswered _ _).bind_error
  · simp [Turn.preceded]

/-- After R1 the whole block goes out, and what comes then is up to the data response. -/
theorem makes_writeSelected_block (address : UInt32) (s : Session) {left : Session}
    {verdict : Except Failure Unit} {polled : List UInt8} (h : data.length ≤ 512)
    (hresponse : (replies.after 6).Polled (atLeastOnce s.config.responsePolls) 0x00 heard)
    (htoken : token = replies.after 6 (heard + 516))
    (hrest : (do
      Action.require (isDataAccepted token) .writeDataRejected
      let released ← Action.exchange (Exchange.waitReleased s.config.busyPolls)
      Action.require released .writeBusyTimeout : Action ε Session Unit).Makes
        { s with lastResponse := 0x00, lastToken := token }
        ((replies.after 6).after (heard + 517)) ⟨(verdict, left), polled.map .shift, rest⟩) :
    (writeSelected address (.ofList sectorSize data) : Action ε Session Unit).Makes s replies
      ⟨(verdict, left), writeTalk address (List.replicate heard 0xFF ++ dataPhase data ++ polled),
        rest⟩ := by
  have hreply : token = (replies.after 6).after heard 516 := htoken
  subst hreply
  unfold writeSelected
  apply makes_get_bind
  apply Action.Makes.of_eq
  · apply (makes_writeCommand address s hresponse).bind_ok
    apply (makes_modify _ _ _).bind_silent
    apply (makes_require_ok rfl _ _).bind_silent
    apply (makes_dataPhase _ _ h).bind_ok
    apply (makes_modify _ _ _).bind_silent
    rw [Replies.after_after (replies.after 6)]
    exact hrest
  · rw [← writeTalk_append, ← writeTalk_append]
    simp [Turn.preceded]

/-- The card answers a block that it took with a data response, and is then busy for some time. -/
theorem makes_judged_stored {bound : UInt32} (s : Session) (haccepted : token &&& 0x1F = 0x05)
    (hstored : IsFirst (fun k => replies k ≠ 0x00) (atLeastOnce bound) k) :
    (do
      Action.require (isDataAccepted token) .writeDataRejected
      let released ← Action.exchange (Exchange.waitReleased bound)
      Action.require released .writeBusyTimeout : Action ε Session Unit).Makes s replies
      ⟨(.ok (), s), (List.replicate (k + 1) 0xFF).map .shift, replies.after (k + 1)⟩ := by
  apply (makes_require_ok (decide_eq_true haccepted) _ _).bind_silent
  apply Action.Makes.of_eq
  · apply (makes_waitWithin_released hstored s).bind_ok
    exact makes_require_ok rfl _ _
  · simp [Turn.preceded]

theorem makes_judged_busy {bound : UInt32} (s : Session) (haccepted : token &&& 0x1F = 0x05)
    (hbusy : ∀ k < atLeastOnce bound, replies k = 0x00) :
    (do
      Action.require (isDataAccepted token) .writeDataRejected
      let released ← Action.exchange (Exchange.waitReleased bound)
      Action.require released .writeBusyTimeout : Action ε Session Unit).Makes s replies
      ⟨(.error .writeBusyTimeout, s), (List.replicate (atLeastOnce bound) 0xFF).map .shift,
        replies.after (atLeastOnce bound)⟩ := by
  apply (makes_require_ok (decide_eq_true haccepted) _ _).bind_silent
  apply Action.Makes.of_eq
  · apply (makes_waitWithin_busy hbusy s).bind_ok
    exact makes_require_error Bool.false_ne_true _ _
  · simp [Turn.preceded]

theorem makes_judged_rejected {bound : UInt32} (s : Session) (replies : Replies)
    (haccepted : token &&& 0x1F ≠ 0x05) :
    (do
      Action.require (isDataAccepted token) .writeDataRejected
      let released ← Action.exchange (Exchange.waitReleased bound)
      Action.require released .writeBusyTimeout : Action ε Session Unit).Makes s replies
      ⟨(.error .writeDataRejected, s), ([] : List UInt8).map .shift, replies⟩ := by
  have hrejected : ¬ isDataAccepted token = true := by
    rw [isDataAccepted, decide_eq_true_iff]
    exact haccepted
  exact (makes_require_error hrejected _ _).bind_error

end Selected

/-! ## The whole write -/

section Whole

variable {s s' : Session} {mode : ReadyMode} {lba : UInt32} {data talk : List UInt8}
  {replies rest : Replies} {failure : Failure}

/-- A write is held by the select line, and a success leaves no note. -/
theorem makes_writeBlock_ok (hready : s.state = .ready mode) (hlength : data.length ≤ sectorSize)
    (h : (writeSelected (blockAddress mode.capacity lba) (.ofList sectorSize data) :
      Action ε Session Unit).Makes s replies
        ⟨(.ok (), s'), writeTalk (blockAddress mode.capacity lba) talk, rest⟩) :
    (writeBlock lba data : Action ε Session Unit).Makes s replies
      ⟨(.ok (), s'), writeSignals mode.capacity lba talk, rest.after 1⟩ := by
  unfold writeBlock
  apply (makes_requireReady hready replies).bind_silent
  rw [if_pos hlength]
  exact h.whileSelected.noting_ok

/-- The note of a failure is the last thing that changes the session. -/
theorem makes_writeBlock_error (hready : s.state = .ready mode) (hlength : data.length ≤ sectorSize)
    (h : (writeSelected (blockAddress mode.capacity lba) (.ofList sectorSize data) :
      Action ε Session Unit).Makes s replies
        ⟨(.error failure, s'), writeTalk (blockAddress mode.capacity lba) talk, rest⟩) :
    (writeBlock lba data : Action ε Session Unit).Makes s replies
      ⟨(.error failure, { s' with state := .failed failure }),
        writeSignals mode.capacity lba talk, rest.after 1⟩ := by
  unfold writeBlock
  apply (makes_requireReady hready replies).bind_silent
  rw [if_pos hlength]
  exact h.whileSelected.noting_error (makes_record failure s' _)

/-- A write on a course sends, returns and remembers what the course says. -/
theorem WriteCourse.makes (lba : UInt32) {verdict : Except Failure Unit} {left : Session}
    (hready : s.state = .ready mode) (hlength : data.length ≤ 512)
    (h : WriteCourse s (replies.after 6) data talk verdict left) :
    ∃ rest, (writeBlock lba data : Action ε Session Unit).Makes s replies
      ⟨(verdict, left), writeSignals mode.capacity lba talk, rest⟩ := by
  have hpolls : atLeastOnce s.config.busyPolls = s.config.busyPolls.toNat :=
    atLeastOnce_bytesForMillis _ _
  cases h with
  | rejected hresponse hanswered =>
    have hselected := makes_writeSelected_rejected (ε := ε)
      (blockAddress mode.capacity lba) s data hresponse hanswered
    exact ⟨_, makes_writeBlock_error hready hlength hselected⟩
  | dataRejected hresponse htoken haccepted =>
    have hselected := makes_writeSelected_block (ε := ε)
      (blockAddress mode.capacity lba) s hlength hresponse htoken
      (makes_judged_rejected _ _ haccepted)
    rw [List.append_nil] at hselected
    exact ⟨_, makes_writeBlock_error hready hlength hselected⟩
  | @busy heard token hresponse htoken haccepted hbusy =>
    rw [← hpolls] at hbusy ⊢
    have hselected := makes_writeSelected_block (ε := ε)
      (blockAddress mode.capacity lba) s hlength hresponse htoken
      (makes_judged_busy _ haccepted hbusy)
    exact ⟨_, makes_writeBlock_error hready hlength hselected⟩
  | @stored heard token k hresponse htoken haccepted hstored =>
    rw [← hpolls] at hstored
    have hselected := makes_writeSelected_block (ε := ε)
      (blockAddress mode.capacity lba) s hlength hresponse htoken
      (makes_judged_stored _ haccepted hstored)
    exact ⟨_, makes_writeBlock_ok hready hlength hselected⟩

/-- A write of up to 512 bytes in which no call fails is a course of the bytes that follow the
frame, and there is no other. All bytes of a block are sent in it, or none of them. -/
theorem writeBlock_course {t : List (Event ε)} {result : Except (Error ε) Unit}
    (hready : s.state = .ready mode) (hlength : data.length ≤ 512)
    (h : Program.Traces ((writeBlock lba data : Action ε Session Unit).exec s) t (result, s'))
    (hheard : Heard t replies rest) :
    (∃ talk verdict left, WriteCourse s (replies.after 6) data talk verdict left) ∧
      (∀ talk verdict left, WriteCourse s (replies.after 6) data talk verdict left ↔
        signals t = writeSignals mode.capacity lba talk ∧
          result = verdict.mapError .card ∧ s' = left) ∧
      ∃ talk heard, signals t = writeSignals mode.capacity lba talk ∧
        (talk = List.replicate heard 0xFF ∨ ∃ polls,
          talk = List.replicate heard 0xFF ++ dataPhase data ++ List.replicate polls 0xFF) := by
  have hcourse : ∀ {talk verdict left},
      WriteCourse s (replies.after 6) data talk verdict left →
      signals t = writeSignals mode.capacity lba talk ∧
        result = verdict.mapError .card ∧ s' = left := by
    intro talk verdict left hc
    obtain ⟨last, hmakes⟩ := hc.makes (ε := ε) lba hready hlength
    obtain ⟨verdict', hverdict, hvalue, hsignals, -⟩ := hmakes t result s' rest h hheard
    cases hvalue
    exact ⟨hsignals, hverdict, rfl⟩
  obtain ⟨talk₀, verdict₀, left₀, hc₀⟩ := exists_writeCourse s (replies.after 6) data
  obtain ⟨hsignals₀, hresult₀, hleft₀⟩ := hcourse hc₀
  refine ⟨⟨talk₀, verdict₀, left₀, hc₀⟩, fun talk verdict left => ⟨hcourse, ?_⟩, ?_⟩
  · rintro ⟨hsignals, hresult, rfl⟩
    -- the stream has some course, and by the other direction it is this one
    have htalk : talk₀ = talk := writeSignals_inj (hsignals₀.symm.trans hsignals)
    rw [hresult₀, mapError_card_inj] at hresult
    rw [← htalk, ← hresult, hleft₀]
    exact hc₀
  · obtain ⟨heard, htalk⟩ := hc₀.whole_or_none
    exact ⟨talk₀, heard, hsignals₀, htalk⟩

/-- A script that answers after one byte, takes two bytes of data, and is then busy for two. -/
theorem writeBlock_course_script :
    let s : Session := { fresh 0 {} with state := .ready .standardCapacityV1 }
    let script : Script := ⟨List.replicate 7 0xFF ++ [0x00] ++ List.replicate 516 0xFF ++
      [0xE5, 0x00, 0x00, 0x01], 0xFF, [], none, 0⟩
    let run := ((writeBlock 3 [0xAB, 0xCD]).exec s).run (ScriptedBus.bus ()) ⟨script, 0⟩
    WriteCourse s (Replies.after (fun k => (received run.events.toList).getD k idleByte) 6)
      [0xAB, 0xCD] ([0xFF, 0xFF] ++ dataPhase [0xAB, 0xCD] ++ [0xFF, 0xFF, 0xFF]) (.ok ())
      { s with lastToken := 0xE5 } := by
  have hcourse : ∀ (s left : Session) (script : ScriptedBus) (talk : List UInt8),
      let run := ((writeBlock 3 [0xAB, 0xCD]).exec s).run (ScriptedBus.bus ()) script
      s.state = .ready .standardCapacityV1 → (∀ event ∈ run.events.toList, event.isFault = false) →
      signals run.events.toList = writeSignals .standard 3 talk →
      run.value.1.toOption = some () → run.value.2 = left →
      WriteCourse s (Replies.after (fun k => (received run.events.toList).getD k idleByte) 6)
        [0xAB, 0xCD] talk (.ok ()) left := by
    intro s left script talk run hready hfault hsignals hdone hleft
    have htraces : Program.Traces ((writeBlock 3 [0xAB, 0xCD]).exec s) run.events.toList
        (run.value.1, run.value.2) := Program.run_traces (ScriptedBus.bus ()) _ script
    have hheard := heard_received hfault idleByte
    refine ((writeBlock_course hready (by decide) htraces hheard).2.1 _ _ _).mpr
      ⟨hsignals, ?_, hleft⟩
    cases hresult : run.value.1 with
    | error error =>
      rw [hresult] at hdone
      cases hdone
    | ok => rfl
  exact hcourse _ _ _ _ rfl (by decide +kernel) (by decide +kernel) (by decide +kernel)
    (by decide +kernel)

end Whole

end Session

end SdCard
