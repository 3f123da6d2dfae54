import SdCard.Proofs.Register.Field
import SdCard.Proofs.Session.ReadCourse

/-!
# What an inquiry makes of its replies

A ready card is asked for its status, for its CSD register and with it for its size, and it is told
what to do with the pull-up of its card-detect line. Each of these is one time of being selected,
with one command, or with an announcement and its command. `InquiryCourse` tells of each which bytes
are shifted out while the card is selected, how the inquiry ends, and the session that it leaves,
from the bytes shifted in alone. A response is what a poll finds after the frame, and the idle byte
where it finds none.

* `InquiryCourse.makes`: an inquiry on a course sends, returns and remembers what the course says;
* `exists_inquiryCourse`: every stream of replies has a course;
* `InquiryCourse.last`: what is remembered of a response is that to the last frame;
* `inquiry_course`: the courses are the runs.
-/

namespace SdCard

variable {ε : Type}

namespace Session

open SdCard.Action (makes_command makes_exchange makes_get_bind makes_modify makes_poll makes_pure
  makes_record makes_requireReady makes_require_error makes_require_ok makes_throw)

/-- What a ready card is asked or told without a sector being read or written. -/
inductive Inquiry
  | status
  | readCsd
  | sectorCount
  | setCardDetectPullup (connect : Bool)

def Inquiry.request : Inquiry → Request
  | status => .status
  | readCsd => .readCsd
  | sectorCount => .sectorCount
  | setCardDetectPullup connect => .setCardDetectPullup connect

/-- What is sent to a card that is selected once for some bytes, with one idle byte when the card is
let go of. -/
def selectedSignals (talk : List UInt8) : List Signal :=
  .control (.forceSelect true) ::
    (talk.map .shift ++ [.control (.forceSelect false), .shift 0xFF])

theorem selectedSignals_inj {talk other : List UInt8}
    (h : selectedSignals talk = selectedSignals other) : talk = other := by
  unfold selectedSignals at h
  have hbytes := List.append_cancel_right (List.cons.inj h).2
  rwa [List.map_inj_right fun _ _ hshift => Signal.shift.inj hshift] at hbytes

/-- The frame of a command with a check sum of zero, and then idle bytes. -/
def commandTalk (index : UInt8) (argument : UInt32) (count : Nat) : List UInt8 :=
  (Command.frame ⟨index, argument, 0⟩).toList ++ List.replicate count 0xFF

/-- How the CSD is read. The polls are for R1 and for the start token; the register and its check
sum follow the token. -/
inductive CsdCourse (s : Session) (replies : Replies) :
    List UInt8 → Except Failure Csd → Session → Prop
  | unanswered {response heard} :
      (replies.after 6).Polled (atLeastOnce s.config.responsePolls) response heard →
      response ≠ 0x00 →
      CsdCourse s replies (commandTalk 9 0 heard) (.error .csdUnreadable)
        { s with lastResponse := response, state := .failed .csdUnreadable }
  | notStarted {heard token found} :
      (replies.after 6).Polled (atLeastOnce s.config.responsePolls) 0x00 heard →
      (replies.after (6 + heard)).Polled s.config.tokenPolls.toNat token found → token ≠ 0xFE →
      CsdCourse s replies (commandTalk 9 0 (heard + found)) (.error .csdUnreadable)
        { s with lastResponse := 0x00, lastToken := token, state := .failed .csdUnreadable }
  | whole {heard found csd} :
      (replies.after 6).Polled (atLeastOnce s.config.responsePolls) 0x00 heard →
      (replies.after (6 + heard)).Polled s.config.tokenPolls.toNat 0xFE found →
      (∀ (k : Nat) (h : k < 16), csd[k] = replies (6 + heard + found + k)) →
      CsdCourse s replies (commandTalk 9 0 (heard + found + 18)) (.ok csd)
        { s with
          lastResponse := 0x00
          lastToken := 0xFE
          lastChecksum := .ofNat (bigEndian
            [replies (6 + heard + found + 16), replies (6 + heard + found + 17)]) }

/-- How an inquiry goes with the bytes that are shifted in. -/
inductive InquiryCourse (s : Session) (replies : Replies) :
    Inquiry → List UInt8 → Except Failure Answer → Session → Prop
  /-- One byte is read after R1, and it is the status. -/
  | status {heard} :
      (replies.after 6).Polled (atLeastOnce s.config.responsePolls) 0x00 heard →
      InquiryCourse s replies .status (commandTalk 13 0 (heard + 1))
        (.ok (.status (replies (6 + heard)).toUInt16)) { s with lastResponse := 0x00 }
  /-- One byte is read after R1 also where R1 tells of an error. -/
  | statusError {response heard} :
      (replies.after 6).Polled (atLeastOnce s.config.responsePolls) response heard →
      response ≠ 0x00 → response ≠ 0xFF →
      InquiryCourse s replies .status (commandTalk 13 0 (heard + 1)) (.error .statusReported)
        { s with lastResponse := response, state := .failed .statusReported }
  | statusUnanswered {heard} :
      (replies.after 6).Polled (atLeastOnce s.config.responsePolls) 0xFF heard →
      InquiryCourse s replies .status (commandTalk 13 0 heard) (.error .statusReported)
        { s with lastResponse := 0xFF, state := .failed .statusReported }
  | csd {talk verdict left} : CsdCourse s replies talk verdict left →
      InquiryCourse s replies .readCsd talk (verdict.map fun csd => .bytes csd.toArray) left
  | sectors {talk csd left count} : CsdCourse s replies talk (.ok csd) left →
      csd.sectorCount? = some count →
      InquiryCourse s replies .sectorCount talk (.ok (.sectors count)) left
  /-- The register has come, but it tells no size. -/
  | sectorsUntold {talk csd left} : CsdCourse s replies talk (.ok csd) left →
      csd.sectorCount? = none →
      InquiryCourse s replies .sectorCount talk (.error .csdUnreadable)
        { left with state := .failed .csdUnreadable }
  | sectorsUnread {talk failure left} : CsdCourse s replies talk (.error failure) left →
      InquiryCourse s replies .sectorCount talk (.error failure) left
  /-- The command follows its announcement in the same time of being selected. -/
  | pullup {connect announced heard heard'} :
      (replies.after 6).Polled (atLeastOnce s.config.responsePolls) announced heard →
      announced = 0x00 ∨ announced = 0x01 →
      (replies.after (6 + heard + 6)).Polled (atLeastOnce s.config.responsePolls) 0x00 heard' →
      InquiryCourse s replies (.setCardDetectPullup connect)
        (commandTalk 55 0 heard ++ commandTalk 42 (if connect then 1 else 0) heard')
        (.ok .done) { s with lastResponse := 0x00 }
  | pullupError {connect announced heard response heard'} :
      (replies.after 6).Polled (atLeastOnce s.config.responsePolls) announced heard →
      announced = 0x00 ∨ announced = 0x01 →
      (replies.after (6 + heard + 6)).Polled (atLeastOnce s.config.responsePolls) response heard' →
      response ≠ 0x00 →
      InquiryCourse s replies (.setCardDetectPullup connect)
        (commandTalk 55 0 heard ++ commandTalk 42 (if connect then 1 else 0) heard')
        (.error .pullupUnchanged)
        { s with lastResponse := response, state := .failed .pullupUnchanged }
  /-- The command is not sent. -/
  | pullupRefused {connect announced heard} :
      (replies.after 6).Polled (atLeastOnce s.config.responsePolls) announced heard →
      announced ≠ 0x00 → announced ≠ 0x01 →
      InquiryCourse s replies (.setCardDetectPullup connect) (commandTalk 55 0 heard)
        (.error .pullupUnchanged)
        { s with lastResponse := announced, state := .failed .pullupUnchanged }

/-- Every stream of replies has a course. -/
theorem exists_csdCourse (s : Session) (replies : Replies) :
    ∃ talk verdict left, CsdCourse s replies talk verdict left := by
  obtain ⟨response, heard, hresponse⟩ :=
    (replies.after 6).exists_polled (atLeastOnce s.config.responsePolls)
  by_cases hanswered : response = 0x00
  · subst hanswered
    obtain ⟨token, found, htoken⟩ :=
      (replies.after (6 + heard)).exists_polled s.config.tokenPolls.toNat
    by_cases hstarted : token = 0xFE
    · subst hstarted
      let csd : Csd := Vector.ofFn fun k => replies (6 + heard + found + k)
      have hcsd : ∀ (k : Nat) (h : k < 16), csd[k] = replies (6 + heard + found + k) := by
        simp [csd]
      exact ⟨_, _, _, .whole hresponse htoken hcsd⟩
    · exact ⟨_, _, _, .notStarted hresponse htoken hstarted⟩
  · exact ⟨_, _, _, .unanswered hresponse hanswered⟩

theorem exists_inquiryCourse (s : Session) (replies : Replies) (inquiry : Inquiry) :
    ∃ talk verdict left, InquiryCourse s replies inquiry talk verdict left := by
  obtain ⟨response, heard, hresponse⟩ :=
    (replies.after 6).exists_polled (atLeastOnce s.config.responsePolls)
  obtain ⟨talk, verdict, left, hcsd⟩ := exists_csdCourse s replies
  cases inquiry with
  | status =>
    by_cases hok : response = 0x00
    · exact ⟨_, _, _, .status (hok ▸ hresponse)⟩
    · by_cases hanswered : response = 0xFF
      · exact ⟨_, _, _, .statusUnanswered (hanswered ▸ hresponse)⟩
      · exact ⟨_, _, _, .statusError hresponse hok hanswered⟩
  | readCsd => exact ⟨_, _, _, .csd hcsd⟩
  | sectorCount =>
    cases verdict with
    | error failure => exact ⟨_, _, _, .sectorsUnread hcsd⟩
    | ok csd =>
      cases hcount : csd.sectorCount? with
      | none => exact ⟨_, _, _, .sectorsUntold hcsd hcount⟩
      | some count => exact ⟨_, _, _, .sectors hcsd hcount⟩
  | setCardDetectPullup connect =>
    by_cases hclean : response = 0x00 ∨ response = 0x01
    · obtain ⟨answer, heard', hanswer⟩ :=
        (replies.after (6 + heard + 6)).exists_polled (atLeastOnce s.config.responsePolls)
      by_cases hok : answer = 0x00
      · exact ⟨_, _, _, .pullup hresponse hclean (hok ▸ hanswer)⟩
      · exact ⟨_, _, _, .pullupError hresponse hclean hanswer hok⟩
    · obtain ⟨hzero, hone⟩ := not_or.mp hclean
      exact ⟨_, _, _, .pullupRefused hresponse hzero hone⟩

/-- What is remembered of a response is what the poll after the last frame has found. Only idle
bytes follow that frame. -/
theorem CsdCourse.last {s left : Session} {replies : Replies} {talk : List UInt8}
    {verdict : Except Failure Csd} (h : CsdCourse s replies talk verdict left) :
    ∃ heard count, talk = commandTalk 9 0 count ∧
      (replies.after 6).Polled (atLeastOnce s.config.responsePolls) left.lastResponse heard := by
  cases h with
  | unanswered hresponse => exact ⟨_, _, rfl, hresponse⟩
  | notStarted hresponse => exact ⟨_, _, rfl, hresponse⟩
  | whole hresponse => exact ⟨_, _, rfl, hresponse⟩

theorem InquiryCourse.last {s left : Session} {replies : Replies} {inquiry : Inquiry}
    {talk : List UInt8} {verdict : Except Failure Answer}
    (h : InquiryCourse s replies inquiry talk verdict left) :
    ∃ before index argument count heard, talk = before ++ commandTalk index argument count ∧
      (replies.after (before.length + 6)).Polled (atLeastOnce s.config.responsePolls)
        left.lastResponse heard := by
  have hlength : ∀ heard, (commandTalk 55 0 heard).length + 6 = 6 + heard + 6 := by
    intro heard
    have hframe : (Command.frame ⟨55, 0, 0⟩).toList.length = 6 := Vector.length_toList
    unfold commandTalk
    rw [List.length_append, hframe, List.length_replicate]
  cases h with
  | status hresponse => exact ⟨[], _, _, _, _, rfl, hresponse⟩
  | statusError hresponse => exact ⟨[], _, _, _, _, rfl, hresponse⟩
  | statusUnanswered hresponse => exact ⟨[], _, _, _, _, rfl, hresponse⟩
  | csd hcsd | sectors hcsd | sectorsUntold hcsd | sectorsUnread hcsd =>
    obtain ⟨heard, count, rfl, hresponse⟩ := hcsd.last
    exact ⟨[], _, _, _, _, rfl, hresponse⟩
  | @pullup connect announced heard heard' _ _ hresponse =>
    exact ⟨commandTalk 55 0 heard, _, _, _, _, rfl, hlength heard ▸ hresponse⟩
  | @pullupError connect announced heard response heard' _ _ hresponse =>
    exact ⟨commandTalk 55 0 heard, _, _, _, _, rfl, hlength heard ▸ hresponse⟩
  | pullupRefused hresponse => exact ⟨[], _, _, _, _, rfl, hresponse⟩

/-! ## While the card is selected -/

section Selected

variable {σ : Type} {replies rest : Replies} {response announced token : UInt8}
  {heard heard' found : Nat} {bound : UInt32}

theorem map_commandTalk (index : UInt8) (argument : UInt32) (count : Nat) :
    (commandTalk index argument count).map Signal.shift =
      (Command.frame ⟨index, argument, 0⟩).toList.map .shift ++
        List.replicate count (.shift 0xFF) := by
  unfold commandTalk
  rw [List.map_append, List.map_replicate]

theorem map_commandTalk_append (index : UInt8) (argument : UInt32) (count more : Nat) :
    (commandTalk index argument count).map Signal.shift ++ List.replicate more (.shift 0xFF) =
      (commandTalk index argument (count + more)).map .shift := by
  rw [map_commandTalk, map_commandTalk, List.append_assoc, List.replicate_append_replicate]

/-- A response of more than R1 is read on after R1. -/
theorem makes_longCommand (index : UInt8) (argument : UInt32) (n : Nat)
    (h : (replies.after 6).Polled (atLeastOnce bound) response heard) (hanswered : response ≠ 0xFF)
    (s : σ) :
    (Action.exchange (Exchange.whileSelected do
      Exchange.sendCommand ⟨index, argument, 0⟩
      Exchange.receiveResponse bound (Bytes.zero (n + 1))) : Action ε σ (Bytes (n + 1))).Makes s
      replies ⟨(.ok (((replies.after (6 + heard)).bytes n).cons response), s),
        selectedSignals (commandTalk index argument (heard + n)),
        (replies.after (6 + heard + n)).after 1⟩ := by
  have hmakes := makes_exchange (ε := ε) (Exchange.hears_whileSelected
    (Exchange.hears_sendAndReceive ⟨index, argument, 0⟩ bound n)) s replies
  simp only [Turn.longCommand, Turn.command, Vector.length_toList, h.eq.1, h.eq.2] at hmakes
  have hidle : ¬ response = idleByte := hanswered
  rw [if_neg hidle] at hmakes
  apply hmakes.of_eq
  unfold selectedSignals
  rw [← map_commandTalk_append, map_commandTalk]
  simp [Turn.held, Turn.map, idleByte]

/-- Without R1 nothing more is read. -/
theorem makes_longCommand_unanswered (index : UInt8) (argument : UInt32) (n : Nat)
    (h : (replies.after 6).Polled (atLeastOnce bound) 0xFF heard) (s : σ) :
    (Action.exchange (Exchange.whileSelected do
      Exchange.sendCommand ⟨index, argument, 0⟩
      Exchange.receiveResponse bound (Bytes.zero (n + 1))) : Action ε σ (Bytes (n + 1))).Makes s
      replies ⟨(.ok ((Bytes.zero n).cons 0xFF), s),
        selectedSignals (commandTalk index argument heard),
        (replies.after (6 + heard)).after 1⟩ := by
  have hmakes := makes_exchange (ε := ε) (Exchange.hears_whileSelected
    (Exchange.hears_sendAndReceive ⟨index, argument, 0⟩ bound n)) s replies
  simp only [Turn.longCommand, Turn.command, Vector.length_toList, h.eq.1, h.eq.2] at hmakes
  rw [if_pos (show (0xFF : UInt8) = idleByte from rfl)] at hmakes
  apply hmakes.of_eq
  unfold selectedSignals
  rw [map_commandTalk]
  simp [Turn.held, Turn.map, idleByte]

/-- An announcement without an error is followed by its command. -/
theorem makes_applicationCommand (index : UInt8) (argument : UInt32)
    (h : (replies.after 6).Polled (atLeastOnce bound) announced heard)
    (hclean : announced = 0x00 ∨ announced = 0x01)
    (h' : (replies.after (6 + heard + 6)).Polled (atLeastOnce bound) response heard') (s : σ) :
    (Action.exchange (Exchange.whileSelected
      (Exchange.sendApplicationCommand bound ⟨index, argument, 0⟩)) : Action ε σ UInt8).Makes s
      replies ⟨(.ok response, s),
        selectedSignals (commandTalk 55 0 heard ++ commandTalk index argument heard'),
        (replies.after (6 + heard + 6 + heard')).after 1⟩ := by
  have hmakes := makes_exchange (ε := ε) (Exchange.hears_whileSelected
    (Exchange.hears_sendApplicationCommand ⟨index, argument, 0⟩ bound)) s replies
  simp only [Turn.applicationCommand, Turn.command, Vector.length_toList, h.eq.1, h.eq.2,
    if_pos hclean, Replies.after_after, h'.eq.1, h'.eq.2] at hmakes
  apply hmakes.of_eq
  unfold selectedSignals
  rw [List.map_append, map_commandTalk, map_commandTalk]
  simp [Turn.held, Turn.map, idleByte, Command.applicationCommand]

/-- An announcement with an error, or without a response, is not. -/
theorem makes_applicationCommand_refused (index : UInt8) (argument : UInt32)
    (h : (replies.after 6).Polled (atLeastOnce bound) announced heard)
    (hzero : announced ≠ 0x00) (hone : announced ≠ 0x01) (s : σ) :
    (Action.exchange (Exchange.whileSelected
      (Exchange.sendApplicationCommand bound ⟨index, argument, 0⟩)) : Action ε σ UInt8).Makes s
      replies ⟨(.ok announced, s), selectedSignals (commandTalk 55 0 heard),
        (replies.after (6 + heard)).after 1⟩ := by
  have hmakes := makes_exchange (ε := ε) (Exchange.hears_whileSelected
    (Exchange.hears_sendApplicationCommand ⟨index, argument, 0⟩ bound)) s replies
  simp only [Turn.applicationCommand, Turn.command, Vector.length_toList, h.eq.1, h.eq.2,
    if_neg (not_or.mpr ⟨hzero, hone⟩), Replies.after_after] at hmakes
  apply hmakes.of_eq
  unfold selectedSignals
  rw [map_commandTalk]
  simp [Turn.held, Turn.map, idleByte, Command.applicationCommand]

/-! ### The CSD register -/

theorem makes_readCsdSelected_unanswered (s : Session)
    (hresponse : (replies.after 6).Polled (atLeastOnce s.config.responsePolls) response heard)
    (hanswered : response ≠ 0x00) :
    (readCsdSelected : Action ε Session (Csd × UInt16)).Makes s replies
      ⟨(.error .csdUnreadable, { s with lastResponse := response }),
        (commandTalk 9 0 heard).map .shift, replies.after (6 + heard)⟩ := by
  unfold readCsdSelected
  apply makes_get_bind
  apply Action.Makes.of_eq
  · apply (makes_command .sendCsd hresponse _).bind_ok
    apply (makes_modify _ _ _).bind_silent
    exact (makes_require_error hanswered _ _).bind_error
  · rw [map_commandTalk]
    simp [Turn.preceded, Command.sendCsd]

theorem makes_readCsdSelected_notStarted (s : Session)
    (hresponse : (replies.after 6).Polled (atLeastOnce s.config.responsePolls) 0x00 heard)
    (htoken : (replies.after (6 + heard)).Polled (atLeastOnce s.config.tokenPolls) token found)
    (hstarted : token ≠ 0xFE) :
    (readCsdSelected : Action ε Session (Csd × UInt16)).Makes s replies
      ⟨(.error .csdUnreadable, { s with lastResponse := 0x00, lastToken := token }),
        (commandTalk 9 0 (heard + found)).map .shift, replies.after (6 + heard + found)⟩ := by
  rw [← Replies.after_after] at htoken
  unfold readCsdSelected
  apply makes_get_bind
  apply Action.Makes.of_eq
  · apply (makes_command .sendCsd hresponse _).bind_ok
    apply (makes_modify _ _ _).bind_silent
    apply (makes_require_ok rfl _ _).bind_silent
    apply (makes_poll htoken _).bind_ok
    apply (makes_modify _ _ _).bind_silent
    exact (makes_require_error hstarted _ _).bind_error
  · rw [← map_commandTalk_append, map_commandTalk]
    simp [Turn.preceded, Command.sendCsd]

/-- The register and its check sum follow the token without a gap. -/
theorem makes_readCsdSelected_whole (s : Session)
    (hresponse : (replies.after 6).Polled (atLeastOnce s.config.responsePolls) 0x00 heard)
    (htoken : (replies.after (6 + heard)).Polled (atLeastOnce s.config.tokenPolls) 0xFE found) :
    let register := replies.after (6 + heard + found)
    (readCsdSelected : Action ε Session (Csd × UInt16)).Makes s replies
      ⟨(.ok (register.bytes 16, ((register.after 16).bytes 2).half),
          { s with lastResponse := 0x00, lastToken := 0xFE }),
        (commandTalk 9 0 (heard + found + 18)).map .shift, register.after 18⟩ := by
  rw [← Replies.after_after] at htoken
  unfold readCsdSelected
  apply makes_get_bind
  apply Action.Makes.of_eq
  · apply (makes_command .sendCsd hresponse _).bind_ok
    apply (makes_modify _ _ _).bind_silent
    apply (makes_require_ok rfl _ _).bind_silent
    apply (makes_poll htoken _).bind_ok
    apply (makes_modify _ _ _).bind_silent
    apply (makes_require_ok rfl _ _).bind_silent
    apply (makes_exchange (Exchange.hears_receive 16) _ _).bind_ok
    apply (makes_exchange (Exchange.hears_receive 2) _ _).bind_ok
    exact makes_pure _ _ _
  · rw [← map_commandTalk_append, ← map_commandTalk_append, map_commandTalk]
    simp only [Turn.preceded, Command.sendCsd, List.append_assoc, Replies.after_after,
      Nat.add_assoc, List.append_nil]
    rfl

end Selected

/-! ## The whole inquiry -/

section Whole

variable {α : Type} {s s' : Session} {mode : ReadyMode} {replies rest : Replies}
  {sent : List Signal} {talk : List UInt8} {failure : Failure}

/-- A ready card is asked, and a failure is noted. -/
theorem makes_asked_ok {body : Action ε Session α} {value : α} (hready : s.state = .ready mode)
    (h : body.Makes s replies ⟨(.ok value, s'), sent, rest⟩) :
    (do
      let _ ← requireReady
      recording body : Action ε Session α).Makes s replies ⟨(.ok value, s'), sent, rest⟩ :=
  (makes_requireReady hready replies).bind_silent h.noting_ok

theorem makes_asked_error {body : Action ε Session α} (left : Session)
    (hready : s.state = .ready mode)
    (h : body.Makes s replies ⟨(.error failure, left), sent, rest⟩) :
    (do
      let _ ← requireReady
      recording body : Action ε Session α).Makes s replies
        ⟨(.error failure, { left with state := .failed failure }), sent, rest⟩ :=
  (makes_requireReady hready replies).bind_silent
    (h.noting_error (makes_record failure left rest))

/-- A success may be put into another form. -/
theorem makes_answer {action : Action ε Session α} {verdict : Except Failure α} (f : α → Answer)
    (h : action.Makes s replies ⟨(verdict, s'), sent, rest⟩) :
    (do return f (← action) : Action ε Session Answer).Makes s replies
      ⟨(verdict.map f, s'), sent, rest⟩ := by
  cases verdict with
  | error failure => exact h.bind_error
  | ok value =>
    apply Action.Makes.of_eq
    · exact h.bind_ok (makes_pure (f value) _ _)
    · simp [Turn.preceded]
      rfl

/-- The CSD as a course says. -/
theorem CsdCourse.makes {verdict : Except Failure Csd} {left : Session}
    (hready : s.state = .ready mode) (h : CsdCourse s replies talk verdict left) :
    ∃ rest, (readCsd : Action ε Session Csd).Makes s replies
      ⟨(verdict, left), selectedSignals talk, rest⟩ := by
  have hpolls : atLeastOnce s.config.tokenPolls = s.config.tokenPolls.toNat :=
    atLeastOnce_bytesForMillis _ _
  cases h with
  | unanswered hresponse hanswered =>
    have hselected := makes_readCsdSelected_unanswered (ε := ε) s hresponse hanswered
    exact ⟨_, makes_asked_error _ hready hselected.whileSelected.bind_error⟩
  | notStarted hresponse htoken hstarted =>
    rw [← hpolls] at htoken
    have hselected := makes_readCsdSelected_notStarted (ε := ε) s hresponse htoken hstarted
    exact ⟨_, makes_asked_error _ hready hselected.whileSelected.bind_error⟩
  | @whole heard found csd hresponse htoken hcsd =>
    rw [← hpolls] at htoken
    have hselected := makes_readCsdSelected_whole (ε := ε) s hresponse htoken
    have hregister : csd = (replies.after (6 + heard + found)).bytes 16 := by
      ext k hk
      rw [hcsd k hk, Replies.bytes, Vector.getElem_ofFn]
      rfl
    have hread : (readCsd : Action ε Session Csd).Makes s replies
        ⟨(.ok csd, { s with
            lastResponse := 0x00
            lastToken := 0xFE
            lastChecksum := (((replies.after (6 + heard + found)).after 16).bytes 2).half }),
          selectedSignals (commandTalk 9 0 (heard + found + 18)),
          ((replies.after (6 + heard + found)).after 18).after 1⟩ := by
      apply makes_asked_ok hready
      apply Action.Makes.of_eq
      · apply hselected.whileSelected.bind_ok
        apply (makes_modify _ _ _).bind_silent
        exact makes_pure _ _ _
      · rw [hregister]
        simp only [Turn.preceded, List.append_nil]
        rfl
    rw [half_bytes] at hread
    exact ⟨_, hread⟩

/-- R1 is the high byte of the status. -/
theorem field_status (response : UInt8) (others : Bytes 1) :
    (field (others.cons response).toList 15 8).toNat = response.toNat ∧
      (response = 0x00 → (field (others.cons response).toList 15 0).toUInt16 =
        others[0].toUInt16) := by
  have hfirst := response.toNat_lt
  have hsecond := others[0].toNat_lt
  have hlist : (others.cons response).toList = [response, others[0]] := by
    rw [Bytes.toList_cons]
    congr 1
    apply List.ext_getElem
    · simp
    · intro k hk hk'
      have hzero : k = 0 := by
        rw [List.length_singleton] at hk'
        omega
      subst hzero
      rfl
  have hvalue : bigEndian [response, others[0]] = response.toNat * 256 + others[0].toNat := by
    simp [bigEndian]
  rw [hlist]
  refine ⟨?_, fun hzero => ?_⟩
  · rw [toNat_field (by simp) (by decide) (by decide), hvalue]
    omega
  · rw [← UInt16.toNat_inj, UInt32.toNat_toUInt16, UInt8.toNat_toUInt16,
      toNat_field (by simp) (by decide) (by decide), hvalue, hzero]
    change (0 * 256 + others[0].toNat) / 2 ^ 0 % 2 ^ 16 % 2 ^ 16 = _
    omega

/-- What the session makes of a status that has come, or of zeros in its place. -/
theorem makes_status {response : UInt8} {others : Bytes 1} (hready : s.state = .ready mode)
    (h : (Action.exchange (Exchange.whileSelected do
      Exchange.sendCommand ⟨13, 0, 0⟩
      Exchange.receiveResponse s.config.responsePolls (Bytes.zero 2)) :
        Action ε Session (Bytes 2)).Makes s replies
          ⟨(.ok (others.cons response), s), sent, rest⟩) :
    (response = 0x00 → (status : Action ε Session UInt16).Makes s replies
      ⟨(.ok others[0].toUInt16, { s with lastResponse := 0x00 }), sent, rest⟩) ∧
    (response ≠ 0x00 → (status : Action ε Session UInt16).Makes s replies
      ⟨(.error .statusReported,
        { s with lastResponse := response, state := .failed .statusReported }), sent, rest⟩) := by
  obtain ⟨hhigh, hwhole⟩ := field_status response others
  have hcommand : (commandWithPayload .sendStatus 1 : Action ε Session (Bytes 2)).Makes s replies
      ⟨(.ok (others.cons response), { s with lastResponse := response }), sent, rest⟩ := by
    have hfirst : (others.cons response).get ⟨0, Nat.succ_pos 1⟩ = response :=
      Bytes.getElem_cons_zero response others _
    unfold commandWithPayload
    apply makes_get_bind
    apply Action.Makes.of_eq
    · apply h.bind_ok
      apply (makes_modify _ _ _).bind_silent
      exact makes_pure _ _ _
    · rw [hfirst]
      simp [Turn.preceded]
  refine ⟨fun hzero => ?_, fun hne => ?_⟩
  · have hclean : field (others.cons response).toList 15 8 = 0 := by
      rw [← UInt32.toNat_inj, hhigh, hzero]
      rfl
    apply makes_asked_ok hready
    apply Action.Makes.of_eq
    · apply hcommand.bind_ok
      apply (makes_require_ok hclean _ _).bind_silent
      exact makes_pure _ _ _
    · rw [hwhole hzero, hzero]
      simp [Turn.preceded]
  · have hreported : ¬ field (others.cons response).toList 15 8 = 0 := by
      rw [← UInt32.toNat_inj, hhigh]
      exact fun h => hne (UInt8.toNat_inj.mp h)
    apply makes_asked_error { s with lastResponse := response } hready
    apply Action.Makes.of_eq
    · apply hcommand.bind_ok
      exact (makes_require_error hreported _ _).bind_error
    · simp [Turn.preceded]

/-- What the session makes of the last response to an application command. -/
theorem makes_setCardDetectPullup {connect : Bool} {response : UInt8}
    (hready : s.state = .ready mode)
    (h : (Action.exchange (Exchange.whileSelected (Exchange.sendApplicationCommand
      s.config.responsePolls (.setCardDetect connect))) : Action ε Session UInt8).Makes s replies
        ⟨(.ok response, s), sent, rest⟩) :
    (response = 0x00 → (setCardDetectPullup connect : Action ε Session Unit).Makes s replies
      ⟨(.ok (), { s with lastResponse := 0x00 }), sent, rest⟩) ∧
    (response ≠ 0x00 → (setCardDetectPullup connect : Action ε Session Unit).Makes s replies
      ⟨(.error .pullupUnchanged,
        { s with lastResponse := response, state := .failed .pullupUnchanged }), sent, rest⟩) := by
  have hcommand : (applicationCommand (.setCardDetect connect) : Action ε Session UInt8).Makes s
      replies ⟨(.ok response, { s with lastResponse := response }), sent, rest⟩ := by
    unfold applicationCommand
    apply makes_get_bind
    apply Action.Makes.of_eq
    · apply h.bind_ok
      apply (makes_modify _ _ _).bind_silent
      exact makes_pure _ _ _
    · simp [Turn.preceded]
  refine ⟨?_, fun hne => ?_⟩
  · rintro rfl
    apply makes_asked_ok hready
    apply Action.Makes.of_eq
    · apply hcommand.bind_ok
      exact makes_require_ok rfl _ _
    · simp [Turn.preceded]
  · apply makes_asked_error { s with lastResponse := response } hready
    apply Action.Makes.of_eq
    · apply hcommand.bind_ok
      exact makes_require_error hne _ _
    · simp [Turn.preceded]

/-- The size as the register tells it. -/
theorem makes_sectorCount {csd : Csd} {left : Session}
    (h : (readCsd : Action ε Session Csd).Makes s replies ⟨(.ok csd, left), sent, rest⟩) :
    (∀ count, csd.sectorCount? = some count →
      (sectorCount : Action ε Session UInt32).Makes s replies ⟨(.ok count, left), sent, rest⟩) ∧
    (csd.sectorCount? = none → (sectorCount : Action ε Session UInt32).Makes s replies
      ⟨(.error .csdUnreadable, { left with state := .failed .csdUnreadable }), sent, rest⟩) := by
  refine ⟨fun count hcount => ?_, fun hnone => ?_⟩
  · unfold sectorCount
    apply Action.Makes.of_eq
    · apply h.bind_ok
      rw [hcount]
      exact makes_pure _ _ _
    · simp [Turn.preceded]
  · unfold sectorCount
    apply Action.Makes.of_eq
    · apply h.bind_ok
      rw [hnone]
      exact (makes_throw .csdUnreadable left rest).noting_error (makes_record _ _ _)
    · simp [Turn.preceded]

/-- An inquiry on a course sends, returns and remembers what the course says. -/
theorem InquiryCourse.makes {inquiry : Inquiry} {verdict : Except Failure Answer} {left : Session}
    (hready : s.state = .ready mode) (h : InquiryCourse s replies inquiry talk verdict left) :
    ∃ rest, (perform inquiry.request : Action ε Session Answer).Makes s replies
      ⟨(verdict, left), selectedSignals talk, rest⟩ := by
  cases h with
  | @status heard hresponse =>
    have hexchange := makes_longCommand (ε := ε) 13 0 1 hresponse (by decide) s
    have hstatus := (makes_status hready hexchange).1 rfl
    have hbyte : ((replies.after (6 + heard)).bytes 1)[0] = replies (6 + heard) := by
      rw [Replies.bytes, Vector.getElem_ofFn]
      rfl
    rw [hbyte] at hstatus
    exact ⟨_, makes_answer .status hstatus⟩
  | statusError hresponse herror hanswered =>
    have hexchange := makes_longCommand (ε := ε) 13 0 1 hresponse hanswered s
    exact ⟨_, makes_answer .status ((makes_status hready hexchange).2 herror)⟩
  | statusUnanswered hresponse =>
    have hexchange := makes_longCommand_unanswered (ε := ε) 13 0 1 hresponse s
    exact ⟨_, makes_answer .status ((makes_status hready hexchange).2 (by decide))⟩
  | csd hcsd =>
    obtain ⟨rest, hmakes⟩ := hcsd.makes (ε := ε) hready
    exact ⟨rest, makes_answer _ hmakes⟩
  | sectors hcsd hcount =>
    obtain ⟨rest, hmakes⟩ := hcsd.makes (ε := ε) hready
    exact ⟨rest, makes_answer .sectors ((makes_sectorCount hmakes).1 _ hcount)⟩
  | sectorsUntold hcsd hnone =>
    obtain ⟨rest, hmakes⟩ := hcsd.makes (ε := ε) hready
    exact ⟨rest, makes_answer .sectors ((makes_sectorCount hmakes).2 hnone)⟩
  | sectorsUnread hcsd =>
    obtain ⟨rest, hmakes⟩ := hcsd.makes (ε := ε) hready
    exact ⟨rest, makes_answer .sectors hmakes.bind_error⟩
  | @pullup connect announced heard heard' hannounced hclean hresponse =>
    have hexchange := makes_applicationCommand (ε := ε) 42 (if connect then 1 else 0) hannounced
      hclean hresponse s
    exact ⟨_, makes_answer (fun _ => .done) ((makes_setCardDetectPullup hready hexchange).1 rfl)⟩
  | @pullupError connect announced heard response heard' hannounced hclean hresponse herror =>
    have hexchange := makes_applicationCommand (ε := ε) 42 (if connect then 1 else 0) hannounced
      hclean hresponse s
    exact ⟨_, makes_answer (fun _ => .done) ((makes_setCardDetectPullup hready hexchange).2 herror)⟩
  | @pullupRefused connect announced heard hannounced hzero hone =>
    have hexchange := makes_applicationCommand_refused (ε := ε) 42 (if connect then 1 else 0)
      hannounced hzero hone s
    exact ⟨_, makes_answer (fun _ => .done) ((makes_setCardDetectPullup hready hexchange).2 hzero)⟩

/-- An inquiry of a ready card in which no call fails is a course of the bytes that are shifted in,
and there is no other. The session remembers the response to the last frame. -/
theorem inquiry_course {inquiry : Inquiry} {last : Replies} {t : List (Event ε)}
    {result : Except (Error ε) Answer} (hready : s.state = .ready mode)
    (h : Program.Traces ((perform inquiry.request : Action ε Session Answer).exec s) t (result, s'))
    (hheard : Heard t replies last) :
    (∃ talk verdict left, InquiryCourse s replies inquiry talk verdict left) ∧
      (∀ talk verdict left, InquiryCourse s replies inquiry talk verdict left ↔
        signals t = selectedSignals talk ∧ result = verdict.mapError .card ∧ s' = left) ∧
      ∃ before index argument count heard,
        signals t = selectedSignals (before ++ commandTalk index argument count) ∧
        (replies.after (before.length + 6)).Polled (atLeastOnce s.config.responsePolls)
          s'.lastResponse heard := by
  have hcourse : ∀ {talk verdict left}, InquiryCourse s replies inquiry talk verdict left →
      signals t = selectedSignals talk ∧ result = verdict.mapError .card ∧ s' = left := by
    intro talk verdict left hc
    obtain ⟨rest, hmakes⟩ := hc.makes (ε := ε) hready
    obtain ⟨verdict', hverdict, hvalue, hsignals, -⟩ := hmakes t result s' last h hheard
    cases hvalue
    exact ⟨hsignals, hverdict, rfl⟩
  obtain ⟨talk₀, verdict₀, left₀, hc₀⟩ := exists_inquiryCourse s replies inquiry
  obtain ⟨hsignals₀, hresult₀, hleft₀⟩ := hcourse hc₀
  refine ⟨⟨talk₀, verdict₀, left₀, hc₀⟩, fun talk verdict left => ⟨hcourse, ?_⟩, ?_⟩
  · rintro ⟨hsignals, hresult, rfl⟩
    -- the stream has some course, and by the other direction it is this one
    have htalk : talk₀ = talk := selectedSignals_inj (hsignals₀.symm.trans hsignals)
    rw [hresult₀, mapError_card_inj] at hresult
    rw [← htalk, ← hresult, hleft₀]
    exact hc₀
  · obtain ⟨before, index, argument, count, heard, rfl, hpolled⟩ := hc₀.last
    exact ⟨before, index, argument, count, heard, hsignals₀, hleft₀ ▸ hpolled⟩

/-- A script in which the announcement is answered after one byte, by a card that is idle, and the
command at once. -/
theorem inquiry_course_script :
    let s : Session := { fresh 0 {} with state := .ready .highCapacityV2 }
    let inquiry : Inquiry := .setCardDetectPullup true
    let script : Script :=
      ⟨List.replicate 7 0xFF ++ [0x01] ++ List.replicate 6 0xFF ++ [0x00], 0xFF, [], none, 0⟩
    let run := ((perform inquiry.request).exec s).run (ScriptedBus.bus ()) ⟨script, 0⟩
    InquiryCourse s (fun k => (received run.events.toList).getD k idleByte) inquiry
      (commandTalk 55 0 2 ++ commandTalk 42 1 1) (.ok .done) s := by
  intro s inquiry script run
  have hfault : ∀ event ∈ run.events.toList, event.isFault = false := by decide +kernel
  have htraces : Program.Traces ((perform inquiry.request).exec s) run.events.toList
      (run.value.1, run.value.2) := Program.run_traces (ScriptedBus.bus ()) _ _
  have hsignals : signals run.events.toList =
      selectedSignals (commandTalk 55 0 2 ++ commandTalk 42 1 1) := by decide +kernel
  have hanswer : run.value.1.toOption = some .done := by decide +kernel
  have hleft : run.value.2 = s := by decide +kernel
  refine ((inquiry_course rfl htraces (heard_received hfault idleByte)).2.1 _ _ _).mpr
    ⟨hsignals, ?_, hleft⟩
  cases hresult : run.value.1 with
  | error error =>
    rw [hresult] at hanswer
    cases hanswer
  | ok answer =>
    rw [hresult] at hanswer
    cases hanswer
    rfl

end Whole

end Session

end SdCard
