import SdCard.Proofs.Register.Ocr
import SdCard.Proofs.Session.Negotiation
import SdCard.Proofs.Session.Operation
import SdCard.CardModel.Transfer

/-!
# The handshake keeps to its protocol

Where no call of the bus fails, the handshake sends what the protocol says and ends as the protocol
says, whatever the replies are. Each step of the program is matched with its step of the protocol;
`start_course` then says of the whole that a run of it is a course, and that there is no other.
-/

namespace SdCard

namespace Session

open Negotiation

variable {ε : Type} {config : Config} {chipSelect : UInt8}

theorem frame_goIdle : Command.goIdle.frame.toList = [0x40, 0, 0, 0, 0, 0x95] := by decide

theorem frame_sendInterfaceCondition :
    Command.sendInterfaceCondition.frame.toList = [0x48, 0, 0, 0x01, 0xAA, 0x87] := by decide

theorem frame_readOcr : Command.readOcr.frame.toList = [0x7A, 0, 0, 0, 0, 0x01] := by decide

theorem frame_setBlockLength :
    (Command.setBlockLength (.ofNat sectorSize)).frame.toList =
      [0x50, 0, 0, 0x02, 0, 0x01] := by decide

theorem frame_sendOperatingCondition (version : Version) :
    (Command.sendOperatingCondition (version = .v2)).frame.toList =
      [0x69, if version = .v2 then 0x40 else 0, 0, 0, 0, 0x01] := by
  cases version <;> decide

theorem getElem_eq_byte (response : Bytes 5) {k : Nat} (h : k < 5) :
    response[k] = byte response k := by
  simp [byte, h]

theorem hears_powerUp : Hears config chipSelect (powerUp : Action ε Session Unit) fun replies =>
    ⟨.ok (), .control (.chipSelect chipSelect false) ::
      (List.replicate config.powerUpBytes (.shift 0xFF) ++
        [.control (.chipSelect chipSelect true)]), replies.after config.powerUpBytes⟩ := by
  refine hears_get_bind fun seen hconfig hchipSelect => ?_
  rw [hconfig, hchipSelect]
  have hexchange := (Exchange.hears_control (ε := ε) (.chipSelect chipSelect false)).bind fun _ =>
    (Exchange.hears_sendIdle config.powerUpBytes).bind fun _ =>
      Exchange.hears_control (.chipSelect chipSelect true)
  exact (hears_exchange hexchange).of_eq fun _ => rfl

theorem hears_attempt :
    Hears config chipSelect (powerUp >>= fun _ => command .goIdle : Action ε Session UInt8)
      fun replies => ((attempt config chipSelect replies).map id).map .ok := by
  refine (hears_powerUp.bind fun _ => hears_command .goIdle).of_eq fun replies => ?_
  rw [frame_goIdle]
  simp [Turn.andThen, Turn.map, Turn.preceded, attempt, polls]

/-- CMD0 is retried. -/
theorem hears_goIdle (attempts : Nat) :
    Hears config chipSelect (goIdle attempts : Action ε Session Unit)
      (Turn.retry (· = 0x01) .resetIgnored attempts (attempt config chipSelect)) := by
  induction attempts with
  | zero => exact (hears_throw .resetIgnored).of_eq fun _ => rfl
  | succ attempts ih =>
    -- the program has no action for one attempt, so its steps are put together first
    have hstep := hears_retry (· = Response.idle) hears_attempt (fun _ => decide_eq_true_iff) ih
    rw [bind_assoc] at hstep
    exact hstep

theorem hears_interface :
    Hears config chipSelect (commandWithPayload .sendInterfaceCondition 4 :
      Action ε Session (Bytes 5)) fun replies => (interface config replies).map .ok := by
  refine (hears_commandWithPayload _ 4).of_eq fun replies => ?_
  rw [frame_sendInterfaceCondition]
  rfl

/-- CMD8 tells the version. -/
theorem hears_findVersion :
    Hears config chipSelect (findVersion : Action ε Session Version) fun replies =>
      (interface config replies).map versionOf := by
  refine hears_interface.judge fun response => ?_
  have hbyte : ∀ (k : Nat) (h : k < 4 + 1), response[k] = byte response k :=
    fun _ h => getElem_eq_byte response h
  -- R1 decides on the version, and only a card of version 2 is asked for the echo
  simp only [hbyte]
  by_cases hidle : byte response 0 = Response.idle
  · rw [if_pos hidle]
    refine Hears.of_eq ((hears_require _ _).bind fun _ =>
      (hears_require _ _).bind fun _ => hears_pure _) fun replies => ?_
    have hone : byte response 0 = 0x01 := hidle
    unfold versionOf
    rw [if_pos hone, ← hbyte 3 (by decide), ← hbyte 4 (by decide)]
    split
    · split
      · rfl
      · rfl
    · rfl
  · rw [if_neg hidle]
    have hone : ¬ byte response 0 = 0x01 := hidle
    by_cases hillegal : byte response 0 = Response.idleIllegal
    · rw [if_pos hillegal]
      refine (hears_pure Version.v1).of_eq fun replies => ?_
      have hfive : byte response 0 = 0x05 := hillegal
      unfold versionOf
      rw [if_neg hone, if_pos hfive]
    · rw [if_neg hillegal]
      refine (hears_throw .interfaceRejected).of_eq fun replies => ?_
      have hfive : ¬ byte response 0 = 0x05 := hillegal
      unfold versionOf
      rw [if_neg hone, if_neg hfive]

theorem hears_readOcr :
    Hears config chipSelect (readOcr : Action ε Session (UInt8 × Ocr)) fun replies =>
      ((conditions config replies).map fun response =>
        (byte response 0, Ocr.ofResponse response)).map .ok := by
  have hcommand : Hears config chipSelect (commandWithPayload .readOcr 4 :
      Action ε Session (Bytes 5)) fun replies => (conditions config replies).map .ok := by
    refine (hears_commandWithPayload _ 4).of_eq fun replies => ?_
    rw [frame_readOcr]
    rfl
  have hpure : ∀ response : Bytes 5, Hears config chipSelect
      (pure (response[0], Ocr.ofResponse response) : Action ε Session (UInt8 × Ocr))
      fun replies => ⟨.ok (byte response 0, Ocr.ofResponse response), [], replies⟩ := by
    intro response
    rw [getElem_eq_byte]
    exact hears_pure _
  exact hcommand.judge hpure

theorem suppliesVoltage_iff (response : Bytes 5) :
    Response.isClean (byte response 0) ∧ (Ocr.ofResponse response).supports33 ↔
      SuppliesVoltage response := by
  unfold SuppliesVoltage ocrBit Ocr.supports33
  rw [Response.isClean_iff, Bool.or_eq_true, Ocr.has_ofResponse, Ocr.has_ofResponse]
  rfl

theorem poweredUp_iff (response : Bytes 5) :
    byte response 0 = 0 ∧ (Ocr.ofResponse response).has .poweredUp ↔ PoweredUp response := by
  unfold PoweredUp ocrBit
  rw [Ocr.has_ofResponse]
  rfl

/-- CMD58 tells the supply voltage. -/
theorem hears_checkVoltage :
    Hears config chipSelect (checkVoltage : Action ε Session Unit) fun replies =>
      (conditions config replies).map fun response =>
        if SuppliesVoltage response then .ok () else .error .voltageUnsupported := by
  have hrequire : ∀ responses : UInt8 × Ocr, Hears config chipSelect
      (Action.require (Response.isClean responses.1 ∧ responses.2.supports33) .voltageUnsupported :
        Action ε Session Unit) _ := fun responses => hears_require _ _
  refine (hears_readOcr.judge hrequire).of_eq fun replies => ?_
  unfold Turn.map
  dsimp only
  rw [if_congr (suppliesVoltage_iff _) rfl rfl]

/-- CMD55 and ACMD41 are retried. -/
theorem hears_leaveIdle (version : Version) (rounds : Nat) :
    Hears config chipSelect (leaveIdle version rounds : Action ε Session Unit)
      (Turn.retry (fun responses => decide (LeavesIdle responses)) .stayedIdle rounds
        (round config version)) := by
  induction rounds with
  | zero => exact (hears_throw .stayedIdle).of_eq fun _ => rfl
  | succ rounds ih =>
    have hround : Hears config chipSelect (applicationCommand
        (.sendOperatingCondition (version = .v2)) : Action ε Session UInt8) fun replies =>
          ((round config version replies).map fun responses =>
            responses.2.getD responses.1).map .ok := by
      refine (hears_applicationCommand _).of_eq fun replies => ?_
      rw [frame_sendOperatingCondition]
      rfl
    refine hears_retry (· = 0) hround (fun replies => ?_) ih
    rw [decide_eq_true_iff]
    exact leavesIdle_iff config version replies

/-- CMD58 or CMD16 settles the mode. -/
theorem hears_findMode (version : Version) :
    Hears config chipSelect (findMode version : Action ε Session ReadyMode) fun replies =>
      if version = .v2 then (conditions config replies).map modeOf
      else (blockLength config replies).map fun response =>
        if response = 0x00 then .ok .standardCapacityV1 else .error .blockLengthRejected := by
  unfold findMode
  split
  · -- the responses are judged as a pair, so that the rule for judging a value applies
    have hrequire : ∀ responses : UInt8 × Ocr, Hears config chipSelect (do
        Action.require (responses.1 = 0 ∧ responses.2.has .poweredUp) .notPoweredUp
        return if responses.2.has .highCapacity then .highCapacityV2 else .standardCapacityV2 :
          Action ε Session ReadyMode) fun replies =>
        ⟨if responses.1 = 0 ∧ responses.2.has .poweredUp then
            .ok (if responses.2.has .highCapacity then .highCapacityV2 else .standardCapacityV2)
          else .error .notPoweredUp, [], replies⟩ := by
      intro responses
      refine ((hears_require _ _).bind fun _ => hears_pure _).of_eq fun replies => ?_
      split
      · rfl
      · rfl
    refine (hears_readOcr.judge hrequire).of_eq fun replies => ?_
    unfold Turn.map modeOf
    dsimp only
    rw [Ocr.has_ofResponse _ .highCapacity, if_congr (poweredUp_iff _) rfl rfl]
    rfl
  · have hcommand : Hears config chipSelect (command (.setBlockLength (.ofNat sectorSize)) :
        Action ε Session UInt8) fun replies => (blockLength config replies).map .ok := by
      refine (hears_command _).of_eq fun replies => ?_
      rw [frame_setBlockLength]
      rfl
    refine hcommand.judge fun response => ?_
    refine ((hears_require _ _).bind fun _ => hears_pure _).of_eq fun replies => ?_
    split
    · rfl
    · rfl

/-- What is noted of an error makes no difference to the turn. -/
theorem hears_recording {α : Type} {body : Action ε Session α}
    {turn : Replies → Turn (Except Failure α)} (h : Hears config chipSelect body turn) :
    Hears config chipSelect (recording body) turn := by
  refine Action.satisfies_noting h record_noted (fun _ _ _ _ hbody => hbody) ?_
  intro s t error s' u result s'' hbody hnoted hs replies rest hheard
  obtain ⟨hcalls, rfl, rfl⟩ := hnoted
  obtain ⟨middle, ht, hu⟩ := heard_append.mp hheard
  obtain ⟨hs', value, hvalue, hturn⟩ := hbody hs replies middle ht
  -- a note is nothing but a log record
  obtain ⟨hsilent, rfl⟩ := heard_of_busCalls_nil hcalls hu
  refine ⟨?_, value, hvalue, hturn.value, ?_, hturn.rest⟩
  · cases error <;> exact hs'
  · rw [signals_append, hsilent, List.append_nil, hturn.signals]

/-- The handshake makes of replies what the protocol says. -/
theorem hears_handshake :
    Hears config chipSelect (handshake : Action ε Session ReadyMode)
      (negotiate config chipSelect) := by
  refine hears_get_bind fun session hconfig hchipSelect => ?_
  rw [hconfig]
  -- what follows the mode is not noticed by the bus
  have hready : ∀ mode, Hears config chipSelect (do
      modify fun session => { session with
        state := .ready mode, lastResponse := 0, lastToken := 0, lastChecksum := 0 }
      Action.log (.becameReady session.chipSelect mode)
      return mode : Action ε Session ReadyMode) fun replies => ⟨.ok mode, [], replies⟩ :=
    fun mode => hears_silent_bind (hears_modify (fun _ => rfl) fun _ => rfl) fun _ =>
      hears_silent_bind (hears_log _) fun _ => hears_pure mode
  have hsettle : ∀ version, Hears config chipSelect (do
      let mode ← findMode version
      modify fun session => { session with
        state := .ready mode, lastResponse := 0, lastToken := 0, lastChecksum := 0 }
      Action.log (.becameReady session.chipSelect mode)
      return mode : Action ε Session ReadyMode) (settle config version) :=
    fun version => ((hears_findMode version).bind hready).of_eq fun _ => Turn.andThen_pure _
  refine Hears.of_eq (hears_control_bind _ fun _ => hears_control_bind _ fun _ =>
    hears_silent_bind (hears_modify (fun _ => rfl) fun _ => rfl) fun _ =>
    (hears_goIdle _).bind fun _ => hears_findVersion.bind fun version =>
    hears_silent_bind (hears_modify (fun _ => rfl) fun _ => rfl) fun _ =>
    hears_silent_bind (hears_log _) fun _ => hears_control_bind _ fun _ =>
    hears_checkVoltage.bind fun _ => (hears_leaveIdle version _).bind fun _ => hsettle version)
    fun replies => ?_
  rw [Turn.preceded_preceded]
  rfl

theorem hears_start :
    Hears config chipSelect (start : Action ε Session ReadyMode) (negotiate config chipSelect) :=
  hears_silent_bind (hears_modify (fun _ => rfl) fun _ => rfl) fun _ =>
    hears_recording hears_handshake

/-- Failures are told apart by the errors that they become. -/
theorem mapError_card_inj {α : Type} {verdict other : Except Failure α} :
    (verdict.mapError .card : Except (Error ε) α) = other.mapError .card ↔ verdict = other := by
  cases verdict <;> cases other <;> simp [Except.mapError]

/-- A run of the handshake in which no call fails is a course of its replies, and there is no other.
It brings the card up if and only if the protocol accepts the replies. -/
theorem start_course {s s' : Session} {t : List (Event ε)} {result : Except (Error ε) ReadyMode}
    {replies rest : Replies} (h : Program.Traces ((start : Action ε Session ReadyMode).exec s) t
      (result, s')) (hheard : Heard t replies rest) :
    ((∃ mode, result = .ok mode) ↔ Accepts s.config s.chipSelect replies) ∧
      ∀ sent verdict, Course s.config s.chipSelect replies sent verdict ↔
        signals t = sent ∧ result = verdict.mapError .card := by
  obtain ⟨-, value, rfl, hturn⟩ := hears_start s t result s' h ⟨rfl, rfl⟩ replies rest hheard
  have hcourse : ∀ sent verdict, Course s.config s.chipSelect replies sent verdict ↔
      signals t = sent ∧ value = verdict := by
    intro sent verdict
    rw [hturn.signals, hturn.value]
    constructor
    · exact Course.negotiate
    · intro hsent
      -- the stream has some course, and by the other direction it is this one
      obtain ⟨sent', verdict', h'⟩ := exists_course s.config s.chipSelect replies
      rw [← hsent.1, ← hsent.2, h'.negotiate.1, h'.negotiate.2]
      exact h'
  constructor
  · rw [accepts_iff]
    constructor
    · intro hmode
      obtain ⟨mode, hmode⟩ := hmode
      have hvalue : value = .ok mode := by
        rw [← mapError_card_inj (ε := ε), hmode]
        rfl
      exact ⟨signals t, mode, (hcourse _ _).mpr ⟨rfl, hvalue⟩⟩
    · intro haccepts
      obtain ⟨sent, mode, haccepts⟩ := haccepts
      obtain ⟨-, rfl⟩ := (hcourse sent _).mp haccepts
      exact ⟨mode, rfl⟩
  · intro sent verdict
    rw [hcourse, mapError_card_inj]

/-- The model card of version 2 comes up, and the protocol accepts what it replies. -/
theorem start_course_card :
    let run := (start.exec (fresh 0 { powerUpBytes := 1 })).run (CardModel.bus ())
      (.ofKind (.v2 true))
    Accepts { powerUpBytes := 1 } 0 fun k => (received run.events.toList).getD k idleByte := by
  have haccepts : ∀ (s : Session) (card : CardModel) (mode : ReadyMode),
      let run := (start.exec s).run (CardModel.bus ()) card
      (∀ event ∈ run.events.toList, event.isFault = false) → run.value.1.toOption = some mode →
      Accepts s.config s.chipSelect fun k => (received run.events.toList).getD k idleByte := by
    intro s card mode run hfault hmode
    have htraces : Program.Traces (start.exec s) run.events.toList (run.value.1, run.value.2) :=
      Program.run_traces (CardModel.bus ()) (start.exec s) card
    have hheard := heard_received hfault idleByte
    refine (start_course htraces hheard).1.mp ⟨mode, ?_⟩
    cases hresult : run.value.1 with
    | error error =>
      rw [hresult] at hmode
      cases hmode
    | ok answer =>
      rw [hresult] at hmode
      cases hmode
      rfl
  exact haccepts (fresh 0 { powerUpBytes := 1 }) (.ofKind (.v2 true)) .highCapacityV2
    (by decide +kernel) (by decide +kernel)

end Session

end SdCard
