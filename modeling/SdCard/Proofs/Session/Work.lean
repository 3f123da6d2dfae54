import SdCard.Proofs.Session.History
import SdCard.Proofs.Session.Speech

/-!
# How much an operation does

An operation ends on every bus, whatever a card answers and wherever the bus fails, and it sends no
more bytes than its budgets allow: each poll has its bound, and each loop of the handshake its
number of rounds. What it says meanwhile belongs to no write, unless it is a write.

* `speaks_start`, `speaks_status` and so on: one theorem for each operation;
* `genuine_work`: the bound for all of them.
-/

namespace SdCard

namespace Session

variable {ε σ α β : Type} {view : σ → Session} {config : Config}

/-! ## Noting an error -/

theorem speaks_noting {note : Error ε → Action ε σ Unit} {body : Action ε σ α} {count : Nat}
    {allowed : Bool → List Message → Prop} (hbody : Speaks view config count allowed body)
    (hnote : ∀ error, Speaks view config 0 Nothing (note error)) :
    Speaks view config count allowed (Action.noting note body) := by
  refine Action.satisfies_noting hbody hnote (fun _ _ _ _ h => h) ?_
  intro s t error s' u result s'' h₁ h₂ hconfig
  obtain ⟨hmiddle, ht, said, hsays, hsaid⟩ := h₁ hconfig
  obtain ⟨hafter, hu, others, hothers, hnothing⟩ := h₂ hmiddle
  rw [show others = [] from hnothing] at hothers
  refine ⟨hafter, ?_, said ++ [], hsays.append hothers, ?_⟩
  · rw [sent_append, List.length_append]
    omega
  · rw [List.append_nil]
    exact hsaid

theorem speaks_record (error : Error ε) :
    Speaks id config 0 Nothing (record error : Action ε Session Unit) := by
  refine speaks_get_bind fun session hconfig => ?_
  cases error with
  | card failure =>
    refine speaks_silent_bind (fun s t result s' ht _ => ?_) (fun _ => speaks_log _) rfl
    cases ht
    exact ⟨hconfig, Nat.le_refl 0, [], .nil, rfl⟩
  | transport fault =>
    refine speaks_silent_bind (speaks_log _) (fun _ => fun s t result s' ht _ => ?_) rfl
    cases ht
    exact ⟨hconfig, Nat.le_refl 0, [], .nil, rfl⟩
  | notReady => exact speaks_pure ()
  | outOfRange => exact speaks_pure ()

theorem speaks_recording {body : Action ε Session α} {count : Nat}
    {allowed : Bool → List Message → Prop} (h : Speaks id config count allowed body) :
    Speaks id config count allowed (recording body) := speaks_noting h speaks_record

theorem speaks_noWrite {count : Nat} {action : Action ε σ α}
    (h : Speaks view config count Nothing action) : Speaks view config count NoWrite action := by
  refine speaks_mono h (Nat.le_refl count) fun _ said hsaid message hmessage => ?_
  rw [show said = [] from hsaid] at hmessage
  cases hmessage

theorem noWrite_nil (ended : Bool) : NoWrite ended [] := fun _ h => nomatch h

theorem speaks_requireReady :
    Speaks id config 0 Nothing (requireReady : Action ε Session ReadyMode) := by
  refine speaks_get_bind fun session _ => ?_
  split
  · exact speaks_pure _
  · exact speaks_throw _

/-! ## The handshake -/

/-- Every attempt wakes the card up and sends CMD0. -/
theorem speaks_goIdle (attempts : Nat) :
    Speaks id config (attempts * (config.powerUpBytes + atLeastOnce config.responsePolls + 7))
      NoWrite (goIdle attempts : Action ε Session Unit) := by
  induction attempts with
  | zero =>
    rw [Nat.zero_mul]
    exact speaks_noWrite (speaks_throw _)
  | succ attempts ih =>
    have hround : Speaks id config (config.powerUpBytes + (atLeastOnce config.responsePolls + 7 +
        attempts * (config.powerUpBytes + atLeastOnce config.responsePolls + 7)))
        NoWrite (goIdle (attempts + 1) : Action ε Session Unit) := by
      refine speaks_noWrite_bind (speaks_noWrite speaks_powerUp) fun _ => ?_
      refine speaks_noWrite_bind (speaks_command (by decide)) fun response => ?_
      split
      · exact speaks_mono (speaks_noWrite (speaks_pure ())) (Nat.zero_le _) fun _ _ h => h
      · exact ih
    refine speaks_mono hround ?_ fun _ _ h => h
    rw [Nat.succ_mul]
    omega

theorem speaks_findVersion :
    Speaks id config (atLeastOnce config.responsePolls + 11) NoWrite
      (findVersion : Action ε Session Version) := by
  refine speaks_bind_silent (speaks_commandWithPayload (by decide) 4) fun response => ?_
  split
  · exact speaks_silent_bind speaks_require
      (fun _ => speaks_silent_bind speaks_require (fun _ => speaks_pure _) rfl) rfl
  · split
    · exact speaks_pure _
    · exact speaks_throw _

theorem speaks_readOcr :
    Speaks id config (atLeastOnce config.responsePolls + 11) NoWrite
      (readOcr : Action ε Session (UInt8 × Ocr)) :=
  speaks_bind_silent (speaks_commandWithPayload (by decide) 4) fun _ => speaks_pure _

theorem speaks_checkVoltage :
    Speaks id config (atLeastOnce config.responsePolls + 11) NoWrite
      (checkVoltage : Action ε Session Unit) :=
  speaks_bind_silent speaks_readOcr fun _ => speaks_require

/-- Every round sends CMD55 and ACMD41. -/
theorem speaks_leaveIdle (version : Version) (rounds : Nat) :
    Speaks id config (rounds * (2 * atLeastOnce config.responsePolls + 13)) NoWrite
      (leaveIdle version rounds : Action ε Session Unit) := by
  induction rounds with
  | zero =>
    rw [Nat.zero_mul]
    exact speaks_noWrite (speaks_throw _)
  | succ rounds ih =>
    have hround : Speaks id config (2 * atLeastOnce config.responsePolls + 13 +
        rounds * (2 * atLeastOnce config.responsePolls + 13)) NoWrite
        (leaveIdle version (rounds + 1) : Action ε Session Unit) := by
      have hindex : (Command.sendOperatingCondition (version = .v2)).index &&& 0x3F ≠ writeIndex :=
        show (41 : UInt8) &&& 0x3F ≠ writeIndex by decide
      refine speaks_noWrite_bind (speaks_applicationCommand hindex) fun response => ?_
      split
      · exact speaks_mono (speaks_noWrite (speaks_pure ())) (Nat.zero_le _) fun _ _ h => h
      · exact ih
    refine speaks_mono hround ?_ fun _ _ h => h
    rw [Nat.succ_mul rounds]
    omega

theorem speaks_findMode (version : Version) :
    Speaks id config (atLeastOnce config.responsePolls + 11) NoWrite
      (findMode version : Action ε Session ReadyMode) := by
  unfold findMode
  split
  · refine speaks_bind_silent speaks_readOcr fun responses => ?_
    obtain ⟨response, ocr⟩ := responses
    exact speaks_silent_bind speaks_require (fun _ => speaks_pure _) rfl
  · have hcommand : Speaks id config (atLeastOnce config.responsePolls + 7) NoWrite
        (command (.setBlockLength (.ofNat sectorSize)) : Action ε Session UInt8) :=
      speaks_command (by decide)
    refine speaks_bind_silent (speaks_mono hcommand (by omega) fun _ _ h => h) fun response => ?_
    exact speaks_silent_bind speaks_require (fun _ => speaks_pure _) rfl

/-- The most bytes that a handshake sends. -/
def handshakeWork (config : Config) : Nat :=
  let polls := atLeastOnce config.responsePolls
  atLeastOnce config.resetAttempts * (config.powerUpBytes + polls + 7) + 3 * (polls + 11) +
    config.readyRounds.toNat * (2 * polls + 13)

theorem speaks_handshake :
    Speaks id config (handshakeWork config) NoWrite (handshake : Action ε Session ReadyMode) := by
  have hnil : NoWrite false [] := noWrite_nil false
  have hcontrol : ∀ {call : Control}, (∀ active, call ≠ .forceSelect active) →
      Speaks id config 0 Nothing
        (Action.exchange (Exchange.control call) : Action ε Session Unit) := speaks_control
  refine speaks_get_bind fun session hconfig => ?_
  rw [show session.config = config from hconfig]
  refine speaks_silent_bind (hcontrol (by simp)) (fun _ => ?_) hnil
  refine speaks_silent_bind (hcontrol (by simp)) (fun _ => ?_) hnil
  refine speaks_silent_bind (speaks_modify fun _ => rfl) (fun _ => ?_) hnil
  have hsum : handshakeWork config =
      atLeastOnce config.resetAttempts *
        (config.powerUpBytes + atLeastOnce config.responsePolls + 7) +
      (atLeastOnce config.responsePolls + 11 + (atLeastOnce config.responsePolls + 11 +
        (config.readyRounds.toNat * (2 * atLeastOnce config.responsePolls + 13) +
          (atLeastOnce config.responsePolls + 11)))) := by
    unfold handshakeWork
    dsimp only
    omega
  rw [hsum]
  refine speaks_noWrite_bind (speaks_goIdle _) fun _ => ?_
  refine speaks_noWrite_bind speaks_findVersion fun version => ?_
  refine speaks_silent_bind (speaks_modify fun _ => rfl) (fun _ => ?_) hnil
  refine speaks_silent_bind (speaks_log _) (fun _ => ?_) hnil
  refine speaks_silent_bind (hcontrol (by simp)) (fun _ => ?_) hnil
  refine speaks_noWrite_bind speaks_checkVoltage fun _ => ?_
  refine speaks_noWrite_bind (speaks_leaveIdle version _) fun _ => ?_
  refine speaks_bind_silent (speaks_findMode version) fun mode => ?_
  refine speaks_silent_bind (speaks_modify fun _ => rfl) (fun _ => ?_) rfl
  exact speaks_silent_bind (speaks_log _) (fun _ => speaks_pure mode) rfl

theorem speaks_start :
    Speaks id config (handshakeWork config) NoWrite (start : Action ε Session ReadyMode) :=
  speaks_silent_bind (speaks_modify fun _ => rfl) (fun _ => speaks_recording speaks_handshake)
    (noWrite_nil false)

/-! ## Operations on a ready card -/

theorem speaks_status :
    Speaks id config (atLeastOnce config.responsePolls + 8) NoWrite
      (status : Action ε Session UInt16) := by
  refine speaks_silent_bind speaks_requireReady (fun _ => speaks_recording ?_) (noWrite_nil false)
  refine speaks_bind_silent (speaks_commandWithPayload (by decide) 1) fun response => ?_
  exact speaks_silent_bind speaks_require (fun _ => speaks_pure _) rfl

theorem speaks_setCardDetectPullup (connect : Bool) :
    Speaks id config (2 * atLeastOnce config.responsePolls + 13) NoWrite
      (setCardDetectPullup connect : Action ε Session Unit) := by
  refine speaks_silent_bind speaks_requireReady (fun _ => speaks_recording ?_) (noWrite_nil false)
  have hindex : (Command.setCardDetect connect).index &&& 0x3F ≠ writeIndex :=
    show (42 : UInt8) &&& 0x3F ≠ writeIndex by decide
  exact speaks_bind_silent (speaks_applicationCommand hindex) fun response => speaks_require

/-- What a speech without blocks says belongs to no write. -/
theorem noWrite_of_saying {speech : Speech} {ended : Bool} {said : List Message}
    (hwrites : ∀ message ∈ speech.messages, message.writes = false) (h : Saying speech ended said) :
    NoWrite ended said := fun message hmessage => hwrites message (h.1.subset hmessage)

theorem speaks_readCsd :
    Speaks id config (atLeastOnce config.responsePolls + config.tokenPolls.toNat + 25) NoWrite
      (readCsd : Action ε Session Csd) := by
  have hselected : Speaks id config ((csdSpeech config).cost + 1) (Saying (csdSpeech config))
      (Action.whileSelected readCsdSelected : Action ε Session (Csd × UInt16)) :=
    speaks_whileSelected rfl steady_readCsdSelected follows_readCsdSelected
  refine speaks_silent_bind speaks_requireReady (fun _ => speaks_recording ?_) (noWrite_nil false)
  have hwrites : ∀ message ∈ (csdSpeech config).messages, message.writes = false := by
    rw [csdSpeech_messages]
    decide
  rw [csdSpeech_cost] at hselected
  refine speaks_bind_silent (speaks_mono hselected (Nat.le_refl _) fun _ _ =>
    noWrite_of_saying hwrites) fun (csd, checksum) => ?_
  exact speaks_silent_bind (speaks_modify fun _ => rfl) (fun _ => speaks_pure csd) rfl

theorem speaks_sectorCount :
    Speaks id config (atLeastOnce config.responsePolls + config.tokenPolls.toNat + 25) NoWrite
      (sectorCount : Action ε Session UInt32) := by
  refine speaks_bind_silent speaks_readCsd fun csd => ?_
  split
  · exact speaks_pure _
  · exact speaks_recording (speaks_throw _)

theorem speaks_inSession {n : Nat} {action : Action ε Session α} {count : Nat}
    {allowed : Bool → List Message → Prop} (h : Speaks id config count allowed action) :
    Speaks Reading.session config count allowed
      (Reading.inSession action : Action ε (Reading n) α) :=
  Action.satisfies_onPart h fun _ _ _ _ ht => ht

theorem speaks_readWindow {n : Nat} (lba : UInt32) :
    Speaks Reading.session config
      (atLeastOnce config.responsePolls + config.tokenPolls.toNat + 521) NoWrite
      (Reading.readWindow lba : Action ε (Reading n) Unit) := by
  have hselected : ∀ address, Speaks Reading.session config ((readSpeech config address).cost + 1)
      (Saying (readSpeech config address))
      (Action.whileSelected (Reading.readSelected address) : Action ε (Reading n) UInt16) :=
    fun address => speaks_whileSelected rfl (steady_readSelected address)
      (follows_readSelected address)
  have hwrites : ∀ address, ∀ message ∈ (readSpeech config address).messages,
      message.writes = false := by
    intro address message hmessage
    rw [readSpeech_messages, List.mem_singleton] at hmessage
    rw [hmessage]
    rfl
  simp only [readSpeech_cost] at hselected
  refine speaks_silent_bind (speaks_inSession speaks_requireReady) (fun mode => ?_)
    (noWrite_nil false)
  refine speaks_get_bind fun reading _ => ?_
  dsimp only
  split
  · refine speaks_noting ?_ fun error => speaks_inSession (speaks_record error)
    refine speaks_bind_silent (speaks_mono (hselected _) (Nat.le_refl _) fun _ _ =>
      noWrite_of_saying (hwrites _)) fun checksum => ?_
    exact speaks_silent_bind (speaks_inSession (speaks_modify fun _ => rfl))
      (fun _ => speaks_require) rfl
  · exact speaks_mono (speaks_noWrite (speaks_throw _)) (Nat.zero_le _) fun _ _ h => h

theorem speaks_readRange {n : Nat} (lba : UInt32) (offset : Nat) (buffer : Bytes n) :
    Speaks id config (atLeastOnce config.responsePolls + config.tokenPolls.toNat + 521) NoWrite
      (readRange lba offset buffer : Action ε Session (Bytes n)) := by
  intro s t result s' ht hconfig
  rw [readRange, Action.exec_ofProgram, Program.traces_bind_iff] at ht
  obtain ⟨t₁, t₂, ⟨result, reading⟩, rfl, h₁, h₂⟩ := ht
  cases h₂
  rw [List.append_nil]
  exact speaks_readWindow lba _ _ _ _ h₁ hconfig

/-- What a write of data to a sector says to a card with this capacity. -/
def writeMessages (capacity : Capacity) (lba : UInt32) (data : List UInt8) : List Message :=
  [.command writeIndex (blockAddress capacity lba), .block (Bytes.ofList sectorSize data).toList]

/-- A write says nothing unless the card is ready, and then it sends the sector to its address. -/
theorem writeBlock_speaks (lba : UInt32) (data : List UInt8) :
    (writeBlock lba data : Action ε Session Unit).Satisfies fun s t result _ =>
      (sent t).length ≤ atLeastOnce s.config.responsePolls + s.config.busyPolls.toNat + 524 ∧
      ∃ said, Says t said ∧ (said ≠ [] ∨ result.isOk = true → ∃ mode, s.state = .ready mode ∧
        said <+: writeMessages mode.capacity lba data ∧
        (result.isOk = true → said = writeMessages mode.capacity lba data)) := by
  intro s t result s' ht
  rw [writeBlock, Action.exec_bind, exec_requireReady] at ht
  cases hmode : s.state.readyMode with
  | none =>
    rw [hmode] at ht
    cases ht
    exact ⟨Nat.zero_le _, [], .nil, fun h => (h.elim (absurd rfl) fun h => nomatch h)⟩
  | some mode =>
    rw [hmode] at ht
    have hstate : s.state = .ready mode := State.readyMode_eq_some_iff.mp hmode
    have hselected : Speaks id s.config
        ((writeSpeech s.config (blockAddress mode.capacity lba)
          (.ofList sectorSize data)).cost + 1)
        (Saying (writeSpeech s.config (blockAddress mode.capacity lba) (.ofList sectorSize data)))
        (recording (Action.whileSelected (writeSelected (blockAddress mode.capacity lba)
          (.ofList sectorSize data))) : Action ε Session Unit) :=
      speaks_recording (speaks_whileSelected (writeSpeech_proper _ _ _) (steady_writeSelected _ _)
        (follows_writeSelected _ _))
    rw [writeSpeech_cost] at hselected
    dsimp only at ht
    split at ht
    · obtain ⟨-, hlength, said, hsays, hbegins, hall⟩ := hselected s t result s' ht rfl
      rw [writeSpeech_messages] at hbegins hall
      exact ⟨hlength, said, hsays, fun _ => ⟨mode, hstate, hbegins, hall⟩⟩
    · cases ht
      exact ⟨Nat.zero_le _, [], .nil, fun h => (h.elim (absurd rfl) fun h => nomatch h)⟩

/-! ## All operations -/

/-- The most bytes that an operation sends. -/
def Request.work (config : Config) : Request → Nat
  | .start => handshakeWork config
  | .readRange .. | .readBlock .. =>
    atLeastOnce config.responsePolls + config.tokenPolls.toNat + 521
  | .writeBlock .. => atLeastOnce config.responsePolls + config.busyPolls.toNat + 524
  | .status => atLeastOnce config.responsePolls + 8
  | .readCsd | .sectorCount => atLeastOnce config.responsePolls + config.tokenPolls.toNat + 25
  | .setCardDetectPullup _ => 2 * atLeastOnce config.responsePolls + 13

theorem perform_work (request : Request) :
    (perform request : Action ε Session Answer).Satisfies fun s t _ _ =>
      (sent t).length ≤ request.work s.config := by
  intro s t result s' ht
  have hcount : ∀ {count : Nat},
      Speaks id s.config count NoWrite (perform request : Action ε Session Answer) →
      (sent t).length ≤ count := fun h => (h s t result s' ht rfl).2.1
  cases request with
  | start => exact hcount (speaks_bind_silent speaks_start fun _ => speaks_pure _)
  | readRange lba offset buffer =>
    exact hcount (speaks_bind_silent (speaks_readRange lba offset _) fun _ => speaks_pure _)
  | readBlock lba =>
    exact hcount (speaks_bind_silent (speaks_readRange lba 0 _) fun _ => speaks_pure _)
  | writeBlock lba data =>
    have hdone : ∀ _ : Unit, (pure Answer.done : Action ε Session Answer).Satisfies
        fun _ t _ _ => sent t = [] := fun _ => Action.satisfies_pure fun _ => rfl
    have hwrite : (writeBlock lba data : Action ε Session Unit).Satisfies fun s t _ _ =>
        (sent t).length ≤ (Request.writeBlock lba data).work s.config :=
      (writeBlock_speaks lba data).mono fun _ _ _ _ h => h.1
    have hall : (perform (.writeBlock lba data) : Action ε Session Answer).Satisfies
        fun s t _ _ => (sent t).length ≤ (Request.writeBlock lba data).work s.config :=
      hwrite.bind hdone (fun _ _ _ _ h => h) fun _ t _ _ u _ _ h hu => by
        rwa [sent_append, hu, List.append_nil]
    exact hall s t result s' ht
  | status => exact hcount (speaks_bind_silent speaks_status fun _ => speaks_pure _)
  | readCsd => exact hcount (speaks_bind_silent speaks_readCsd fun _ => speaks_pure _)
  | sectorCount => exact hcount (speaks_bind_silent speaks_sectorCount fun _ => speaks_pure _)
  | setCardDetectPullup connect =>
    exact hcount (speaks_bind_silent (speaks_setCardDetectPullup connect) fun _ => speaks_pure _)

/-- On any session and any bus, an operation sends no more bytes than its bound. -/
theorem genuine_work {call : Call ε} (h : call.Genuine) :
    (sent call.events).length ≤ call.request.work call.before.config :=
  perform_work call.request _ _ _ _ h

end Session

end SdCard
