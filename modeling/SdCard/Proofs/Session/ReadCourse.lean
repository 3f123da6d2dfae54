import SdCard.Proofs.Session.Exhaustion
import SdCard.Proofs.Session.Making
import SdCard.Proofs.Session.Protocol
import SdCard.Proofs.Session.Storage
import SdCard.Simulation.ScriptedBus

/-!
# What a read makes of its replies

A card answers CMD17 with R1, then with a start token, and then with the 512 bytes of the sector and
their check sum. `ReadCourse` tells this of the bytes shifted in after the frame, by their positions
and without the program: which of them is R1, which is the token, and which are handed on to the
reader.

* `ReadCourse.makes`: a read on a course sends, returns and remembers what the course says;
* `exists_readCourse`: every stream of replies has a course;
* `readRange_course`: the courses are the runs.
-/

namespace SdCard

variable {ε : Type} {n : Nat}

namespace Session

open SdCard.Action (makes_command makes_exchange makes_get_bind makes_modify makes_poll makes_pure
  makes_record makes_requireReady makes_require_error makes_require_ok)

/-- What is sent in a read of sector `lba`: CMD17 with a check sum of zero to the selected card,
then `count` idle bytes, and one more when the card is let go of. -/
def readSignals (capacity : Capacity) (lba : UInt32) (count : Nat) : List Signal :=
  .control (.forceSelect true) ::
    ((Command.frame ⟨17, blockAddress capacity lba, 0⟩).toList.map .shift ++
      List.replicate count (.shift 0xFF) ++ [.control (.forceSelect false), .shift 0xFF])

theorem readSignals_inj {capacity : Capacity} {lba : UInt32} {count other : Nat}
    (h : readSignals capacity lba count = readSignals capacity lba other) : count = other := by
  have hlength := congrArg List.length h
  simpa [readSignals] using hlength

/-- How a read of `n` bytes from `offset` on goes with the bytes that follow the frame: how many of
them are shifted in while the card is selected, how the read ends, and the session that it leaves.
The polls are for R1 and for the start token. -/
inductive ReadCourse (s : Session) (replies : Replies) (offset n : Nat) :
    Nat → Except Failure (Bytes n) → Session → Prop
  | unanswered {response heard} :
      replies.Polled (atLeastOnce s.config.responsePolls) response heard → response ≠ 0x00 →
      ReadCourse s replies offset n heard (.error .readUnanswered)
        { s with lastResponse := response, state := .failed .readUnanswered }
  | notStarted {heard token found} :
      replies.Polled (atLeastOnce s.config.responsePolls) 0x00 heard →
      (replies.after heard).Polled s.config.tokenPolls.toNat token found → token ≠ 0xFE →
      ReadCourse s replies offset n (heard + found) (.error .readNotStarted)
        { s with lastResponse := 0x00, lastToken := token, state := .failed .readNotStarted }
  | whole {heard found bytes} :
      replies.Polled (atLeastOnce s.config.responsePolls) 0x00 heard →
      (replies.after heard).Polled s.config.tokenPolls.toNat 0xFE found →
      (∀ (k : Nat) (h : k < n), bytes[k] = replies (heard + found + offset + k)) →
      ReadCourse s replies offset n (heard + found + 514) (.ok bytes)
        { s with
          lastResponse := 0x00
          lastToken := 0xFE
          lastChecksum := .ofNat (bigEndian
            [replies (heard + found + 512), replies (heard + found + 513)]) }

/-- Every stream of replies has a course. -/
theorem exists_readCourse (s : Session) (replies : Replies) (offset n : Nat) :
    ∃ count verdict left, ReadCourse s replies offset n count verdict left := by
  obtain ⟨response, heard, hresponse⟩ :=
    replies.exists_polled (atLeastOnce s.config.responsePolls)
  by_cases hanswered : response = 0x00
  · subst hanswered
    obtain ⟨token, found, htoken⟩ :=
      (replies.after heard).exists_polled s.config.tokenPolls.toNat
    by_cases hstarted : token = 0xFE
    · subst hstarted
      let bytes : Bytes n := Vector.ofFn fun k => replies (heard + found + offset + k)
      have hbytes : ∀ (k : Nat) (h : k < n), bytes[k] = replies (heard + found + offset + k) := by
        simp [bytes]
      exact ⟨_, _, _, .whole hresponse htoken hbytes⟩
    · exact ⟨_, _, _, .notStarted hresponse htoken hstarted⟩
  · exact ⟨_, _, _, .unanswered hresponse hanswered⟩

/-! ## While the card is selected -/

section Selected

variable {replies : Replies} {response token : UInt8} {heard found : Nat}

/-- The bytes that are shifted in pass by the window. -/
theorem makes_receiveInto (index count : Nat) (reading : Reading n) (replies : Replies) :
    (Reading.receiveInto index count : Action ε (Reading n) Unit).Makes reading replies
      ⟨(.ok (), { reading with window := reading.window.storeAll index (replies.take count) }),
        List.replicate count (.shift 0xFF), replies.after count⟩ := by
  induction count generalizing index reading replies with
  | zero =>
    rw [Replies.after_zero]
    exact makes_pure () reading replies
  | succ count ih =>
    have hbyte : (Action.exchange Exchange.receiveByte : Action ε (Reading n) UInt8).Makes reading
        replies ⟨(.ok (replies 0), reading), [.shift 0xFF], replies.after 1⟩ :=
      makes_exchange (Exchange.hears_transfer idleByte) reading replies
    rw [Replies.take_succ, Nat.add_comm count, ← Replies.after_after, Nat.add_comm 1]
    unfold Reading.receiveInto
    apply Action.Makes.of_eq
    · apply hbyte.bind_ok
      apply (makes_modify _ _ _).bind_silent
      exact ih (index + 1) _ _
    · rfl

/-- What is remembered of a response, a token or a check sum. -/
theorem makes_inSession_modify (f : Session → Session) (reading : Reading n) (replies : Replies) :
    (Reading.inSession (modify f) : Action ε (Reading n) Unit).Makes reading replies
      ⟨(.ok (), { reading with session := f reading.session }), [], replies⟩ :=
  (makes_modify _ _ _).onPart

/-- The frame of CMD17, and the idle bytes that have been shifted while the card is selected. -/
def readTalk (address : UInt32) (count : Nat) : List Signal :=
  (Command.frame ⟨17, address, 0⟩).toList.map .shift ++ List.replicate count (.shift 0xFF)

theorem readTalk_append (address : UInt32) (count more : Nat) :
    readTalk address count ++ List.replicate more (.shift 0xFF) =
      readTalk address (count + more) := by
  unfold readTalk
  rw [List.append_assoc, List.replicate_append_replicate]

theorem makes_readSelected_unanswered (reading : Reading n) (address : UInt32)
    (hresponse : (replies.after 6).Polled (atLeastOnce reading.session.config.responsePolls)
      response heard) (hanswered : response ≠ 0x00) :
    (Reading.readSelected address : Action ε (Reading n) UInt16).Makes reading replies
      ⟨(.error .readUnanswered, { reading with session.lastResponse := response }),
        readTalk address heard, (replies.after 6).after heard⟩ := by
  unfold Reading.readSelected
  apply makes_get_bind
  apply Action.Makes.of_eq
  · apply (makes_command (.readBlock address) hresponse _).bind_ok
    apply (makes_inSession_modify _ _ _).bind_silent
    exact (makes_require_error hanswered _ _).bind_error
  · simp [Turn.preceded, readTalk, Command.readBlock]

theorem makes_readSelected_notStarted (reading : Reading n) (address : UInt32)
    (hresponse : (replies.after 6).Polled (atLeastOnce reading.session.config.responsePolls)
      0x00 heard)
    (htoken : ((replies.after 6).after heard).Polled
      (atLeastOnce reading.session.config.tokenPolls) token found) (hstarted : token ≠ 0xFE) :
    (Reading.readSelected address : Action ε (Reading n) UInt16).Makes reading replies
      ⟨(.error .readNotStarted,
          { reading with session.lastResponse := 0x00, session.lastToken := token }),
        readTalk address (heard + found), (replies.after 6).after (heard + found)⟩ := by
  unfold Reading.readSelected
  apply makes_get_bind
  apply Action.Makes.of_eq
  · apply (makes_command (.readBlock address) hresponse _).bind_ok
    apply (makes_inSession_modify _ _ _).bind_silent
    apply (makes_require_ok rfl _ _).bind_silent
    apply (makes_poll htoken _).bind_ok
    apply (makes_inSession_modify _ _ _).bind_silent
    exact (makes_require_error hstarted _ _).bind_error
  · rw [← readTalk_append, ← Replies.after_after]
    simp [Turn.preceded, readTalk, Command.readBlock]

/-- When a block has come, its bytes have passed by the window, and the check sum is what follows
them. -/
theorem makes_readSelected_whole (reading : Reading n) (address : UInt32)
    (hresponse : (replies.after 6).Polled (atLeastOnce reading.session.config.responsePolls)
      0x00 heard)
    (htoken : ((replies.after 6).after heard).Polled
      (atLeastOnce reading.session.config.tokenPolls) 0xFE found) :
    let block := (replies.after 6).after (heard + found)
    (Reading.readSelected address : Action ε (Reading n) UInt16).Makes reading replies
      ⟨(.ok ((block.after sectorSize).bytes 2).half,
          { session := { reading.session with lastResponse := 0x00, lastToken := 0xFE }
            window := reading.window.storeAll 0 (block.take sectorSize) }),
        readTalk address (heard + found + sectorSize + 2), block.after (sectorSize + 2)⟩ := by
  unfold Reading.readSelected
  apply makes_get_bind
  apply Action.Makes.of_eq
  · apply (makes_command (.readBlock address) hresponse _).bind_ok
    apply (makes_inSession_modify _ _ _).bind_silent
    apply (makes_require_ok rfl _ _).bind_silent
    apply (makes_poll htoken _).bind_ok
    apply (makes_inSession_modify _ _ _).bind_silent
    apply (makes_require_ok rfl _ _).bind_silent
    apply (makes_receiveInto 0 sectorSize _ _).bind_ok
    apply (makes_exchange (Exchange.hears_receive 2) _ _).bind_ok
    exact makes_pure _ _ _
  · -- the sector and its check sum follow the token without a gap
    rw [← readTalk_append, ← readTalk_append, ← readTalk_append]
    simp only [Turn.preceded, readTalk, Command.readBlock, List.append_assoc, Replies.after_after,
      Nat.add_assoc, List.append_nil]
    rfl

end Selected

/-! ## The whole read -/

section Whole

variable {s : Session} {mode : ReadyMode} {lba : UInt32} {offset : Nat} {buffer : Bytes n}
  {replies rest : Replies} {sent : List Signal} {reading : Reading n}

/-- The session keeps the check sum, and takes it as it comes. -/
theorem makes_readAddress_ok {address : UInt32} {reading' : Reading n} {checksum : UInt16}
    (h : (Reading.readSelected address : Action ε (Reading n) UInt16).Makes reading replies
      ⟨(.ok checksum, reading'), sent, rest⟩) :
    (Reading.readAddress address : Action ε (Reading n) Unit).Makes reading replies
      (Turn.held ⟨(.ok (), { reading' with session.lastChecksum := checksum }), sent, rest⟩) := by
  unfold Reading.readAddress
  apply Action.Makes.of_eq
  · apply h.whileSelected.bind_ok
    apply (makes_inSession_modify _ _ _).bind_silent
    exact makes_require_ok rfl _ _
  · simp [Turn.preceded, Turn.held]

theorem makes_readAddress_error {address : UInt32} {reading' : Reading n} {failure : Failure}
    (h : (Reading.readSelected address : Action ε (Reading n) UInt16).Makes reading replies
      ⟨(.error failure, reading'), sent, rest⟩) :
    (Reading.readAddress address : Action ε (Reading n) Unit).Makes reading replies
      (Turn.held ⟨(.error failure, reading'), sent, rest⟩) := by
  unfold Reading.readAddress
  exact h.whileSelected.bind_error

theorem makes_inSession_requireReady (hready : reading.session.state = .ready mode)
    (replies : Replies) :
    (Reading.inSession requireReady : Action ε (Reading n) ReadyMode).Makes reading replies
      ⟨(.ok mode, reading), [], replies⟩ :=
  (makes_requireReady hready replies).onPart

/-- A read that keeps within the sector is a read at the wire address, and its failure is noted. -/
theorem makes_readWindow_ok {reading' : Reading n} (hready : reading.session.state = .ready mode)
    (hrange : reading.window.InSector)
    (h : (Reading.readAddress (blockAddress mode.capacity lba) : Action ε (Reading n) Unit).Makes
      reading replies ⟨(.ok (), reading'), sent, rest⟩) :
    (Reading.readWindow lba : Action ε (Reading n) Unit).Makes reading replies
      ⟨(.ok (), reading'), sent, rest⟩ := by
  unfold Reading.readWindow
  apply (makes_inSession_requireReady hready replies).bind_silent
  apply makes_get_bind
  rw [if_pos hrange]
  exact h.noting_ok

theorem makes_readWindow_error {reading' : Reading n} {failure : Failure}
    (hready : reading.session.state = .ready mode) (hrange : reading.window.InSector)
    (h : (Reading.readAddress (blockAddress mode.capacity lba) : Action ε (Reading n) Unit).Makes
      reading replies ⟨(.error failure, reading'), sent, rest⟩) :
    (Reading.readWindow lba : Action ε (Reading n) Unit).Makes reading replies
      ⟨(.error failure, { reading' with session.state := .failed failure }), sent, rest⟩ := by
  unfold Reading.readWindow
  apply (makes_inSession_requireReady hready replies).bind_silent
  apply makes_get_bind
  rw [if_pos hrange]
  exact h.noting_error (makes_record failure reading'.session rest).onPart

/-- What a read gives is what the window has kept. -/
theorem makes_readRange {verdict : Except Failure Unit} {reading' : Reading n}
    (h : (Reading.readWindow lba : Action ε (Reading n) Unit).Makes ⟨s, .full offset buffer⟩ replies
      ⟨(verdict, reading'), sent, rest⟩) :
    (readRange lba offset buffer : Action ε Session (Bytes n)).Makes s replies
      ⟨(verdict.map fun _ => reading'.window.bytes, reading'.session), sent, rest⟩ := by
  intro t result s' last ht hheard
  unfold readRange at ht
  rw [Action.exec_ofProgram, Program.traces_bind_iff] at ht
  obtain ⟨t₁, t₂, ⟨first, reading⟩, rfl, hrun, hdone⟩ := ht
  cases hdone
  rw [List.append_nil] at hheard ⊢
  obtain ⟨verdict', rfl, hvalue, hsignals, hrest⟩ := h t₁ first reading last hrun hheard
  cases hvalue
  refine ⟨_, ?_, rfl, hsignals, hrest⟩
  cases verdict with
  | ok => rfl
  | error => rfl

/-- The window of a read holds the bytes of the stream that were asked for. -/
theorem window_received (offset : Nat) (buffer : Bytes n) (block : Replies) {bytes : Bytes n}
    (hrange : offset + n ≤ sectorSize)
    (hbytes : ∀ (k : Nat) (h : k < n), bytes[k] = block (offset + k)) :
    ((Window.full offset buffer).storeAll 0 (block.take sectorSize)).bytes = bytes := by
  ext k hk
  have hsector : offset + k < sectorSize := by omega
  rw [hbytes k hk, Window.getElem_storeAll]
  simp [Window.full, Replies.take, hk, hsector]

theorem half_bytes (replies : Replies) :
    (replies.bytes 2).half = .ofNat (bigEndian [replies 0, replies 1]) := by
  unfold Bytes.half
  rw [Replies.toList_bytes]
  rfl

/-- A read on a course sends, returns and remembers what the course says. -/
theorem ReadCourse.makes (lba : UInt32) (buffer : Bytes n) {count : Nat}
    {verdict : Except Failure (Bytes n)} {left : Session}
    (hready : s.state = .ready mode) (hrange : offset + n ≤ sectorSize)
    (h : ReadCourse s (replies.after 6) offset n count verdict left) :
    ∃ rest, (readRange lba offset buffer : Action ε Session (Bytes n)).Makes s replies
      ⟨(verdict, left), readSignals mode.capacity lba count, rest⟩ := by
  have hin : (Window.full offset buffer).InSector := hrange
  have hpolls : atLeastOnce s.config.tokenPolls = s.config.tokenPolls.toNat :=
    atLeastOnce_bytesForMillis _ _
  cases h with
  | unanswered hresponse hanswered =>
    have hselected := makes_readSelected_unanswered (ε := ε) ⟨s, .full offset buffer⟩
      (blockAddress mode.capacity lba) hresponse hanswered
    have hwindow := makes_readWindow_error hready hin (makes_readAddress_error hselected)
    exact ⟨_, makes_readRange hwindow⟩
  | notStarted hresponse htoken hstarted =>
    rw [← hpolls] at htoken
    have hselected := makes_readSelected_notStarted (ε := ε) ⟨s, .full offset buffer⟩
      (blockAddress mode.capacity lba) hresponse htoken hstarted
    have hwindow := makes_readWindow_error hready hin (makes_readAddress_error hselected)
    exact ⟨_, makes_readRange hwindow⟩
  | @whole heard found bytes hresponse htoken hbytes =>
    rw [← hpolls] at htoken
    have hselected := makes_readSelected_whole (ε := ε) ⟨s, .full offset buffer⟩
      (blockAddress mode.capacity lba) hresponse htoken
    have hwindow := makes_readWindow_ok hready hin (makes_readAddress_ok hselected)
    have hread := makes_readRange hwindow
    -- what the window has kept, and the check sum, are the bytes of the stream
    have hkept : ∀ (k : Nat) (h : k < n),
        bytes[k] = ((replies.after 6).after (heard + found)) (offset + k) := fun k hk => by
      rw [hbytes k hk, Nat.add_assoc]
      rfl
    rw [window_received offset buffer _ hrange hkept, half_bytes] at hread
    exact ⟨_, hread⟩

/-- A read within a sector in which no call fails is a course of the bytes that follow the frame,
and there is no other. -/
theorem readRange_course {s' : Session} {t : List (Event ε)} {result : Except (Error ε) (Bytes n)}
    (hready : s.state = .ready mode) (hrange : offset + n ≤ 512)
    (h : Program.Traces ((readRange lba offset buffer : Action ε Session (Bytes n)).exec s) t
      (result, s')) (hheard : Heard t replies rest) :
    (∃ count verdict left, ReadCourse s (replies.after 6) offset n count verdict left) ∧
      ∀ count verdict left, ReadCourse s (replies.after 6) offset n count verdict left ↔
        signals t = readSignals mode.capacity lba count ∧
          result = verdict.mapError .card ∧ s' = left := by
  have hcourse : ∀ {count verdict left},
      ReadCourse s (replies.after 6) offset n count verdict left →
      signals t = readSignals mode.capacity lba count ∧
        result = verdict.mapError .card ∧ s' = left := by
    intro count verdict left hc
    obtain ⟨last, hmakes⟩ := hc.makes (ε := ε) lba buffer hready hrange
    obtain ⟨verdict', hverdict, hvalue, hsignals, -⟩ := hmakes t result s' rest h hheard
    cases hvalue
    exact ⟨hsignals, hverdict, rfl⟩
  obtain ⟨count₀, verdict₀, left₀, hc₀⟩ := exists_readCourse s (replies.after 6) offset n
  obtain ⟨hsignals₀, hresult₀, hleft₀⟩ := hcourse hc₀
  refine ⟨⟨count₀, verdict₀, left₀, hc₀⟩, fun count verdict left => ⟨hcourse, ?_⟩⟩
  rintro ⟨hsignals, hresult, rfl⟩
  -- the stream has some course, and by the other direction it is this one
  have hcount : count₀ = count := readSignals_inj (hsignals₀.symm.trans hsignals)
  rw [hresult₀, mapError_card_inj] at hresult
  rw [← hcount, ← hresult, hleft₀]
  exact hc₀

/-- A script that answers after one byte, with the token after one more. -/
theorem readRange_course_script :
    let s : Session := { fresh 0 {} with state := .ready .highCapacityV2 }
    let script : Script := ⟨List.replicate 7 0xFF ++ [0x00, 0xFF, 0xFE] ++
      List.replicate 510 0x11 ++ [0xAB, 0xCD, 0x12, 0x34], 0xFF, [], none, 0⟩
    let run := ((readRange 7 510 (Bytes.zero 2)).exec s).run (ScriptedBus.bus ()) ⟨script, 0⟩
    ReadCourse s (Replies.after (fun k => (received run.events.toList).getD k idleByte) 6) 510 2
      518 (.ok #v[0xAB, 0xCD]) { s with lastToken := 0xFE, lastChecksum := 0x1234 } := by
  have hcourse : ∀ (s left : Session) (script : ScriptedBus) (count : Nat) (bytes : Bytes 2),
      let run := ((readRange 7 510 (Bytes.zero 2)).exec s).run (ScriptedBus.bus ()) script
      s.state = .ready .highCapacityV2 → (∀ event ∈ run.events.toList, event.isFault = false) →
      signals run.events.toList = readSignals .high 7 count →
      run.value.1.toOption = some bytes → run.value.2 = left →
      ReadCourse s (Replies.after (fun k => (received run.events.toList).getD k idleByte) 6) 510 2
        count (.ok bytes) left := by
    intro s left script count bytes run hready hfault hsignals hbytes hleft
    have htraces : Program.Traces ((readRange 7 510 (Bytes.zero 2)).exec s) run.events.toList
        (run.value.1, run.value.2) := Program.run_traces (ScriptedBus.bus ()) _ script
    have hheard := heard_received hfault idleByte
    refine ((readRange_course hready (by decide) htraces hheard).2 _ _ _).mpr ⟨hsignals, ?_, hleft⟩
    cases hresult : run.value.1 with
    | error error =>
      rw [hresult] at hbytes
      cases hbytes
    | ok answer =>
      rw [hresult] at hbytes
      cases hbytes
      rfl
  exact hcourse _ _ _ _ _ rfl (by decide +kernel) (by decide +kernel) (by decide +kernel)
    (by decide +kernel)

end Whole

end Session

end SdCard
