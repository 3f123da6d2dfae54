import SdCard.Proofs.Bus.Possible
import SdCard.Proofs.Session.Work

/-!
# Budgets can be used up

A card that answers each command at the last poll makes an operation send all the bytes that it
may, and the operation still succeeds. So the bounds of all operations but the handshake cannot be
lowered, whatever the budgets of the session are.

* `exists_ready`: with any budgets, a card can be brought up;
* `exists_full_work`: on a ready card, every other operation can use its budgets up.
-/

namespace SdCard

namespace Session

variable {ε α : Type} {s : Session} {mode : ReadyMode}

/-! ## Commands -/

theorem can_command (cmd : Command) (reply : UInt8) (s : Session) :
    (command cmd : Action ε Session UInt8).Can s (atLeastOnce s.config.responsePolls + 7) reply
      { s with lastResponse := reply } := by
  refine Action.can_get_bind ?_
  refine Action.Can.bind (Action.can_exchange
    (Exchange.Can.whileSelected (Exchange.can_sendAndPoll cmd _ reply)) s)
    (Action.can_modify_bind (Action.can_pure _ _)) ?_
  omega

theorem can_commandWithPayload (cmd : Command) {n : Nat} (first : UInt8) (rest : Bytes n)
    (hfirst : first ≠ idleByte) (s : Session) :
    ∃ s', Kept s s' ∧ (commandWithPayload cmd n : Action ε Session (Bytes (n + 1))).Can s
      (atLeastOnce s.config.responsePolls + 7 + n) (rest.cons first) s' := by
  refine ⟨{ s with lastResponse := (rest.cons first).get ⟨0, n.succ_pos⟩ },
    ⟨rfl, rfl, rfl, rfl⟩, ?_⟩
  have hexchange : (do
      Exchange.sendCommand cmd
      Exchange.receiveResponse s.config.responsePolls (Bytes.zero (n + 1)) :
      Exchange ε (Bytes (n + 1))).Can (6 + (atLeastOnce s.config.responsePolls + n))
        (rest.cons first) :=
    Exchange.Can.bind (Exchange.can_sendCommand cmd)
      (Exchange.can_receiveResponse _ _ rest hfirst) rfl
  refine Action.can_get_bind ?_
  refine Action.Can.bind (Action.can_exchange (Exchange.Can.whileSelected hexchange) s)
    (Action.can_modify_bind (Action.can_pure _ _)) ?_
  omega

theorem can_applicationCommand (cmd : Command) (reply : UInt8) (s : Session) :
    (applicationCommand cmd : Action ε Session UInt8).Can s
      (2 * atLeastOnce s.config.responsePolls + 13) reply { s with lastResponse := reply } := by
  refine Action.can_get_bind ?_
  refine Action.Can.bind (Action.can_exchange (Exchange.Can.whileSelected
    (Exchange.can_sendApplicationCommand _ cmd reply)) s)
    (Action.can_modify_bind (Action.can_pure _ _)) ?_
  omega

theorem can_requireReady (h : s.state = .ready mode) :
    (requireReady : Action ε Session ReadyMode).Can s 0 mode s := by
  unfold Action.Can
  rw [exec_requireReady, State.readyMode_eq_some_iff.mpr h]
  exact Program.can_pure _

/-- On a ready card, an operation can do what its body can. -/
theorem can_ready_recording {body : Action ε Session α} {count : Nat} {s' : Session} {value : α}
    (h : s.state = .ready mode) (hbody : body.Can s count value s') :
    (requireReady >>= fun _ => recording body).Can s count value s' :=
  Action.Can.bind (can_requireReady h) hbody.noting (Nat.zero_add count).symm

/-! ## Operations on a ready card -/

theorem can_status (h : s.state = .ready mode) :
    ∃ value s', (status : Action ε Session UInt16).Can s (atLeastOnce s.config.responsePolls + 8)
      value s' := by
  obtain ⟨s', -, hcommand⟩ := can_commandWithPayload (ε := ε) .sendStatus 0 #v[0] (by decide) s
  exact ⟨_, s', can_ready_recording h (Action.Can.bind hcommand
    (Action.can_require_bind (by decide) (Action.can_pure _ _)) rfl)⟩

theorem can_setCardDetectPullup (connect : Bool) (h : s.state = .ready mode) :
    ∃ s', (setCardDetectPullup connect : Action ε Session Unit).Can s
      (2 * atLeastOnce s.config.responsePolls + 13) () s' :=
  ⟨_, can_ready_recording h (Action.Can.bind (can_applicationCommand _ 0 s)
    (Action.can_require rfl _) rfl)⟩

/-- A CSD register that tells a size. -/
def smallCsd : Csd := Bytes.cons 0x40 (Bytes.zero 15)

theorem sectorCount_smallCsd : smallCsd.sectorCount? = some 1024 := by decide

theorem can_readCsd (h : s.state = .ready mode) :
    ∃ s', (readCsd : Action ε Session Csd).Can s
      (atLeastOnce s.config.responsePolls + s.config.tokenPolls.toNat + 25) smallCsd s' := by
  have hpolls : atLeastOnce s.config.tokenPolls = s.config.tokenPolls.toNat :=
    atLeastOnce_bytesForMillis _ _
  have hselected : (readCsdSelected : Action ε Session (Csd × UInt16)).Can s
      (atLeastOnce s.config.responsePolls + s.config.tokenPolls.toNat + 24)
      (smallCsd, Bytes.half #v[0, 0])
      { s with lastResponse := 0, lastToken := startToken } := by
    refine Action.can_get_bind ?_
    -- the response and the token come at the last poll
    exact Action.Can.bind (Action.can_exchange (Exchange.can_sendAndPoll _ _ 0) _)
      (Action.can_modify_bind (Action.can_require_bind rfl (Action.Can.bind
        (Action.can_exchange (Exchange.can_poll _ startToken) _)
        (Action.can_modify_bind (Action.can_require_bind rfl (Action.Can.bind
          (Action.can_exchange (Exchange.can_receive smallCsd) _)
          (Action.Can.bind (Action.can_exchange (Exchange.can_receive #v[0, 0]) _)
            (Action.can_pure _ _) rfl) rfl))) rfl))) (by omega)
  exact ⟨_, can_ready_recording h (Action.Can.bind hselected.whileSelected
    (Action.can_modify_bind (Action.can_pure _ _)) rfl)⟩

theorem can_sectorCount (h : s.state = .ready mode) :
    ∃ value s', (sectorCount : Action ε Session UInt32).Can s
      (atLeastOnce s.config.responsePolls + s.config.tokenPolls.toNat + 25) value s' := by
  obtain ⟨s', hread⟩ := can_readCsd (ε := ε) h
  refine ⟨1024, s', Action.Can.bind hread ?_ (Nat.add_zero _).symm⟩
  rw [sectorCount_smallCsd]
  exact Action.can_pure _ _

/-- A sector passes by the window, whatever is in it. -/
theorem can_receiveInto {n : Nat} (index count : Nat) (reading : Reading n) :
    ∃ reading' : Reading n, reading'.session = reading.session ∧
      (Reading.receiveInto index count : Action ε (Reading n) Unit).Can reading count () reading' := by
  induction count generalizing index reading with
  | zero => exact ⟨reading, rfl, Action.can_pure () reading⟩
  | succ count ih =>
    obtain ⟨reading', hsession, hrest⟩ := ih (index + 1)
      { reading with window := reading.window.store index idleByte }
    exact ⟨reading', hsession, Action.Can.bind
      (Action.can_exchange (Exchange.can_receiveByte idleByte) reading)
      (Action.can_modify_bind hrest) (Nat.add_comm ..)⟩

theorem can_readWindow {n : Nat} (lba : UInt32) (reading : Reading n)
    (h : reading.session.state = .ready mode) (hfits : reading.window.InSector) :
    ∃ reading', (Reading.readWindow lba : Action ε (Reading n) Unit).Can reading
      (atLeastOnce reading.session.config.responsePolls +
        reading.session.config.tokenPolls.toNat + 521) () reading' := by
  have hpolls : atLeastOnce reading.session.config.tokenPolls =
      reading.session.config.tokenPolls.toNat := atLeastOnce_bytesForMillis _ _
  obtain ⟨reading', -, hsector⟩ := can_receiveInto (ε := ε) 0 sectorSize
    { reading with session := { reading.session with lastResponse := 0, lastToken := startToken } }
  have hselected : (Reading.readSelected (blockAddress mode.capacity lba) :
      Action ε (Reading n) UInt16).Can reading
      (atLeastOnce reading.session.config.responsePolls +
        reading.session.config.tokenPolls.toNat + 520) (Bytes.half #v[0, 0]) reading' := by
    refine Action.can_get_bind ?_
    exact Action.Can.bind (Action.can_exchange (Exchange.can_sendAndPoll _ _ 0) _)
      (Action.can_modify_bind (Action.can_require_bind rfl (Action.Can.bind
        (Action.can_exchange (Exchange.can_poll _ startToken) _)
        (Action.can_modify_bind (Action.can_require_bind rfl (Action.Can.bind hsector
          (Action.Can.bind (Action.can_exchange (Exchange.can_receive #v[0, 0]) _)
            (Action.can_pure _ _) rfl) rfl))) rfl))) (by simp only [sectorSize]; omega)
  have haddress : ∃ reading', (Reading.readAddress (blockAddress mode.capacity lba) :
      Action ε (Reading n) Unit).Can reading
      (atLeastOnce reading.session.config.responsePolls +
        reading.session.config.tokenPolls.toNat + 521) () reading' :=
    ⟨_, Action.Can.bind hselected.whileSelected
      (Action.can_modify_bind (Action.can_require rfl _)) rfl⟩
  obtain ⟨last, hlast⟩ := haddress
  refine ⟨last, Action.Can.bind (can_requireReady h).onPart (Action.can_get_bind ?_)
    (Nat.zero_add _).symm⟩
  dsimp only
  rw [if_pos hfits]
  exact hlast.noting

theorem can_readRange {n : Nat} (lba : UInt32) (offset : Nat) (buffer : Bytes n)
    (h : s.state = .ready mode) (hfits : offset + n ≤ sectorSize) :
    ∃ value s', (readRange lba offset buffer : Action ε Session (Bytes n)).Can s
      (atLeastOnce s.config.responsePolls + s.config.tokenPolls.toNat + 521) value s' := by
  obtain ⟨reading', hread⟩ := can_readWindow (ε := ε) lba ⟨s, .full offset buffer⟩ h hfits
  exact ⟨_, _, Program.Can.bind hread (Program.can_pure _) rfl⟩

theorem can_writeBlock (lba : UInt32) {data : List UInt8} (h : s.state = .ready mode)
    (hfits : data.length ≤ sectorSize) :
    ∃ s', (writeBlock lba data : Action ε Session Unit).Can s
      (atLeastOnce s.config.responsePolls + s.config.busyPolls.toNat + 524) () s' := by
  have hpolls : atLeastOnce s.config.busyPolls = s.config.busyPolls.toNat :=
    atLeastOnce_bytesForMillis _ _
  have hblock : (do
      Exchange.send (blockImage (Bytes.ofList sectorSize data))
      Exchange.receiveByte : Exchange ε UInt8).Can 517 0x05 := by
    have hsector : (Bytes.ofList sectorSize data).toList.length = sectorSize :=
      Vector.length_toList
    have hlength : (blockImage (Bytes.ofList sectorSize data)).length = 516 := by
      unfold blockImage
      rw [List.cons_append, List.cons_append, List.length_cons, List.length_cons,
        List.length_append, hsector]
      rfl
    exact Exchange.Can.bind (Exchange.can_send _) (Exchange.can_receiveByte 0x05) (by omega)
  have hselected : (writeSelected (blockAddress mode.capacity lba) (.ofList sectorSize data) :
      Action ε Session Unit).Can s
      (atLeastOnce s.config.responsePolls + s.config.busyPolls.toNat + 523) ()
      { s with lastResponse := 0, lastToken := 0x05 } := by
    refine Action.can_get_bind ?_
    -- the card takes the block, and is busy until the last poll
    exact Action.Can.bind (Action.can_exchange (Exchange.can_sendAndPoll _ _ 0) _)
      (Action.can_modify_bind (Action.can_require_bind rfl (Action.Can.bind
        (Action.can_exchange hblock _)
        (Action.can_modify_bind (Action.can_require_bind rfl (Action.Can.bind
          (Action.can_exchange (Exchange.can_waitReleased _) _)
          (Action.can_require rfl _) rfl))) rfl))) (by omega)
  refine ⟨{ s with lastResponse := 0, lastToken := 0x05 },
    Action.Can.bind (can_requireReady h) ?_ (Nat.zero_add _).symm⟩
  rw [if_pos hfits]
  exact hselected.whileSelected.noting

/-- The request can be met by a card that is ready: it stays within one sector. -/
def Request.Fits : Request → Prop
  | .readRange _ offset buffer => offset + buffer.size ≤ sectorSize
  | .writeBlock _ data => data.length ≤ sectorSize
  | _ => True

theorem can_perform {request : Request} (h : s.state = .ready mode) (hstart : request ≠ .start)
    (hfits : request.Fits) :
    ∃ answer s', (perform request : Action ε Session Answer).Can s (request.work s.config) answer
      s' := by
  cases request with
  | start => exact absurd rfl hstart
  | readRange lba offset buffer =>
    obtain ⟨bytes, s', hread⟩ := can_readRange (ε := ε) lba offset buffer.toVector h hfits
    exact ⟨_, s', Action.Can.bind hread (Action.can_pure _ _) rfl⟩
  | readBlock lba =>
    obtain ⟨bytes, s', hread⟩ := can_readRange (ε := ε) lba 0 (Bytes.zero sectorSize) h
      (Nat.le_of_eq (Nat.zero_add _))
    exact ⟨_, s', Action.Can.bind hread (Action.can_pure _ _) rfl⟩
  | writeBlock lba data =>
    obtain ⟨s', hwrite⟩ := can_writeBlock (ε := ε) lba h hfits
    exact ⟨_, s', Action.Can.bind hwrite (Action.can_pure _ _) rfl⟩
  | status =>
    obtain ⟨value, s', hstatus⟩ := can_status (ε := ε) h
    exact ⟨_, s', Action.Can.bind hstatus (Action.can_pure _ _) rfl⟩
  | readCsd =>
    obtain ⟨s', hread⟩ := can_readCsd (ε := ε) h
    exact ⟨_, s', Action.Can.bind hread (Action.can_pure _ _) rfl⟩
  | sectorCount =>
    obtain ⟨value, s', hcount⟩ := can_sectorCount (ε := ε) h
    exact ⟨_, s', Action.Can.bind hcount (Action.can_pure _ _) rfl⟩
  | setCardDetectPullup connect =>
    obtain ⟨s', hset⟩ := can_setCardDetectPullup (ε := ε) connect h
    exact ⟨_, s', Action.Can.bind hset (Action.can_pure _ _) rfl⟩

/-! ## The handshake -/

theorem can_goIdle (attempts : Nat) (s : Session) :
    ∃ count s', Kept s s' ∧ (goIdle (attempts + 1) : Action ε Session Unit).Can s count () s' := by
  have hpowerUp : (powerUp : Action ε Session Unit).Can s (0 + (s.config.powerUpBytes + 0)) () s :=
    Action.can_get_bind (Action.can_exchange (Exchange.Can.bind (Exchange.can_control _)
      (Exchange.Can.bind (Exchange.can_sendIdle _) (Exchange.can_control _) rfl) rfl) s)
  exact ⟨_, { s with lastResponse := Response.idle }, ⟨rfl, rfl, rfl, rfl⟩, Action.Can.bind hpowerUp
    (Action.Can.bind (can_command .goIdle Response.idle s) (Action.can_pure () _) rfl) rfl⟩

theorem can_findVersion (s : Session) :
    ∃ count s', Kept s s' ∧ (findVersion : Action ε Session Version).Can s count .v2 s' := by
  obtain ⟨s', hkept, hcommand⟩ := can_commandWithPayload (ε := ε) .sendInterfaceCondition
    0x01 #v[0x00, 0x00, 0x01, 0xAA] (by decide) s
  exact ⟨_, s', hkept, Action.Can.bind hcommand (Action.can_require_bind (by decide)
    (Action.can_require_bind (by decide) (Action.can_pure _ _))) rfl⟩

theorem can_checkVoltage (s : Session) :
    ∃ count s', Kept s s' ∧ (checkVoltage : Action ε Session Unit).Can s count () s' := by
  obtain ⟨s', hkept, hcommand⟩ := can_commandWithPayload (ε := ε) .readOcr 0x01
    #v[0x00, 0xFF, 0x80, 0x00] (by decide) s
  exact ⟨_, s', hkept, Action.Can.bind (Action.Can.bind hcommand (Action.can_pure _ _) rfl)
    (Action.can_require (by decide) _) rfl⟩

theorem can_leaveIdle (version : Version) (rounds : Nat) (s : Session) :
    ∃ count s', Kept s s' ∧
      (leaveIdle version (rounds + 1) : Action ε Session Unit).Can s count () s' :=
  ⟨_, { s with lastResponse := 0 }, ⟨rfl, rfl, rfl, rfl⟩,
    Action.Can.bind (can_applicationCommand _ 0 s) (Action.can_pure () _) rfl⟩

theorem can_findMode (s : Session) :
    ∃ count s', Kept s s' ∧
      (findMode .v2 : Action ε Session ReadyMode).Can s count .highCapacityV2 s' := by
  obtain ⟨s', hkept, hcommand⟩ := can_commandWithPayload (ε := ε) .readOcr 0x00
    #v[0xC0, 0xFF, 0x80, 0x00] (by decide) s
  exact ⟨_, s', hkept, Action.Can.bind (Action.Can.bind hcommand (Action.can_pure _ _) rfl)
    (Action.can_require_bind (by decide) (Action.can_pure _ _)) rfl⟩

/-- The budget for the card to leave its idle state allows one round at least. -/
theorem readyRounds_eq_succ (config : Config) : ∃ rounds, config.readyRounds.toNat = rounds + 1 := by
  have hpositive : config.readyRounds ≠ 0 := by
    unfold Config.readyRounds
    dsimp only
    split
    · decide
    · assumption
  exact Nat.exists_eq_succ_of_ne_zero fun h => hpositive (UInt32.toNat_inj.mp h)

/-- A handshake can bring the card up, whatever the budgets of the session are. -/
theorem can_start (s : Session) :
    ∃ count s', s'.config = s.config ∧ s'.state = .ready .highCapacityV2 ∧
      (start : Action ε Session ReadyMode).Can s count .highCapacityV2 s' := by
  obtain ⟨attempts, hattempts⟩ := Exchange.atLeastOnce_eq_succ s.config.resetAttempts
  obtain ⟨rounds, hrounds⟩ := readyRounds_eq_succ s.config
  obtain ⟨_, idle, hidle, hgoIdle⟩ := can_goIdle (ε := ε) attempts
    { s.reset with state := .initializing .unknown }
  obtain ⟨_, found, hfound, hfindVersion⟩ := can_findVersion (ε := ε) idle
  obtain ⟨_, checked, hchecked, hcheckVoltage⟩ := can_checkVoltage (ε := ε)
    { found with version := .v2, state := .initializing .v2 }
  obtain ⟨_, left, hleft, hleaveIdle⟩ := can_leaveIdle (ε := ε) .v2 rounds checked
  obtain ⟨_, known, hknown, hfindMode⟩ := can_findMode (ε := ε) left
  rw [← hattempts] at hgoIdle
  rw [← hrounds] at hleaveIdle
  have hready : (do
      checkVoltage
      leaveIdle .v2 s.config.readyRounds.toNat
      let mode ← findMode .v2
      modify fun session =>
        { session with state := .ready mode, lastResponse := 0, lastToken := 0, lastChecksum := 0 }
      Action.log (.becameReady s.chipSelect mode)
      return mode : Action ε Session ReadyMode).Can _ _ .highCapacityV2 _ :=
    Action.Can.bind hcheckVoltage (Action.Can.bind hleaveIdle (Action.Can.bind hfindMode
      (Action.can_modify_bind (Action.Can.bind (Action.can_log _ _) (Action.can_pure _ _) rfl))
      rfl) rfl) rfl
  have hconfig : known.config = s.config := by
    rw [hknown.config, hleft.config, hchecked.config]
    exact hfound.config.trans hidle.config
  refine ⟨_, _, ?_, ?_, Action.can_modify_bind (Action.Can.noting (Action.can_get_bind
    (Action.Can.bind (Action.can_exchange (Exchange.can_control _) _)
      (Action.Can.bind (Action.can_exchange (Exchange.can_control _) _)
        (Action.can_modify_bind (Action.Can.bind hgoIdle (Action.Can.bind hfindVersion
          (Action.can_modify_bind (Action.Can.bind (Action.can_log _ _)
            (Action.Can.bind (Action.can_exchange (Exchange.can_control _) _) hready rfl) rfl))
          rfl) rfl)) rfl) rfl)))⟩
  · exact hconfig
  · rfl

/-! ## All operations -/

/-- With any budgets, a session can get to a card that is ready. -/
theorem exists_ready (chipSelect : UInt8) (config : Config) :
    ∃ (calls : List (Call ε)) (session : Session), History (fresh chipSelect config) calls session ∧
      session.config = config ∧ session.state = .ready .highCapacityV2 := by
  obtain ⟨count, session, hconfig, hstate, t, ht, -, -⟩ :=
    can_start (ε := ε) (fresh chipSelect config)
  have hgenuine : Call.Genuine
      ⟨.start, t ++ [], .ok (.ready .highCapacityV2), fresh chipSelect config, session⟩ := by
    change Program.Traces ((start >>= fun mode => pure (.ready mode) :
      Action ε Session Answer).exec _) _ _
    rw [Action.exec_bind]
    exact ht.bind (.done _)
  exact ⟨[_], session, .cons .nil hgenuine rfl, hconfig, hstate⟩

/-- On a card that is ready, any other operation within one sector can send all that it may. -/
theorem exists_full_work {session : Session} {request : Request}
    (h : session.state = .ready mode) (hstart : request ≠ .start) (hfits : request.Fits) :
    ∃ calls, let call : Call ε := (Call.run replayBus request session calls).1
      faults call.events = [] ∧ call.result.isOk = true ∧
      (sent call.events).length = request.work session.config := by
  obtain ⟨answer, session', t, ht, hfaults, hcount⟩ := can_perform (ε := ε) h hstart hfits
  obtain ⟨hvalue, hevents⟩ := ht.run_replay
  refine ⟨busCalls t, ?_⟩
  simp only [Call.run]
  rw [hevents, hvalue]
  exact ⟨hfaults, rfl, hcount⟩

/-- No operation sends more bytes than its bound, on any session and any bus. With any budgets a
card can be brought up, and on a card that is ready every operation but the handshake reaches its
bound on some bus that meets no fault. -/
theorem work_bound :
    (∀ call : Call ε, call.Genuine →
      (sent call.events).length ≤ call.request.work call.before.config) ∧
    (∀ chipSelect config, ∃ (calls : List (Call ε)) (session : Session),
      History (fresh chipSelect config) calls session ∧ session.config = config ∧
      session.state = .ready .highCapacityV2) ∧
    ∀ (session : Session) (mode : ReadyMode) (request : Request), session.state = .ready mode →
      request ≠ .start → request.Fits →
      ∃ calls, let call : Call ε := (Call.run replayBus request session calls).1
        faults call.events = [] ∧ call.result.isOk = true ∧
        (sent call.events).length = request.work session.config :=
  ⟨fun _ => genuine_work, exists_ready, fun _ _ _ => exists_full_work⟩

/-- The status of a card takes sixteen bytes at most if its response may take eight, and a card can
make it take as many. -/
theorem work_bound_status :
    let session : Session := { fresh 0 {} with state := .ready .highCapacityV2, version := .v2 }
    ∃ calls, let call : Call Unit := (Call.run replayBus .status session calls).1
      call.Genuine ∧ (sent call.events).length ≤ 16 ∧ (sent call.events).length = 16 := by
  intro session
  obtain ⟨calls, -, -, hcount⟩ := (work_bound (ε := Unit)).2.2 session .highCapacityV2 .status rfl
    (by simp) trivial
  have hgenuine := Call.genuine_run (replayBus (ε := Unit)) .status session calls
  exact ⟨calls, hgenuine, work_bound.1 _ hgenuine, hcount⟩

end Session

end SdCard
