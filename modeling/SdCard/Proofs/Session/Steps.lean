import SdCard.Proofs.CardModel.Answers
import SdCard.Proofs.Register.Ocr
import SdCard.Proofs.Session.Settling
import SdCard.Session.Handshake

/-!
# The steps of the handshake with the model card

What each step of the handshake hears from a fresh card, and which card the next step finds.

* `settles_goIdle`, `settles_leaveIdle`: the two loops, by induction on the attempts that are left,
  each with its counterpart for a card that outlasts the attempts;
* `settles_findVersion`, `settles_checkVoltage`, `settles_findMode`: the answers and what is made of
  them.
-/

namespace SdCard

namespace CardModel

variable {c : CardModel}

/-! ## Settings that decide the handshake -/

/-- What is wrong with the answer to CMD8, if anything is. -/
def echoFailure (c : CardModel) : Option Failure :=
  if c.kind = .v1 then none
  else if c.echoed.1 &&& 0x0F ≠ 0x01 then some .voltageNotEchoed
  else if c.echoed.2 ≠ 0xAA then some .patternMismatch
  else none

/-- The card takes one of the two voltage ranges around 3.3 volts. -/
def Supplied (c : CardModel) : Prop :=
  c.ocr.toNat.testBit 20 = true ∨ c.ocr.toNat.testBit 21 = true

instance : Decidable c.Supplied := inferInstanceAs (Decidable (_ ∨ _))

/-- The OCR of the card once it has started. -/
def startedOcr (c : CardModel) : UInt32 :=
  c.readyOcr.getD (c.ocr ||| 0x80000000 ||| if c.kind = .v2 true then 0x40000000 else 0)

/-- How the card is addressed once it has started. -/
def startedMode (c : CardModel) : Except Failure ReadyMode :=
  if c.kind = .v1 then .ok .standardCapacityV1
  else if c.startedOcr.toNat.testBit 31 = false then .error .notPoweredUp
  else if c.startedOcr.toNat.testBit 30 then .ok .highCapacityV2
  else .ok .standardCapacityV2

/-- The argument of ACMD41. -/
def operatingCondition (version : Version) : UInt32 := if version = .v2 then 0x40000000 else 0

/-- The commands of one round that is to take the card out of its idle state. -/
def roundAsked (version : Version) : List (UInt8 × UInt32) :=
  [(55, 0), (41, operatingCondition version)]

/-- The commands of some rounds. -/
def roundsAsked (version : Version) (rounds : Nat) : List (UInt8 × UInt32) :=
  (List.replicate rounds (roundAsked version)).flatten

/-- The version that the card is found to have. -/
def version (c : CardModel) : Version := if c.kind = .v1 then .v1 else .v2

end CardModel

namespace Session

open CardModel

variable {ε α : Type} {fault : ε} {config : Config} {c : CardModel}

/-! ## Resets -/

/-- The card is `c` but for what it knows of the bus. -/
def Known (c card : CardModel) : Prop := card.core = c

theorem settles_powerUp (hfail : c.failAfter = none) :
    Settles fault config (Known c) powerUp (.ok ()) (Named c) := by
  let unnamed : CardModel → Prop := fun card => Known c card ∧ card.isNamed = false
  have huncounting : Uncounting unnamed := by
    rintro card _ ⟨_, _, _, rfl⟩ h
    exact h
  have hidle : Exchange.Leads (bus fault) unnamed (.sendByte idleByte) (fun _ => unnamed)
      fun _ => False := by
    have htransfer : Exchange.Leads (bus fault) unnamed (.transfer idleByte) (fun _ => unnamed)
        fun _ => False := by
      refine leads_transfer huncounting (fun card h hbroken => ?_) (fun _ h _ => h) ?_
      · have hcore := congrArg CardModel.failAfter h.1
        exact hbroken (hcore.trans hfail)
      · intro card h hselected
        have hnamed := (Bool.and_eq_true_iff.mp hselected).2
        rw [h.2] at hnamed
        cases hnamed
    exact htransfer.bind fun _ => Exchange.leads_pure fun _ h => h
  have hclocks : ∀ count, Exchange.Leads (bus fault) unnamed (.sendIdle count) (fun _ => unnamed)
      fun _ => False := by
    intro count
    induction count with
    | zero => exact Exchange.leads_pure fun _ h => h
    | succ count ih => exact hidle.bind fun _ => ih
  refine settles_get_bind fun seen _ => settles_exchange ?_
  have hoff : Exchange.Leads (bus fault) (Known c) (.control (.chipSelect seen.chipSelect false))
      (fun _ => unnamed) fun _ => False := Exchange.leads_control fun _ h => ⟨h, rfl⟩
  have hon : Exchange.Leads (bus fault) unnamed (.control (.chipSelect seen.chipSelect true))
      (fun _ => Named c) fun _ => False := Exchange.leads_control fun _ h => ⟨h.1, rfl⟩
  refine Program.Leads.mono (hoff.bind fun _ => (hclocks _).bind fun _ => hon) (fun _ h => h) ?_
  intro result card h
  cases result with
  | ok => exact ⟨rfl, h⟩
  | error => exact h.elim

/-- A session that knows less of the bus. -/
theorem Settles.known {d : CardModel} {action : Action ε Session α} {verdict : Except Failure α}
    {post : CardModel → Prop} (h : Settles fault config (Known d) action verdict post) :
    Settles fault config (Named d) action verdict post :=
  h.mono (fun _ hcard => hcard.1) fun _ hcard => hcard

/-- An empty socket lets all resets run out. -/
theorem settles_goIdle_absent (hc : Fresh c) (habsent : c.kind = .absent) (attempts : Nat) :
    Settles fault config (Known c) (goIdle attempts) (.error .resetIgnored)
      (Known (c.hearing (List.replicate attempts (0, 0)))) := by
  induction attempts generalizing c with
  | zero =>
    rw [List.replicate_zero, hearing_nil]
    exact settles_throw _
  | succ attempts ih =>
    have hsilent : Settles fault config (Named c) (command .goIdle) (.ok 0xFF)
        (Named (c.hearing [(0, 0)])) :=
      settles_command_silent hc (receiveCommand_absent hc habsent 0 0) (hc.hearing _)
    rw [List.replicate_succ, hearing_cons]
    exact (settles_powerUp hc.failAfter).bind_ok
      (hsilent.bind_ok (ih (hc.hearing [(0, 0)]) habsent).known)

/-- A reset that a card ignores. -/
theorem settles_reset_ignored (hc : Fresh c) (hpresent : c.kind ≠ .absent) {ignored : Nat}
    (hignored : c.resetsIgnored = ignored + 1) :
    Settles fault config (Named c) (command .goIdle) (.ok 0xFF)
      (Named ({ c with resetsIgnored := ignored }.hearing [(0, 0)])) := by
  have hreceive : c.receiveCommand 0 0 = { c with resetsIgnored := ignored }.hearing [(0, 0)] := by
    rw [receiveCommand_present hc hpresent]
    exact execute_goIdle_ignored hignored
  exact settles_command_silent hc hreceive ⟨hc.link, hc.fixedResponses, hc.failAfter⟩

/-- A card that ignores fewer resets than there are attempts becomes idle. -/
theorem settles_goIdle (hpolls : 2 ≤ config.responsePolls.toNat) (hc : Fresh c)
    (hpresent : c.kind ≠ .absent) {attempts ignored : Nat} (hignored : c.resetsIgnored = ignored)
    (hattempts : ignored < attempts) :
    Settles fault config (Known c) (goIdle attempts) (.ok ())
      (Named ({ c with resetsIgnored := 0, inIdle := true }.hearing
        (List.replicate (ignored + 1) (0, 0)))) := by
  induction attempts generalizing c ignored with
  | zero => omega
  | succ attempts ih =>
    refine (settles_powerUp hc.failAfter).bind_ok ?_
    cases ignored with
    | zero =>
      have hreset : Settles fault config (Named c) (command .goIdle) (.ok 0x01)
          (Named ({ c with inIdle := true }.hearing [(0, 0)])) :=
        settles_command hpolls hc (receiveCommand_answering hc hpresent
          ⟨hc.link, hc.fixedResponses, hc.failAfter⟩ (execute_goIdle hignored))
          ⟨hc.link, hc.fixedResponses, hc.failAfter⟩ (by decide)
      have hawake : { c with resetsIgnored := 0, inIdle := true } = { c with inIdle := true } := by
        rw [← hignored]
      have hidle : (0x01 : UInt8) = Response.idle := rfl
      rw [hawake]
      refine hreset.bind_ok ?_
      rw [if_pos hidle]
      exact settles_pure ()
    | succ ignored =>
      have hfewer : ignored < attempts := by omega
      have hleft : Fresh ({ c with resetsIgnored := ignored }.hearing [(0, 0)]) :=
        ⟨hc.link, hc.fixedResponses, hc.failAfter⟩
      rw [List.replicate_succ, hearing_cons]
      exact (settles_reset_ignored hc hpresent hignored).bind_ok
        (ih hleft hpresent rfl hfewer).known

/-- A card that ignores as many resets as there are attempts does not. -/
theorem settles_goIdle_exhausted (hc : Fresh c) (hpresent : c.kind ≠ .absent)
    {attempts further : Nat} (hignored : c.resetsIgnored = attempts + further) :
    Settles fault config (Known c) (goIdle attempts) (.error .resetIgnored)
      (Known ({ c with resetsIgnored := further }.hearing (List.replicate attempts (0, 0)))) := by
  induction attempts generalizing c with
  | zero =>
    have hsame : { c with resetsIgnored := further } = c := by rw [← Nat.zero_add further, ← hignored]
    rw [List.replicate_zero, hearing_nil, hsame]
    exact settles_throw _
  | succ attempts ih =>
    rw [Nat.succ_add] at hignored
    have hleft : Fresh ({ c with resetsIgnored := attempts + further }.hearing [(0, 0)]) :=
      ⟨hc.link, hc.fixedResponses, hc.failAfter⟩
    rw [List.replicate_succ, hearing_cons]
    exact (settles_powerUp hc.failAfter).bind_ok
      ((settles_reset_ignored hc hpresent hignored).bind_ok (ih hleft hpresent rfl).known)

/-! ## Version and voltage -/

/-- The version is found, or the answer to CMD8 is wrong. -/
theorem settles_findVersion (fault : ε) (hpolls : 2 ≤ config.responsePolls.toNat) (hc : Fresh c)
    (hpresent : c.kind ≠ .absent) :
    Settles fault config (Named c) findVersion
      (match c.echoFailure with
        | some failure => .error failure
        | none => .ok c.version)
      (Named (c.hearing [(8, 0x1AA)])) := by
  have hheard := hc.hearing [(8, 0x1AA)]
  unfold findVersion
  cases hkind : c.kind with
  | absent => exact absurd hkind hpresent
  | v1 =>
    have hreceive : c.receiveCommand (Command.sendInterfaceCondition.index &&& 0x3F)
        Command.sendInterfaceCondition.argument = (c.hearing [(8, 0x1AA)]).answering [0x05] :=
      receiveCommand_answering hc hpresent hheard (execute_interface_v1 hkind)
    obtain ⟨others, hcommand⟩ := settles_commandWithPayload_short fault 4 hpolls hc hreceive hheard
      (by decide)
    have hidle : ¬ (others.cons 0x05)[0] = Response.idle := by
      rw [Bytes.getElem_cons_zero]
      decide
    have hillegal : (others.cons 0x05)[0] = Response.idleIllegal := Bytes.getElem_cons_zero _ _ _
    have hv1 : c.version = .v1 := if_pos hkind
    have hnone : c.echoFailure = none := if_pos hkind
    refine hcommand.bind_ok ?_
    rw [if_neg hidle, if_pos hillegal, hnone, hv1]
    exact settles_pure _
  | v2 highCapacity =>
    have hcommand : Settles fault config (Named c)
        (commandWithPayload .sendInterfaceCondition 4)
        (.ok (Bytes.cons 0x01 #v[0, 0, c.echoed.1, c.echoed.2]))
        (Named (c.hearing [(8, 0x1AA)])) :=
      settles_commandWithPayload_whole hpolls hc
        (receiveCommand_answering hc hpresent hheard (execute_interface_v2 hkind)) hheard (by decide)
    have hidle : (Bytes.cons 0x01 #v[0, 0, c.echoed.1, c.echoed.2])[0] = Response.idle := rfl
    have hne : c.kind ≠ .v1 := by simp [hkind]
    have hv2 : c.version = .v2 := if_neg hne
    refine hcommand.bind_ok ?_
    rw [if_pos hidle]
    unfold echoFailure
    rw [if_neg hne, hv2]
    by_cases hvoltage : c.echoed.1 &&& 0x0F = 0x01
    · rw [if_neg (not_not_intro hvoltage)]
      refine (settles_require_ok hvoltage).bind_ok ?_
      by_cases hpattern : c.echoed.2 = 0xAA
      · rw [if_neg (not_not_intro hpattern)]
        exact (settles_require_ok hpattern).bind_ok (settles_pure _)
      · rw [if_pos hpattern]
        exact (settles_require_error hpattern).bind_error
    · rw [if_pos hvoltage]
      exact (settles_require_error hvoltage).bind_error

/-- What a card of which R1 is known answers to CMD58. -/
theorem settles_readOcr (fault : ε) (hpolls : 2 ≤ config.responsePolls.toNat) (hc : Fresh c)
    (hpresent : c.kind ≠ .absent) :
    ∃ ocr, (∀ flag, ocr.has flag = c.reportedOcr.toNat.testBit flag.bit) ∧
      Settles fault config (Named c) readOcr (.ok (c.response, ocr))
        (Named (c.hearing [(58, 0)])) := by
  have hheard := hc.hearing [(58, 0)]
  have hresponse : (c.hearing [(58, 0)]).response ≠ 0xFF := by
    unfold CardModel.response
    split
    · decide
    · decide
  have hcommand : Settles fault config (Named c) (commandWithPayload .readOcr 4)
      (.ok ((Bytes.ofWord c.reportedOcr).cons c.response)) (Named (c.hearing [(58, 0)])) :=
    settles_commandWithPayload_whole hpolls hc
      (receiveCommand_answering hc hpresent hheard execute_readOcr) hheard hresponse
  refine ⟨.ofResponse ((Bytes.ofWord c.reportedOcr).cons c.response), fun flag => ?_, ?_⟩
  · rw [Ocr.has_ofResponse, Bytes.toList_cons, List.tail_cons, Bytes.bigEndian_ofWord]
  · exact hcommand.bind_ok (settles_pure _)

/-- A card that is idle tells the voltages that it takes. -/
theorem settles_checkVoltage (fault : ε) (hpolls : 2 ≤ config.responsePolls.toNat) (hc : Fresh c)
    (hpresent : c.kind ≠ .absent) (hidle : c.inIdle = true) :
    Settles fault config (Named c) checkVoltage
      (if c.Supplied then .ok () else .error .voltageUnsupported)
      (Named (c.hearing [(58, 0)])) := by
  obtain ⟨ocr, hocr, hcommand⟩ := settles_readOcr fault hpolls hc hpresent
  have hreported : c.reportedOcr = c.ocr := if_pos hidle
  have hclean : Response.isClean c.response = true := by
    unfold CardModel.response
    rw [if_pos hidle]
    decide
  have hsupplied : Response.isClean c.response = true ∧ ocr.supports33 = true ↔ c.Supplied := by
    unfold Ocr.supports33 Supplied
    rw [hocr, hocr, hreported, Bool.or_eq_true]
    exact ⟨fun h => h.2, fun h => ⟨hclean, h⟩⟩
  by_cases h : c.Supplied
  · rw [if_pos h]
    exact hcommand.bind_ok (settles_require_ok (hsupplied.mpr h))
  · rw [if_neg h]
    exact hcommand.bind_ok (settles_require_error fun hclean => h (hsupplied.mp hclean))

/-! ## Out of the idle state -/

theorem roundsAsked_succ (version : Version) (rounds : Nat) :
    roundsAsked version (rounds + 1) = roundAsked version ++ roundsAsked version rounds := rfl

/-- One round of CMD55 and ACMD41. -/
theorem settles_round (fault : ε) {d : CardModel} {response : UInt8} (version : Version)
    (hpolls : 2 ≤ config.responsePolls.toNat) (hc : Fresh c) (hpresent : c.kind ≠ .absent)
    (hidle : c.inIdle = true) (hd : Fresh d) (hresponse : response ≠ 0xFF)
    (hrow : (c.hearing (roundAsked version)).execute 41 (operatingCondition version) true =
      d.respond [response]) :
    Settles fault config (Named c)
      (applicationCommand (.sendOperatingCondition (version = .v2))) (.ok response) (Named d) := by
  have hone : c.response = 0x01 := if_pos hidle
  have hannounce := receiveCommand_announcement hc hpresent
  rw [hone] at hannounce
  rw [roundAsked, hearing_cons] at hrow
  have hreceive := receiveCommand_application (hc.hearing [(55, 0)]) hpresent hd hrow
  have hindex : (Command.sendOperatingCondition (version = .v2)).index &&& 0x3F = 41 := by
    cases version <;> rfl
  have hargument : (Command.sendOperatingCondition (version = .v2)).argument =
      operatingCondition version := by
    cases version <;> rfl
  rw [← hindex, ← hargument] at hreceive
  exact settles_applicationCommand hpolls hc hannounce (hc.hearing _) (by decide) (by decide)
    hreceive hd hresponse

/-- A card that is busy for fewer rounds than there are leaves its idle state. -/
theorem settles_leaveIdle (version : Version) (hpolls : 2 ≤ config.responsePolls.toNat)
    (hc : Fresh c) (hpresent : c.kind ≠ .absent) (hidle : c.inIdle = true) {rounds busy : Nat}
    (hbusy : c.busyRounds = busy) (hrounds : busy < rounds) :
    Settles fault config (Named c) (leaveIdle version rounds) (.ok ())
      (Named ({ c with busyRounds := 0, inIdle := false }.hearing
        (roundsAsked version (busy + 1)))) := by
  induction rounds generalizing c busy with
  | zero => omega
  | succ rounds ih =>
    cases busy with
    | zero =>
      have hstarted : { c with busyRounds := 0, inIdle := false } = { c with inIdle := false } := by
        rw [← hbusy]
      have hround : Settles fault config (Named c) _ _
          (Named ({ c with inIdle := false }.hearing (roundAsked version))) :=
        settles_round fault version hpolls hc hpresent hidle ⟨hc.link, hc.fixedResponses, hc.failAfter⟩
          (by decide) (execute_sendOperatingCondition hbusy)
      rw [hstarted]
      exact hround.bind_ok (settles_pure ())
    | succ busy =>
      have hfewer : busy < rounds := by omega
      have hleft : Fresh ({ c with busyRounds := busy }.hearing (roundAsked version)) :=
        ⟨hc.link, hc.fixedResponses, hc.failAfter⟩
      have hround := settles_round fault version hpolls hc hpresent hidle hleft
        (by decide) (execute_sendOperatingCondition_busy hbusy)
      rw [roundsAsked_succ, hearing_append]
      exact hround.bind_ok (ih hleft hpresent hidle rfl hfewer)

/-- A card that is busy for as many rounds as there are does not. -/
theorem settles_leaveIdle_exhausted (version : Version) (hpolls : 2 ≤ config.responsePolls.toNat)
    (hc : Fresh c) (hpresent : c.kind ≠ .absent) (hidle : c.inIdle = true) {rounds further : Nat}
    (hbusy : c.busyRounds = rounds + further) :
    Settles fault config (Named c) (leaveIdle version rounds) (.error .stayedIdle)
      (Named ({ c with busyRounds := further }.hearing (roundsAsked version rounds))) := by
  induction rounds generalizing c with
  | zero =>
    have hsame : { c with busyRounds := further } = c := by rw [← Nat.zero_add further, ← hbusy]
    have hnone : roundsAsked version 0 = [] := rfl
    rw [hsame, hnone, hearing_nil]
    exact settles_throw _
  | succ rounds ih =>
    rw [Nat.succ_add] at hbusy
    have hleft : Fresh ({ c with busyRounds := rounds + further }.hearing (roundAsked version)) :=
      ⟨hc.link, hc.fixedResponses, hc.failAfter⟩
    have hround := settles_round fault version hpolls hc hpresent hidle hleft
      (by decide) (execute_sendOperatingCondition_busy hbusy)
    rw [roundsAsked_succ, hearing_append]
    exact hround.bind_ok (ih hleft hpresent hidle rfl)

/-- What the last step of the handshake asks. -/
def modeAsked (version : Version) : UInt8 × UInt32 := if version = .v2 then (58, 0) else (16, 512)

/-- A card that has started tells how it is addressed. -/
theorem settles_findMode (fault : ε) (hpolls : 2 ≤ config.responsePolls.toNat) (hc : Fresh c)
    (hpresent : c.kind ≠ .absent) (hidle : c.inIdle = false) :
    Settles fault config (Named c) (findMode c.version) c.startedMode
      (Named (c.hearing [modeAsked c.version])) := by
  have hresponse : c.response = 0 := by
    unfold CardModel.response
    rw [hidle]
    rfl
  unfold findMode startedMode
  by_cases hkind : c.kind = .v1
  · have hversion : ¬ c.version = .v2 := by simp [CardModel.version, hkind]
    have hheard := hc.hearing [(16, 512)]
    have hrow : (c.hearing [(16, 512)]).execute 16 512 false =
        (c.hearing [(16, 512)]).respond [c.response] := execute_setBlockLength
    rw [hresponse] at hrow
    rw [if_neg hversion, if_pos hkind, modeAsked, if_neg hversion]
    have hcommand : Settles fault config (Named c) (command (.setBlockLength (.ofNat sectorSize)))
        (.ok 0) (Named (c.hearing [(16, 512)])) :=
      settles_command hpolls hc (receiveCommand_answering hc hpresent hheard hrow) hheard (by decide)
    exact hcommand.bind_ok ((settles_require_ok rfl).bind_ok (settles_pure _))
  · have hversion : c.version = .v2 := if_neg hkind
    obtain ⟨ocr, hocr, hcommand⟩ := settles_readOcr fault hpolls hc hpresent
    have hreported : c.reportedOcr = c.startedOcr := by
      unfold reportedOcr startedOcr
      rw [hidle]
      rfl
    have hpowered : ocr.has .poweredUp = c.startedOcr.toNat.testBit 31 := by
      rw [hocr, hreported]
      rfl
    have hcapacity : ocr.has .highCapacity = c.startedOcr.toNat.testBit 30 := by
      rw [hocr, hreported]
      rfl
    rw [hresponse] at hcommand
    rw [if_pos hversion, if_neg hkind, modeAsked, if_pos hversion]
    refine hcommand.bind_ok ?_
    dsimp only
    rw [hpowered, hcapacity]
    cases hbit : c.startedOcr.toNat.testBit 31
    · exact (settles_require_error (by simp)).bind_error
    · refine (settles_require_ok (by simp)).bind_ok ?_
      split
      · exact settles_pure _
      · exact settles_pure _

end Session

end SdCard
