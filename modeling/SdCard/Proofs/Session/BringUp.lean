import SdCard.Proofs.Session.Steps

/-!
# How the handshake with the model card ends

What a fresh card makes of the handshake is settled by its settings and by two budgets: `verdict` says
so in closed form, and `asked` which commands the card has received by then.

* `settles_handshake`: the steps put together;
* `countP_asked_goIdle`, `countP_asked_sendOperatingCondition`: how often the two loops ask;
* `Conforms.verdict`: a card that answers truly comes up in the mode of its kind;
* `start_negotiation`: all of it, for every setting of the card and every configuration that leaves
  it the one byte to think in.
-/

namespace SdCard

namespace CardModel

variable {c : CardModel} {config : Config}

/-- The card answers one of the resets. -/
def Wakes (config : Config) (c : CardModel) : Prop :=
  c.kind ≠ .absent ∧ c.resetsIgnored < atLeastOnce config.resetAttempts

instance : Decidable (Wakes config c) := inferInstanceAs (Decidable (_ ∧ _))

end CardModel

namespace Session

open CardModel

variable {ε : Type} {fault : ε} {config : Config} {c : CardModel}

/-! ## The handshake as a whole -/

/-- What the handshake comes to. -/
def verdict (config : Config) (c : CardModel) : Except Failure ReadyMode :=
  if ¬ Wakes config c then .error .resetIgnored
  else match c.echoFailure with
  | some failure => .error failure
  | none =>
    if ¬ c.Supplied then .error .voltageUnsupported
    else if config.readyRounds.toNat ≤ c.busyRounds then .error .stayedIdle
    else c.startedMode

/-- How many resets are sent. -/
def resets (config : Config) (c : CardModel) : Nat :=
  if c.kind = .absent then atLeastOnce config.resetAttempts
  else min (c.resetsIgnored + 1) (atLeastOnce config.resetAttempts)

/-- How many rounds there are of CMD55 and ACMD41, once it comes to them. -/
def rounds (config : Config) (c : CardModel) : Nat :=
  min (c.busyRounds + 1) config.readyRounds.toNat

/-- The commands that the handshake sends to the card. -/
def asked (config : Config) (c : CardModel) : List (UInt8 × UInt32) :=
  List.replicate (resets config c) (0, 0) ++
    if ¬ Wakes config c then [] else (8, 0x1AA) ::
    if c.echoFailure ≠ none then [] else (58, 0) ::
    if ¬ c.Supplied then [] else roundsAsked c.version (rounds config c) ++
    if config.readyRounds.toNat ≤ c.busyRounds then [] else [modeAsked c.version]

/-- The card has received commands since it was `c`. -/
def Received (c : CardModel) (commands : List (UInt8 × UInt32)) (card : CardModel) : Prop :=
  card.commands = c.commands ++ commands.toArray

theorem received_of_known {d card : CardModel} {commands : List (UInt8 × UInt32)}
    (h : Known (d.hearing commands) card) (hsame : d.commands = c.commands) :
    Received c commands card := by
  have hcommands : card.commands = d.commands ++ commands.toArray := congrArg CardModel.commands h
  rwa [hsame] at hcommands

theorem received_of_named {d card : CardModel} {commands : List (UInt8 × UInt32)}
    (h : Named (d.hearing commands) card) (hsame : d.commands = c.commands) :
    Received c commands card := received_of_known h.1 hsame

theorem Received.append {d card : CardModel} {commands more : List (UInt8 × UInt32)}
    (h : Received (d.hearing commands) more card) (hsame : d.commands = c.commands) :
    Received c (commands ++ more) card := by
  have hcommands : card.commands = d.commands ++ commands.toArray ++ more.toArray := h
  unfold Received
  rw [hcommands, hsame, Array.append_assoc]
  simp

theorem settles_mode {pre : CardModel → Prop} (mode : SpiMode) :
    Settles fault config pre (Action.exchange (Exchange.control (.mode mode))) (.ok ()) pre :=
  settles_exchange fun _ h => ⟨rfl, h⟩

theorem settles_clock {pre : CardModel → Prop} (hz : UInt32) :
    Settles fault config pre (Action.exchange (Exchange.control (.clock hz))) (.ok ()) pre :=
  settles_exchange fun _ h => ⟨rfl, h⟩

/-- The steps after the voltage has been found right. -/
theorem settles_startUp (fault : ε) (chipSelect : UInt8) (hpolls : 2 ≤ config.responsePolls.toNat)
    (hc : Fresh c) (hpresent : c.kind ≠ .absent) (hidle : c.inIdle = true) :
    Settles fault config (Named c) (do
      leaveIdle c.version config.readyRounds.toNat
      let mode ← findMode c.version
      modify fun session =>
        { session with state := .ready mode, lastResponse := 0, lastToken := 0, lastChecksum := 0 }
      Action.log (.becameReady chipSelect mode)
      return mode)
      (if config.readyRounds.toNat ≤ c.busyRounds then .error .stayedIdle else c.startedMode)
      (Received c (roundsAsked c.version (rounds config c) ++
        if config.readyRounds.toNat ≤ c.busyRounds then [] else [modeAsked c.version])) := by
  by_cases hbusy : config.readyRounds.toNat ≤ c.busyRounds
  · have hrounds : rounds config c = config.readyRounds.toNat := by
      unfold rounds
      omega
    obtain ⟨further, hfurther⟩ := Nat.exists_eq_add_of_le hbusy
    rw [if_pos hbusy, if_pos hbusy, hrounds, List.append_nil]
    exact ((settles_leaveIdle_exhausted c.version hpolls hc hpresent hidle hfurther).mono
      (fun _ h => h) fun _ h => received_of_named h rfl).bind_error
  · have hrounds : rounds config c = c.busyRounds + 1 := by
      unfold rounds
      omega
    rw [if_neg hbusy, if_neg hbusy, hrounds]
    have hstarted : Fresh ({ c with busyRounds := 0, inIdle := false }.hearing
        (roundsAsked c.version (c.busyRounds + 1))) := ⟨hc.link, hc.fixedResponses, hc.failAfter⟩
    have hmode := (settles_findMode fault hpolls hstarted hpresent rfl).mono
      (fun _ h => h) fun card h => (received_of_named h rfl).append (c := c) rfl
    refine (settles_leaveIdle c.version hpolls hc hpresent hidle rfl (by omega)).bind_ok ?_
    refine hmode.bind_keep fun mode => ?_
    exact settles_modify_bind (fun _ => rfl) (settles_log_bind (settles_pure mode))

/-- The steps after the card has become idle. -/
theorem settles_negotiate (chipSelect : UInt8) (hpolls : 2 ≤ config.responsePolls.toNat)
    (hc : Fresh c) (hpresent : c.kind ≠ .absent) (hidle : c.inIdle = true) :
    Settles fault config (Named c) (do
      let version ← findVersion
      modify fun session => { session with version, state := .initializing version }
      Action.log (.versionFound chipSelect version)
      Action.exchange <| Exchange.control (.clock config.dataHz)
      checkVoltage
      leaveIdle version config.readyRounds.toNat
      let mode ← findMode version
      modify fun session =>
        { session with state := .ready mode, lastResponse := 0, lastToken := 0, lastChecksum := 0 }
      Action.log (.becameReady chipSelect mode)
      return mode)
      (match c.echoFailure with
        | some failure => .error failure
        | none =>
          if ¬ c.Supplied then .error .voltageUnsupported
          else if config.readyRounds.toNat ≤ c.busyRounds then .error .stayedIdle
          else c.startedMode)
      (Received c ((8, 0x1AA) ::
        if c.echoFailure ≠ none then [] else (58, 0) ::
        if ¬ c.Supplied then [] else roundsAsked c.version (rounds config c) ++
        if config.readyRounds.toNat ≤ c.busyRounds then [] else [modeAsked c.version])) := by
  have hversion := settles_findVersion fault hpolls hc hpresent
  have hfound : Fresh (c.hearing [(8, 0x1AA)]) := hc.hearing _
  have hvoltage := settles_checkVoltage fault hpolls hfound hpresent hidle
  have hsupplied := settles_startUp fault chipSelect hpolls (hfound.hearing [(58, 0)])
    hpresent hidle
  cases hecho : c.echoFailure with
  | some failure =>
    rw [hecho] at hversion
    have hasked := hversion.mono (fun _ h => h) fun _ h => received_of_named (c := c) h rfl
    exact hasked.bind_error
  | none =>
    rw [hecho] at hversion
    refine hversion.bind_ok ?_
    refine settles_modify_bind (fun _ => rfl) (settles_log_bind ?_)
    refine (settles_clock _).bind_ok ?_
    dsimp only
    by_cases h : c.Supplied
    · have hc : (c.hearing [(8, 0x1AA)]).Supplied := h
      rw [if_pos hc] at hvoltage
      rw [if_neg (not_not_intro h), if_neg (not_not_intro h), if_neg (not_not_intro rfl)]
      refine hvoltage.bind_ok (hsupplied.mono (fun _ h => h) fun card hcard => ?_)
      exact (hcard.append (c := c.hearing [(8, 0x1AA)]) rfl).append (c := c) rfl
    · have hc : ¬ (c.hearing [(8, 0x1AA)]).Supplied := h
      rw [if_neg hc] at hvoltage
      rw [if_pos h, if_pos h, if_neg (not_not_intro rfl)]
      have hasked := hvoltage.mono (fun _ h => h) fun card hcard =>
        (received_of_named hcard rfl).append (c := c) rfl
      exact hasked.bind_error

/-- The handshake comes to its verdict, and the card has received what was asked. -/
theorem settles_handshake (hpolls : 2 ≤ config.responsePolls.toNat) (hc : Fresh c) :
    Settles fault config (Known c) handshake (verdict config c)
      (Received c (asked config c)) := by
  refine settles_get_bind fun seen hseen => ?_
  dsimp only
  rw [hseen]
  refine (settles_mode _).bind_ok ((settles_clock _).bind_ok (settles_modify_bind (fun _ => rfl) ?_))
  unfold verdict asked
  by_cases hwakes : Wakes config c
  · have hpresent : c.kind ≠ .absent := hwakes.1
    have hignored : c.resetsIgnored < atLeastOnce config.resetAttempts := hwakes.2
    have hresets : resets config c = c.resetsIgnored + 1 := by
      unfold resets
      rw [if_neg hpresent]
      omega
    have hawake : Fresh ({ c with resetsIgnored := 0, inIdle := true }.hearing
        (List.replicate (c.resetsIgnored + 1) (0, 0))) := ⟨hc.link, hc.fixedResponses, hc.failAfter⟩
    rw [if_neg (not_not_intro hwakes), if_neg (not_not_intro hwakes), hresets]
    refine (settles_goIdle hpolls hc hpresent rfl hignored).bind_ok ?_
    exact (settles_negotiate seen.chipSelect hpolls hawake hpresent rfl).mono (fun _ h => h)
      fun card hcard => hcard.append (c := c) rfl
  · rw [if_pos hwakes, if_pos hwakes, List.append_nil]
    have hreset : Settles fault config (Known c) (goIdle (atLeastOnce config.resetAttempts))
        (.error .resetIgnored) (Received c (List.replicate (resets config c) (0, 0))) := by
      by_cases habsent : c.kind = .absent
      · have hresets : resets config c = atLeastOnce config.resetAttempts := if_pos habsent
        rw [hresets]
        exact (settles_goIdle_absent hc habsent _).mono (fun _ h => h) fun _ h =>
          received_of_known h rfl
      · have hignored : atLeastOnce config.resetAttempts ≤ c.resetsIgnored :=
          Nat.le_of_not_lt fun h => hwakes ⟨habsent, h⟩
        have hresets : resets config c = atLeastOnce config.resetAttempts := by
          unfold resets
          rw [if_neg habsent]
          omega
        obtain ⟨further, hfurther⟩ := Nat.exists_eq_add_of_le hignored
        rw [hresets]
        exact (settles_goIdle_exhausted hc habsent hfurther).mono (fun _ h => h) fun _ h =>
          received_of_known h rfl
    exact hreset.bind_error

/-! ## Counts -/

/-- How often the card has received a command. -/
def timesReceived (card : CardModel) (index : UInt8) : Nat :=
  card.commands.toList.countP (·.1 = index)

theorem countP_roundsAsked (version : Version) (rounds : Nat) :
    (roundsAsked version rounds).countP (·.1 = 0) = 0 ∧
      (roundsAsked version rounds).countP (·.1 = 41) = rounds := by
  induction rounds with
  | zero => exact ⟨rfl, rfl⟩
  | succ rounds ih =>
    rw [roundsAsked_succ, List.countP_append, List.countP_append, ih.1, ih.2]
    exact ⟨rfl, Nat.add_comm 1 rounds⟩

theorem countP_modeAsked (version : Version) :
    [modeAsked version].countP (·.1 = 0) = 0 ∧ [modeAsked version].countP (·.1 = 41) = 0 := by
  cases version <;> exact ⟨rfl, rfl⟩

/-- CMD0 is sent in the loop for it and nowhere else. -/
theorem countP_asked_goIdle : (asked config c).countP (·.1 = 0) = resets config c := by
  unfold asked
  rw [List.countP_append, List.countP_replicate, if_pos (by decide)]
  have hrounds := (countP_roundsAsked c.version (rounds config c)).1
  have hmode := (countP_modeAsked c.version).1
  split
  · rfl
  · rw [List.countP_cons]
    split
    · rfl
    · rw [List.countP_cons]
      split
      · rfl
      · rw [List.countP_append, hrounds]
        split
        · rfl
        · rw [hmode]
          rfl

/-- ACMD41 is sent in each round. -/
theorem countP_asked_sendOperatingCondition (hwakes : Wakes config c) (hecho : c.echoFailure = none)
    (hsupplied : c.Supplied) : (asked config c).countP (·.1 = 41) = rounds config c := by
  have hrounds := (countP_roundsAsked c.version (rounds config c)).2
  have hmode := (countP_modeAsked c.version).2
  unfold asked
  rw [if_neg (not_not_intro hwakes), if_neg (not_not_intro hecho), if_neg (not_not_intro hsupplied),
    List.countP_append, List.countP_replicate, if_neg (by decide), List.countP_cons, List.countP_cons,
    List.countP_append, hrounds]
  split
  · simp
  · rw [hmode]
    simp

theorem timesReceived_of_received {card : CardModel} {commands : List (UInt8 × UInt32)}
    (h : Received c commands card) (index : UInt8) :
    timesReceived card index = timesReceived c index + commands.countP (·.1 = index) := by
  unfold timesReceived
  rw [show card.commands = c.commands ++ commands.toArray from h, Array.toList_append,
    List.countP_append]

/-! ## Cards that conform -/

/-- The mode for a kind of card. -/
def kindMode : Kind → ReadyMode
  | .v2 true => .highCapacityV2
  | .v2 false => .standardCapacityV2
  | _ => .standardCapacityV1

/-- The card answers truly, takes 3.3 volts, and reports no capacity before it has started. -/
structure Conforms (c : CardModel) : Prop where
  echo : c.echo = none
  readyOcr : c.readyOcr = none
  supplied : c.Supplied
  capacity : c.ocr.toNat.testBit 30 = false

theorem Conforms.echoFailure (h : Conforms c) : c.echoFailure = none := by
  have hechoed : c.echoed = (0x01, 0xAA) := by
    unfold echoed
    rw [h.echo]
    rfl
  have hvoltage : ¬ (0x01 : UInt8) &&& 0x0F ≠ 0x01 := by decide
  unfold CardModel.echoFailure
  rw [hechoed, if_neg hvoltage, if_neg (not_not_intro rfl)]
  split
  · rfl
  · rfl

/-- A started card has the bits of its kind. -/
theorem Conforms.startedOcr (h : Conforms c) :
    c.startedOcr.toNat.testBit 31 = true ∧
      c.startedOcr.toNat.testBit 30 = decide (c.kind = .v2 true) := by
  unfold CardModel.startedOcr
  rw [h.readyOcr, Option.getD_none, UInt32.toNat_or, UInt32.toNat_or, Nat.testBit_or,
    Nat.testBit_or, Nat.testBit_or, Nat.testBit_or, h.capacity]
  by_cases hkind : c.kind = .v2 true
  · rw [if_pos hkind, decide_eq_true hkind]
    exact ⟨by simp [Nat.testBit], by decide⟩
  · rw [if_neg hkind, decide_eq_false hkind]
    exact ⟨by simp [Nat.testBit], by decide⟩

theorem Conforms.startedMode (h : Conforms c) (hpresent : c.kind ≠ .absent) :
    c.startedMode = .ok (kindMode c.kind) := by
  obtain ⟨hpowered, hcapacity⟩ := h.startedOcr
  unfold CardModel.startedMode
  rw [hpowered, hcapacity]
  cases hkind : c.kind with
  | absent => exact absurd hkind hpresent
  | v1 => rfl
  | v2 highCapacity =>
    cases highCapacity
    · rfl
    · rfl

/-- A conforming card comes up in the mode of its kind, if it does so within the budgets. -/
theorem Conforms.verdict (h : Conforms c) (hwakes : Wakes config c)
    (hbusy : c.busyRounds < config.readyRounds.toNat) :
    verdict config c = .ok (kindMode c.kind) := by
  have hrounds : ¬ config.readyRounds.toNat ≤ c.busyRounds := by omega
  unfold Session.verdict
  rw [if_neg (not_not_intro hwakes), h.echoFailure]
  dsimp only
  rw [if_neg (not_not_intro h.supplied), if_neg hrounds, h.startedMode hwakes.1]

/-! ## The main theorem -/

/-- Bringing up a fresh card comes to its verdict, whatever is remembered of it, however it is set up
and whatever the budgets, if only the card is left a byte to think in. The loops send as many
commands as the card makes them, within their bounds. -/
theorem start_negotiation (fault : ε) (s : Session) {card : CardModel} (hcard : Fresh card)
    (hpolls : 2 ≤ s.config.responsePolls.toNat) :
    let run := (start.exec s).run (bus fault) card
    run.value.1 = (verdict s.config card).mapError .card ∧
    run.bus.commands = card.commands ++ (asked s.config card).toArray ∧
    (card.kind ≠ .absent → timesReceived run.bus 0 = timesReceived card 0 +
      min (card.resetsIgnored + 1) (max s.config.resetAttempts.toNat 1)) ∧
    (Wakes s.config card → card.echoFailure = none → card.Supplied →
      timesReceived run.bus 41 = timesReceived card 41 +
        min (card.busyRounds + 1) s.config.readyRounds.toNat) ∧
    (Conforms card → Wakes s.config card → card.busyRounds < s.config.readyRounds.toNat →
      run.value.1 = .ok (kindMode card.kind)) := by
  intro run
  have hcore : Fresh card.core := ⟨hcard.link, hcard.fixedResponses, hcard.failAfter⟩
  have hstart : Settles fault s.config (Known card.core) start (verdict s.config card.core)
      (Received card.core (asked s.config card.core)) :=
    settles_modify_bind (fun _ => rfl) (settles_recording (settles_handshake hpolls hcore))
  obtain ⟨hresult, -, hreceived⟩ := hstart s rfl card rfl
  have hreceived : Received card (asked s.config card) run.bus := hreceived
  have hverdict : run.value.1 = (verdict s.config card).mapError .card := hresult
  refine ⟨hverdict, hreceived, fun hpresent => ?_, fun hwakes hecho hsupplied => ?_,
    fun hconforms hwakes hbusy => ?_⟩
  · rw [timesReceived_of_received hreceived, countP_asked_goIdle]
    unfold resets
    rw [if_neg hpresent]
    rfl
  · rw [timesReceived_of_received hreceived,
      countP_asked_sendOperatingCondition hwakes hecho hsupplied]
    rfl
  · rw [hverdict, hconforms.verdict hwakes hbusy]
    rfl

/-- A card of high capacity that ignores its first reset. -/
def slowCard : CardModel := { CardModel.ofKind (.v2 true) with resetsIgnored := 1 }

/-- It comes up at the second reset and in the third round. -/
theorem start_negotiation_slowCard :
    let run := (start.exec (fresh 0 {})).run (bus ()) slowCard
    Fresh slowCard ∧ 2 ≤ (fresh 0 {}).config.responsePolls.toNat ∧
      run.value.1 = .ok .highCapacityV2 ∧
      timesReceived run.bus 0 = 2 ∧ timesReceived run.bus 41 = 3 := by
  have hfresh : Fresh slowCard := ⟨rfl, rfl, rfl⟩
  have hpolls : 2 ≤ (fresh 0 {}).config.responsePolls.toNat := by decide
  obtain ⟨hresult, -, hresets, hrounds, -⟩ := start_negotiation () (fresh 0 {}) hfresh hpolls
  have hverdict : verdict (fresh 0 {}).config slowCard = .ok .highCapacityV2 := by decide +kernel
  have hzero : timesReceived slowCard 0 = 0 := rfl
  have hloop : timesReceived slowCard 41 = 0 := rfl
  refine ⟨hfresh, hpolls, ?_, ?_, ?_⟩
  · rw [hresult, hverdict]
    rfl
  · rw [hresets (by decide), hzero]
    decide
  · rw [hrounds (by decide) (by decide) (by decide), hloop]
    decide +kernel

end Session

end SdCard
