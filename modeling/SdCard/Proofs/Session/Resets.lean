import SdCard.Proofs.Bus.Resets
import SdCard.Proofs.Session.Startup

/-!
# How a handshake gets past CMD0

The handshake counts its attempts of CMD0, and the session keeps the response to the last one alone.
`Roused` relates both to the replies that were polled in all of the attempts.

* `goIdle_resetCourse`: the loop, by induction on the attempts that are left;
* `resetless_afterReset`: nothing that follows the loop sends CMD0, or fails for want of an answer
  to it;
* `start_roused`: every handshake ends its attempts with a card that is idle, or has made all of
  them and keeps the answer to the last one, or is ended by a fault of the bus.
-/

namespace SdCard

namespace Session

variable {ε σ α β : Type}

/-! ## Actions that send no CMD0 -/

/-- The action sends no CMD0, and its error is one of `errors`. -/
structure Resetless (errors : Error ε → Prop) (s : σ) (t : List (Event ε))
    (result : Except (Error ε) α) (s' : σ) : Prop where
  resets : Resets t []
  error : ∀ error, result = .error error → errors error

section Resetless

variable {errors : Error ε → Prop}

theorem Resetless.bind {action : Action ε σ α} {f : α → Action ε σ β}
    (haction : action.Satisfies (Resetless errors))
    (hf : ∀ value, (f value).Satisfies (Resetless errors)) :
    (action >>= f).Satisfies (Resetless errors) := by
  refine haction.bind hf ?_ ?_
  · intro s t error s' h
    exact ⟨h.resets, fun e he => h.error e (by cases he; rfl)⟩
  · intro s t value s' u result s'' h₁ h₂
    exact ⟨h₁.resets.append h₂.resets, h₂.error⟩

theorem resetless_pure (value : α) :
    (pure value : Action ε σ α).Satisfies (Resetless errors) :=
  Action.satisfies_pure fun _ => ⟨resets_nil, fun _ h => nomatch h⟩

theorem resetless_throw {error : Error ε} (h : errors error) :
    (throw error : Action ε σ α).Satisfies (Resetless errors) :=
  Action.satisfies_throw fun _ => ⟨resets_nil, fun _ herror => by cases herror; exact h⟩

theorem resetless_get : (get : Action ε σ σ).Satisfies (Resetless errors) :=
  Action.satisfies_get fun _ => ⟨resets_nil, fun _ h => nomatch h⟩

theorem resetless_modify (f : σ → σ) :
    (modify f : Action ε σ Unit).Satisfies (Resetless errors) :=
  Action.satisfies_modify fun _ => ⟨resets_nil, fun _ h => nomatch h⟩

theorem resetless_log (record : LogRecord ε) :
    (Action.log record : Action ε σ Unit).Satisfies (Resetless errors) :=
  Action.satisfies_log fun _ => ⟨resets_of_busCalls_nil rfl, fun _ h => nomatch h⟩

theorem resetless_require {condition : Prop} [Decidable condition] {failure : Failure}
    (h : errors (.card failure)) :
    (Action.require condition failure : Action ε σ Unit).Satisfies (Resetless errors) := by
  unfold Action.require
  split
  · exact resetless_pure ()
  · exact resetless_throw h

/-- An exchange fails by the bus alone. -/
theorem resetless_exchange {exchange : Exchange ε α} (hfault : ∀ fault, errors (.transport fault))
    (h : exchange.Satisfies fun t _ => Resets t []) :
    (Action.exchange exchange : Action ε σ α).Satisfies (Resetless errors) := by
  refine Action.satisfies_exchange h fun s t result ht => ⟨ht, fun error herror => ?_⟩
  cases result with
  | ok value => cases herror
  | error fault =>
    cases herror
    exact hfault fault

theorem resetless_control {call : Control} (hfault : ∀ fault, errors (.transport fault))
    (h : call ≠ .forceSelect true) :
    (Action.exchange (Exchange.control call) : Action ε σ Unit).Satisfies (Resetless errors) := by
  refine resetless_exchange hfault (Exchange.satisfies_control fun answer => ?_)
  refine resets_of_not_selects fun event hevent => ?_
  rw [List.mem_singleton.mp hevent]
  cases call with
  | forceSelect active =>
    cases active with
    | false => rfl
    | true => exact absurd rfl h
  | _ => rfl

/-- A card is sent something else than CMD0. -/
theorem resetless_whileSelected {body : Exchange ε α} {byte : UInt8}
    (hfault : ∀ fault, errors (.transport fault)) (htalks : body.Talks) (hopens : body.Opens byte)
    (h : byte ≠ 0x40) :
    (Action.exchange (Exchange.whileSelected body) : Action ε σ α).Satisfies
      (Resetless errors) := by
  refine resetless_exchange hfault fun t result ht => ?_
  rcases traces_whileSelected ht with ⟨fault, -, rfl⟩ |
    ⟨talk, queries, released, reply, hrun, hqueries, rfl⟩
  · exact resets_of_not_selects (by simp [Event.selects])
  · obtain ⟨answer, rest, rfl⟩ := hopens _ _ hrun
    have hother : sendsReset (.transfer byte answer :: rest) = false := decide_eq_false h
    exact resets_held (htalks _ _ hrun) hqueries (by rw [hother]; rfl)

theorem resetless_commandWithPayload (hfault : ∀ fault, errors (.transport fault)) {cmd : Command}
    (h : 0x40 ||| (cmd.index &&& 0x3F) ≠ 0x40) (n : Nat) :
    (commandWithPayload cmd n : Action ε Session (Bytes (n + 1))).Satisfies
      (Resetless errors) := by
  refine Resetless.bind resetless_get fun session => ?_
  refine Resetless.bind (resetless_whileSelected hfault (Exchange.Talks.bind
    (Exchange.talks_sendCommand cmd) fun _ => Exchange.talks_receiveResponse _ _)
    ((Exchange.opens_sendCommand cmd).bind _) h) fun response => ?_
  exact Resetless.bind (resetless_modify _) fun _ => resetless_pure response

theorem resetless_command (hfault : ∀ fault, errors (.transport fault)) {cmd : Command}
    (h : 0x40 ||| (cmd.index &&& 0x3F) ≠ 0x40) :
    (command cmd : Action ε Session UInt8).Satisfies (Resetless errors) := by
  refine Resetless.bind resetless_get fun session => ?_
  refine Resetless.bind (resetless_whileSelected hfault (talks_sendAndPoll _ _)
    ((Exchange.opens_sendCommand cmd).bind _) h) fun response => ?_
  exact Resetless.bind (resetless_modify _) fun _ => resetless_pure response

theorem resetless_applicationCommand (hfault : ∀ fault, errors (.transport fault))
    (cmd : Command) :
    (applicationCommand cmd : Action ε Session UInt8).Satisfies (Resetless errors) := by
  refine Resetless.bind resetless_get fun session => ?_
  refine Resetless.bind (resetless_whileSelected hfault
    (Exchange.talks_sendApplicationCommand _ _)
    ((Exchange.opens_sendCommand .applicationCommand).bind _) (by decide)) fun response => ?_
  exact Resetless.bind (resetless_modify _) fun _ => resetless_pure response

end Resetless

/-! ## What comes after CMD0 -/

/-- The error does not say that CMD0 was given up. -/
def PastReset (error : Error ε) : Prop := error ≠ .card .resetIgnored

theorem pastReset_transport (fault : ε) : PastReset (.transport fault) := nofun

theorem pastReset_card {failure : Failure} (h : failure ≠ .resetIgnored) :
    PastReset (.card failure : Error ε) := fun herror => h (Error.card.inj herror)

theorem resetless_findVersion :
    (findVersion : Action ε Session Version).Satisfies (Resetless PastReset) := by
  refine Resetless.bind
    (resetless_commandWithPayload pastReset_transport (by decide) 4) fun response => ?_
  split
  · refine Resetless.bind (resetless_require (pastReset_card (by decide))) fun _ => ?_
    exact Resetless.bind (resetless_require (pastReset_card (by decide))) fun _ => resetless_pure _
  · split
    · exact resetless_pure _
    · exact resetless_throw (pastReset_card (by decide))

theorem resetless_readOcr :
    (readOcr : Action ε Session (UInt8 × Ocr)).Satisfies (Resetless PastReset) :=
  Resetless.bind (resetless_commandWithPayload pastReset_transport (by decide) 4)
    fun _ => resetless_pure _

theorem resetless_checkVoltage :
    (checkVoltage : Action ε Session Unit).Satisfies (Resetless PastReset) :=
  Resetless.bind resetless_readOcr fun _ => resetless_require (pastReset_card (by decide))

theorem resetless_leaveIdle (version : Version) (rounds : Nat) :
    (leaveIdle version rounds : Action ε Session Unit).Satisfies (Resetless PastReset) := by
  induction rounds with
  | zero => exact resetless_throw (pastReset_card (by decide))
  | succ rounds ih =>
    refine Resetless.bind (resetless_applicationCommand pastReset_transport _) fun response => ?_
    split
    · exact resetless_pure ()
    · exact ih

theorem resetless_findMode (version : Version) :
    (findMode version : Action ε Session ReadyMode).Satisfies (Resetless PastReset) := by
  unfold findMode
  split
  · refine Resetless.bind resetless_readOcr fun _ => ?_
    exact Resetless.bind (resetless_require (pastReset_card (by decide))) fun _ => resetless_pure _
  · have hcommand : (command (.setBlockLength (.ofNat sectorSize)) :
        Action ε Session UInt8).Satisfies (Resetless PastReset) :=
      resetless_command pastReset_transport (by decide)
    refine Resetless.bind hcommand fun response => ?_
    exact Resetless.bind (resetless_require (pastReset_card (by decide))) fun _ => resetless_pure _

/-- Everything that a handshake does once the card is idle. -/
theorem resetless_afterReset (chipSelect : UInt8) (config : Config) :
    (do
      let version ← findVersion
      modify fun session => { session with version, state := .initializing version }
      Action.log (.versionFound chipSelect version)
      Action.exchange <| Exchange.control (.clock config.dataHz)
      checkVoltage
      leaveIdle version config.readyRounds.toNat
      let mode ← findMode version
      modify fun session =>
        { session with state := .ready mode, lastResponse := 0, lastToken := 0, lastChecksum := 0 }
      Action.log (.becameReady chipSelect mode)
      return mode : Action ε Session ReadyMode).Satisfies (Resetless PastReset) := by
  refine Resetless.bind resetless_findVersion fun version => ?_
  refine Resetless.bind (resetless_modify _) fun _ => ?_
  refine Resetless.bind (resetless_log _) fun _ => ?_
  refine Resetless.bind (resetless_control pastReset_transport (by simp)) fun _ => ?_
  refine Resetless.bind resetless_checkVoltage fun _ => ?_
  refine Resetless.bind (resetless_leaveIdle version _) fun _ => ?_
  refine Resetless.bind (resetless_findMode version) fun mode => ?_
  refine Resetless.bind (resetless_modify _) fun _ => ?_
  exact Resetless.bind (resetless_log _) fun _ => resetless_pure mode

/-! ## The attempts -/

/-- The error came from the bus. -/
def OfBus (error : Error ε) : Prop := ∃ fault, error = .transport fault

theorem ofBus_transport (fault : ε) : OfBus (.transport fault) := ⟨fault, rfl⟩

/-- A wake-up sends no CMD0 and leaves the session alone. -/
theorem powerUp_resetless : (powerUp : Action ε Session Unit).Satisfies
    fun s t result s' => s' = s ∧ Resetless OfBus s t result s' := by
  refine wakeUp_powerUp.mono ?_
  rintro s t result s' ⟨hsame, answer, rfl, ht⟩
  refine ⟨hsame, resets_of_not_selects ht.not_selects, fun error herror => ?_⟩
  cases answer with
  | ok => cases herror
  | error fault => exact ⟨fault, (Except.error.inj herror).symm⟩

/-- One attempt draws what a poll makes of its replies, and the session keeps that. -/
theorem command_attempt : (command .goIdle : Action ε Session UInt8).Satisfies
    fun _ t result s' => match result with
      | .ok response => s'.lastResponse = response ∧
          ∃ replies, Resets t [replies] ∧ response = polledAnswer replies
      | .error error => OfBus error := by
  have hbody : ∀ bound, (Exchange.whileSelected do
      Exchange.sendCommand .goIdle
      Exchange.poll bound : Exchange ε UInt8).Satisfies fun t result =>
        ∀ response, result = .ok response →
          ∃ replies, Resets t [replies] ∧ response = polledAnswer replies := by
    intro bound t result ht response hresult
    rcases traces_whileSelected ht with ⟨fault, rfl, -⟩ |
      ⟨talk, queries, released, reply, hrun, hqueries, rfl⟩
    · cases hresult
    · obtain ⟨answer, rest, rfl⟩ := (Exchange.opens_sendCommand .goIdle).bind _ _ _ hrun
      exact ⟨_, resets_held (talks_sendAndPoll _ _ _ _ hrun) hqueries rfl,
        Exchange.answers_sendAndPoll _ _ _ _ hrun response hresult⟩
  have hexchange : ∀ bound, (Action.exchange (Exchange.whileSelected do
      Exchange.sendCommand .goIdle
      Exchange.poll bound) : Action ε Session UInt8).Satisfies fun _ t result _ =>
        match result with
        | .ok response => ∃ replies, Resets t [replies] ∧ response = polledAnswer replies
        | .error error => OfBus error := by
    refine fun bound => Action.satisfies_exchange (hbody bound) fun s t result ht => ?_
    cases result with
    | ok response => exact ht response rfl
    | error fault => exact ofBus_transport fault
  have hkeep : ∀ response, (do
      keepResponse response
      return response : Action ε Session UInt8).Satisfies fun _ t result s' =>
        t = [] ∧ result = .ok response ∧ s'.lastResponse = response := by
    intro response s t result s' ht
    cases ht
    exact ⟨rfl, rfl, rfl⟩
  refine Action.satisfies_get_bind fun session => ?_
  refine (hexchange _).bind hkeep ?_ ?_
  · intro s t error s' h _
    exact h
  · rintro s t response s' u result s'' h ⟨rfl, rfl, hlast⟩ _
    rw [List.append_nil]
    exact ⟨hlast, h⟩

/-- What at most `count` attempts come to, with the replies that were polled in each of them. -/
inductive ResetCourse (count : Nat) (s : Session) (t : List (Event ε)) :
    Except (Error ε) Unit → Session → Prop
  /-- The last attempt that was made has brought the card into its idle state. -/
  | idle {attempts s'} : Resets t attempts →
      (attempts.map polledAnswer).getLast? = some Response.idle → ResetCourse count s t (.ok ()) s'
  /-- All attempts were made, and the session keeps what the last one drew. -/
  | ignored {attempts s'} : Resets t attempts → attempts.length = count →
      s'.lastResponse = (attempts.map polledAnswer).getLastD s.lastResponse →
      ResetCourse count s t (.error (.card .resetIgnored)) s'
  | broken {fault s'} : ResetCourse count s t (.error (.transport fault)) s'

/-- One attempt more, before the others. -/
theorem ResetCourse.cons {count : Nat} {s s' s'' : Session} {t u : List (Event ε)}
    {result : Except (Error ε) Unit} {replies : List UInt8} (hresets : Resets t [replies])
    (hlast : s'.lastResponse = polledAnswer replies) (h : ResetCourse count s' u result s'') :
    ResetCourse (count + 1) s (t ++ u) result s'' := by
  cases h with
  | @idle attempts _ hrest hidle =>
    refine .idle (hresets.append hrest) ?_
    rw [List.map_append, List.getLast?_append, hidle]
    rfl
  | @ignored attempts _ hrest hlength hkept =>
    refine .ignored (hresets.append hrest) (congrArg Nat.succ hlength) ?_
    rw [hkept, hlast]
    exact (List.getLastD_cons ..).symm
  | broken => exact .broken

/-- The attempts run until one makes the card idle, or a fault of the bus ends them. -/
theorem goIdle_resetCourse (attempts : Nat) :
    (goIdle attempts : Action ε Session Unit).Satisfies (ResetCourse attempts) := by
  induction attempts with
  | zero => exact Action.satisfies_throw fun _ => .ignored resets_nil rfl rfl
  | succ attempts ih =>
    have hnext : ∀ response, (if response = Response.idle then pure () else goIdle attempts :
        Action ε Session Unit).Satisfies fun s t result s' =>
          (response = Response.idle → t = [] ∧ result = .ok ()) ∧
          (response ≠ Response.idle → ResetCourse attempts s t result s') := by
      intro response
      split
      · rename_i hidle
        exact Action.satisfies_pure fun s => ⟨fun _ => ⟨rfl, rfl⟩, fun h => absurd hidle h⟩
      · rename_i hother
        exact ih.mono fun s t result s' h => ⟨fun hidle => absurd hidle hother, fun _ => h⟩
    have hattempt : (do
        let response ← command .goIdle
        if response = Response.idle then pure () else goIdle attempts :
        Action ε Session Unit).Satisfies (ResetCourse (attempts + 1)) := by
      refine command_attempt.bind hnext ?_ ?_
      · rintro s t error s' ⟨fault, rfl⟩
        exact .broken
      · rintro s t response s' u result s'' ⟨hlast, replies, hresets, hresponse⟩ ⟨hidle, hother⟩
        by_cases h : response = Response.idle
        · obtain ⟨rfl, rfl⟩ := hidle h
          rw [List.append_nil]
          exact .idle hresets (congrArg some (hresponse.symm.trans h))
        · exact .cons hresets (hlast.trans hresponse) (hother h)
    refine powerUp_resetless.bind (fun _ => hattempt) ?_ ?_
    · rintro s t error s' ⟨-, -, herror⟩
      obtain ⟨fault, rfl⟩ := herror error rfl
      exact .broken
    · rintro s t _ s' u result s'' ⟨rfl, hwake, -⟩ h
      cases h with
      | idle hresets hidle => exact .idle (hwake.append hresets) hidle
      | ignored hresets hlength hkept => exact .ignored (hwake.append hresets) hlength hkept
      | broken => exact .broken

/-! ## Handshakes -/

/-- How at most `count` attempts of a handshake get its card past CMD0, or fail to. -/
inductive Roused (count : Nat) (t : List (Event ε)) :
    Except (Error ε) ReadyMode → Session → Prop
  /-- An attempt has brought the card into its idle state, and there is none after it. -/
  | idle {attempts result s'} : Resets t attempts →
      (attempts.map polledAnswer).getLast? = some Response.idle →
      result ≠ .error (.card .resetIgnored) → Roused count t result s'
  /-- All attempts were made, and the session keeps what the last one drew. -/
  | ignored {attempts last s'} : Resets t attempts → attempts.length = count →
      attempts.getLast? = some last → s'.lastResponse = polledAnswer last →
      Roused count t (.error (.card .resetIgnored)) s'
  | broken {fault s'} : Roused count t (.error (.transport fault)) s'

/-- What comes before the attempts makes no difference to them. -/
theorem roused_bind {count : Nat} {action : Action ε Session α}
    {f : α → Action ε Session ReadyMode} (haction : action.Satisfies (Resetless OfBus))
    (hf : ∀ value, (f value).Satisfies fun _ => Roused count) :
    (action >>= f).Satisfies fun _ => Roused count := by
  refine haction.bind hf ?_ ?_
  · rintro s t error s' ⟨-, herror⟩
    obtain ⟨fault, rfl⟩ := herror error rfl
    exact .broken
  · rintro s t value s' u result s'' ⟨hresets, -⟩ h
    cases h with
    | idle hrest hidle hresult => exact .idle (hresets.append hrest) hidle hresult
    | ignored hrest hlength hlast hkept => exact .ignored (hresets.append hrest) hlength hlast hkept
    | broken => exact .broken

/-- Nothing that comes after the attempts is an attempt. -/
theorem roused_goIdle {count : Nat} (hcount : 0 < count) {f : Unit → Action ε Session ReadyMode}
    (hf : (f ()).Satisfies (Resetless PastReset)) :
    (goIdle count >>= f).Satisfies fun _ => Roused count := by
  refine (goIdle_resetCourse count).bind (fun _ => hf) ?_ ?_
  · intro s t error s' h
    cases h with
    | @ignored attempts _ hresets hlength hkept =>
      cases hlast : attempts.getLast? with
      | none =>
        rw [List.getLast?_eq_none_iff.mp hlast] at hlength
        exact absurd hlength (Nat.ne_of_lt hcount)
      | some last =>
        refine .ignored hresets hlength hlast ?_
        rw [hkept, List.getLastD_eq_getLast?, List.getLast?_map, hlast]
        rfl
    | broken => exact .broken
  · rintro s t _ s' u result s'' h ⟨hrest, herror⟩
    cases h with
    | idle hresets hidle =>
      exact .idle (hresets.append_nil hrest) hidle fun hresult => herror _ hresult rfl

theorem handshake_roused : (handshake : Action ε Session ReadyMode).Satisfies
    fun s t result s' => Roused (atLeastOnce s.config.resetAttempts) t result s' := by
  refine Action.satisfies_get_bind fun session => ?_
  suffices h : Action.Satisfies _ fun _ => Roused (atLeastOnce session.config.resetAttempts) from
    h.mono fun s t result s' h hs => hs ▸ h
  refine roused_bind (resetless_control ofBus_transport (by simp)) fun _ => ?_
  refine roused_bind (resetless_control ofBus_transport (by simp)) fun _ => ?_
  refine roused_bind (resetless_modify _) fun _ => ?_
  exact roused_goIdle (Nat.le_max_right _ _) (resetless_afterReset _ _)

/-- The note of an error changes nothing of how the card was got past CMD0. -/
theorem start_roused : (start : Action ε Session ReadyMode).Satisfies
    fun s t result s' => Roused (atLeastOnce s.config.resetAttempts) t result s' := by
  have hrecorded : (recording handshake : Action ε Session ReadyMode).Satisfies
      fun s t result s' => Roused (atLeastOnce s.config.resetAttempts) t result s' := by
    refine Action.satisfies_noting handshake_roused record_noted (fun _ _ _ _ h => h) ?_
    rintro s t error s' u _ s'' h ⟨hcalls, rfl, rfl⟩
    have hsilent := resets_of_busCalls_nil hcalls
    cases h with
    | idle hresets hidle hresult => exact .idle (hresets.append_nil hsilent) hidle hresult
    | ignored hresets hlength hlast hkept =>
      exact .ignored (hresets.append_nil hsilent) hlength hlast hkept
    | broken => exact .broken
  intro s t result s' ht
  exact hrecorded s.reset t result s' ht

end Session

end SdCard
