import SdCard.Proofs.Bus.Conversation
import SdCard.Session.Handshake
import SdCard.Session.Read
import SdCard.Session.Register
import SdCard.Session.Write

/-!
# How the actions of a session conduct themselves

Three contracts, each for a kind of action, say what every run of it does to the bus and to the
session. They hold on every bus, whatever it answers and wherever it fails.

* `Steady`: the card is selected. There is talk on the bus, and the session changes in what it
  remembers of responses at most;
* `Conduct`: the card is not selected. The calls are a conversation, and the session again keeps
  all but what it remembers of responses;
* `Recorded`: an error, if there was one, is noted in the session.

All three rule out that such an action refuses a request, or blames the card without a reason:
an error is a fault of the bus, or a failure at a known step.
-/

namespace SdCard

variable {ε σ α β : Type}

/-- The error came from the bus or from the card, at a step that is known. -/
def Error.IsCause : Error ε → Prop
  | .transport _ => True
  | .card failure => failure ≠ .unknown
  | .notReady | .outOfRange .. => False

/-- The fault of the bus behind an error. -/
def Error.fault? : Error ε → Option ε
  | .transport fault => some fault
  | _ => none

/-- The fault of the bus that a result reports. -/
def Action.fault? : Except (Error ε) α → Option ε
  | .ok _ => none
  | .error error => error.fault?

namespace Session

/-- One session comes from the other by forgetting or learning responses. -/
structure Kept (before after : Session) : Prop where
  config : after.config = before.config
  chipSelect : after.chipSelect = before.chipSelect
  version : after.version = before.version
  state : after.state = before.state

theorem Kept.refl (session : Session) : Kept session session := ⟨rfl, rfl, rfl, rfl⟩

theorem Kept.trans {a b c : Session} (hab : Kept a b) (hbc : Kept b c) : Kept a c where
  config := hbc.config.trans hab.config
  chipSelect := hbc.chipSelect.trans hab.chipSelect
  version := hbc.version.trans hab.version
  state := hbc.state.trans hab.state

/-- How an operation of the session wakes its card up, if it is one that does. -/
def waking (session : Session) (wakes : Bool) : Option Waking :=
  if wakes then some ⟨session.chipSelect, session.config.powerUpBytes⟩ else none

theorem waking_congr {s s' : Session} (wakes : Bool) (hconfig : s'.config = s.config)
    (hchipSelect : s'.chipSelect = s.chipSelect) : s'.waking wakes = s.waking wakes := by
  unfold waking
  rw [hconfig, hchipSelect]

/-- What an action does while its card is selected. The session is a part of its state. -/
structure Steady (view : σ → Session) (s : σ) (t : List (Event ε))
    (result : Except (Error ε) α) (s' : σ) : Prop where
  kept : Kept (view s) (view s')
  cause : ∀ error, result = .error error → error.IsCause
  talk : Talk t (Action.fault? result)

/-- What an action does while its card is not selected. -/
structure Conduct (view : σ → Session) (wakes : Bool) (s : σ) (t : List (Event ε))
    (result : Except (Error ε) α) (s' : σ) : Prop where
  kept : Kept (view s) (view s')
  cause : ∀ error, result = .error error → error.IsCause
  conversation : Conversation ((view s).waking wakes) (busCalls t) (Action.fault? result)

/-- The session after the note of an error. -/
def noted (session : Session) : Error ε → Session
  | .card failure => { session with state := .failed failure }
  | .transport _ => { session with state := .failed .unknown }
  | .notReady | .outOfRange .. => session

/-- The session after the note of an error, if the result is one. -/
def settled (session : Session) : Except (Error ε) α → Session
  | .ok _ => session
  | .error error => session.noted error

/-- What an action does that takes note of its error. -/
structure Recorded (view : σ → Session) (s : σ) (t : List (Event ε))
    (result : Except (Error ε) α) (s' : σ) : Prop where
  left : ∃ session, Kept (view s) session ∧ view s' = session.settled result
  cause : ∀ error, result = .error error → error.IsCause
  conversation : Conversation none (busCalls t) (Action.fault? result)

/-! ## Actions while the card is selected -/

section Steady

variable {view : σ → Session}

theorem Steady.ok (view : σ → Session) (s : σ) (value : α) :
    Steady (ε := ε) view s [] (.ok value) s where
  kept := .refl _
  cause _ h := nomatch h
  talk := .nil

theorem steady_bind {action : Action ε σ α} {f : α → Action ε σ β}
    (haction : action.Satisfies (Steady view)) (hf : ∀ value, (f value).Satisfies (Steady view)) :
    (action >>= f).Satisfies (Steady view) := by
  refine haction.bind hf ?_ ?_
  · intro s t error s' h
    exact ⟨h.kept, fun e he => h.cause e (by cases he; rfl), h.talk⟩
  · intro s t value s' u result s'' h₁ h₂
    exact ⟨h₁.kept.trans h₂.kept, h₂.cause, h₁.talk.append h₂.talk⟩

theorem steady_pure (value : α) : (pure value : Action ε σ α).Satisfies (Steady view) :=
  Action.satisfies_pure fun s => Steady.ok view s value

theorem steady_get : (get : Action ε σ σ).Satisfies (Steady view) :=
  Action.satisfies_get fun s => Steady.ok view s s

theorem steady_modify {f : σ → σ} (h : ∀ s, Kept (view s) (view (f s))) :
    (modify f : Action ε σ Unit).Satisfies (Steady view) :=
  Action.satisfies_modify fun s => ⟨h s, fun _ h => (nomatch h), .nil⟩

theorem steady_require {condition : Prop} [Decidable condition] {failure : Failure}
    (h : failure ≠ .unknown) :
    (Action.require condition failure : Action ε σ Unit).Satisfies (Steady view) := by
  refine Action.satisfies_require (fun _ s => Steady.ok view s ()) fun _ s => ⟨.refl _, ?_, .nil⟩
  intro error herror
  cases herror
  exact h

theorem steady_exchange {exchange : Exchange ε α} (h : exchange.Talks) :
    (Action.exchange exchange : Action ε σ α).Satisfies (Steady view) := by
  refine Action.satisfies_exchange h fun s t result ht => ?_
  cases result with
  | ok value => exact ⟨.refl _, fun _ h => (nomatch h), ht⟩
  | error fault => exact ⟨.refl _, fun _ h => by cases h; trivial, ht⟩

theorem steady_keepResponse (response : UInt8) :
    (keepResponse response : Action ε Session Unit).Satisfies (Steady id) :=
  steady_modify fun _ => ⟨rfl, rfl, rfl, rfl⟩

theorem steady_keepToken (token : UInt8) :
    (keepToken token : Action ε Session Unit).Satisfies (Steady id) :=
  steady_modify fun _ => ⟨rfl, rfl, rfl, rfl⟩

theorem steady_inSession {n : Nat} {action : Action ε Session α}
    (h : action.Satisfies (Steady id)) :
    (Reading.inSession action : Action ε (Reading n) α).Satisfies (Steady Reading.session) :=
  Action.satisfies_onPart h fun _ _ _ _ ht => ⟨ht.kept, ht.cause, ht.talk⟩

theorem steady_receiveInto {n : Nat} (index count : Nat) :
    (Reading.receiveInto index count : Action ε (Reading n) Unit).Satisfies
      (Steady Reading.session) := by
  induction count generalizing index with
  | zero => exact steady_pure ()
  | succ count ih =>
    exact steady_bind (steady_exchange (Exchange.talks_transfer idleByte)) fun byte =>
      steady_bind (steady_modify fun _ => .refl _) fun _ => ih (index + 1)

/-- A command and the wait for its response. -/
theorem talks_sendAndPoll (command : Command) (polls : UInt32) :
    (do
      Exchange.sendCommand command
      Exchange.poll polls : Exchange ε UInt8).Talks :=
  Exchange.Talks.bind (Exchange.talks_sendCommand command) fun _ => Exchange.talks_poll polls

theorem steady_readSelected {n : Nat} (address : UInt32) :
    (Reading.readSelected address : Action ε (Reading n) UInt16).Satisfies
      (Steady Reading.session) := by
  refine steady_bind steady_get fun reading => ?_
  refine steady_bind (steady_exchange (talks_sendAndPoll _ _)) fun response => ?_
  refine steady_bind (steady_inSession (steady_keepResponse response)) fun _ => ?_
  refine steady_bind (steady_require (by decide)) fun _ => ?_
  refine steady_bind (steady_exchange (Exchange.talks_poll _)) fun token => ?_
  refine steady_bind (steady_inSession (steady_keepToken token)) fun _ => ?_
  refine steady_bind (steady_require (by decide)) fun _ => ?_
  refine steady_bind (steady_receiveInto 0 sectorSize) fun _ => ?_
  exact steady_bind (steady_exchange (Exchange.talks_receive 2)) fun _ => steady_pure _

theorem steady_readCsdSelected :
    (readCsdSelected : Action ε Session (Csd × UInt16)).Satisfies (Steady id) := by
  refine steady_bind steady_get fun session => ?_
  refine steady_bind (steady_exchange (talks_sendAndPoll _ _)) fun response => ?_
  refine steady_bind (steady_keepResponse response) fun _ => ?_
  refine steady_bind (steady_require (by decide)) fun _ => ?_
  refine steady_bind (steady_exchange (Exchange.talks_poll _)) fun token => ?_
  refine steady_bind (steady_keepToken token) fun _ => ?_
  refine steady_bind (steady_require (by decide)) fun _ => ?_
  refine steady_bind (steady_exchange (Exchange.talks_receive 16)) fun _ => ?_
  exact steady_bind (steady_exchange (Exchange.talks_receive 2)) fun _ => steady_pure _

theorem steady_writeSelected (address : UInt32) (sector : Sector) :
    (writeSelected address sector : Action ε Session Unit).Satisfies (Steady id) := by
  refine steady_bind steady_get fun session => ?_
  refine steady_bind (steady_exchange (talks_sendAndPoll _ _)) fun response => ?_
  refine steady_bind (steady_keepResponse response) fun _ => ?_
  refine steady_bind (steady_require (by decide)) fun _ => ?_
  refine steady_bind (steady_exchange (Exchange.Talks.bind (Exchange.talks_send _) fun _ =>
    Exchange.talks_transfer idleByte)) fun token => ?_
  refine steady_bind (steady_keepToken token) fun _ => ?_
  refine steady_bind (steady_require (by decide)) fun _ => ?_
  exact steady_bind (steady_exchange (Exchange.talks_waitReleased _)) fun _ =>
    steady_require (by decide)

/-! ### What they send first -/

theorem opens_readSelected {n : Nat} (address : UInt32) :
    (Reading.readSelected address : Action ε (Reading n) UInt16).Opens (0x40 ||| (17 &&& 0x3F)) :=
  Action.opens_get_bind fun _ =>
    (Action.opens_exchange ((Exchange.opens_sendCommand (.readBlock address)).bind _)).bind _

theorem opens_readCsdSelected :
    (readCsdSelected : Action ε Session (Csd × UInt16)).Opens (0x40 ||| (9 &&& 0x3F)) :=
  Action.opens_get_bind fun _ =>
    (Action.opens_exchange ((Exchange.opens_sendCommand .sendCsd).bind _)).bind _

theorem opens_writeSelected (address : UInt32) (sector : Sector) :
    (writeSelected address sector : Action ε Session Unit).Opens (0x40 ||| (24 &&& 0x3F)) :=
  Action.opens_get_bind fun _ =>
    (Action.opens_exchange ((Exchange.opens_sendCommand (.writeBlock address)).bind _)).bind _

end Steady

/-! ## Actions while the card is not selected -/

section Conduct

variable {view : σ → Session} {wakes : Bool}

theorem Conduct.ok (view : σ → Session) (wakes : Bool) (s : σ) (value : α) :
    Conduct (ε := ε) view wakes s [] (.ok value) s where
  kept := .refl _
  cause _ h := nomatch h
  conversation := .nil

theorem conduct_bind {action : Action ε σ α} {f : α → Action ε σ β}
    (haction : action.Satisfies (Conduct view wakes))
    (hf : ∀ value, (f value).Satisfies (Conduct view wakes)) :
    (action >>= f).Satisfies (Conduct view wakes) := by
  refine haction.bind hf ?_ ?_
  · intro s t error s' h
    exact ⟨h.kept, fun e he => h.cause e (by cases he; rfl), h.conversation⟩
  · intro s t value s' u result s'' h₁ h₂
    -- the second part starts from another session, which wakes a card up in the same way
    have hwaking := waking_congr wakes h₁.kept.config h₁.kept.chipSelect
    refine ⟨h₁.kept.trans h₂.kept, h₂.cause, ?_⟩
    rw [busCalls_append]
    exact h₁.conversation.append (hwaking ▸ h₂.conversation)

theorem conduct_pure (value : α) : (pure value : Action ε σ α).Satisfies (Conduct view wakes) :=
  Action.satisfies_pure fun s => Conduct.ok view wakes s value

theorem conduct_get : (get : Action ε σ σ).Satisfies (Conduct view wakes) :=
  Action.satisfies_get fun s => Conduct.ok view wakes s s

theorem conduct_modify {f : σ → σ} (h : ∀ s, Kept (view s) (view (f s))) :
    (modify f : Action ε σ Unit).Satisfies (Conduct view wakes) :=
  Action.satisfies_modify fun s => ⟨h s, fun _ h => (nomatch h), .nil⟩

theorem conduct_throw {failure : Failure} (h : failure ≠ .unknown) :
    (throw (.card failure) : Action ε σ α).Satisfies (Conduct view wakes) := by
  refine Action.satisfies_throw fun s => ⟨.refl _, ?_, .nil⟩
  intro error herror
  cases herror
  exact h

theorem conduct_require {condition : Prop} [Decidable condition] {failure : Failure}
    (h : failure ≠ .unknown) :
    (Action.require condition failure : Action ε σ Unit).Satisfies (Conduct view wakes) := by
  unfold Action.require
  split
  · exact conduct_pure ()
  · exact conduct_throw h

/-- An exchange that is one part of a conversation leaves the session alone. -/
theorem Conduct.of_piece {s : σ} {t : List (Event ε)} {result : Except ε α}
    (ht : Piece ((view s).waking wakes) t (Exchange.fault? result)) :
    Conduct view wakes s t (result.mapError .transport) s := by
  have hconversation := ht.conversation
  rw [← busCalls_eq_self ht.log_notMem] at hconversation
  cases result with
  | ok value => exact ⟨.refl _, fun _ h => (nomatch h), hconversation⟩
  | error fault => exact ⟨.refl _, fun _ h => by cases h; trivial, hconversation⟩

theorem conduct_log (record : LogRecord ε) :
    (Action.log record : Action ε σ Unit).Satisfies (Conduct view wakes) :=
  Action.satisfies_log fun _ => ⟨.refl _, fun _ h => (nomatch h), .nil⟩

/-- A call that may stand between brackets. -/
theorem conduct_control {call : Control}
    (h : ∀ (answer : Except ε Unit) waking,
      Piece waking [.control call answer] (Exchange.fault? answer)) :
    (Action.exchange (Exchange.control call) : Action ε σ Unit).Satisfies (Conduct view wakes) := by
  have hpiece : (Exchange.control call : Exchange ε Unit).Satisfies fun t result =>
      ∀ waking, Piece waking t (Exchange.fault? result) := Exchange.satisfies_control h
  exact Action.satisfies_exchange hpiece fun _ _ _ ht => .of_piece (ht _)

theorem conduct_mode (mode : SpiMode) :
    (Action.exchange (Exchange.control (.mode mode)) : Action ε σ Unit).Satisfies
      (Conduct view wakes) := by
  apply conduct_control
  intro answer waking
  cases answer with
  | ok => exact .mode
  | error => exact .modeFault

theorem conduct_clock (hz : UInt32) :
    (Action.exchange (Exchange.control (.clock hz)) : Action ε σ Unit).Satisfies
      (Conduct view wakes) := by
  apply conduct_control
  intro answer waking
  cases answer with
  | ok => exact .clock
  | error => exact .clockFault

theorem conduct_exchange_whileSelected {body : Exchange ε α} {byte : UInt8} (h : body.Talks)
    (hopens : body.Opens byte) (hbyte : byte ≠ 0x40) :
    (Action.exchange (Exchange.whileSelected body) : Action ε σ α).Satisfies
      (Conduct view wakes) := by
  have hpiece : (Exchange.whileSelected body).Satisfies fun t result =>
      ∀ waking, Piece waking t (Exchange.fault? result) := fun t result ht waking =>
    Exchange.piece_whileSelected h hopens hbyte waking t result ht
  exact Action.satisfies_exchange hpiece fun _ _ _ ht => .of_piece (ht _)

/-- What is talk under the select line is a bracket of the conversation around it. -/
theorem conduct_whileSelected {body : Action ε σ α} {byte : UInt8}
    (h : body.Satisfies (Steady view)) (hopens : body.Opens byte) (hbyte : byte ≠ 0x40) :
    (Action.whileSelected body).Satisfies (Conduct view wakes) := by
  intro s t result s' ht
  rw [Action.exec_whileSelected] at ht
  rcases traces_whileSelected ht with ⟨fault, hrefused, rfl⟩ |
    ⟨talk, queries, released, reply, hrun, hdrained, rfl⟩
  · cases hrefused
    exact ⟨.refl _, fun _ h => by cases h; trivial, Piece.conversation (.bracket .refused rfl)⟩
  · have hbody := h _ _ _ _ hrun
    have hpiece : Piece ((view s).waking wakes) _ _ :=
      .held hbody.talk hdrained (hopens _ _ _ _ hrun) hbyte released reply
    refine ⟨hbody.kept, hbody.cause, ?_⟩
    rw [busCalls_eq_self hpiece.log_notMem]
    exact hpiece.conversation

theorem conduct_inSession {n : Nat} {action : Action ε Session α}
    (h : action.Satisfies (Conduct id wakes)) :
    (Reading.inSession action : Action ε (Reading n) α).Satisfies
      (Conduct Reading.session wakes) :=
  Action.satisfies_onPart h fun _ _ _ _ ht => ⟨ht.kept, ht.cause, ht.conversation⟩

theorem conduct_keepResponse (response : UInt8) :
    (keepResponse response : Action ε Session Unit).Satisfies (Conduct id wakes) :=
  conduct_modify fun _ => ⟨rfl, rfl, rfl, rfl⟩

theorem conduct_command {cmd : Command} (h : 0x40 ||| (cmd.index &&& 0x3F) ≠ 0x40) :
    (command cmd : Action ε Session UInt8).Satisfies (Conduct id wakes) := by
  refine conduct_bind conduct_get fun session => ?_
  refine conduct_bind (conduct_exchange_whileSelected (talks_sendAndPoll _ _)
    ((Exchange.opens_sendCommand cmd).bind _) h) fun response => ?_
  exact conduct_bind (conduct_keepResponse response) fun _ => conduct_pure response

theorem conduct_commandWithPayload {cmd : Command} (h : 0x40 ||| (cmd.index &&& 0x3F) ≠ 0x40)
    (n : Nat) :
    (commandWithPayload cmd n : Action ε Session (Bytes (n + 1))).Satisfies
      (Conduct id wakes) := by
  refine conduct_bind conduct_get fun session => ?_
  refine conduct_bind (conduct_exchange_whileSelected (Exchange.Talks.bind
    (Exchange.talks_sendCommand cmd) fun _ => Exchange.talks_receiveResponse _ _)
    ((Exchange.opens_sendCommand cmd).bind _) h) fun response => ?_
  exact conduct_bind (conduct_keepResponse _) fun _ => conduct_pure response

theorem conduct_applicationCommand (cmd : Command) :
    (applicationCommand cmd : Action ε Session UInt8).Satisfies (Conduct id wakes) := by
  refine conduct_bind conduct_get fun session => ?_
  refine conduct_bind (conduct_exchange_whileSelected
    (Exchange.talks_sendApplicationCommand _ _)
    ((Exchange.opens_sendCommand .applicationCommand).bind _) (by decide)) fun response => ?_
  exact conduct_bind (conduct_keepResponse response) fun _ => conduct_pure response

/-! ### The steps of the handshake -/

/-- A wake-up leaves the session alone. -/
theorem wakeUp_powerUp : (powerUp : Action ε Session Unit).Satisfies fun s t result s' =>
    s' = s ∧ ∃ answer : Except ε Unit, result = answer.mapError .transport ∧
      WakeUp s.chipSelect s.config.powerUpBytes t (Exchange.fault? answer) := by
  refine Action.satisfies_get_bind fun session => ?_
  refine Action.satisfies_exchange (Exchange.wakeUp_powerUp _ _) ?_
  rintro s t answer ht rfl
  exact ⟨rfl, answer, rfl, ht⟩

theorem resetBracket_command : (command .goIdle : Action ε Session UInt8).Satisfies
    fun s t result s' => Kept s s' ∧ (∀ error, result = .error error → error.IsCause) ∧
      ResetBracket t (Action.fault? result) := by
  have hkeep : ∀ response, (do
      keepResponse response
      return response : Action ε Session UInt8).Satisfies fun s t result s' =>
        t = [] ∧ result = .ok response ∧ Kept s s' := by
    intro response s t result s' ht
    cases ht
    exact ⟨rfl, rfl, rfl, rfl, rfl, rfl⟩
  have hbracket : ∀ bound, (Action.exchange (Exchange.whileSelected do
      Exchange.sendCommand .goIdle
      Exchange.poll bound) : Action ε Session UInt8).Satisfies fun s t result s' =>
        s' = s ∧ (∀ error, result = .error error → error.IsCause) ∧
          ResetBracket t (Action.fault? result) := by
    intro bound
    refine Action.satisfies_exchange (Exchange.resetBracket_whileSelected (talks_sendAndPoll _ _)
      ((Exchange.opens_sendCommand .goIdle).bind _)) fun s t result ht => ?_
    cases result with
    | ok => exact ⟨rfl, fun _ h => (nomatch h), ht⟩
    | error fault => exact ⟨rfl, fun _ h => by cases h; trivial, ht⟩
  refine Action.satisfies_get_bind fun session => ?_
  refine (hbracket _).bind hkeep ?_ ?_
  · rintro s t error s' ⟨rfl, hcause, ht⟩ -
    exact ⟨.refl _, hcause, ht⟩
  · rintro s t response s' u result s'' ⟨rfl, -, ht⟩ ⟨rfl, rfl, hkept⟩ -
    rw [List.append_nil]
    exact ⟨hkept, fun _ h => (nomatch h), ht⟩

/-- A wake-up and the bracket after it are one attempt, and one part of the conversation. -/
theorem conduct_attempt : (do
    powerUp
    command .goIdle : Action ε Session UInt8).Satisfies (Conduct id true) := by
  have hpiece : ∀ {s s' : Session} {t : List (Event ε)} {result : Except (Error ε) UInt8},
      Kept s s' → (∀ error, result = .error error → error.IsCause) →
      Attempt ⟨s.chipSelect, s.config.powerUpBytes⟩ t (Action.fault? result) →
      Conduct id true s t result s' := by
    intro s s' t result hkept hcause ht
    refine ⟨hkept, hcause, ?_⟩
    rw [busCalls_eq_self ht.log_notMem]
    exact Piece.conversation (.attempt rfl ht)
  refine wakeUp_powerUp.bind (fun _ => resetBracket_command) ?_ ?_
  · rintro s t error s' ⟨rfl, answer, hanswer, ht⟩
    cases answer with
    | ok => cases hanswer
    | error fault =>
      cases hanswer
      exact hpiece (.refl _) (fun _ h => by cases h; trivial) (.asleep ht)
  · rintro s t _ s' u result s'' ⟨rfl, answer, hanswer, ht⟩ ⟨hkept, hcause, hu⟩
    cases answer with
    | error => cases hanswer
    | ok => exact hpiece hkept hcause (.woken ht hu)

theorem conduct_goIdle (attempts : Nat) :
    (goIdle attempts : Action ε Session Unit).Satisfies (Conduct id true) := by
  induction attempts with
  | zero => exact conduct_throw (by decide)
  | succ attempts ih =>
    have hattempt : (goIdle (attempts + 1) : Action ε Session Unit) =
        (powerUp >>= fun _ => command .goIdle) >>= fun response =>
          if response = Response.idle then pure () else goIdle attempts := by
      rw [bind_assoc]
      rfl
    rw [hattempt]
    refine conduct_bind conduct_attempt fun response => ?_
    split
    · exact conduct_pure ()
    · exact ih

theorem conduct_findVersion :
    (findVersion : Action ε Session Version).Satisfies (Conduct id wakes) := by
  refine conduct_bind (conduct_commandWithPayload (by decide) 4) fun response => ?_
  split
  · refine conduct_bind (conduct_require (by decide)) fun _ => ?_
    exact conduct_bind (conduct_require (by decide)) fun _ => conduct_pure _
  · split
    · exact conduct_pure _
    · exact conduct_throw (by decide)

theorem conduct_readOcr :
    (readOcr : Action ε Session (UInt8 × Ocr)).Satisfies (Conduct id wakes) :=
  conduct_bind (conduct_commandWithPayload (by decide) 4) fun _ => conduct_pure _

theorem conduct_checkVoltage :
    (checkVoltage : Action ε Session Unit).Satisfies (Conduct id wakes) :=
  conduct_bind conduct_readOcr fun _ => conduct_require (by decide)

theorem conduct_leaveIdle (version : Version) (rounds : Nat) :
    (leaveIdle version rounds : Action ε Session Unit).Satisfies (Conduct id wakes) := by
  induction rounds with
  | zero => exact conduct_throw (by decide)
  | succ rounds ih =>
    refine conduct_bind (conduct_applicationCommand _) fun response => ?_
    split
    · exact conduct_pure ()
    · exact ih

theorem conduct_findMode (version : Version) :
    (findMode version : Action ε Session ReadyMode).Satisfies (Conduct id wakes) := by
  unfold findMode
  split
  · refine conduct_bind conduct_readOcr fun (response, ocr) => ?_
    exact conduct_bind (conduct_require (by decide)) fun _ => conduct_pure _
  · refine conduct_bind (conduct_command (by decide)) fun response => ?_
    exact conduct_bind (conduct_require (by decide)) fun _ => conduct_pure _

/-! ### The body of a read -/

theorem conduct_readAddress {n : Nat} (address : UInt32) :
    (Reading.readAddress address : Action ε (Reading n) Unit).Satisfies
      (Conduct Reading.session wakes) := by
  refine conduct_bind (conduct_whileSelected (steady_readSelected address)
    (opens_readSelected address) (by decide)) fun checksum => ?_
  refine conduct_bind (conduct_inSession (conduct_modify fun _ => ⟨rfl, rfl, rfl, rfl⟩)) fun _ => ?_
  exact conduct_require (by decide)

end Conduct

end Session

end SdCard
