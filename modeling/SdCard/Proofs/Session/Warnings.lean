import SdCard.Proofs.Report
import SdCard.Proofs.Session.Operation

/-!
# What a session warns about

A session notes the error of an operation in one place, after all that the operation has done, so
the warning tells what the session remembers then. Nothing else that it does is worth a warning: the
two other records that it makes say how the handshake gets on.

* `warningsOf`, `linesOf`: what there is to warn about a result, as records and as lines;
* `Mute`: an action warns about nothing;
* `Warned`: an action warns once about the error that it ends with, if it was carried out;
* `warned_perform`: every operation of a session.
-/

namespace SdCard

variable {ε σ α β : Type}

/-- The records among some events that are warnings. -/
def warnings (t : List (Event ε)) : List (LogRecord ε) :=
  t.filterMap fun
    | .log record => if record.level = .warn then some record else none
    | _ => none

@[simp] theorem warnings_append (t u : List (Event ε)) :
    warnings (t ++ u) = warnings t ++ warnings u := List.filterMap_append ..

/-- The warnings among some events, as lines. -/
def warningLines [ToString ε] (t : List (Event ε)) : List String :=
  (warnings t).map LogRecord.text

/-- Calls of the bus are no warnings. -/
theorem warnings_of_log_notMem {t : List (Event ε)} (h : ∀ record, .log record ∉ t) :
    warnings t = [] := by
  apply List.filterMap_eq_nil_iff.mpr
  intro event hevent
  cases event with
  | log record => exact absurd hevent (h record)
  | control | transfer | fifoBusy => rfl

namespace Session

/-- What there is to warn about an error, with what the session remembers. A request that was turned
away is no failure. -/
def warning? (session : Session) : Error ε → Option (LogRecord ε)
  | .card failure =>
    some (.cardFailed session.chipSelect failure session.lastResponse session.lastToken)
  | .transport fault => some (.transportFailed session.chipSelect fault)
  | .notReady | .outOfRange .. => none

/-- The warnings about a result. -/
def warningsOf (session : Session) : Except (Error ε) α → List (LogRecord ε)
  | .ok _ => []
  | .error error => (session.warning? error).toList

/-- What is read about a result: the label of the step, or the fault, with what the session
remembers. -/
def linesOf [ToString ε] (session : Session) : Except (Error ε) α → List String
  | .ok _ => []
  | .error (.card failure) =>
    [cardLine session.chipSelect failure session.lastResponse session.lastToken]
  | .error (.transport fault) => [transportLine session.chipSelect fault]
  | .error .notReady | .error (.outOfRange ..) => []

theorem text_warningsOf [ToString ε] (session : Session) (result : Except (Error ε) α) :
    (session.warningsOf result).map LogRecord.text = session.linesOf result := by
  cases result with
  | ok => rfl
  | error error =>
    cases error with
    | card failure => exact congrArg List.singleton (text_cardFailed ..)
    | transport fault => exact congrArg List.singleton (text_transportFailed ..)
    | notReady => rfl
    | outOfRange => rfl

/-! ## Actions without a warning -/

/-- The run warns about nothing. -/
def Mute (_ : σ) (t : List (Event ε)) (_ : Except (Error ε) α) (_ : σ) : Prop := warnings t = []

theorem mute_bind {action : Action ε σ α} {f : α → Action ε σ β} (h : action.Satisfies Mute)
    (hf : ∀ value, (f value).Satisfies Mute) : (action >>= f).Satisfies Mute := by
  refine h.bind hf (fun _ _ _ _ h => h) ?_
  intro s t value s' u result s'' ht hu
  change warnings (t ++ u) = []
  rw [warnings_append, show warnings t = [] from ht, show warnings u = [] from hu]
  rfl

theorem mute_pure (value : α) : (pure value : Action ε σ α).Satisfies Mute :=
  Action.satisfies_pure fun _ => rfl

theorem mute_throw (error : Error ε) : (throw error : Action ε σ α).Satisfies Mute :=
  Action.satisfies_throw fun _ => rfl

theorem mute_modify (f : σ → σ) : (modify f : Action ε σ Unit).Satisfies Mute :=
  Action.satisfies_modify fun _ => rfl

theorem mute_require (condition : Prop) [Decidable condition] (failure : Failure) :
    (Action.require condition failure : Action ε σ Unit).Satisfies Mute :=
  Action.satisfies_require (fun _ _ => rfl) fun _ _ => rfl

theorem mute_get_bind {f : σ → Action ε σ α} (h : ∀ s, (f s).Satisfies Mute) :
    (get >>= f).Satisfies Mute :=
  Action.satisfies_get_bind fun seen => (h seen).mono fun _ _ _ _ h _ => h

/-- A record that is no warning. -/
theorem mute_log {record : LogRecord ε} (h : record.level = .debug) :
    (Action.log record : Action ε σ Unit).Satisfies Mute :=
  Action.satisfies_log fun _ => by simp [Mute, warnings, h]

/-- An exchange is made of calls. -/
theorem mute_exchange {exchange : Exchange ε α}
    (h : exchange.Satisfies fun t _ => ∀ record, .log record ∉ t) :
    (Action.exchange exchange : Action ε σ α).Satisfies Mute :=
  Action.satisfies_exchange h fun _ _ _ ht => warnings_of_log_notMem ht

theorem mute_exchange_whileSelected {body : Exchange ε α} (h : body.Talks) :
    (Action.exchange (Exchange.whileSelected body) : Action ε σ α).Satisfies Mute :=
  mute_exchange fun t result ht => (Exchange.bracket_whileSelected h t result ht).log_notMem

/-- So is all that is said while a card is selected. -/
theorem mute_whileSelected {view : σ → Session} {body : Action ε σ α}
    (h : body.Satisfies (Steady view)) : (Action.whileSelected body).Satisfies Mute := by
  intro s t result s' ht
  rw [Action.exec_whileSelected] at ht
  rcases traces_whileSelected ht with ⟨fault, -, rfl⟩ |
    ⟨talk, queries, released, reply, hrun, hdrained, rfl⟩
  · rfl
  · exact warnings_of_log_notMem (Bracket.held (h _ _ _ _ hrun).talk hdrained).log_notMem

theorem mute_inSession {n : Nat} {action : Action ε Session α} (h : action.Satisfies Mute) :
    (Reading.inSession action : Action ε (Reading n) α).Satisfies Mute :=
  Action.satisfies_onPart h fun _ _ _ _ h => h

theorem mute_command (cmd : Command) : (command cmd : Action ε Session UInt8).Satisfies Mute :=
  mute_get_bind fun _ => mute_bind (mute_exchange_whileSelected (talks_sendAndPoll _ _))
    fun response => mute_bind (mute_modify _) fun _ => mute_pure response

theorem mute_commandWithPayload (cmd : Command) (n : Nat) :
    (commandWithPayload cmd n : Action ε Session (Bytes (n + 1))).Satisfies Mute :=
  mute_get_bind fun _ => mute_bind (mute_exchange_whileSelected (Exchange.Talks.bind
    (Exchange.talks_sendCommand cmd) fun _ => Exchange.talks_receiveResponse _ _))
    fun response => mute_bind (mute_modify _) fun _ => mute_pure response

theorem mute_applicationCommand (cmd : Command) :
    (applicationCommand cmd : Action ε Session UInt8).Satisfies Mute :=
  mute_get_bind fun _ => mute_bind
    (mute_exchange_whileSelected (Exchange.talks_sendApplicationCommand _ _))
    fun response => mute_bind (mute_modify _) fun _ => mute_pure response

/-! ### The steps of the handshake -/

theorem mute_control (call : Control) :
    (Action.exchange (Exchange.control call) : Action ε σ Unit).Satisfies Mute :=
  mute_exchange (Exchange.satisfies_control fun answer record => by simp)

theorem mute_powerUp : (powerUp : Action ε Session Unit).Satisfies Mute :=
  mute_get_bind fun _ => mute_exchange fun t result ht =>
    (Exchange.wakeUp_powerUp _ _ t result ht).log_notMem

theorem mute_goIdle (attempts : Nat) :
    (goIdle attempts : Action ε Session Unit).Satisfies Mute := by
  induction attempts with
  | zero => exact mute_throw _
  | succ attempts ih =>
    refine mute_bind mute_powerUp fun _ => mute_bind (mute_command .goIdle) fun response => ?_
    split
    · exact mute_pure ()
    · exact ih

theorem mute_findVersion : (findVersion : Action ε Session Version).Satisfies Mute := by
  refine mute_bind (mute_commandWithPayload _ 4) fun response => ?_
  split
  · exact mute_bind (mute_require _ _) fun _ => mute_bind (mute_require _ _) fun _ =>
      mute_pure _
  · split
    · exact mute_pure _
    · exact mute_throw _

theorem mute_readOcr : (readOcr : Action ε Session (UInt8 × Ocr)).Satisfies Mute :=
  mute_bind (mute_commandWithPayload _ 4) fun _ => mute_pure _

theorem mute_checkVoltage : (checkVoltage : Action ε Session Unit).Satisfies Mute :=
  mute_bind mute_readOcr fun _ => mute_require _ _

theorem mute_leaveIdle (version : Version) (rounds : Nat) :
    (leaveIdle version rounds : Action ε Session Unit).Satisfies Mute := by
  induction rounds with
  | zero => exact mute_throw _
  | succ rounds ih =>
    refine mute_bind (mute_applicationCommand _) fun response => ?_
    split
    · exact mute_pure ()
    · exact ih

theorem mute_findMode (version : Version) :
    (findMode version : Action ε Session ReadyMode).Satisfies Mute := by
  unfold findMode
  split
  · exact mute_bind mute_readOcr fun _ => mute_bind (mute_require _ _) fun _ => mute_pure _
  · exact mute_bind (mute_command _) fun _ => mute_bind (mute_require _ _) fun _ =>
      mute_pure _

theorem mute_handshake : (handshake : Action ε Session ReadyMode).Satisfies Mute := by
  refine mute_get_bind fun session => ?_
  refine mute_bind (mute_control _) fun _ => mute_bind (mute_control _) fun _ => ?_
  refine mute_bind (mute_modify _) fun _ => mute_bind (mute_goIdle _) fun _ => ?_
  refine mute_bind mute_findVersion fun version => mute_bind (mute_modify _) fun _ => ?_
  refine mute_bind (mute_log rfl) fun _ => mute_bind (mute_control _) fun _ => ?_
  refine mute_bind mute_checkVoltage fun _ => mute_bind (mute_leaveIdle version _) fun _ => ?_
  refine mute_bind (mute_findMode version) fun mode => mute_bind (mute_modify _) fun _ => ?_
  exact mute_bind (mute_log rfl) fun _ => mute_pure mode

theorem mute_readAddress {n : Nat} (address : UInt32) :
    (Reading.readAddress address : Action ε (Reading n) Unit).Satisfies Mute :=
  mute_bind (mute_whileSelected (steady_readSelected address)) fun _ =>
    mute_bind (mute_inSession (mute_modify _)) fun _ => mute_require _ _

/-! ## Operations -/

/-- The run warns about the error that it ends with, and about nothing else. The warning tells what
the session remembers at the end. -/
def Warned (view : σ → Session) (_ : σ) (t : List (Event ε)) (result : Except (Error ε) α)
    (s' : σ) : Prop :=
  warnings t = (view s').warningsOf result

/-- A note changes the state of the card alone, so it may come before the warning or after it. -/
theorem record_warned (error : Error ε) :
    (record error : Action ε Session Unit).Satisfies fun _ t result s' =>
      warnings t = (s'.warning? error).toList ∧ result = .ok () := by
  intro s t result s' ht
  cases error with
  | transport fault =>
    cases ht with
    | log ht => cases ht; exact ⟨rfl, rfl⟩
  | card failure =>
    cases ht with
    | log ht => cases ht; exact ⟨rfl, rfl⟩
  | notReady => cases ht; exact ⟨rfl, rfl⟩
  | outOfRange => cases ht; exact ⟨rfl, rfl⟩

theorem warned_noting {view : σ → Session} {note : Error ε → Action ε σ Unit}
    {body : Action ε σ α} (hbody : body.Satisfies Mute)
    (hnote : ∀ error, (note error).Satisfies fun _ t result s' =>
      warnings t = ((view s').warning? error).toList ∧ result = .ok ()) :
    (Action.noting note body).Satisfies (Warned view) := by
  refine Action.satisfies_noting hbody hnote (fun _ _ _ _ h => h) ?_
  rintro s t error s' u result s'' ht ⟨hu, rfl⟩
  change warnings (t ++ u) = _
  rw [warnings_append, show warnings t = [] from ht, hu]
  rfl

theorem warned_recording {body : Action ε Session α} (h : body.Satisfies Mute) :
    (recording body).Satisfies (Warned id) := warned_noting h record_warned

/-- After a success, which has nothing to warn about, the warnings are those of what comes then. -/
theorem warned_bind {view : σ → Session} {action : Action ε σ α} {f : α → Action ε σ β}
    (h : action.Satisfies (Warned view)) (hf : ∀ value, (f value).Satisfies (Warned view)) :
    (action >>= f).Satisfies (Warned view) := by
  refine h.bind hf (fun _ _ _ _ h => h) ?_
  intro s t value s' u result s'' ht hu
  change warnings (t ++ u) = _
  rw [warnings_append, show warnings t = [] from ht]
  exact hu

theorem warned_pure {view : σ → Session} (value : α) :
    (pure value : Action ε σ α).Satisfies (Warned view) := Action.satisfies_pure fun _ => rfl

/-- A card that is not ready is not warned about. -/
theorem warned_requireReady :
    (requireReady : Action ε Session ReadyMode).Satisfies (Warned id) := by
  intro s t result s' ht
  rw [exec_requireReady] at ht
  cases hmode : s.state.readyMode with
  | none =>
    rw [hmode] at ht
    cases ht
    rfl
  | some mode =>
    rw [hmode] at ht
    cases ht
    rfl

/-- Nor is a request that does not fit a sector. -/
theorem warned_outOfRange {view : σ → Session} (offset length : Nat) :
    (throw (.outOfRange offset length) : Action ε σ α).Satisfies (Warned view) :=
  Action.satisfies_throw fun _ => rfl

theorem warned_asked {body : Action ε Session α} (h : body.Satisfies Mute) :
    (requireReady >>= fun _ => recording body).Satisfies (Warned id) :=
  warned_bind warned_requireReady fun _ => warned_recording h

theorem warned_start : (start : Action ε Session ReadyMode).Satisfies (Warned id) :=
  warned_bind (Action.satisfies_modify fun _ => rfl) fun _ => warned_recording mute_handshake

theorem warned_readWindow {n : Nat} (lba : UInt32) :
    (Reading.readWindow lba : Action ε (Reading n) Unit).Satisfies (Warned Reading.session) := by
  have hready : (Reading.inSession requireReady : Action ε (Reading n) ReadyMode).Satisfies
      (Warned Reading.session) :=
    Action.satisfies_onPart warned_requireReady fun _ _ _ _ h => h
  have hnote : ∀ error, (Reading.inSession (record error) : Action ε (Reading n) Unit).Satisfies
      fun _ t result s' => warnings t = (s'.session.warning? error).toList ∧ result = .ok () :=
    fun error => Action.satisfies_onPart (record_warned error) fun _ _ _ _ h => h
  refine warned_bind hready fun mode => ?_
  refine Action.satisfies_get_bind fun reading => ?_
  dsimp only
  split
  · exact (warned_noting (mute_readAddress _) hnote).mono fun _ _ _ _ h _ => h
  · exact (warned_outOfRange _ _).mono fun _ _ _ _ h _ => h

theorem warned_readRange {n : Nat} (lba : UInt32) (offset : Nat) (buffer : Bytes n) :
    (readRange lba offset buffer : Action ε Session (Bytes n)).Satisfies (Warned id) := by
  intro s t result s' ht
  rw [readRange, Action.exec_ofProgram, Program.traces_bind_iff] at ht
  obtain ⟨t₁, t₂, ⟨result, reading⟩, rfl, hrun, hdone⟩ := ht
  cases hdone
  rw [List.append_nil]
  have hwarned : warnings t₁ = reading.session.warningsOf result :=
    warned_readWindow lba _ _ _ _ hrun
  cases result with
  | ok => exact hwarned
  | error => exact hwarned

theorem warned_writeBlock (lba : UInt32) (data : List UInt8) :
    (writeBlock lba data : Action ε Session Unit).Satisfies (Warned id) := by
  refine warned_bind warned_requireReady fun mode => ?_
  split
  · exact warned_recording (mute_whileSelected (steady_writeSelected _ _))
  · exact warned_outOfRange _ _

theorem warned_readCsd : (readCsd : Action ε Session Csd).Satisfies (Warned id) :=
  warned_asked <| mute_bind (mute_whileSelected steady_readCsdSelected) fun (csd, _) =>
    mute_bind (mute_modify _) fun _ => mute_pure csd

theorem warned_sectorCount : (sectorCount : Action ε Session UInt32).Satisfies (Warned id) := by
  refine warned_bind warned_readCsd fun csd => ?_
  split
  · exact warned_pure _
  · exact warned_recording (mute_throw _)

/-- Every operation warns once about an error of the bus or the card, and about nothing else. -/
theorem warned_perform (request : Request) :
    (perform request : Action ε Session Answer).Satisfies (Warned id) := by
  cases request with
  | start => exact warned_bind warned_start fun _ => warned_pure _
  | readRange lba offset buffer =>
    exact warned_bind (warned_readRange lba offset _) fun _ => warned_pure _
  | readBlock lba => exact warned_bind (warned_readRange lba 0 _) fun _ => warned_pure _
  | writeBlock lba data => exact warned_bind (warned_writeBlock lba data) fun _ => warned_pure _
  | status =>
    have hstatus : (status : Action ε Session UInt16).Satisfies (Warned id) :=
      warned_asked <| mute_bind (mute_commandWithPayload _ 1) fun _ =>
        mute_bind (mute_require _ _) fun _ => mute_pure _
    exact warned_bind hstatus fun _ => warned_pure _
  | readCsd => exact warned_bind warned_readCsd fun _ => warned_pure _
  | sectorCount => exact warned_bind warned_sectorCount fun _ => warned_pure _
  | setCardDetectPullup connect =>
    have hpullup : (setCardDetectPullup connect : Action ε Session Unit).Satisfies (Warned id) :=
      warned_asked <| mute_bind (mute_applicationCommand _) fun _ => mute_require _ _
    exact warned_bind hpullup fun _ => warned_pure _

/-- What is written then is the line about the error. -/
theorem lines_perform [ToString ε] (request : Request) :
    (perform request : Action ε Session Answer).Satisfies fun _ t result s' =>
      warningLines t = s'.linesOf result := by
  refine (warned_perform request).mono fun s t result s' ht => ?_
  rw [warningLines, show warnings t = s'.warningsOf result from ht, text_warningsOf]

end Session

end SdCard
