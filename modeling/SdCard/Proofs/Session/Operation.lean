import SdCard.Proofs.Session.Conduct
import SdCard.Session.Request

/-!
# What an operation of a session can do

`Outcome` lists all that an operation other than the handshake can come to: it is refused before
it touches the bus, or it is carried out and its error, if any, is noted. By `perform_outcome` every
run of such an operation is among these, so that what holds of a session over time, or of its calls
on the bus, follows without looking at the operations again.
-/

namespace SdCard

namespace Session

variable {ε σ α β : Type}

/-! ## Noting an error -/

/-- A note makes no call, and it says in the session what the error was. -/
theorem record_noted (error : Error ε) :
    (record error : Action ε Session Unit).Satisfies fun s t result s' =>
      busCalls t = [] ∧ result = .ok () ∧ s' = s.noted error := by
  intro s t result s' ht
  cases error with
  | transport fault =>
    cases ht with
    | log ht => cases ht; exact ⟨rfl, rfl, rfl⟩
  | card failure =>
    cases ht with
    | log ht => cases ht; exact ⟨rfl, rfl, rfl⟩
  | notReady => cases ht; exact ⟨rfl, rfl, rfl⟩
  | outOfRange => cases ht; exact ⟨rfl, rfl, rfl⟩

theorem noting_recorded {view : σ → Session} {note : Error ε → Action ε σ Unit}
    {body : Action ε σ α} (hbody : body.Satisfies (Conduct view false))
    (hnote : ∀ error, (note error).Satisfies fun s t result s' =>
      busCalls t = [] ∧ result = .ok () ∧ view s' = (view s).noted error) :
    (Action.noting note body).Satisfies (Recorded view) := by
  refine Action.satisfies_noting hbody hnote ?_ ?_
  · intro s t value s' h
    exact ⟨⟨view s', h.kept, rfl⟩, fun _ h => (nomatch h), h.conversation⟩
  · rintro s t error s' u result s'' h ⟨hcalls, rfl, hnoted⟩
    refine ⟨⟨view s', h.kept, hnoted⟩, h.cause, ?_⟩
    rw [busCalls_append, hcalls, List.append_nil]
    exact h.conversation

theorem recording_recorded {body : Action ε Session α} (h : body.Satisfies (Conduct id false)) :
    (recording body).Satisfies (Recorded id) :=
  noting_recorded h record_noted

/-- An action that goes on after a success notes what comes of both. -/
theorem Recorded.append {s s' s'' : Session} {t u : List (Event ε)} {value : α}
    {result : Except (Error ε) β} (h₁ : Recorded id s t (.ok value) s')
    (h₂ : Recorded id s' u result s'') : Recorded id s (t ++ u) result s'' := by
  obtain ⟨middle, hkept, rfl⟩ := h₁.left
  obtain ⟨last, hkept', hlast⟩ := h₂.left
  refine ⟨⟨last, hkept.trans hkept', hlast⟩, h₂.cause, ?_⟩
  rw [busCalls_append]
  exact h₁.conversation.append h₂.conversation

/-! ## Outcomes -/

/-- What an operation other than the handshake can come to. -/
inductive Outcome (s : Session) :
    List (Event ε) → Except (Error ε) α → Session → Prop
  /-- The card is not ready. -/
  | notReady : s.state.readyMode = none → Outcome s [] (.error .notReady) s
  /-- The card is ready, but the request does not fit one sector. -/
  | outOfRange {mode offset length} : s.state = .ready mode →
      Outcome s [] (.error (.outOfRange offset length)) s
  | carriedOut {mode t result s'} : s.state = .ready mode → Recorded id s t result s' →
      Outcome s t result s'

/-- An error is the same whatever was asked for. -/
theorem Outcome.error {s s' : Session} {t : List (Event ε)} {error : Error ε}
    (h : Outcome s t (.error error : Except (Error ε) α) s') :
    Outcome s t (.error error : Except (Error ε) β) s' := by
  cases h with
  | notReady h => exact .notReady h
  | outOfRange h => exact .outOfRange h
  | carriedOut h hrecorded =>
    refine .carriedOut h ⟨hrecorded.left, fun e he => ?_, hrecorded.conversation⟩
    cases he
    exact hrecorded.cause error rfl

/-- The value of a success may be put into another form. -/
theorem Outcome.map {s s' : Session} {t : List (Event ε)} {result : Except (Error ε) α} (f : α → β)
    (h : Outcome s t result s') : Outcome s t (result.map f) s' := by
  cases result with
  | error error => exact h.error
  | ok value =>
    cases h with
    | carriedOut h hrecorded =>
      exact .carriedOut h ⟨hrecorded.left, fun _ h => (nomatch h), hrecorded.conversation⟩

/-- An operation may go on after a success, if it notes the error of what comes then. -/
theorem outcome_bind {action : Action ε Session α} {f : α → Action ε Session β}
    (haction : action.Satisfies Outcome) (hf : ∀ value, (f value).Satisfies (Recorded id)) :
    (action >>= f).Satisfies Outcome := by
  refine haction.bind hf (fun _ _ _ _ h => h.error) ?_
  intro s t value s' u result s'' h hnext
  cases h with
  | carriedOut h hrecorded => exact .carriedOut h (hrecorded.append hnext)

theorem recorded_pure (value : α) :
    (pure value : Action ε Session α).Satisfies (Recorded id) :=
  Action.satisfies_pure fun s => ⟨⟨s, .refl s, rfl⟩, fun _ h => (nomatch h), .nil⟩

theorem outcome_map {action : Action ε Session α} (f : α → β) (h : action.Satisfies Outcome) :
    (action >>= fun value => pure (f value)).Satisfies Outcome :=
  outcome_bind h fun value => recorded_pure (f value)

theorem exec_requireReady (s : Session) :
    (requireReady : Action ε Session ReadyMode).exec s =
      pure (s.state.readyMode.elim (.error .notReady) .ok, s) := by
  unfold requireReady
  cases h : s.state.readyMode <;> simp [h]

theorem exec_inSession_requireReady {n : Nat} (s : Reading n) :
    (Reading.inSession requireReady : Action ε (Reading n) ReadyMode).exec s =
      pure (s.session.state.readyMode.elim (.error .notReady) .ok, s) := by
  rw [Reading.inSession, Action.exec_onPart, exec_requireReady]
  rfl

/-- An operation is refused unless the card is ready, and then goes on with its mode. -/
theorem outcome_requireReady {f : ReadyMode → Action ε Session α}
    (h : ∀ mode, (f mode).Satisfies fun s t result s' => s.state = .ready mode →
      Outcome s t result s') :
    (requireReady >>= f).Satisfies Outcome := by
  intro s t result s' ht
  rw [Action.exec_bind, exec_requireReady] at ht
  cases hmode : s.state.readyMode with
  | none =>
    rw [hmode] at ht
    cases ht
    exact .notReady hmode
  | some mode =>
    rw [hmode] at ht
    exact h mode s t result s' ht (State.readyMode_eq_some_iff.mp hmode)

/-- An operation on a ready card that is carried out without more ado. -/
theorem outcome_recording {body : Action ε Session α} (h : body.Satisfies (Conduct id false)) :
    (requireReady >>= fun _ => recording body).Satisfies Outcome :=
  outcome_requireReady fun _ => (recording_recorded h).mono fun _ _ _ _ hrecorded hstate =>
    .carriedOut hstate hrecorded

theorem outcome_status : (status : Action ε Session UInt16).Satisfies Outcome :=
  outcome_recording <| conduct_bind (conduct_commandWithPayload (by decide) 1) fun _ =>
    conduct_bind (conduct_require (by decide)) fun _ => conduct_pure _

theorem outcome_readCsd : (readCsd : Action ε Session Csd).Satisfies Outcome :=
  outcome_recording <| conduct_bind
    (conduct_whileSelected steady_readCsdSelected opens_readCsdSelected (by decide))
    fun (csd, _) => conduct_bind (conduct_modify fun _ => ⟨rfl, rfl, rfl, rfl⟩) fun _ =>
      conduct_pure csd

theorem outcome_sectorCount : (sectorCount : Action ε Session UInt32).Satisfies Outcome := by
  refine outcome_bind outcome_readCsd fun csd => ?_
  split
  · exact recorded_pure _
  · exact recording_recorded (conduct_throw (by decide))

theorem outcome_setCardDetectPullup (connect : Bool) :
    (setCardDetectPullup connect : Action ε Session Unit).Satisfies Outcome :=
  outcome_recording <| conduct_bind (conduct_applicationCommand _) fun _ =>
    conduct_require (by decide)

theorem outcome_writeBlock (lba : UInt32) (data : List UInt8) :
    (writeBlock lba data : Action ε Session Unit).Satisfies Outcome := by
  refine outcome_requireReady fun mode => ?_
  split
  · exact (recording_recorded (conduct_whileSelected (steady_writeSelected _ _)
      (opens_writeSelected _ _) (by decide))).mono fun _ _ _ _ hrecorded hstate =>
        .carriedOut hstate hrecorded
  · exact Action.satisfies_throw fun _ hstate => .outOfRange hstate

theorem recorded_readAddress {n : Nat} (address : UInt32) :
    (Action.noting (fun error => Reading.inSession (record error)) (Reading.readAddress address) :
      Action ε (Reading n) Unit).Satisfies (Recorded Reading.session) := by
  have hnote : ∀ error, (Reading.inSession (record error) : Action ε (Reading n) Unit).Satisfies
      fun s t result s' => busCalls t = [] ∧ result = .ok () ∧
        s'.session = s.session.noted error :=
    fun error => Action.satisfies_onPart (record_noted error) fun _ _ _ _ h => h
  exact noting_recorded (conduct_readAddress _) hnote

/-- A read works on a session with a window, and does to the session what any operation does. -/
theorem outcome_readWindow {n : Nat} (lba : UInt32) :
    (Reading.readWindow lba : Action ε (Reading n) Unit).Satisfies fun s t result s' =>
      Outcome s.session t result s'.session := by
  intro s t result s' ht
  rw [Reading.readWindow, Action.exec_bind, exec_inSession_requireReady] at ht
  cases hmode : s.session.state.readyMode with
  | none =>
    rw [hmode] at ht
    cases ht
    exact .notReady hmode
  | some mode =>
    rw [hmode] at ht
    -- the window is looked at only once the card is known to be ready
    have hrest : ((do
        let window := (← get).window
        if window.InSector then
          Action.noting (fun error => Reading.inSession (record error)) <|
            Reading.readAddress (blockAddress mode.capacity lba)
        else
          throw (.outOfRange window.offset window.count)) : Action ε (Reading n) Unit).Satisfies
        fun s t result s' => s.session.state = .ready mode →
          Outcome s.session t result s'.session := by
      refine Action.satisfies_get_bind fun reading => ?_
      simp only
      split
      · refine (recorded_readAddress _).mono ?_
        intro s t result s' hrecorded _ hstate
        exact .carriedOut hstate ⟨hrecorded.left, hrecorded.cause, hrecorded.conversation⟩
      · exact Action.satisfies_throw fun _ _ hstate => .outOfRange hstate
    exact hrest _ _ _ _ ht (State.readyMode_eq_some_iff.mp hmode)

theorem outcome_readRange {n : Nat} (lba : UInt32) (offset : Nat) (buffer : Bytes n) :
    (readRange lba offset buffer : Action ε Session (Bytes n)).Satisfies Outcome := by
  intro s t result s' ht
  rw [readRange, Action.exec_ofProgram, Program.traces_bind_iff] at ht
  obtain ⟨t₁, t₂, ⟨result, reading⟩, rfl, h₁, h₂⟩ := ht
  cases h₂
  rw [List.append_nil]
  exact (outcome_readWindow lba _ _ _ _ h₁).map _

/-- Every run of an operation other than the handshake comes to one of the outcomes. -/
theorem perform_outcome {request : Request} (h : request ≠ .start) :
    (perform request : Action ε Session Answer).Satisfies Outcome := by
  cases request with
  | start => exact absurd rfl h
  | readRange lba offset buffer => exact outcome_map _ (outcome_readRange lba offset _)
  | readBlock lba => exact outcome_map _ (outcome_readRange lba 0 _)
  | writeBlock lba data => exact outcome_map (fun _ => Answer.done) (outcome_writeBlock lba data)
  | status => exact outcome_map _ outcome_status
  | readCsd => exact outcome_map _ outcome_readCsd
  | sectorCount => exact outcome_map _ outcome_sectorCount
  | setCardDetectPullup connect =>
    exact outcome_map (fun _ => Answer.done) (outcome_setCardDetectPullup connect)

end Session

end SdCard
