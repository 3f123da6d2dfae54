import SdCard.Proofs.Session.Operation

/-!
# Operations that are refused

An operation that is turned away leaves no note in the session, and one that is carried out calls
the bus before it does anything else. So a session is changed only by operations that call the bus:
`perform_committed` says so of all of them, and `committed_readWindow` of a read with its window.
-/

namespace SdCard

namespace Session

variable {ε σ α β : Type}

/-! ## Actions that call the bus -/

/-- The run makes a call of the bus. -/
def CallsBus (_ : σ) (t : List (Event ε)) (_ : Except (Error ε) α) (_ : σ) : Prop :=
  busCalls t ≠ []

theorem busCalls_append_ne_nil {t : List (Event ε)} (h : busCalls t ≠ []) (u : List (Event ε)) :
    busCalls (t ++ u) ≠ [] := by
  rw [busCalls_append]
  exact List.append_ne_nil_of_left_ne_nil h _

theorem callsBus_bind {action : Action ε σ α} (h : action.Satisfies CallsBus)
    (f : α → Action ε σ β) : (action >>= f).Satisfies CallsBus :=
  h.bind (fun value => Action.satisfies_true (f value)) (fun _ _ _ _ h => h)
    fun _ _ _ _ u _ _ h _ => busCalls_append_ne_nil h u

theorem callsBus_noting {note : Error ε → Action ε σ Unit} {body : Action ε σ α}
    (h : body.Satisfies CallsBus) : (Action.noting note body).Satisfies CallsBus :=
  Action.satisfies_noting h (fun error => Action.satisfies_true (note error)) (fun _ _ _ _ h => h)
    fun _ _ _ _ u _ _ h _ => busCalls_append_ne_nil h u

/-- A look at the state comes before the call. -/
theorem callsBus_get_bind {f : σ → Action ε σ α} (h : ∀ s, (f s).Satisfies CallsBus) :
    (get >>= f).Satisfies CallsBus :=
  Action.satisfies_get_bind fun seen => (h seen).mono fun _ _ _ _ h _ => h

theorem callsBus_control (call : Control) :
    (Action.exchange (Exchange.control call) : Action ε σ Unit).Satisfies CallsBus := by
  have hcontrol : (Exchange.control call : Exchange ε Unit).Satisfies fun t _ => busCalls t ≠ [] :=
    Exchange.satisfies_control fun _ => List.cons_ne_nil _ _
  exact Action.satisfies_exchange hcontrol fun _ _ _ h => h

/-- The select line is driven before anything else. -/
theorem callsBus_whileSelected (body : Action ε σ α) :
    (Action.whileSelected body).Satisfies CallsBus := by
  intro s t result s' ht
  cases ht with
  | control => exact List.cons_ne_nil _ _

theorem callsBus_exchange_whileSelected (body : Exchange ε α) :
    (Action.exchange (Exchange.whileSelected body) : Action ε σ α).Satisfies CallsBus := by
  have hbody : (Exchange.whileSelected body).Satisfies fun t _ => busCalls t ≠ [] := by
    intro t result ht
    cases ht with
    | control => exact List.cons_ne_nil _ _
  exact Action.satisfies_exchange hbody fun _ _ _ h => h

theorem callsBus_commandWithPayload (cmd : Command) (n : Nat) :
    (commandWithPayload cmd n : Action ε Session (Bytes (n + 1))).Satisfies CallsBus :=
  callsBus_get_bind fun _ => callsBus_bind (callsBus_exchange_whileSelected _) _

theorem callsBus_applicationCommand (cmd : Command) :
    (applicationCommand cmd : Action ε Session UInt8).Satisfies CallsBus :=
  callsBus_get_bind fun _ => callsBus_bind (callsBus_exchange_whileSelected _) _

theorem callsBus_handshake : (handshake : Action ε Session ReadyMode).Satisfies CallsBus :=
  callsBus_get_bind fun _ => callsBus_bind (callsBus_control _) _

/-! ## Operations -/

/-- The operation is refused and leaves the session alone, or it calls the bus. -/
inductive Committed (view : σ → Session) (s : σ) (t : List (Event ε)) :
    Except (Error ε) α → σ → Prop
  | refused {error s'} : view s' = view s → Committed view s t (.error error) s'
  | called {result s'} : busCalls t ≠ [] → Committed view s t result s'

/-- A run without a call of the bus has left the session alone. -/
theorem Committed.untouched {view : σ → Session} {s s' : σ} {t : List (Event ε)}
    {result : Except (Error ε) α} (h : Committed view s t result s') (ht : busCalls t = []) :
    view s' = view s := by
  cases h with
  | refused h => exact h
  | called h => exact absurd ht h

/-- What comes after a success comes after a call of the bus. -/
theorem committed_bind {view : σ → Session} {action : Action ε σ α}
    (h : action.Satisfies (Committed view)) (f : α → Action ε σ β) :
    (action >>= f).Satisfies (Committed view) := by
  refine h.bind (fun value => Action.satisfies_true (f value)) ?_ ?_
  · intro s t error s' h
    cases h with
    | refused h => exact .refused h
    | called h => exact .called h
  · intro s t value s' u result s'' h _
    cases h with
    | called h => exact .called (busCalls_append_ne_nil h u)

theorem committed_noting {view : σ → Session} {note : Error ε → Action ε σ Unit}
    {body : Action ε σ α} (h : body.Satisfies CallsBus) :
    (Action.noting note body).Satisfies (Committed view) :=
  (callsBus_noting h).mono fun _ _ _ _ h => .called h

/-- A card that is not ready has the operation refused. -/
theorem committed_requireReady {f : ReadyMode → Action ε Session α}
    (h : ∀ mode, (f mode).Satisfies (Committed id)) :
    (requireReady >>= f).Satisfies (Committed id) := by
  intro s t result s' ht
  rw [Action.exec_bind, exec_requireReady] at ht
  cases hmode : s.state.readyMode with
  | none =>
    rw [hmode] at ht
    cases ht
    exact .refused rfl
  | some mode =>
    rw [hmode] at ht
    exact h mode s t result s' ht

theorem committed_recording {body : Action ε Session α} (h : body.Satisfies CallsBus) :
    (requireReady >>= fun _ => recording body).Satisfies (Committed id) :=
  committed_requireReady fun _ => committed_noting h

/-- The session is reset before the first call. -/
theorem committed_start : (start : Action ε Session ReadyMode).Satisfies (Committed id) := by
  intro s t result s' ht
  have hcalls : busCalls t ≠ [] := callsBus_noting callsBus_handshake s.reset t result s' ht
  exact .called hcalls

theorem committed_writeBlock (lba : UInt32) (data : List UInt8) :
    (writeBlock lba data : Action ε Session Unit).Satisfies (Committed id) := by
  refine committed_requireReady fun mode => ?_
  split
  · exact committed_noting (callsBus_whileSelected _)
  · exact Action.satisfies_throw fun _ => .refused rfl

theorem committed_readCsd : (readCsd : Action ε Session Csd).Satisfies (Committed id) :=
  committed_recording (callsBus_bind (callsBus_whileSelected _) _)

theorem committed_sectorCount :
    (sectorCount : Action ε Session UInt32).Satisfies (Committed id) :=
  committed_bind committed_readCsd _

theorem committed_readWindow {n : Nat} (lba : UInt32) :
    (Reading.readWindow lba : Action ε (Reading n) Unit).Satisfies
      (Committed Reading.session) := by
  intro s t result s' ht
  rw [Reading.readWindow, Action.exec_bind, exec_inSession_requireReady] at ht
  cases hmode : s.session.state.readyMode with
  | none =>
    rw [hmode] at ht
    cases ht
    exact .refused rfl
  | some mode =>
    rw [hmode] at ht
    have hrest : ((do
        let window := (← get).window
        if window.InSector then
          Action.noting (fun error => Reading.inSession (record error)) <|
            Reading.readAddress (blockAddress mode.capacity lba)
        else
          throw (.outOfRange window.offset window.count)) : Action ε (Reading n) Unit).Satisfies
        (Committed Reading.session) := by
      refine Action.satisfies_get_bind fun reading => ?_
      simp only
      split
      · exact (committed_noting (callsBus_bind (callsBus_whileSelected _) _)).mono
          fun _ _ _ _ h _ => h
      · exact Action.satisfies_throw fun _ _ => .refused rfl
    exact hrest _ _ _ _ ht

theorem committed_readRange {n : Nat} (lba : UInt32) (offset : Nat) (buffer : Bytes n) :
    (readRange lba offset buffer : Action ε Session (Bytes n)).Satisfies (Committed id) := by
  intro s t result s' ht
  rw [readRange, Action.exec_ofProgram, Program.traces_bind_iff] at ht
  obtain ⟨t₁, t₂, ⟨result, reading⟩, rfl, h₁, h₂⟩ := ht
  cases h₂
  rw [List.append_nil]
  cases committed_readWindow lba _ _ _ _ h₁ with
  | refused h => exact .refused h
  | called h => exact .called h

/-- Every operation is refused and leaves the session alone, or it calls the bus. -/
theorem perform_committed (request : Request) :
    (perform request : Action ε Session Answer).Satisfies (Committed id) := by
  cases request with
  | start => exact committed_bind committed_start _
  | readRange lba offset buffer => exact committed_bind (committed_readRange lba offset _) _
  | readBlock lba => exact committed_bind (committed_readRange lba 0 _) _
  | writeBlock lba data => exact committed_bind (committed_writeBlock lba data) _
  | status =>
    exact committed_bind (committed_recording (callsBus_bind (callsBus_commandWithPayload _ 1) _)) _
  | readCsd => exact committed_bind committed_readCsd _
  | sectorCount => exact committed_bind committed_sectorCount _
  | setCardDetectPullup connect =>
    exact committed_bind (committed_recording (callsBus_bind (callsBus_applicationCommand _) _)) _

end Session

end SdCard
