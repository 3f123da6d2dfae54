import SdCard.Proofs.Session.Operation

/-!
# What the handshake can do

The handshake changes all that is known of a card, so it comes with contracts of its own: `Underway`
for its parts, and `Started` for the whole with its error noted. It is never refused. By
`start_started` every run of it leaves a card that has just become ready (`BroughtUp`), or a failure
in the session.
-/

namespace SdCard

namespace Session

variable {ε α β : Type}

/-- What a part of the handshake does: it may change what is known of the card, but not how the
card is reached. -/
structure Underway (s : Session) (t : List (Event ε)) (result : Except (Error ε) α)
    (s' : Session) : Prop where
  config : s'.config = s.config
  chipSelect : s'.chipSelect = s.chipSelect
  cause : ∀ error, result = .error error → error.IsCause
  conversation : Conversation (s.waking true) (busCalls t) (Action.fault? result)

/-- A session with a card that has just become ready. -/
structure BroughtUp (mode : ReadyMode) (s : Session) : Prop where
  state : s.state = .ready mode
  version : s.version = mode.version
  lastResponse : s.lastResponse = 0
  lastToken : s.lastToken = 0
  lastChecksum : s.lastChecksum = 0

/-- What the handshake does, with its error noted. -/
structure Started (s : Session) (t : List (Event ε)) (result : Except (Error ε) ReadyMode)
    (s' : Session) : Prop extends Underway s t result s' where
  ready : ∀ mode, result = .ok mode → BroughtUp mode s'
  failed : ∀ error, result = .error error → ∃ session : Session, s' = session.noted error

theorem Conduct.underway {s s' : Session} {t : List (Event ε)} {result : Except (Error ε) α}
    (h : Conduct id true s t result s') : Underway s t result s' :=
  ⟨h.kept.config, h.kept.chipSelect, h.cause, h.conversation⟩

theorem underway_bind {action : Action ε Session α} {f : α → Action ε Session β}
    (haction : action.Satisfies Underway) (hf : ∀ value, (f value).Satisfies Underway) :
    (action >>= f).Satisfies Underway := by
  refine haction.bind hf ?_ ?_
  · intro s t error s' h
    exact ⟨h.config, h.chipSelect, fun e he => h.cause e (by cases he; rfl), h.conversation⟩
  · intro s t value s' u result s'' h₁ h₂
    have hwaking := waking_congr true h₁.config h₁.chipSelect
    refine ⟨h₂.config.trans h₁.config, h₂.chipSelect.trans h₁.chipSelect, h₂.cause, ?_⟩
    rw [busCalls_append]
    exact h₁.conversation.append (hwaking ▸ h₂.conversation)

theorem underway_of_conduct {action : Action ε Session α} (h : action.Satisfies (Conduct id true)) :
    action.Satisfies Underway :=
  h.mono fun _ _ _ _ => Conduct.underway

theorem underway_modify {f : Session → Session} (hconfig : ∀ s, (f s).config = s.config)
    (hchipSelect : ∀ s, (f s).chipSelect = s.chipSelect) :
    (modify f : Action ε Session Unit).Satisfies Underway :=
  Action.satisfies_modify fun s => ⟨hconfig s, hchipSelect s, fun _ h => (nomatch h), .nil⟩

theorem handshake_underway : (handshake : Action ε Session ReadyMode).Satisfies Underway := by
  refine underway_bind (underway_of_conduct conduct_get) fun session => ?_
  refine underway_bind (underway_of_conduct (conduct_mode .mode0)) fun _ => ?_
  refine underway_bind (underway_of_conduct (conduct_clock _)) fun _ => ?_
  refine underway_bind (underway_modify (fun _ => rfl) fun _ => rfl) fun _ => ?_
  refine underway_bind (underway_of_conduct (conduct_goIdle _)) fun _ => ?_
  refine underway_bind (underway_of_conduct conduct_findVersion) fun version => ?_
  refine underway_bind (underway_modify (fun _ => rfl) fun _ => rfl) fun _ => ?_
  refine underway_bind (underway_of_conduct (conduct_log _)) fun _ => ?_
  refine underway_bind (underway_of_conduct (conduct_clock _)) fun _ => ?_
  refine underway_bind (underway_of_conduct conduct_checkVoltage) fun _ => ?_
  refine underway_bind (underway_of_conduct (conduct_leaveIdle version _)) fun _ => ?_
  refine underway_bind (underway_of_conduct (conduct_findMode version)) fun mode => ?_
  refine underway_bind (underway_modify (fun _ => rfl) fun _ => rfl) fun _ => ?_
  exact underway_bind (underway_of_conduct (conduct_log _)) fun _ =>
    underway_of_conduct (conduct_pure mode)

/-- A card of a known version is found, or none. -/
theorem findVersion_known :
    (findVersion : Action ε Session Version).Yields fun _ version _ => version ≠ .unknown := by
  refine Action.yields_of_last fun response => ?_
  split
  · refine Action.yields_of_last fun _ => Action.yields_of_last fun _ => ?_
    exact Action.yields_pure fun _ => by decide
  · split
    · exact Action.yields_pure fun _ => by decide
    · exact Action.yields_throw _

/-- The mode of a card fits its version. -/
theorem findMode_version {version : Version} (h : version ≠ .unknown) :
    (findMode version : Action ε Session ReadyMode).Yields fun _ mode _ =>
      mode.version = version := by
  unfold findMode
  split
  · rename_i hv2
    refine Action.yields_of_last fun response => Action.yields_of_last fun _ => ?_
    refine Action.yields_pure fun _ => ?_
    rw [hv2]
    split <;> rfl
  · rename_i hv2
    have hv1 : version = .v1 := by
      cases version with
      | unknown => exact absurd rfl h
      | v1 => rfl
      | v2 => exact absurd rfl hv2
    refine Action.yields_of_last fun response => Action.yields_of_last fun _ => ?_
    exact Action.yields_pure fun _ => hv1.symm

/-- A success that only needs the version of a session passes through actions that keep it. -/
theorem yields_kept {version : Version} {action : Action ε Session α}
    {f : α → Action ε Session ReadyMode} (haction : action.Satisfies (Conduct id true))
    (hf : ∀ value, (f value).Yields fun s mode s' => s.version = version → BroughtUp mode s') :
    (action >>= f).Yields fun s mode s' => s.version = version → BroughtUp mode s' := by
  have hkept : action.Yields fun s _ s' => s'.version = s.version :=
    haction.mono fun _ _ _ _ h _ _ => h.kept.version
  refine Action.yields_bind hkept hf ?_
  intro s _ s' mode s'' hversion h hs
  exact h (hversion.trans hs)

/-- The last step: with its version in the session and a mode to go with it, a card is ready. -/
theorem yields_becomeReady (chipSelect : UInt8) (mode : ReadyMode) :
    (do
      modify fun session => { session with
        state := .ready mode, lastResponse := 0, lastToken := 0, lastChecksum := 0 }
      Action.log (.becameReady chipSelect mode)
      return mode : Action ε Session ReadyMode).Yields fun s mode' s' =>
        s.version = mode.version → BroughtUp mode' s' := by
  intro s t result s' ht mode' hmode' hs
  cases ht with
  | log ht =>
    cases ht
    cases hmode'
    exact ⟨rfl, hs, rfl, rfl, rfl⟩

/-- From a known version on, a success leaves a card that has just become ready. -/
theorem yields_bringUp {version : Version} (hknown : version ≠ .unknown) (chipSelect : UInt8)
    (config : Config) :
    (do
      Action.log (.versionFound chipSelect version)
      Action.exchange <| Exchange.control (.clock config.dataHz)
      checkVoltage
      leaveIdle version config.readyRounds.toNat
      let mode ← findMode version
      modify fun session => { session with
        state := .ready mode, lastResponse := 0, lastToken := 0, lastChecksum := 0 }
      Action.log (.becameReady chipSelect mode)
      return mode : Action ε Session ReadyMode).Yields fun s mode s' =>
        s.version = version → BroughtUp mode s' := by
  refine yields_kept (conduct_log _) fun _ => ?_
  refine yields_kept (conduct_clock _) fun _ => ?_
  refine yields_kept conduct_checkVoltage fun _ => ?_
  refine yields_kept (conduct_leaveIdle version _) fun _ => ?_
  -- the version is still in the session when the mode is found
  have hfind : (findMode version : Action ε Session ReadyMode).Yields fun s mode s' =>
      s'.version = s.version ∧ mode.version = version := by
    intro s t result s' ht mode hmode
    have hkept : Kept s s' := (conduct_findMode version s t result s' ht : Conduct id true ..).kept
    exact ⟨hkept.version, findMode_version hknown s t result s' ht mode hmode⟩
  refine Action.yields_bind hfind (yields_becomeReady chipSelect) ?_
  intro s mode s' mode' s'' hmode h hs
  apply h
  rw [hmode.1, hmode.2, hs]

/-- Where the handshake succeeds, the card has just become ready. -/
theorem handshake_broughtUp :
    (handshake : Action ε Session ReadyMode).Yields fun _ mode s' => BroughtUp mode s' := by
  refine Action.yields_of_last fun session => ?_
  refine Action.yields_of_last fun _ => Action.yields_of_last fun _ => ?_
  refine Action.yields_of_last fun _ => Action.yields_of_last fun _ => ?_
  -- what came before the version plays no part in what a success leaves
  refine Action.yields_of_value findVersion_known fun version hknown => ?_
  have hset : (modify fun session => { session with version, state := .initializing version } :
      Action ε Session Unit).Yields fun _ _ s' => s'.version = version :=
    Action.yields_modify fun _ => rfl
  refine Action.yields_bind hset (fun _ => yields_bringUp hknown _ _) ?_
  intro s _ s' mode s'' hversion h
  exact h hversion

/-- Every run of the handshake ends with a card that has just become ready, or with its error
noted; and it is no refusal. -/
theorem start_started : (start : Action ε Session ReadyMode).Satisfies Started := by
  have hrecorded : (recording handshake : Action ε Session ReadyMode).Satisfies Started := by
    refine Action.satisfies_noting (handshake_underway.and handshake_broughtUp) record_noted ?_ ?_
    · rintro s t mode s' ⟨h, hready⟩
      exact ⟨h, hready, fun _ h => (nomatch h)⟩
    -- a note changes the state of the card and adds no call of the bus
    · rintro s t error s' u _ s'' ⟨h, -⟩ ⟨hcalls, rfl, rfl⟩
      refine ⟨⟨?_, ?_, h.cause, ?_⟩, fun _ h => (nomatch h), ?_⟩
      · rw [← h.config]
        cases error <;> rfl
      · rw [← h.chipSelect]
        cases error <;> rfl
      · rw [busCalls_append, hcalls, List.append_nil]
        exact h.conversation
      · intro error' he
        cases he
        exact ⟨s', rfl⟩
  have hreset : (modify reset : Action ε Session Unit).Satisfies fun s t result s' =>
      t = [] ∧ result = .ok () ∧ s' = s.reset :=
    Action.satisfies_modify fun s => ⟨rfl, rfl, rfl⟩
  refine hreset.bind (fun _ => hrecorded) ?_ ?_
  · rintro s t error s' ⟨-, h, -⟩
    cases h
  · rintro s t _ s' u result s'' ⟨rfl, -, rfl⟩ h
    exact ⟨⟨h.config, h.chipSelect, h.cause, h.conversation⟩, h.ready, h.failed⟩

/-- As a request, the handshake answers with its mode. -/
theorem traces_start_of_perform {s s' : Session} {t : List (Event ε)}
    {result : Except (Error ε) Answer}
    (h : Program.Traces ((perform .start).exec s) t (result, s')) :
    ∃ started : Except (Error ε) ReadyMode, result = started.map .ready ∧
      Program.Traces (start.exec s) t (started, s') := by
  have hrun : Program.Traces ((start >>= fun mode => pure (.ready mode) :
      Action ε Session Answer).exec s) t (result, s') := h
  rw [Action.exec_bind, Program.traces_bind_iff] at hrun
  obtain ⟨t, u, ⟨started, middle⟩, rfl, hstart, hanswer⟩ := hrun
  cases started with
  | ok mode =>
    cases hanswer
    exact ⟨.ok mode, rfl, by rwa [List.append_nil]⟩
  | error error =>
    cases hanswer
    exact ⟨.error error, rfl, by rwa [List.append_nil]⟩

theorem traces_perform_start {s s' : Session} {t : List (Event ε)}
    {result : Except (Error ε) Answer}
    (h : Program.Traces ((perform .start).exec s) t (result, s')) :
    ∃ started : Except (Error ε) ReadyMode, result = started.map .ready ∧
      Started s t started s' := by
  obtain ⟨started, hresult, hstart⟩ := traces_start_of_perform h
  exact ⟨started, hresult, start_started _ _ _ _ hstart⟩

end Session

end SdCard
