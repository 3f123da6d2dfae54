import SdCard.CardModel.Transfer
import SdCard.Proofs.Session.Startup

/-!
# Histories of a session

A session is only ever changed by operations, so what it says can be held against the operations
that were carried out on it. `History` lists them, whatever the buses answered; `Coherent` is what a
session keeps to through all of them, and `Agreement` says of the last operation how its result and
the session that it leaves go together.

* `outcome_agrees` and `started_agrees`: one operation on a coherent session;
* `history_agreement`: every operation of every history.
-/

namespace SdCard

namespace Session

variable {ε : Type}

/-- An operation that was carried out: what was asked for, what went over the bus, the result, and
the session before and after. -/
structure Call (ε : Type) where
  request : Request
  events : List (Event ε)
  result : Except (Error ε) Answer
  before : Session
  after : Session

namespace Call

/-- The operation goes like this on some bus. -/
def Genuine (call : Call ε) : Prop :=
  Program.Traces ((perform call.request).exec call.before) call.events (call.result, call.after)

/-- One operation carried out on a bus, and the state that this leaves the bus in. -/
def run {σ : Type} (bus : Bus ε σ) (request : Request) (session : Session) (s : σ) :
    Call ε × σ :=
  let run := ((perform request).exec session).run bus s
  (⟨request, run.events.toList, run.value.1, session, run.value.2⟩, run.bus)

theorem genuine_run {σ : Type} (bus : Bus ε σ) (request : Request) (session : Session) (s : σ) :
    (run bus request session s).1.Genuine :=
  Program.run_traces bus ((perform request).exec session) s

@[simp] theorem before_run {σ : Type} (bus : Bus ε σ) (request : Request) (session : Session)
    (s : σ) : (run bus request session s).1.before = session := rfl

/-- The operation is the handshake. -/
def isStart (call : Call ε) : Bool :=
  match call.request with
  | .start => true
  | _ => false

theorem isStart_iff {call : Call ε} : call.isStart = true ↔ call.request = .start := by
  obtain ⟨request, events, result, before, after⟩ := call
  cases request <;> simp [isStart]

end Call

/-- The operations carried out on a session since it was `first`, the last one in front. -/
inductive History (first : Session) : List (Call ε) → Session → Prop
  | nil : History first [] first
  | cons {past session call} : History first past session → call.Genuine →
      call.before = session → History first (call :: past) call.after

/-- The last handshake. -/
def lastStart (calls : List (Call ε)) : Option (Call ε) := calls.find? Call.isStart

/-- What a session says after some operations. -/
structure Coherent (calls : List (Call ε)) (session : Session) : Prop where
  notInitializing : ∀ version, session.state ≠ .initializing version
  notStarted : session.state = .notReady → ∀ call ∈ calls, call.request ≠ .start
  ready : ∀ mode, session.state = .ready mode → session.version = mode.version ∧
    ∃ call, lastStart calls = some call ∧ call.result = .ok (.ready mode)

/-- How an operation, its result, and the session before and after go together. -/
structure Agreement (past : List (Call ε)) (call : Call ε) : Prop where
  coherent : Coherent (call :: past) call.after
  /-- A handshake that succeeds gives the mode of a card that has just become ready. -/
  broughtUp : call.request = .start → ∀ answer, call.result = .ok answer →
    ∃ mode, answer = .ready mode ∧ BroughtUp mode call.after
  startAccepted : call.request = .start → call.result ≠ .error .notReady ∧
    ∀ offset length, call.result ≠ .error (.outOfRange offset length)
  notReady_iff : call.request ≠ .start →
    (call.result = .error .notReady ↔ ∀ mode, call.before.state ≠ .ready mode)
  /-- A refusal is free: nothing goes over the bus or into the log, and the session stays. -/
  refused : call.result = .error .notReady ∨
    (∃ offset length, call.result = .error (.outOfRange offset length)) →
    call.events = [] ∧ call.after = call.before
  failed : ∀ failure, call.result = .error (.card failure) → call.after.state = .failed failure
  transport : ∀ fault, call.result = .error (.transport fault) →
    call.after.state = .failed .unknown
  /-- Only a fault of the bus is noted as an unknown failure, and no result reports one. -/
  unknown : call.after.state = .failed .unknown →
    (∃ fault, call.result = .error (.transport fault)) ∨
    (call.before.state = .failed .unknown ∧ call.after = call.before)
  known : call.result ≠ .error (.card .unknown)
  /-- Any other operation that succeeds leaves the card as ready as it was. -/
  kept : call.request ≠ .start → ∀ answer, call.result = .ok answer →
    (∃ mode, call.before.state = .ready mode) ∧ call.after.state = call.before.state ∧
    call.after.version = call.before.version

theorem noted_state {session : Session} {error : Error ε} (h : error.IsCause) :
    ∃ failure, (session.noted error).state = .failed failure := by
  cases error with
  | transport fault => exact ⟨.unknown, rfl⟩
  | card failure => exact ⟨failure, rfl⟩
  | notReady => exact absurd h id
  | outOfRange => exact absurd h id

theorem coherent_of_failed {calls : List (Call ε)} {session : Session} {failure : Failure}
    (h : session.state = .failed failure) : Coherent calls session where
  notInitializing _ hs := by rw [h] at hs; cases hs
  notStarted hs := by rw [h] at hs; cases hs
  ready _ hs := by rw [h] at hs; cases hs

/-- An operation that leaves state and version alone keeps the session coherent, unless it is a
handshake. -/
theorem Coherent.kept {past : List (Call ε)} {before : Session} {call : Call ε}
    (h : Coherent past before) (hrequest : call.request ≠ .start)
    (hstate : call.after.state = before.state) (hversion : call.after.version = before.version) :
    Coherent (call :: past) call.after where
  notInitializing version := by
    rw [hstate]
    exact h.notInitializing version
  notStarted hnew c hc := by
    rw [hstate] at hnew
    rcases List.mem_cons.mp hc with rfl | hc
    · exact hrequest
    · exact h.notStarted hnew c hc
  ready mode hmode := by
    rw [hstate] at hmode
    obtain ⟨hknown, start, hstart, hresult⟩ := h.ready mode hmode
    -- the last handshake is still the last
    refine ⟨hversion.trans hknown, start, ?_, hresult⟩
    have hcall : call.isStart = false :=
      Bool.eq_false_iff.mpr fun h => hrequest (Call.isStart_iff.mp h)
    rw [lastStart, List.find?_cons_of_neg (by simp [hcall])]
    exact hstart

/-! ## The four ways an operation can end -/

section Endings

variable {past : List (Call ε)} {call : Call ε}

/-- The request was refused. -/
theorem agreement_of_refusal {error : Error ε} (h : Coherent past call.before)
    (hrequest : call.request ≠ .start) (hresult : call.result = .error error)
    (hrefusal : error = .notReady ∨ ∃ offset length, error = .outOfRange offset length)
    (hready : error = .notReady ↔ ∀ mode, call.before.state ≠ .ready mode)
    (hevents : call.events = []) (hafter : call.after = call.before) : Agreement past call where
  coherent := h.kept hrequest (by rw [hafter]) (by rw [hafter])
  broughtUp hs := absurd hs hrequest
  startAccepted hs := absurd hs hrequest
  notReady_iff _ := by rw [hresult, Except.error.injEq]; exact hready
  refused _ := ⟨hevents, hafter⟩
  failed failure hs := by rcases hrefusal with rfl | ⟨_, _, rfl⟩ <;> rw [hresult] at hs <;> cases hs
  transport fault hs := by rcases hrefusal with rfl | ⟨_, _, rfl⟩ <;> rw [hresult] at hs <;> cases hs
  unknown hs := .inr ⟨by rwa [hafter] at hs, hafter⟩
  known hs := by rcases hrefusal with rfl | ⟨_, _, rfl⟩ <;> rw [hresult] at hs <;> cases hs
  kept _ _ hs := by rw [hresult] at hs; cases hs

/-- The bus or the card let the operation down, and the session says so. -/
theorem agreement_of_cause {error : Error ε} {session : Session}
    (hready : call.request ≠ .start → ∃ mode, call.before.state = .ready mode)
    (hresult : call.result = .error error) (hcause : error.IsCause)
    (hafter : call.after = session.noted error) : Agreement past call where
  coherent := by
    have hnoted : ∃ failure, (session.noted error).state = .failed failure := noted_state hcause
    obtain ⟨failure, hfailure⟩ := hnoted
    apply coherent_of_failed
    rw [hafter, hfailure]
  broughtUp _ _ hs := by rw [hresult] at hs; cases hs
  startAccepted _ := by
    constructor
    · intro hs
      rw [hresult] at hs
      cases hs
      exact hcause
    · intro offset length hs
      rw [hresult] at hs
      cases hs
      exact hcause
  notReady_iff hrequest := by
    obtain ⟨mode, hmode⟩ := hready hrequest
    constructor
    · intro hs
      rw [hresult] at hs
      cases hs
      exact absurd hcause id
    · intro hs
      exact absurd hmode (hs mode)
  refused hs := by
    rcases hs with hs | ⟨_, _, hs⟩ <;> rw [hresult] at hs <;> cases hs <;> exact absurd hcause id
  failed failure hs := by rw [hresult] at hs; cases hs; rw [hafter]; rfl
  transport fault hs := by rw [hresult] at hs; cases hs; rw [hafter]; rfl
  unknown hs := by
    left
    -- a failure of the card has a name of its own, so an unknown one is a fault of the bus
    cases error with
    | transport fault => exact ⟨fault, hresult⟩
    | card failure =>
      rw [hafter] at hs
      cases hs
      exact absurd rfl hcause
    | notReady => exact absurd hcause id
    | outOfRange => exact absurd hcause id
  known hs := by rw [hresult] at hs; cases hs; exact hcause rfl
  kept _ _ hs := by rw [hresult] at hs; cases hs

/-- An operation on a ready card succeeded. -/
theorem agreement_of_kept {mode : ReadyMode} {answer : Answer} (h : Coherent past call.before)
    (hrequest : call.request ≠ .start) (hmode : call.before.state = .ready mode)
    (hresult : call.result = .ok answer) (hkept : Kept call.before call.after) :
    Agreement past call where
  coherent := h.kept hrequest hkept.state hkept.version
  broughtUp hs := absurd hs hrequest
  startAccepted hs := absurd hs hrequest
  notReady_iff _ := by
    rw [hresult]
    exact ⟨fun hs => (nomatch hs), fun hs => absurd hmode (hs mode)⟩
  refused hs := by rcases hs with hs | ⟨_, _, hs⟩ <;> rw [hresult] at hs <;> cases hs
  failed _ hs := by rw [hresult] at hs; cases hs
  transport _ hs := by rw [hresult] at hs; cases hs
  unknown hs := by rw [hkept.state, hmode] at hs; cases hs
  known hs := by rw [hresult] at hs; cases hs
  kept _ _ _ := ⟨⟨mode, hmode⟩, hkept.state, hkept.version⟩

/-- The handshake succeeded. -/
theorem agreement_of_broughtUp {mode : ReadyMode} (hrequest : call.request = .start)
    (hresult : call.result = .ok (.ready mode)) (hup : BroughtUp mode call.after) :
    Agreement past call where
  coherent := by
    refine ⟨fun version hs => ?_, fun hs => ?_, fun mode' hs => ?_⟩
    · rw [hup.state] at hs
      cases hs
    · rw [hup.state] at hs
      cases hs
    · rw [hup.state] at hs
      cases hs
      refine ⟨hup.version, call, ?_, hresult⟩
      exact List.find?_cons_of_pos (Call.isStart_iff.mpr hrequest)
  broughtUp _ answer hs := by
    rw [hresult] at hs
    cases hs
    exact ⟨mode, rfl, hup⟩
  startAccepted _ := by
    rw [hresult]
    exact ⟨fun hs => (nomatch hs), fun _ _ hs => (nomatch hs)⟩
  notReady_iff hs := absurd hrequest hs
  refused hs := by rcases hs with hs | ⟨_, _, hs⟩ <;> rw [hresult] at hs <;> cases hs
  failed _ hs := by rw [hresult] at hs; cases hs
  transport _ hs := by rw [hresult] at hs; cases hs
  unknown hs := by rw [hup.state] at hs; cases hs
  known hs := by rw [hresult] at hs; cases hs
  kept hs := absurd hrequest hs

end Endings

/-! ## One operation -/

theorem outcome_agrees {past : List (Call ε)} {call : Call ε} (h : Coherent past call.before)
    (hrequest : call.request ≠ .start)
    (houtcome : Outcome call.before call.events call.result call.after) :
    Agreement past call := by
  obtain ⟨request, events, result, before, after⟩ := call
  simp only at hrequest h houtcome
  cases houtcome with
  | notReady hmode =>
    refine agreement_of_refusal h hrequest rfl (.inl rfl) ⟨fun _ mode hs => ?_, fun _ => rfl⟩ rfl rfl
    simp only at hs
    rw [hs] at hmode
    cases hmode
  | outOfRange hmode =>
    exact agreement_of_refusal h hrequest rfl (.inr ⟨_, _, rfl⟩)
      ⟨fun hs => (nomatch hs), fun hs => absurd hmode (hs _)⟩ rfl rfl
  | carriedOut hmode hrecorded =>
    obtain ⟨session, hkept, hafter⟩ := hrecorded.left
    cases result with
    | ok answer =>
      have hkept : Kept before after := by
        rw [show after = session from hafter]
        exact hkept
      exact agreement_of_kept h hrequest hmode rfl hkept
    | error error =>
      exact agreement_of_cause (fun _ => ⟨_, hmode⟩) rfl (hrecorded.cause error rfl) hafter

theorem started_agrees {past : List (Call ε)} {call : Call ε} (hrequest : call.request = .start)
    (hgenuine : call.Genuine) : Agreement past call := by
  obtain ⟨request, events, result, before, after⟩ := call
  simp only at hrequest
  subst hrequest
  obtain ⟨started, rfl, hstarted⟩ := traces_perform_start hgenuine
  cases started with
  | ok mode => exact agreement_of_broughtUp rfl rfl (hstarted.ready mode rfl)
  | error error =>
    obtain ⟨session, hafter⟩ := hstarted.failed error rfl
    exact agreement_of_cause (fun hs => absurd rfl hs) rfl (hstarted.cause error rfl) hafter

/-! ## All operations -/

theorem coherent_fresh (chipSelect : UInt8) (config : Config) :
    Coherent ([] : List (Call ε)) (fresh chipSelect config) where
  notInitializing _ h := nomatch h
  notStarted _ _ h := nomatch h
  ready _ h := nomatch h

theorem genuine_agrees {past : List (Call ε)} {call : Call ε} (h : Coherent past call.before)
    (hgenuine : call.Genuine) : Agreement past call := by
  by_cases hrequest : call.request = .start
  · exact started_agrees hrequest hgenuine
  · exact outcome_agrees h hrequest (perform_outcome hrequest _ _ _ _ hgenuine)

theorem History.coherent {chipSelect : UInt8} {config : Config} {calls : List (Call ε)}
    {session : Session} (h : History (fresh chipSelect config) calls session) :
    Coherent calls session := by
  -- `Agreement` is not carried along: it says of each operation what coherence before it gives
  induction h with
  | nil => exact coherent_fresh chipSelect config
  | cons _ hgenuine hbefore ih =>
    subst hbefore
    exact (genuine_agrees ih hgenuine).coherent

/-- In every history of a session, on any buses, the result of each operation and the session that
it leaves agree. -/
theorem history_agreement {chipSelect : UInt8} {config : Config} {past : List (Call ε)}
    {call : Call ε} {session : Session}
    (h : History (fresh chipSelect config) (call :: past) session) :
    session = call.after ∧ Agreement past call := by
  cases h with
  | cons hpast hgenuine hbefore =>
    subst hbefore
    exact ⟨rfl, genuine_agrees hpast.coherent hgenuine⟩

/-- A card is brought up and asked for its status. -/
theorem history_agreement_status :
    let start := Call.run (CardModel.bus ()) .start (fresh 0 {}) (CardModel.ofKind (.v2 true))
    let status := Call.run (CardModel.bus ()) .status start.1.after start.2
    History (fresh 0 {}) [status.1, start.1] status.1.after ∧
      status.1.result.toOption = some (.status 0) ∧ Agreement [start.1] status.1 := by
  intro start status
  have hhistory : History (fresh 0 {}) [status.1, start.1] status.1.after :=
    .cons (.cons .nil (Call.genuine_run _ _ _ _) (Call.before_run _ _ _ _))
      (Call.genuine_run _ _ _ _) (Call.before_run _ _ _ _)
  exact ⟨hhistory, by decide +kernel, (history_agreement hhistory).2⟩

end Session

end SdCard
