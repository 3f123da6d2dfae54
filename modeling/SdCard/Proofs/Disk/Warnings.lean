import SdCard.Proofs.Disk.Operation
import SdCard.Proofs.Session.Startup
import SdCard.Proofs.Session.Warnings

/-!
# What a disk warns about

A disk leaves it to its session to warn about failures, and adds one warning of its own where a card
could not be brought up. So what a call warns about is told by the operation of the session that it
comes to, which `Request.operation` names. What is written in a warning is told as well.

* `Accounted`: the events of a call, and the warnings among them, as records and as lines;
* `failures_warned`: every operation of a session and every call of a disk.
-/

namespace SdCard

variable {ε : Type}

/-- The step that is recorded as failed. -/
def Error.failure : Error ε → Failure
  | .card failure => failure
  | _ => .unknown

namespace Disk

/-! ## What a call warns about -/

/-- The record that a disk adds where a card was not brought up. -/
def startRecords (session : Session) : Except (Error ε) ReadyMode → List (LogRecord ε)
  | .ok _ => []
  | .error error => [.diskFailed session.chipSelect error session.state]

/-- What is read in the record that a disk adds, which names the step that was recorded. -/
def startLines [ToString ε] (session : Session) : Except (Error ε) ReadyMode → List String
  | .ok _ => []
  | .error error => [diskLine session.chipSelect error error.failure]

/-- The events of a call with those of its session, and what is warned about. -/
structure Accounted [ToString ε] (call : Call ε) : Prop where
  start : call.request = .start → ∃ t result,
    Program.Traces (Session.start.exec call.before.session) t (result, call.after.session) ∧
    call.events = t ++ (startRecords call.after.session result).map .log ∧
    warnings call.events =
      call.after.session.warningsOf result ++ startRecords call.after.session result ∧
    warningLines call.events =
      call.after.session.linesOf result ++ startLines call.after.session result ∧
    ∀ error, result = .error error → call.after.session.state = .failed error.failure
  handedOver : ∀ request, call.request.operation call.before = some request → ∃ result,
    Program.Traces ((Session.perform request).exec call.before.session) call.events
      (result, call.after.session) ∧
    warnings call.events = call.after.session.warningsOf result ∧
    warningLines call.events = call.after.session.linesOf result
  silent : call.request ≠ .start → call.request.operation call.before = none → call.events = []

/-- A card that is brought up, or the failure of that, which is recorded before the disk reports
it. -/
theorem traces_start_records {disk disk' : Disk} {t : List (Event ε)} {status : DiskStatus}
    (h : Program.Traces (start disk) t (status, disk')) : ∃ u result,
      Program.Traces (Session.start.exec disk.session) u (result, disk'.session) ∧
      t = u ++ (startRecords disk'.session result).map .log ∧
      ∀ error, result = .error error → disk'.session.state = .failed error.failure := by
  obtain ⟨u, logs, ⟨result, middle⟩, rfl, hstart, hrest⟩ := Program.traces_bind_iff.mp h
  obtain ⟨session, hrun, rfl⟩ := traces_inSession hstart
  have hstarted := Session.start_started _ _ _ _ hrun
  cases result with
  | ok mode =>
    cases hrest
    exact ⟨u, .ok mode, hrun, rfl, nofun⟩
  | error error =>
    cases hrest with
    | log hrest =>
      cases hrest
      refine ⟨u, .error error, hrun, rfl, ?_⟩
      rintro _ ⟨⟩
      obtain ⟨earlier, rfl⟩ := hstarted.failed error rfl
      have hcause := hstarted.cause error rfl
      cases error with
      | transport => rfl
      | card => rfl
      | notReady => exact hcause.elim
      | outOfRange => exact hcause.elim

/-! ## All calls -/

theorem warnings_map_log (session : Session) (result : Except (Error ε) ReadyMode) :
    warnings ((startRecords session result).map .log) = startRecords session result := by
  cases result <;> rfl

/-- A disk reports the state that the failure has left. -/
theorem text_startRecords [ToString ε] {session : Session} {result : Except (Error ε) ReadyMode}
    (h : ∀ error, result = .error error → session.state = .failed error.failure) :
    (startRecords session result).map LogRecord.text = startLines session result := by
  cases result with
  | ok => rfl
  | error error =>
    rw [startRecords, h error rfl]
    exact congrArg List.singleton (text_diskFailed ..)

theorem accounted_start [ToString ε] {call : Call ε} (hrequest : call.request = .start)
    {t : List (Event ε)} {result : Except (Error ε) ReadyMode}
    (hrun : Program.Traces (Session.start.exec call.before.session) t (result, call.after.session))
    (hevents : call.events = t ++ (startRecords call.after.session result).map .log)
    (hfailed : ∀ error, result = .error error → call.after.session.state = .failed error.failure) :
    Accounted call := by
  have hwarnings : warnings call.events =
      call.after.session.warningsOf result ++ startRecords call.after.session result := by
    rw [hevents, warnings_append, warnings_map_log]
    exact congrArg (· ++ _) (Session.warned_start _ _ _ _ hrun)
  refine ⟨fun _ => ⟨t, result, hrun, hevents, hwarnings, ?_, hfailed⟩, fun request hoperation => ?_,
    fun h => absurd hrequest h⟩
  · rw [warningLines, hwarnings, List.map_append, Session.text_warningsOf,
      text_startRecords hfailed]
  · rw [hrequest] at hoperation
    cases hoperation

/-- Any other call is the operation that it comes to, which warns about itself. -/
theorem accounted_handsOver [ToString ε] {call : Call ε} (hrequest : call.request ≠ .start)
    (h : HandsOver call.before call.after call.events (call.request.operation call.before)) :
    Accounted call := by
  refine ⟨fun hstart => absurd hstart hrequest, fun request hoperation => ?_, fun _ hnone => ?_⟩
  · rw [hoperation] at h
    obtain ⟨result, hrun⟩ := h
    exact ⟨result, hrun, Session.warned_perform request _ _ _ _ hrun,
      Session.lines_perform request _ _ _ _ hrun⟩
  · rw [hnone] at h
    exact h.1

theorem genuine_accounted [ToString ε] {call : Call ε} (h : call.Genuine) : Accounted call := by
  by_cases hrequest : call.request = .start
  · obtain ⟨request, events, answer, before, after⟩ := call
    obtain rfl : request = .start := hrequest
    obtain ⟨t, u, ⟨status, middle⟩, rfl, hstart, hdone⟩ := Program.traces_bind_iff.mp h
    cases hdone
    rw [List.append_nil]
    obtain ⟨u, result, hrun, hevents, hfailed⟩ := traces_start_records hstart
    exact accounted_start rfl hrun hevents hfailed
  · exact accounted_handsOver hrequest (genuine_handsOver h hrequest)

/-- On every bus, every operation of a session warns once about an error of the bus or the card,
with what the session remembers at its end, and about nothing else; and a disk adds one warning
where a card could not be brought up, with the state that this has left, and no record anywhere
else. The lines that are written have the label of the step with both bytes, or the text of the
fault, and the line about a card tells all that is reported in it. -/
theorem failures_warned [ToString ε] :
    (∀ (request : Session.Request) (s s' : Session) (t : List (Event ε))
      (result : Except (Error ε) Session.Answer),
      Program.Traces ((Session.perform request).exec s) t (result, s') →
      warnings t = s'.warningsOf result ∧ warningLines t = s'.linesOf result) ∧
    (∀ call : Call ε, call.Genuine → Accounted call) ∧
    ∀ (chipSelect chipSelect' response response' token token' : UInt8)
      (failure failure' : Failure),
      (LogRecord.cardFailed chipSelect failure response token : LogRecord ε).text =
        (LogRecord.cardFailed chipSelect' failure' response' token' : LogRecord ε).text →
      chipSelect = chipSelect' ∧ failure = failure' ∧ response = response' ∧ token = token' := by
  refine ⟨fun request s s' t result h => ?_, fun _ => genuine_accounted, ?_⟩
  · exact ⟨Session.warned_perform request s t result s' h,
      Session.lines_perform request s t result s' h⟩
  · intro _ _ _ _ _ _ _ _ h
    rw [text_cardFailed, text_cardFailed] at h
    exact cardLine_inj h

end Disk

end SdCard
