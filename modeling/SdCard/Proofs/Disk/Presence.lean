import SdCard.Proofs.Disk.Operation
import SdCard.Proofs.Session.Refusal
import SdCard.Proofs.Session.Resets
import SdCard.Simulation.ScriptedBus

/-!
# Whether a card answers

A disk reads its status off what the session remembers. So it says that there is no card where CMD0
was given up and the session remembers the idle byte, which is the response to the last attempt, or
the want of one. That is not the same as that no attempt drew a response: an earlier one may have,
and the bus may have failed while the card was let go of.

* `History.status`: the status stands until the bus is called again;
* `lastUnanswered_iff`: the session gives CMD0 up without a response exactly where the last attempt
  drew none;
* `start_status`: the status after every start, and where it says the same as `Unanswered`.
-/

namespace SdCard

variable {ε : Type}

namespace Disk

/-! ## Calls without a call of the bus -/

/-- A call that does not call the bus leaves the session alone, as the operation does that it comes
to. -/
theorem genuine_untouched {call : Call ε} (h : call.Genuine) (hrequest : call.request ≠ .start)
    (hcalls : busCalls call.events = []) : call.after.session = call.before.session := by
  have hover := genuine_handsOver h hrequest
  cases hoperation : call.request.operation call.before with
  | none =>
    rw [hoperation] at hover
    exact hover.2
  | some request =>
    rw [hoperation] at hover
    obtain ⟨result, hrun⟩ := hover
    exact (Session.perform_committed request _ _ _ _ hrun).untouched hcalls

/-- The status is what the session makes it. -/
theorem status_congr {disk other : Disk} (h : disk.session = other.session) :
    disk.status = other.status := by
  unfold status isEmptySocket
  rw [h]

/-- Calls that are refused before the bus is called leave the status alone. -/
theorem History.status {first disk : Disk} {calls : List (Call ε)} (h : History first calls disk)
    (hcalls : ∀ call ∈ calls, call.request ≠ .start ∧ busCalls call.events = []) :
    disk.status = first.status := by
  induction h with
  | nil => rfl
  | cons _ hgenuine hbefore ih =>
    obtain ⟨⟨hrequest, hsilent⟩, hpast⟩ := List.forall_mem_cons.mp hcalls
    rw [status_congr (genuine_untouched hgenuine hrequest hsilent), hbefore, ih hpast]

/-! ## Starts -/

/-- All attempts of CMD0 were made without a fault of the bus, and none of them drew a response. -/
structure Unanswered (config : Config) (t : List (Event ε)) : Prop where
  sound : faults t = []
  attempts : (resetReplies t).length = atLeastOnce config.resetAttempts
  idle : ∀ replies ∈ resetReplies t, ∀ reply ∈ replies, reply = 0xFF

/-- All attempts of CMD0 were made with no fault of the bus but in releases, and the last of them
drew no response. -/
structure LastUnanswered (config : Config) (t : List (Event ε)) : Prop where
  sound : faults (withoutReleases (busCalls t)) = []
  attempts : (resetReplies t).length = atLeastOnce config.resetAttempts
  idle : ∀ replies, (resetReplies t).getLast? = some replies → ∀ reply ∈ replies, reply = 0xFF

theorem Unanswered.last {config : Config} {t : List (Event ε)} (h : Unanswered config t) :
    LastUnanswered config t := by
  refine ⟨?_, h.attempts, fun replies hlast => h.idle replies (List.mem_of_getLast? hlast)⟩
  have hsublist : (withoutReleases (busCalls t)).Sublist t :=
    (withoutReleases_sublist _).trans List.filter_sublist
  have hfaults := hsublist.filterMap Event.fault?
  exact List.sublist_nil.mp (h.sound ▸ hfaults)

/-- A disk whose card is ready can be used. -/
theorem status_of_ready {disk : Disk} {mode : ReadyMode} (h : disk.session.state = .ready mode) :
    disk.status = .usable :=
  if_pos (State.isReady_iff.mpr ⟨mode, h⟩)

/-- A disk that could not be brought up cannot, for want of a card if that is what was recorded. -/
theorem status_of_failed {disk : Disk} {failure : Failure}
    (h : disk.session.state = .failed failure) : disk.status = ⟨true, disk.isEmptySocket⟩ := by
  refine if_neg fun hready => ?_
  obtain ⟨mode, hmode⟩ := State.isReady_iff.mp hready
  rw [h] at hmode
  cases hmode

/-- A start is the handshake of the session, and then at most a log record. It answers with the
status that it leaves. -/
theorem traces_start {disk disk' : Disk} {t : List (Event ε)} {status : DiskStatus}
    (h : Program.Traces (start disk) t (status, disk')) :
    status = disk'.status ∧ ∃ u logs result, t = u ++ logs ∧ busCalls logs = [] ∧
      Program.Traces (Session.start.exec disk.session) u (result, disk'.session) := by
  obtain ⟨u, logs, ⟨result, middle⟩, rfl, hstart, hrest⟩ := Program.traces_bind_iff.mp h
  obtain ⟨session, hrun, rfl⟩ := traces_inSession hstart
  cases result with
  | ok mode =>
    cases hrest
    have hready := (Session.start_started _ _ _ _ hrun).ready mode rfl
    exact ⟨(status_of_ready hready.state).symm, u, [], .ok mode, rfl, rfl, hrun⟩
  | error error =>
    cases hrest with
    | log hrest =>
      cases hrest
      exact ⟨rfl, u, _, .error error, rfl, rfl, hrun⟩

/-- The status after a handshake tells how the handshake ended. -/
theorem status_started {disk : Disk} {before : Session} {t : List (Event ε)}
    {result : Except (Error ε) ReadyMode}
    (h : Program.Traces (Session.start.exec before) t (result, disk.session)) :
    (disk.status.notInitialized = false ↔ ∃ mode, result = .ok mode) ∧
      (disk.status.noDisk = true ↔
        result = .error (.card .resetIgnored) ∧ disk.session.lastResponse = idleByte) := by
  have hstarted := Session.start_started _ _ _ _ h
  cases result with
  | ok mode =>
    have hstate := (hstarted.ready mode rfl).state
    simp [status_of_ready hstate, DiskStatus.usable]
  | error error =>
    obtain ⟨session, hsession⟩ := hstarted.failed error rfl
    have hcause := hstarted.cause error rfl
    cases error with
    | notReady => exact hcause.elim
    | outOfRange => exact hcause.elim
    | transport fault =>
      have hstate : disk.session.state = .failed .unknown := by rw [hsession]; rfl
      simp [status_of_failed hstate, isEmptySocket, hstate]
    | card failure =>
      have hstate : disk.session.state = .failed failure := by rw [hsession]; rfl
      simp [status_of_failed hstate, isEmptySocket, hstate]

/-- A handshake gives CMD0 up without a response exactly where its last attempt drew none. -/
theorem lastUnanswered_iff {before after : Session} {t : List (Event ε)}
    {result : Except (Error ε) ReadyMode}
    (h : Program.Traces (Session.start.exec before) t (result, after)) :
    result = .error (.card .resetIgnored) ∧ after.lastResponse = idleByte ↔
      LastUnanswered before.config t := by
  have hroused := Session.start_roused _ _ _ _ h
  have hmeets := (Session.start_started _ _ _ _ h).conversation.meets []
  have hfaults : faults (withoutReleases (busCalls t)) = (Action.fault? result).toList := by
    simpa [withoutReleases] using hmeets
  constructor
  · rintro ⟨rfl, hlast⟩
    cases hroused with
    | idle _ _ hresult => exact absurd rfl hresult
    | ignored hresets hlength hget hkept =>
      refine ⟨hfaults, hresets.eq ▸ hlength, fun replies hreplies => ?_⟩
      rw [hresets.eq, hget] at hreplies
      cases hreplies
      exact polledAnswer_eq_idle_iff.mp (hkept.symm.trans hlast)
  · rintro ⟨hsound, hattempts, hidle⟩
    cases hroused with
    | @idle attempts _ _ hresets hanswered hresult =>
      rw [hresets.eq] at hidle
      rw [List.getLast?_map, Option.map_eq_some_iff] at hanswered
      obtain ⟨replies, hreplies, hanswer⟩ := hanswered
      rw [polledAnswer_eq_idle_iff.mpr (hidle replies hreplies)] at hanswer
      exact absurd hanswer (by decide)
    | ignored hresets hlength hget hkept =>
      rw [hresets.eq] at hidle
      exact ⟨rfl, hkept.trans (polledAnswer_eq_idle_iff.mpr (hidle _ hget))⟩
    | broken =>
      rw [hsound] at hfaults
      cases hfaults

/-- Log records are neither faults nor attempts. -/
theorem lastUnanswered_append (config : Config) (t : List (Event ε)) {logs : List (Event ε)}
    (h : busCalls logs = []) :
    LastUnanswered config (t ++ logs) ↔ LastUnanswered config t := by
  have hcalls : busCalls (t ++ logs) = busCalls t := by rw [busCalls_append, h, List.append_nil]
  constructor
  · rintro ⟨hsound, hattempts, hidle⟩
    rw [resetReplies_append t h] at hattempts hidle
    exact ⟨hcalls ▸ hsound, hattempts, hidle⟩
  · rintro ⟨hsound, hattempts, hidle⟩
    rw [← resetReplies_append t h] at hattempts hidle
    exact ⟨hcalls.symm ▸ hsound, hattempts, hidle⟩

/-- The status after every start is what the start has answered, and what the disk answers until the
bus is called again. It says that the disk can be used exactly if the handshake has succeeded, and
that there is no card exactly if the last attempt of CMD0 drew no response. That is the same as that
no attempt drew one exactly if no earlier one did and no release met a fault. -/
theorem start_status {call : Call ε} (h : call.Genuine) (hrequest : call.request = .start) :
    let config := call.before.session.config
    let status := call.after.status
    call.answer = .status status ∧
    (∀ (calls : List (Call ε)) disk, History call.after calls disk →
      (∀ later ∈ calls, later.request ≠ .start ∧ busCalls later.events = []) →
      perform .status disk = (pure (call.answer, disk) : Program ε (Answer × Disk))) ∧
    (∃ t result, Program.Traces (Session.start.exec call.before.session) t
        (result, call.after.session) ∧ busCalls t = busCalls call.events ∧
      (status.notInitialized = false ↔ ∃ mode, result = .ok mode)) ∧
    (status.noDisk = true ↔ LastUnanswered config call.events) ∧
    ((status.noDisk = true ↔ Unanswered config call.events) ↔
      (LastUnanswered config call.events → faults call.events = [] ∧
        ∀ replies ∈ resetReplies call.events, ∀ reply ∈ replies, reply = 0xFF)) := by
  intro config status
  obtain ⟨request, events, answer, before, after⟩ := call
  obtain rfl : request = .start := hrequest
  unfold Call.Genuine at h
  dsimp only [perform] at h
  obtain ⟨t, u, ⟨started, middle⟩, rfl, hstart, hdone⟩ := Program.traces_bind_iff.mp h
  cases hdone
  rw [List.append_nil]
  obtain ⟨rfl, t, logs, result, rfl, hlogs, hrun⟩ := traces_start hstart
  obtain ⟨hready, hempty⟩ := status_started hrun
  have hlast : status.noDisk = true ↔ LastUnanswered config (t ++ logs) := by
    rw [lastUnanswered_append config t hlogs]
    exact hempty.trans (lastUnanswered_iff hrun)
  refine ⟨rfl, fun calls disk hhistory hcalls => ?_, ⟨t, result, hrun, ?_, hready⟩, hlast, ?_⟩
  · change Program.done (Answer.status disk.status, disk) = _
    rw [hhistory.status hcalls]
    rfl
  · rw [busCalls_append, hlogs, List.append_nil]
  · rw [hlast]
    constructor
    · intro hsame hunanswered
      obtain ⟨hsound, -, hidle⟩ := hsame.mp hunanswered
      exact ⟨hsound, hidle⟩
    · intro hclean
      refine ⟨fun hunanswered => ?_, Unanswered.last⟩
      obtain ⟨hsound, hidle⟩ := hclean hunanswered
      exact ⟨hsound, hunanswered.attempts, hidle⟩

/-- An empty socket: none of two attempts draws a response, and the disk says so until the bus is
called again. -/
theorem start_status_absent :
    let disk := ofSession (Session.fresh 0 { resetAttempts := 2, powerUpBytes := 1 })
    let start := Call.run (CardModel.bus ()) .start disk (CardModel.ofKind .absent)
    let named := Call.run (CardModel.bus ()) (.writeBegin 7) start.1.after start.2
    let refused := Call.run (CardModel.bus ()) (.writeData [1] 1) named.1.after named.2
    start.1.Genuine ∧ Unanswered disk.session.config start.1.events ∧
      start.1.answer = .status ⟨true, true⟩ ∧ refused.1.answer = .result .notReady ∧
      perform .status refused.1.after =
        (pure (start.1.answer, refused.1.after) : Program Unit (Answer × Disk)) := by
  intro disk start named refused
  have hgenuine : start.1.Genuine := Call.genuine_run _ _ _ _
  have hlater : History start.1.after [refused.1, named.1] refused.1.after :=
    .cons (.cons .nil (Call.genuine_run _ _ _ _) (Call.before_run _ _ _ _))
      (Call.genuine_run _ _ _ _) (Call.before_run _ _ _ _)
  have hsilent : ∀ later ∈ [refused.1, named.1],
      later.request ≠ .start ∧ busCalls later.events = [] := by
    have hrefused : busCalls refused.1.events = [] := by decide +kernel
    rw [List.forall_mem_cons, List.forall_mem_singleton, Call.request_run, Call.request_run]
    exact ⟨⟨nofun, hrefused⟩, nofun, rfl⟩
  obtain ⟨-, hstanding, -, -, hmeans⟩ := start_status hgenuine rfl
  have hidle : faults start.1.events = [] ∧
      ∀ replies ∈ resetReplies start.1.events, ∀ reply ∈ replies, reply = 0xFF := by
    decide +kernel
  have hempty : start.1.after.status.noDisk = true := by decide +kernel
  exact ⟨hgenuine, (hmeans.mpr fun _ => hidle).mp hempty, by decide +kernel, by decide +kernel,
    hstanding _ _ hlater hsilent⟩

/-- A card answers the first of two attempts and not the second one, and the disk says that there is
no card. -/
theorem noDisk_after_answer :
    let bus : ScriptedBus := { script :=
      { replies := List.replicate 6 0xFF ++ [0x05], idleReply := 0xFF, failing := [],
        failingFrom := none } }
    let disk := ofSession (Session.fresh 0 { resetAttempts := 2, powerUpBytes := 0 })
    let start := (Call.run (ScriptedBus.bus ()) .start disk bus).1
    start.Genuine ∧ start.request = .start ∧ faults start.events = [] ∧
      resetReplies start.events = [[0x05], List.replicate 8 0xFF] ∧
      start.after.status = ⟨true, true⟩ ∧ ¬ Unanswered disk.session.config start.events := by
  intro bus disk start
  have hreplies : resetReplies start.events = [[0x05], List.replicate 8 0xFF] := by decide +kernel
  refine ⟨Call.genuine_run _ _ _ _, rfl, by decide +kernel, hreplies, by decide +kernel, ?_⟩
  intro hunanswered
  have hidle := hunanswered.idle [0x05] (by rw [hreplies]; exact List.mem_cons_self ..) 0x05
    (List.mem_singleton_self _)
  exact absurd hidle (by decide)

end Disk

end SdCard
