import SdCard.Proofs.Bus.Faults
import SdCard.Proofs.Session.Bracketing

/-!
# Faults of the bus and what is said of them

An operation reports the fault that it ended at, and the session then says that it has failed.
Faults that are met while the card is let go of leave no trace.

* `genuine_faults`: the fault that an operation reports is the one fault outside of its releases;
* `fault_noted`: so no fault goes unrecorded exactly if none is met in releases alone.
-/

namespace SdCard

namespace Session

variable {ε : Type}

/-- The faults that an operation meets outside of its releases are the one that it reports, if it
reports one. -/
theorem genuine_faults {call : Call ε} (h : call.Genuine) :
    faults (withoutReleases (busCalls call.events)) = (Action.fault? call.result).toList := by
  have hmeets := (genuine_conversation h).meets []
  simpa [withoutReleases] using hmeets

/-- A fault of the bus that is reported is noted in the session. -/
theorem genuine_transport {call : Call ε} (h : call.Genuine) {fault : ε}
    (hresult : call.result = .error (.transport fault)) : call.after.state = .failed .unknown := by
  obtain ⟨request, events, result, before, after⟩ := call
  simp only at hresult ⊢
  subst hresult
  by_cases hrequest : request = .start
  · subst hrequest
    obtain ⟨started, hstart, hstarted⟩ := traces_perform_start h
    cases started with
    | ok mode => cases hstart
    | error error =>
      cases hstart
      obtain ⟨session, rfl⟩ := hstarted.failed _ rfl
      rfl
  · have houtcome : Outcome before events (.error (.transport fault) : Except (Error ε) Answer)
        after := perform_outcome hrequest _ _ _ _ h
    cases houtcome with
    | carriedOut _ hrecorded =>
      obtain ⟨session, -, hafter⟩ := hrecorded.left
      rw [show after = session.settled (.error (.transport fault)) from hafter]
      rfl

/-- An operation reports a fault if it meets it outside of its releases, and the session then says
that it has failed. So a fault is always recorded, exactly where it is not met in releases alone. -/
theorem fault_noted {call : Call ε} (h : call.Genuine) :
    (∀ fault, call.result = .error (.transport fault) ↔
      fault ∈ faults (withoutReleases (busCalls call.events))) ∧
    (∀ fault, call.result = .error (.transport fault) → call.after.state = .failed .unknown) ∧
    ((faults call.events ≠ [] → (∃ fault, call.result = .error (.transport fault)) ∧
        call.after.state = .failed .unknown) ↔
      (faults call.events ≠ [] → faults (withoutReleases (busCalls call.events)) ≠ [])) := by
  have hreports : ∀ fault, call.result = .error (.transport fault) ↔
      fault ∈ faults (withoutReleases (busCalls call.events)) := by
    intro fault
    rw [genuine_faults h]
    generalize call.result = result
    cases result with
    | ok answer => simp [Action.fault?]
    | error error => cases error <;> simp [Action.fault?, Error.fault?, eq_comm]
  have hnotes : ∀ fault, call.result = .error (.transport fault) →
      call.after.state = .failed .unknown := fun fault => genuine_transport h
  refine ⟨hreports, hnotes, ?_⟩
  constructor
  · intro hrecorded hfaults
    obtain ⟨⟨fault, hresult⟩, -⟩ := hrecorded hfaults
    exact List.ne_nil_of_mem ((hreports fault).mp hresult)
  · intro houtside hfaults
    obtain ⟨fault, hfault⟩ := List.exists_mem_of_ne_nil _ (houtside hfaults)
    have hresult : call.result = .error (.transport fault) := (hreports fault).mpr hfault
    exact ⟨⟨fault, hresult⟩, hnotes fault hresult⟩

/-- The replies of a card of high capacity to a handshake that wakes it up with no bytes. -/
def handshakeReplies : List UInt8 :=
  let unheard := List.replicate 6 0xFF
  unheard ++ [0x01, 0xFF] ++ unheard ++ [0x01, 0x00, 0x00, 0x01, 0xAA, 0xFF] ++
    unheard ++ [0x01, 0x00, 0xFF, 0x80, 0x00, 0xFF] ++ unheard ++ [0x01] ++ unheard ++
    [0x00, 0xFF] ++ unheard ++ [0x00, 0xC0, 0xFF, 0x80, 0x00, 0xFF]

/-- A fault at the first byte of a handshake is reported and noted. -/
theorem fault_noted_first_byte :
    let bus : ScriptedBus := { script :=
      { replies := handshakeReplies, idleReply := 0xFF, failing := [6], failingFrom := none } }
    let call := (Call.run (ScriptedBus.bus ()) .start (fresh 0 { powerUpBytes := 0 }) bus).1
    call.Genuine ∧ faults call.events = [()] ∧ call.result = .error (.transport ()) ∧
      call.after.state = .failed .unknown := by
  intro bus call
  have hgenuine : call.Genuine := Call.genuine_run _ _ _ _
  have hfault : () ∈ faults (withoutReleases (busCalls call.events)) := by decide +kernel
  have hresult : call.result = .error (.transport ()) := ((fault_noted hgenuine).1 ()).mpr hfault
  exact ⟨hgenuine, by decide +kernel, hresult, (fault_noted hgenuine).2.1 () hresult⟩

/-- The line cannot be released after the last command of a handshake, and the handshake succeeds. -/
theorem fault_passed_over :
    let bus : ScriptedBus := { script :=
      { replies := handshakeReplies, idleReply := 0xFF, failing := [73], failingFrom := none } }
    let call := (Call.run (ScriptedBus.bus ()) .start (fresh 0 { powerUpBytes := 0 }) bus).1
    faults call.events = [()] ∧ call.result.toOption = some (.ready .highCapacityV2) ∧
      call.after.state = .ready .highCapacityV2 := by
  intro bus call
  exact ⟨by decide +kernel, by decide +kernel, by decide +kernel⟩

end Session

end SdCard
