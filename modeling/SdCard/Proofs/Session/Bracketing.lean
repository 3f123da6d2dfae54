import SdCard.Proofs.Bus.Hearing
import SdCard.Proofs.Session.History
import SdCard.Simulation.ScriptedBus

/-!
# The select line is always let go of

Whatever a bus answers, and wherever it fails, the calls of an operation are a conversation: uses of
the select line are brackets that do not overlap, nothing but talk is inside them, and outside of
them only the handshake shifts bytes: those that wake the card up, once for each CMD0 and just
before it. No other operation sends CMD0.
-/

namespace SdCard

namespace Session

variable {ε : Type}

/-- The operation is one that may wake the card up. -/
def Request.wakes : Request → Bool
  | .start => true
  | _ => false

theorem Outcome.conversation {α : Type} {s s' : Session} {t : List (Event ε)}
    {result : Except (Error ε) α} (h : Outcome s t result s') :
    Conversation none (busCalls t) (Action.fault? result) := by
  cases h with
  | notReady => exact .nil
  | outOfRange => exact .nil
  | carriedOut _ h => exact h.conversation

/-- The bus calls of an operation, on any session and any bus, are a conversation, and the fault
that ended it, if one did, is the operation's error. -/
theorem genuine_conversation {call : Call ε} (h : call.Genuine) :
    Conversation (call.before.waking call.request.wakes) (busCalls call.events)
      (Action.fault? call.result) := by
  obtain ⟨request, events, result, before, after⟩ := call
  by_cases hrequest : request = .start
  · subst hrequest
    obtain ⟨started, rfl, hstarted⟩ := traces_perform_start h
    cases started with
    | ok mode => exact hstarted.conversation
    | error error => exact hstarted.conversation
  · have hwakes : request.wakes = false := by
      cases request with
      | start => exact absurd rfl hrequest
      | _ => rfl
    simp only [hwakes]
    exact (perform_outcome hrequest _ _ _ _ h).conversation

/-- A handshake whose second CMD0 breaks off at its first byte: both of them are attempts with a
wake-up of their own, and the line is let go of all the same. -/
theorem genuine_conversation_fault :
    let session := fresh 0 { powerUpBytes := 1, responsePolls := 1, resetAttempts := 2 }
    let bus : ScriptedBus := { script :=
      { replies := [], idleReply := 0xFF, failing := [20], failingFrom := none } }
    let call := (Call.run (ScriptedBus.bus ()) .start session bus).1
    call.Genuine ∧ call.after.state = .failed .unknown ∧
      signals call.events = [.control (.mode .mode0), .control (.clock 400000),
        .control (.chipSelect 0 false), .shift 0xFF, .control (.chipSelect 0 true),
        .control (.forceSelect true), .shift 0x40, .shift 0, .shift 0, .shift 0, .shift 0,
        .shift 0x95, .shift 0xFF, .control (.forceSelect false), .shift 0xFF,
        .control (.chipSelect 0 false), .shift 0xFF, .control (.chipSelect 0 true),
        .control (.forceSelect true), .shift 0x40, .control (.forceSelect false), .shift 0xFF] ∧
      Conversation (some ⟨0, 1⟩) (busCalls call.events) (Action.fault? call.result) := by
  intro session bus call
  have hgenuine : call.Genuine := Call.genuine_run _ _ _ _
  exact ⟨hgenuine, by decide +kernel, by decide +kernel, genuine_conversation hgenuine⟩

end Session

end SdCard
