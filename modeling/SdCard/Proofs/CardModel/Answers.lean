import SdCard.Proofs.CardModel.Dialogue
import SdCard.Proofs.CardModel.Listening

/-!
# What a fresh card answers

`hearing` adds commands to those that a card has received, and a card in the socket then goes by the
table of commands: `receiveCommand_answering`. The rows of the handshake are put down one by one, each
for the settings that the row looks at.
-/

namespace SdCard

namespace CardModel

variable {c d : CardModel}

/-! ## Commands received -/

/-- The card with more commands received. -/
def hearing (c : CardModel) (commands : List (UInt8 × UInt32)) : CardModel :=
  { c with commands := c.commands ++ commands.toArray }

theorem hearing_nil (c : CardModel) : c.hearing [] = c := by simp [hearing]

theorem hearing_cons (c : CardModel) (command : UInt8 × UInt32) (more : List (UInt8 × UInt32)) :
    c.hearing (command :: more) = (c.hearing [command]).hearing more := by
  simp [hearing]

theorem hearing_append (c : CardModel) (commands more : List (UInt8 × UInt32)) :
    c.hearing (commands ++ more) = (c.hearing commands).hearing more := by
  simp [hearing, Array.append_assoc]

theorem Fresh.hearing (hc : Fresh c) (commands : List (UInt8 × UInt32)) :
    Fresh (c.hearing commands) := ⟨hc.link, hc.fixedResponses, hc.failAfter⟩

/-- An empty socket answers nothing. -/
theorem receiveCommand_absent (hc : Fresh c) (habsent : c.kind = .absent) (index : UInt8)
    (argument : UInt32) : c.receiveCommand index argument = c.hearing [(index, argument)] := by
  rw [receiveCommand_eq hc.fixedResponses, if_pos habsent]
  simp [CardModel.hearing]

/-- A card in the socket goes by the table of commands. -/
theorem receiveCommand_present (hc : Fresh c) (hpresent : c.kind ≠ .absent) (index : UInt8)
    (argument : UInt32) :
    c.receiveCommand index argument =
      (c.hearing [(index, argument)]).execute index argument false := by
  have hpush : c.commands.push (index, argument) = c.commands ++ [(index, argument)].toArray := by
    simp
  rw [receiveCommand_eq hc.fixedResponses, if_neg hpresent, hpush]
  cases c
  cases hc.link
  rfl

theorem respond_eq_answering (hlink : c.link = {}) (response : List UInt8) :
    c.respond response = c.answering response := by
  unfold respond queue answering during
  rw [hlink]
  rfl

/-- A row of the table that puts a response into the queue of a card at rest. -/
theorem receiveCommand_answering (hc : Fresh c) (hpresent : c.kind ≠ .absent) {index : UInt8}
    {argument : UInt32} {response : List UInt8} (hd : Fresh d)
    (hrow : (c.hearing [(index, argument)]).execute index argument false = d.respond response) :
    c.receiveCommand index argument = d.answering response := by
  rw [receiveCommand_present hc hpresent, hrow, respond_eq_answering hd.link]

/-- A card in the socket takes CMD55 and says nothing else of itself than R1. -/
theorem receiveCommand_announcement (hc : Fresh c) (hpresent : c.kind ≠ .absent) :
    c.receiveCommand 55 0 = (c.hearing [(55, 0)]).during
      { replies := [0xFF, c.response], applicationNext := true } := by
  rw [receiveCommand_present hc hpresent]
  cases c
  cases hc.link
  rfl

/-- After CMD55 the row is that of an application command. -/
theorem receiveCommand_application (hc : Fresh c) (hpresent : c.kind ≠ .absent) {index : UInt8}
    {argument : UInt32} {response : List UInt8} (hd : Fresh d)
    (hrow : (c.hearing [(index, argument)]).execute index argument true = d.respond response) :
    (c.during { applicationNext := true }).receiveCommand index argument =
      d.answering response := by
  have hfixed : (c.during { applicationNext := true }).fixedResponses = [] := hc.fixedResponses
  have hkind : ¬ (c.during { applicationNext := true }).kind = .absent := hpresent
  have hpush : c.commands.push (index, argument) = c.commands ++ [(index, argument)].toArray := by
    simp
  rw [← respond_eq_answering hd.link, ← hrow, receiveCommand_eq hfixed, if_neg hkind]
  unfold during
  dsimp only
  rw [hpush]
  cases c
  cases hc.link
  rfl

/-! ## Rows of the table of commands -/

section Rows

variable {argument : UInt32} {application : Bool}

theorem execute_goIdle_ignored {ignored : Nat} (h : c.resetsIgnored = ignored + 1) :
    c.execute 0 argument application = { c with resetsIgnored := ignored } := by
  have hne : c.resetsIgnored ≠ 0 := by omega
  have hfewer : c.resetsIgnored - 1 = ignored := by omega
  rw [← hfewer]
  exact if_neg hne

theorem execute_goIdle (h : c.resetsIgnored = 0) :
    c.execute 0 argument application = { c with inIdle := true }.respond [0x01] := if_pos h

theorem execute_interface_v1 (h : c.kind = .v1) :
    c.execute 8 argument application = c.respond [0x05] := by
  unfold execute
  rw [h]
  rfl

/-- The voltage and the pattern that a card of version 2 gives back for CMD8. -/
def echoed (c : CardModel) : UInt8 × UInt8 := c.echo.getD (0x01, 0xAA)

theorem execute_interface_v2 {highCapacity : Bool} (h : c.kind = .v2 highCapacity) :
    c.execute 8 0x1AA application = c.respond [0x01, 0, 0, c.echoed.1, c.echoed.2] := by
  unfold execute
  rw [h]
  rfl

theorem execute_sendOperatingCondition_busy {busy : Nat} (h : c.busyRounds = busy + 1) :
    c.execute 41 argument true = { c with busyRounds := busy }.respond [0x01] := by
  have hne : c.busyRounds ≠ 0 := by omega
  have hfewer : c.busyRounds - 1 = busy := by omega
  rw [← hfewer]
  exact if_neg hne

theorem execute_sendOperatingCondition (h : c.busyRounds = 0) :
    c.execute 41 argument true = { c with inIdle := false }.respond [0] := if_pos h

theorem execute_readOcr : c.execute 58 argument application =
    c.respond (c.response :: (Bytes.ofWord c.reportedOcr).toList) := rfl

theorem execute_setBlockLength : c.execute 16 argument application = c.respond [c.response] := rfl

end Rows

end CardModel

end SdCard
