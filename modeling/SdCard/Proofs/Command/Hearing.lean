import SdCard.Proofs.Bus.Hearing

/-!
# What commands make of replies

A command takes six replies while its frame goes out, and then as many as its response takes to
come. The turns below tell, from the frame and the bound on the polls alone, what the response is,
what is sent, and which replies are left.
-/

namespace SdCard

variable {ε : Type}

/-- A response without error is R1 of a card that is idle or not. -/
theorem Response.isClean_iff (response : UInt8) :
    isClean response = true ↔ response = 0x00 ∨ response = 0x01 := by
  have hall : ∀ n : Fin 256, isClean (.ofFin n) = true ↔
      UInt8.ofFin n = 0x00 ∨ UInt8.ofFin n = 0x01 := by decide +kernel
  exact hall response.toFin

/-- Zeros with a first byte put in its place. -/
theorem Bytes.zero_set (n : Nat) (byte : UInt8) :
    (zero (n + 1)).set 0 byte n.succ_pos = (zero n).cons byte := by
  rw [← Vector.toList_inj, Vector.toList_set, toList_zero, toList_cons, toList_zero]
  rfl

namespace Turn

/-- A command whose response is R1: the first reply to it that is not idle. -/
def command (frame : List UInt8) (polls : Nat) (replies : Replies) : Turn UInt8 :=
  let heard := replies.after frame.length
  ⟨heard.answer polls, frame.map .shift ++ List.replicate (heard.polled polls) (.shift idleByte),
    heard.after (heard.polled polls)⟩

/-- A command whose response is R1 and `n` bytes more, which stay zero if R1 does not come. -/
def longCommand (frame : List UInt8) (polls n : Nat) (replies : Replies) : Turn (Bytes (n + 1)) :=
  let first := command frame polls replies
  if first.value = idleByte then
    ⟨(Bytes.zero n).cons idleByte, first.signals, first.rest⟩
  else
    ⟨(first.rest.bytes n).cons first.value,
      first.signals ++ List.replicate n (.shift idleByte), first.rest.after n⟩

/-- An application command after its announcement: R1 of the announcement and, if that reports no
error, R1 of the command, which is not sent otherwise. -/
def applicationCommand (frame : List UInt8) (polls : Nat) (replies : Replies) :
    Turn (UInt8 × Option UInt8) :=
  let announced := command Command.applicationCommand.frame.toList polls replies
  if announced.value = 0x00 ∨ announced.value = 0x01 then
    let answered := command frame polls announced.rest
    ⟨(announced.value, some answered.value), announced.signals ++ answered.signals, answered.rest⟩
  else
    ⟨(announced.value, none), announced.signals, announced.rest⟩

/-- The command goes out if and only if its announcement reports no error. -/
theorem isSome_applicationCommand (frame : List UInt8) (polls : Nat) (replies : Replies) :
    (applicationCommand frame polls replies).value.2.isSome = true ↔
      (applicationCommand frame polls replies).value.1 = 0x00 ∨
      (applicationCommand frame polls replies).value.1 = 0x01 := by
  unfold applicationCommand
  dsimp only
  split
  · rename_i h
    exact iff_of_true rfl h
  · rename_i h
    exact iff_of_false Bool.false_ne_true h

end Turn

namespace Exchange

/-- A frame and a poll. -/
theorem hears_sendAndPoll (command : Command) (bound : UInt32) :
    (do
      sendCommand command
      poll bound : Exchange ε UInt8).Hears
        (Turn.command command.frame.toList (atLeastOnce bound)) :=
  Hears.of_eq ((hears_send _).bind fun _ => hears_poll bound) fun _ => rfl

theorem hears_sendAndReceive (command : Command) (bound : UInt32) (n : Nat) :
    (do
      sendCommand command
      receiveResponse bound (Bytes.zero (n + 1)) : Exchange ε (Bytes (n + 1))).Hears
        (Turn.longCommand command.frame.toList (atLeastOnce bound) n) := by
  have hrest : ∀ first, (if first = idleByte then
        return (Bytes.zero (n + 1)).set 0 first
      else do
        let rest ← receive n
        return rest.cons first : Exchange ε (Bytes (n + 1))).Hears fun replies =>
          if first = idleByte then ⟨(Bytes.zero n).cons idleByte, [], replies⟩
          else ⟨(replies.bytes n).cons first, List.replicate n (.shift idleByte),
            replies.after n⟩ := by
    intro first
    split
    · rename_i h
      -- no response: the buffer keeps its zeros behind the idle byte
      refine Hears.of_eq (hears_pure _) fun replies => ?_
      rw [h, Bytes.zero_set]
    · have hcons := (hears_receive (ε := ε) n).bind fun rest => hears_pure (rest.cons first)
      refine Hears.of_eq hcons fun replies => ?_
      simp [Turn.bind]
  have hstep := (hears_send (ε := ε) command.frame.toList).bind fun _ =>
    (hears_poll bound).bind hrest
  refine Hears.of_eq hstep fun replies => ?_
  unfold Turn.longCommand Turn.command
  dsimp only [Turn.bind]
  split
  · simp
  · simp

theorem hears_sendApplicationCommand (command : Command) (bound : UInt32) :
    (sendApplicationCommand bound command : Exchange ε UInt8).Hears fun replies =>
      (Turn.applicationCommand command.frame.toList (atLeastOnce bound) replies).map
        fun responses => responses.2.getD responses.1 := by
  have hrest : ∀ announced, (if Response.isClean announced then do
        sendCommand command
        poll bound
      else
        pure announced : Exchange ε UInt8).Hears fun replies =>
          if announced = 0x00 ∨ announced = 0x01 then
            Turn.command command.frame.toList (atLeastOnce bound) replies
          else ⟨announced, [], replies⟩ := by
    intro announced
    have hclean := Response.isClean_iff announced
    split
    · rename_i h
      refine Hears.of_eq (hears_sendAndPoll command bound) fun replies => ?_
      rw [if_pos (hclean.mp h)]
    · rename_i h
      refine Hears.of_eq (hears_pure announced) fun replies => ?_
      rw [if_neg fun hzero => h (hclean.mpr hzero)]
  have hstep := (hears_send (ε := ε) Command.applicationCommand.frame.toList).bind fun _ =>
    (hears_poll bound).bind hrest
  refine Hears.of_eq hstep fun replies => ?_
  unfold Turn.applicationCommand
  dsimp only [Turn.bind, Turn.map, Turn.command]
  split
  · simp
  · simp

end Exchange

end SdCard
