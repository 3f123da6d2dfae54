import SdCard.Proofs.CardModel.Following

/-!
# Commands in a stream of bytes

A card knows where a frame begins only from the first bits of a byte, and where it ends only from
the number of its bytes; the bytes of an argument or a check sum may look like the first byte of a
frame. So a card recovers the commands of a stream only if it is in step with it. `InStep` says that
the card is between two frames, and which commands it has taken so far.

* `leads_sendByte_filler`: a byte that begins no frame leaves the card in step;
* `leads_sendCommand_inStep`: a frame leaves it in step, with one command more;
* `stream_recovered`: any frames with any filler around them give their commands and nothing else.
-/

namespace SdCard

namespace CardModel

variable {ε : Type} {fault : ε} {heard : Array (UInt8 × UInt32)} {card : CardModel}

/-- Frames of commands one after the other, with filler before, between and after them: bytes that
do not have the two bits that begin a frame. -/
inductive Interleaved : List Command → List UInt8 → Prop
  | nil : Interleaved [] []
  | filler {commands bytes} {byte : UInt8} :
      byte >>> 6 ≠ 0b01 → Interleaved commands bytes → Interleaved commands (byte :: bytes)
  | frame {commands bytes} (command : Command) :
      Interleaved commands bytes → Interleaved (command :: commands) (command.frame.toList ++ bytes)

/-! ## A card in step -/

/-- The card listens, on a bus that does not break, and has taken these commands. -/
structure Attends (heard : Array (UInt8 × UInt32)) (card : CardModel) : Prop where
  isSelected : card.isSelected = true
  failAfter : card.failAfter = none
  commands : card.commands = heard

/-- The card attends, and the next byte may begin a frame. -/
structure InStep (heard : Array (UInt8 × UInt32)) (card : CardModel) : Prop
    extends Attends heard card where
  phase : card.link.phase = .command
  frame : card.link.frame = []

theorem uncounting_inStep : Uncounting (InStep heard) := by
  rintro card _ ⟨_, _, _, rfl⟩ h
  exact ⟨⟨h.isSelected, h.failAfter, h.commands⟩, h.phase, h.frame⟩

theorem tracks_attends :
    Tracks (fun link card => Attends heard card ∧ card.link = link) fun _ => False where
  uncounting := by
    rintro link card _ ⟨_, _, _, rfl⟩ ⟨h, hlink⟩
    exact ⟨⟨h.isSelected, h.failAfter, h.commands⟩, hlink⟩
  isSelected h := h.1.isSelected
  link h := h.2
  relink _ h := ⟨⟨h.1.isSelected, h.1.failAfter, h.1.commands⟩, rfl⟩
  failed h hbroken := hbroken h.1.failAfter

theorem InStep.nextReply (h : InStep heard card) : InStep heard card.nextReply.2 := by
  rw [nextReply_snd]
  exact ⟨⟨h.isSelected, h.failAfter, h.commands⟩, h.phase, h.frame⟩

/-- No row of the table but that of CMD24 takes a card out of step. -/
theorem InStep.execute (h : InStep heard card) {index : UInt8} (hindex : index.toNat ≠ 24)
    (argument : UInt32) (application : Bool) :
    InStep heard (card.execute index argument application) := by
  unfold CardModel.execute
  split <;> try split
  all_goals first
    | exact ⟨⟨h.isSelected, h.failAfter, h.commands⟩, h.phase, h.frame⟩
    | exact absurd ‹index.toNat = 24› hindex

/-- A command is noted whatever comes of it: the socket may be empty, and the answer fixed. -/
theorem InStep.receiveCommand (h : InStep heard card) {index : UInt8} (hindex : index.toNat ≠ 24)
    (argument : UInt32) :
    InStep (heard.push (index, argument)) (card.receiveCommand index argument) := by
  have hcommands : card.commands.push (index, argument) = heard.push (index, argument) := by
    rw [h.commands]
  have hnoted : InStep (heard.push (index, argument)) { card with
      commands := card.commands.push (index, argument)
      link.applicationNext := false } :=
    ⟨⟨h.isSelected, h.failAfter, hcommands⟩, h.phase, h.frame⟩
  unfold CardModel.receiveCommand
  dsimp only
  split
  · exact ⟨⟨h.isSelected, h.failAfter, hcommands⟩, h.phase, h.frame⟩
  · split
    · exact ⟨⟨h.isSelected, h.failAfter, hcommands⟩, h.phase, h.frame⟩
    · exact hnoted.execute hindex argument _

/-! ## Bytes on the wire -/

/-- The two bits that begin a frame, as the card looks at them. -/
theorem startsFrame_iff (byte : UInt8) : byte &&& 0xC0 = 0x40 ↔ byte >>> 6 = 0b01 := by
  have hall : ∀ n : Fin 256, UInt8.ofFin n &&& 0xC0 = 0x40 ↔ UInt8.ofFin n >>> 6 = 0b01 := by
    decide +kernel
  exact hall byte.toFin

theorem index_eq_mod (index : UInt8) : index &&& 0x3F = index % 64 := by
  have hall : ∀ n : Fin 256, UInt8.ofFin n &&& 0x3F = UInt8.ofFin n % 64 := by decide +kernel
  exact hall index.toFin

/-- A byte that begins no frame is dropped. -/
theorem receiveByte_filler {byte : UInt8} (hbyte : byte >>> 6 ≠ 0b01)
    (hphase : card.link.phase = .command) (hframe : card.link.frame = []) :
    card.receiveByte byte = card := by
  have hnone : byte &&& 0xC0 ≠ 0x40 := mt (startsFrame_iff byte).mp hbyte
  rw [receiveByte_eq hphase]
  unfold receiveFrameByte
  exact if_pos (by simp [hframe, hnone])

theorem leads_sendByte_filler {byte : UInt8} (h : byte >>> 6 ≠ 0b01) :
    Exchange.Leads (bus fault) (InStep heard) (.sendByte byte) (fun _ => InStep heard)
      fun _ => False := by
  have htransfer : Exchange.Leads (bus fault) (InStep heard) (.transfer byte)
      (fun _ => InStep heard) fun _ => False := by
    refine leads_transfer uncounting_inStep (fun card hcard hbroken => ?_) (fun _ hcard _ => hcard) ?_
    · exact hbroken hcard.failAfter
    · intro card hcard _
      have hnext := hcard.nextReply
      rwa [receiveByte_filler h hnext.phase hnext.frame]
  exact htransfer.bind fun _ => Exchange.leads_pure fun _ hcard => hcard

/-- A frame is taken whole, whatever its bytes look like. -/
theorem leads_sendCommand_inStep {command : Command} (h : command.index % 64 ≠ 24) :
    Exchange.Leads (bus fault) (InStep heard) (.sendCommand command)
      (fun _ => InStep (heard.push (command.index % 64, command.argument))) fun _ => False := by
  intro card hcard
  refine Ending.mono (tracks_attends.leads_sendCommand command hcard.phase hcard.frame card
    ⟨hcard.toAttends, rfl⟩) ?_ id
  rintro _ ⟨before, ⟨hbefore, hlink⟩, hafter⟩
  have hphase : before.link.phase = .command := by rw [hlink, ← hcard.phase]
  have hframe : before.link.frame = [] := by rw [hlink, ← hcard.frame]
  have hindex : (command.index % 64).toNat ≠ 24 := fun h24 => h (UInt8.toNat_inj.mp h24)
  rw [hafter, index_eq_mod]
  exact InStep.receiveCommand ⟨hbefore, hphase, hframe⟩ hindex _

/-- A card stays in step with a stream, and takes its commands one by one. -/
theorem leads_send_interleaved {commands : List Command} {bytes : List UInt8}
    (h : Interleaved commands bytes) (hindex : ∀ command ∈ commands, command.index % 64 ≠ 24) :
    Exchange.Leads (bus fault) (InStep heard) (.send bytes)
      (fun _ => InStep (heard ++
        (commands.map fun command => (command.index % 64, command.argument)).toArray))
      fun _ => False := by
  induction h generalizing heard with
  | nil => exact Exchange.leads_pure fun _ hcard => by simpa using hcard
  | filler hbyte _ ih => exact (leads_sendByte_filler hbyte).bind fun _ => ih hindex
  | @frame commands bytes command _ ih =>
    obtain ⟨hfirst, hothers⟩ := List.forall_mem_cons.mp hindex
    rw [Exchange.send_append, List.map_cons, List.toArray_cons, ← Array.append_assoc,
      ← Array.push_eq_append]
    exact (leads_sendCommand_inStep hfirst).bind fun _ => ih hothers

/-- A card in step with a stream of frames and filler takes the commands of the frames, in their
order and no others, and is in step with what follows. -/
theorem stream_recovered (fault : ε) {commands : List Command} {bytes : List UInt8}
    (hselected : card.isSelected = true) (hfail : card.failAfter = none)
    (hphase : card.link.phase = .command) (hframe : card.link.frame = [])
    (hbytes : Interleaved commands bytes)
    (hindex : ∀ command ∈ commands, command.index % 64 ≠ 24) :
    let run := (Exchange.send bytes).run.run (bus fault) card
    run.value = .ok () ∧
    run.bus.commands = card.commands ++
      (commands.map fun command => (command.index % 64, command.argument)).toArray ∧
    run.bus.link.frame = [] ∧ run.bus.link.phase = .command := by
  intro run
  have hsent : Ending _ _ run.value run.bus :=
    leads_send_interleaved hbytes hindex card ⟨⟨hselected, hfail, rfl⟩, hphase, hframe⟩
  cases hvalue : run.value with
  | error =>
    rw [hvalue] at hsent
    exact hsent.elim
  | ok =>
    rw [hvalue] at hsent
    exact ⟨rfl, hsent.commands, hsent.frame, hsent.phase⟩

/-- Two commands whose arguments and check sums are full of bytes that could begin a frame. -/
theorem stream_recovered_lookalike :
    let card : CardModel := { ofKind (.v2 true) with chipSelect := some (0, true), forced := true }
    let announcement : Command := ⟨119, 0x40584058, 0x40⟩
    let command : Command := ⟨41, 0x51515151, 0x77⟩
    let bytes := 0xFF :: (announcement.frame.toList ++
      (0x00 :: 0x80 :: (command.frame.toList ++ [0xC5])))
    let run := (Exchange.send bytes).run.run (bus ()) card
    run.value = .ok () ∧ run.bus.commands = #[(55, 0x40584058), (41, 0x51515151)] ∧
    run.bus.link.frame = [] ∧ run.bus.link.phase = .command := by
  intro card announcement command bytes
  have hbytes : Interleaved [announcement, command] bytes :=
    .filler (by decide) (.frame announcement
      (.filler (by decide) (.filler (by decide) (.frame command (.filler (by decide) .nil)))))
  have hselected : card.isSelected = true := by decide
  obtain ⟨hvalue, hcommands, hlink⟩ :=
    stream_recovered () hselected rfl rfl rfl hbytes (by decide)
  have htaken : card.commands ++ ([announcement, command].map fun command =>
      (command.index % 64, command.argument)).toArray =
        #[(55, 0x40584058), (41, 0x51515151)] := by decide
  exact ⟨hvalue, hcommands.trans htaken, hlink⟩

end CardModel

end SdCard
