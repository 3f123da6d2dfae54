import SdCard.Proofs.Session.Operation
import SdCard.Proofs.Session.Protocol

/-!
# Passages

What an operation tells a bus that does not fail falls into passages. An exchange drives the select
line, shifts bytes, lets go of the line and shifts one byte more; a wake-up shifts idle bytes
between two chip selects.

* `Negotiation.Stages`: the passages of a handshake, up to CMD8 and after it, and the settings of
  the clock before each part;
* `Negotiation.Course.stages`: every course of a handshake has its stages.
-/

namespace SdCard

variable {ε σ α β : Type}

/-- Bytes to a card that is selected, or to a card that is not. -/
inductive Passage
  | exchange (bytes : List UInt8)
  | wakeUp (count : Nat)
deriving DecidableEq

/-- What the bus is told in a passage. -/
def Passage.signals (chipSelect : UInt8) : Passage → List Signal
  | .exchange bytes => .control (.forceSelect true) ::
      (bytes.map .shift ++ [.control (.forceSelect false), .shift idleByte])
  | .wakeUp count => .control (.chipSelect chipSelect false) ::
      (List.replicate count (.shift idleByte) ++ [.control (.chipSelect chipSelect true)])

/-! ## The passages of the handshake -/

namespace Turn

/-- A command and some idle bytes. -/
theorem command_shifts (frame : List UInt8) (polls : Nat) (replies : Replies) :
    ∃ idles, (command frame polls replies).signals =
      (frame ++ List.replicate idles idleByte).map .shift ∧ idles ≤ polls := by
  refine ⟨(replies.after frame.length).polled polls, ?_, Nat.min_le_right _ _⟩
  rw [List.map_append, List.map_replicate]
  rfl

theorem longCommand_shifts (frame : List UInt8) (polls n : Nat) (replies : Replies) :
    ∃ idles, (longCommand frame polls n replies).signals =
      (frame ++ List.replicate idles idleByte).map .shift := by
  obtain ⟨idles, hidles, -⟩ := command_shifts frame polls replies
  unfold longCommand
  dsimp only
  split
  · exact ⟨idles, hidles⟩
  · refine ⟨idles + n, ?_⟩
    simp [hidles, ← List.replicate_append_replicate]

/-- CMD55 comes first, whether or not the command follows it. -/
theorem applicationCommand_shifts (frame : List UInt8) (polls : Nat) (replies : Replies) :
    ∃ bytes : List UInt8, (applicationCommand frame polls replies).signals =
        (0x77 :: bytes).map .shift ∧ bytes.length ≤ 5 + polls + (frame.length + polls) := by
  have hframe : Command.applicationCommand.frame.toList = [0x77, 0, 0, 0, 0, 0x01] := by decide
  unfold applicationCommand
  rw [hframe]
  obtain ⟨first, hfirst, hbound⟩ := command_shifts [0x77, 0, 0, 0, 0, 0x01] polls replies
  dsimp only
  split
  · obtain ⟨second, hsecond, hbound'⟩ := command_shifts frame polls
      (command [0x77, 0, 0, 0, 0, 0x01] polls replies).rest
    refine ⟨[0, 0, 0, 0, 0x01] ++ List.replicate first idleByte ++
      (frame ++ List.replicate second idleByte), ?_, ?_⟩
    · rw [hfirst, hsecond, ← List.map_append]
      rfl
    · simp only [List.length_append, List.length_cons, List.length_nil, List.length_replicate]
      omega
  · refine ⟨[0, 0, 0, 0, 0x01] ++ List.replicate first idleByte, ?_, ?_⟩
    · rw [hfirst]
      rfl
    · simp only [List.length_append, List.length_cons, List.length_nil, List.length_replicate]
      omega

theorem signals_held (turn : Turn α) (chipSelect : UInt8) {bytes : List UInt8}
    (h : turn.signals = bytes.map .shift) :
    turn.held.signals = (Passage.exchange bytes).signals chipSelect := by
  unfold held Passage.signals
  rw [h]

end Turn

namespace Negotiation

/-- The stages of a handshake: the attempts of CMD0 and CMD8, each with the number of idle bytes
behind its frame, and the exchanges after that. -/
structure Stages where
  attempts : List Nat
  interface : Option Nat
  exchanges : List (List UInt8)
  reset : interface.isSome = true → attempts ≠ []
  identified : exchanges ≠ [] → interface.isSome = true

/-- Attempts of CMD0, each after a wake-up. -/
def attemptPassages (config : Config) (attempts : List Nat) : List Passage :=
  attempts.flatMap fun idles => [.wakeUp config.powerUpBytes,
    .exchange ([0x40, 0, 0, 0, 0, 0x95] ++ List.replicate idles idleByte)]

/-- The passages at the initial rate, up to CMD8. -/
def Stages.opening (stages : Stages) (config : Config) : List Passage :=
  attemptPassages config stages.attempts ++ stages.interface.toList.map fun idles =>
    .exchange ([0x48, 0, 0, 0x01, 0xAA, 0x87] ++ List.replicate idles idleByte)

/-- The passages at the data rate. -/
def Stages.closing (stages : Stages) : List Passage := stages.exchanges.map .exchange

/-- What the bus is told from the data rate on, if the card has come as far as that. -/
def Stages.toldLast (stages : Stages) (config : Config) (chipSelect : UInt8) : List Signal :=
  if stages.exchanges = [] then [] else
    .control (.clock config.dataHz) :: stages.closing.flatMap (Passage.signals chipSelect)

/-- What the bus is told in the stages of a handshake. -/
def Stages.told (stages : Stages) (config : Config) (chipSelect : UInt8) : List Signal :=
  [.control (.mode .mode0), .control (.clock config.initialHz)] ++
    (stages.opening config).flatMap (Passage.signals chipSelect) ++
    stages.toldLast config chipSelect

section Told

variable (config : Config) (chipSelect : UInt8) (replies : Replies)

theorem attempt_signals : ∃ idles,
    (attempt config chipSelect replies).signals =
      [Passage.wakeUp config.powerUpBytes,
        .exchange ([0x40, 0, 0, 0, 0, 0x95] ++ List.replicate idles idleByte)].flatMap
        (Passage.signals chipSelect) := by
  obtain ⟨idles, hidles, -⟩ := Turn.command_shifts [0x40, 0, 0, 0, 0, 0x95] (polls config)
    (replies.after config.powerUpBytes)
  refine ⟨idles, ?_⟩
  unfold attempt
  dsimp only
  rw [Turn.signals_held _ chipSelect hidles]
  simp [Passage.signals, idleByte]

/-- The attempts of CMD0, one after the other. -/
theorem said_attempts (n : Nat) : ∃ attempts : List Nat, attempts.length = n ∧
    Turn.said (attempt config chipSelect) replies n =
      (attemptPassages config attempts).flatMap (Passage.signals chipSelect) := by
  induction n generalizing replies with
  | zero => exact ⟨[], rfl, rfl⟩
  | succ n ih =>
    obtain ⟨idles, hidles⟩ := attempt_signals config chipSelect replies
    obtain ⟨attempts, hlength, hattempts⟩ := ih (attempt config chipSelect replies).rest
    refine ⟨idles :: attempts, by simp [hlength], ?_⟩
    rw [Turn.said_succ, hidles, hattempts]
    simp [attemptPassages]

/-- A round of ACMD41 begins with CMD55. Both commands may have all their polls in it. -/
theorem round_signals (version : Version) : ∃ bytes,
    (round config version replies).signals =
      (Passage.exchange (0x77 :: bytes)).signals chipSelect ∧
    bytes.length + 1 ≤ 2 * (6 + polls config) := by
  obtain ⟨bytes, hbytes, hbound⟩ := Turn.applicationCommand_shifts
    [0x69, if version = .v2 then 0x40 else 0, 0, 0, 0, 0x01] (polls config) replies
  refine ⟨bytes, Turn.signals_held _ chipSelect hbytes, ?_⟩
  simp only [List.length_cons, List.length_nil] at hbound
  omega

/-- The rounds of ACMD41, one after the other. -/
theorem said_rounds (version : Version) (n : Nat) : ∃ exchanges : List (List UInt8),
    Turn.said (round config version) replies n =
      (exchanges.map .exchange).flatMap (Passage.signals chipSelect) := by
  induction n generalizing replies with
  | zero => exact ⟨[], rfl⟩
  | succ n ih =>
    obtain ⟨bytes, hbytes, -⟩ := round_signals config chipSelect replies version
    obtain ⟨exchanges, hexchanges⟩ := ih (round config version replies).rest
    refine ⟨(0x77 :: bytes) :: exchanges, ?_⟩
    rw [Turn.said_succ, hexchanges, hbytes]
    rfl

theorem interface_signals : ∃ idles,
    (interface config replies).signals = (Passage.exchange
      ([0x48, 0, 0, 0x01, 0xAA, 0x87] ++ List.replicate idles idleByte)).signals chipSelect := by
  obtain ⟨idles, hidles⟩ :=
    Turn.longCommand_shifts [0x48, 0, 0, 0x01, 0xAA, 0x87] (polls config) 4 replies
  exact ⟨idles, Turn.signals_held _ chipSelect hidles⟩

theorem conditions_signals : ∃ idles,
    (conditions config replies).signals = (Passage.exchange
      ([0x7A, 0, 0, 0, 0, 0x01] ++ List.replicate idles idleByte)).signals chipSelect := by
  obtain ⟨idles, hidles⟩ :=
    Turn.longCommand_shifts [0x7A, 0, 0, 0, 0, 0x01] (polls config) 4 replies
  exact ⟨idles, Turn.signals_held _ chipSelect hidles⟩

theorem blockLength_signals : ∃ idles,
    (blockLength config replies).signals = (Passage.exchange
      ([0x50, 0, 0, 0x02, 0, 0x01] ++ List.replicate idles idleByte)).signals chipSelect := by
  obtain ⟨idles, hidles, -⟩ :=
    Turn.command_shifts [0x50, 0, 0, 0x02, 0, 0x01] (polls config) replies
  exact ⟨idles, Turn.signals_held _ chipSelect hidles⟩

/-! ### What is sent, in passages -/

theorem sentReset_told (n : Nat) : ∃ stages : Stages, stages.attempts.length = n ∧
    stages.interface = none ∧ stages.exchanges = [] ∧
    sentReset config chipSelect replies n = stages.told config chipSelect := by
  obtain ⟨attempts, hlength, hattempts⟩ := said_attempts config chipSelect replies n
  refine ⟨⟨attempts, none, [], fun h => (nomatch h), fun h => absurd rfl h⟩, hlength, rfl, rfl, ?_⟩
  unfold sentReset
  rw [hattempts]
  simp [Stages.told, Stages.toldLast, Stages.opening]

theorem sentInterface_told (i : Nat) : ∃ stages : Stages, stages.interface.isSome = true ∧
    stages.exchanges = [] ∧
    sentInterface config chipSelect replies i = stages.told config chipSelect := by
  obtain ⟨stages, hlength, hnone, hnil, hsent⟩ := sentReset_told config chipSelect replies (i + 1)
  obtain ⟨idles, hidles⟩ := interface_signals config chipSelect
    (afterReset config chipSelect replies i)
  have hattempts : stages.attempts ≠ [] := by
    intro h
    rw [h] at hlength
    cases hlength
  refine ⟨⟨stages.attempts, some idles, [], fun _ => hattempts, fun _ => rfl⟩, rfl, rfl, ?_⟩
  unfold sentInterface
  rw [hsent, hidles]
  simp [Stages.told, Stages.toldLast, Stages.opening, hnone, hnil]

/-- More exchanges after CMD8. -/
theorem Stages.told_append (stages : Stages) (h : stages.exchanges ≠ [])
    (more : List (List UInt8)) : ∃ longer : Stages, longer.exchanges ≠ [] ∧
      longer.told config chipSelect = stages.told config chipSelect ++
        (more.map .exchange).flatMap (Passage.signals chipSelect) := by
  have hboth : stages.exchanges ++ more ≠ [] := fun hnil => h (List.append_eq_nil_iff.mp hnil).1
  refine ⟨{ stages with
    exchanges := stages.exchanges ++ more
    identified := fun _ => stages.identified h }, hboth, ?_⟩
  unfold Stages.told Stages.toldLast
  rw [if_neg h, if_neg hboth]
  simp [Stages.opening, Stages.closing]

theorem sentConditions_told (i : Nat) : ∃ stages : Stages, stages.exchanges ≠ [] ∧
    sentConditions config chipSelect replies i = stages.told config chipSelect := by
  obtain ⟨stages, hsome, hnil, hsent⟩ := sentInterface_told config chipSelect replies i
  obtain ⟨idles, hidles⟩ := conditions_signals config chipSelect
    (afterInterface config chipSelect replies i)
  refine ⟨{ stages with
    exchanges := [[0x7A, 0, 0, 0, 0, 0x01] ++ List.replicate idles idleByte]
    identified := fun _ => hsome }, List.cons_ne_nil _ _, ?_⟩
  unfold sentConditions
  rw [hsent, hidles]
  simp [Stages.told, Stages.toldLast, Stages.opening, Stages.closing, hnil]

theorem sentRounds_told (i : Nat) (version : Version) (n : Nat) :
    ∃ stages : Stages, stages.exchanges ≠ [] ∧
      sentRounds config chipSelect replies i version n = stages.told config chipSelect := by
  obtain ⟨stages, hexchanges, hsent⟩ := sentConditions_told config chipSelect replies i
  obtain ⟨more, hmore⟩ := said_rounds config chipSelect
    (afterConditions config chipSelect replies i) version n
  obtain ⟨longer, hlonger, htold⟩ := stages.told_append config chipSelect hexchanges more
  refine ⟨longer, hlonger, ?_⟩
  unfold sentRounds
  rw [hsent, hmore, htold]

/-- The last step of a handshake is one exchange more. -/
theorem sentLast_told {signals : List Signal} {bytes : List UInt8} (i : Nat) (version : Version)
    (n : Nat) (h : signals = (Passage.exchange bytes).signals chipSelect) :
    ∃ stages : Stages, stages.exchanges ≠ [] ∧
      sentRounds config chipSelect replies i version n ++ signals =
        stages.told config chipSelect := by
  obtain ⟨stages, hexchanges, hsent⟩ := sentRounds_told config chipSelect replies i version n
  obtain ⟨longer, hlonger, htold⟩ := stages.told_append config chipSelect hexchanges [bytes]
  refine ⟨longer, hlonger, ?_⟩
  rw [hsent, h, htold]
  simp

end Told

/-- Every course has its stages, and those of a card that comes up have exchanges after CMD8. -/
theorem Course.stages {config : Config} {chipSelect : UInt8} {replies : Replies}
    {sent : List Signal} {verdict : Except Failure ReadyMode}
    (h : Course config chipSelect replies sent verdict) :
    ∃ stages : Stages, sent = stages.told config chipSelect ∧
      ∀ mode, verdict = .ok mode → stages.exchanges ≠ [] := by
  cases h with
  | resetIgnored =>
    obtain ⟨stages, -, -, -, hsent⟩ :=
      sentReset_told config chipSelect replies (atLeastOnce config.resetAttempts)
    exact ⟨stages, hsent, fun _ h => nomatch h⟩
  | @interfaceRejected i | @voltageNotEchoed i | @patternMismatch i =>
    obtain ⟨stages, -, -, hsent⟩ := sentInterface_told config chipSelect replies i
    exact ⟨stages, hsent, fun _ h => nomatch h⟩
  | @voltageUnsupported i =>
    obtain ⟨stages, hexchanges, hsent⟩ := sentConditions_told config chipSelect replies i
    exact ⟨stages, hsent, fun _ _ => hexchanges⟩
  | @stayedIdle i version =>
    obtain ⟨stages, hexchanges, hsent⟩ :=
      sentRounds_told config chipSelect replies i version config.readyRounds.toNat
    exact ⟨stages, hsent, fun _ _ => hexchanges⟩
  | @notPoweredUp i j answered _ hanswered | @readyV2 i j answered _ hanswered =>
    obtain ⟨idles, hidles⟩ := conditions_signals config chipSelect
      (afterRounds config chipSelect replies i .v2 j)
    rw [hanswered] at hidles
    obtain ⟨stages, hexchanges, hsent⟩ := sentLast_told config chipSelect replies i
      .v2 (j + 1) hidles
    exact ⟨stages, hsent, fun _ _ => hexchanges⟩
  | @blockLengthRejected i j answered _ hanswered | @readyV1 i j answered _ hanswered =>
    obtain ⟨idles, hidles⟩ := blockLength_signals config chipSelect
      (afterRounds config chipSelect replies i .v1 j)
    rw [hanswered] at hidles
    obtain ⟨stages, hexchanges, hsent⟩ := sentLast_told config chipSelect replies i
      .v1 (j + 1) hidles
    exact ⟨stages, hsent, fun _ _ => hexchanges⟩

end Negotiation

end SdCard
