import Mathlib.Algebra.Order.BigOperators.Group.Finset
import SdCard.Proofs.Session.Making
import SdCard.Proofs.Session.Passage
import SdCard.Simulation.ScriptedBus

/-!
# The budget of the rounds of ACMD41

The time in which a card may leave its idle state is a number of bytes, and the number of rounds of
ACMD41 is that number divided by the bytes of one round. Such a round is reckoned at two frames with
eight polls each. It really takes as many polls as the session allows, and one byte more when the
card is let go of. `readyBytes` counts the bytes of all rounds off the wire.

* `Course.meters`: no handshake takes more bytes than all rounds with all their polls;
* `exists_late`: every handshake may meet a card that makes it take as many;
* `readyBytes_budget`: so the budget is kept by every handshake if at most seven polls are allowed,
  and with more of them by no budget of 28 rounds or more.
-/

namespace SdCard

variable {ε α : Type}

/-! ## Bytes on the wire -/

/-- Where the wire is: within a round of ACMD41, at the start of an exchange, or elsewhere. -/
inductive Stretch
  | elsewhere
  | selected
  | round

/-- A meter on the wire that runs while rounds of ACMD41 go over it. -/
structure Meter where
  stretch : Stretch
  bytes : Nat

/-- A round is an exchange that begins with CMD55. It lasts until the bus is told something else
than to let go of the card, so the byte after the release belongs to it. -/
def Meter.signal (meter : Meter) : Signal → Meter
  | .control (.forceSelect true) => { meter with stretch := .selected }
  | .control (.forceSelect false) => meter
  | .control _ => { meter with stretch := .elsewhere }
  | .shift byte =>
    match meter.stretch with
    | .elsewhere => meter
    | .selected =>
      if byte = 0x77 then ⟨.round, meter.bytes + 1⟩ else { meter with stretch := .elsewhere }
    | .round => { meter with bytes := meter.bytes + 1 }

/-- The bytes that are shifted in rounds of ACMD41. -/
def readyBytes (t : List Signal) : Nat := (t.foldl Meter.signal ⟨.elsewhere, 0⟩).bytes

/-- The meter counts `count` bytes in the part, whatever came before it. -/
def Meters (t : List Signal) (count : Nat) : Prop :=
  ∀ meter : Meter, (t.foldl Meter.signal meter).bytes = meter.bytes + count

theorem Meters.readyBytes_eq {t : List Signal} {count : Nat} (h : Meters t count) :
    readyBytes t = count := (h _).trans (Nat.zero_add count)

theorem meters_nil : Meters [] 0 := fun _ => rfl

theorem Meters.append {t u : List Signal} {m n : Nat} (ht : Meters t m) (hu : Meters u n) :
    Meters (t ++ u) (m + n) := by
  intro meter
  rw [List.foldl_append, hu, ht, Nat.add_assoc]

theorem meters_control (call : Control) : Meters [.control call] 0 := by
  intro meter
  match call with
  | .forceSelect true | .forceSelect false | .mode _ | .clock _ | .chipSelect _ _ => rfl

/-- Within a round every byte counts. -/
theorem foldl_round (bytes : List UInt8) (count : Nat) :
    (bytes.map Signal.shift).foldl Meter.signal ⟨.round, count⟩ =
      ⟨.round, count + bytes.length⟩ := by
  induction bytes generalizing count with
  | nil => rfl
  | cons byte bytes ih =>
    rw [List.map_cons, List.foldl_cons, List.length_cons, Nat.add_comm bytes.length,
      ← Nat.add_assoc]
    exact ih (count + 1)

/-- Elsewhere no byte does. -/
theorem foldl_elsewhere (bytes : List UInt8) (count : Nat) :
    (bytes.map Signal.shift).foldl Meter.signal ⟨.elsewhere, count⟩ = ⟨.elsewhere, count⟩ := by
  induction bytes with
  | nil => rfl
  | cons byte bytes ih => exact ih

theorem meters_round (chipSelect : UInt8) (bytes : List UInt8) :
    Meters ((Passage.exchange (0x77 :: bytes)).signals chipSelect) (bytes.length + 2) := by
  intro meter
  change ((bytes.map Signal.shift ++ [_, _]).foldl Meter.signal ⟨.round, meter.bytes + 1⟩).bytes = _
  rw [List.foldl_append, foldl_round]
  simp only [List.foldl_cons, List.foldl_nil, Meter.signal]
  omega

theorem meters_exchange (chipSelect : UInt8) {byte : UInt8} (h : byte ≠ 0x77)
    (bytes : List UInt8) :
    Meters ((Passage.exchange (byte :: bytes)).signals chipSelect) 0 := by
  intro meter
  change ((bytes.map Signal.shift ++ [_, _]).foldl Meter.signal
    (if byte = 0x77 then _ else ⟨.elsewhere, meter.bytes⟩)).bytes = _
  rw [if_neg h, List.foldl_append, foldl_elsewhere]
  rfl

theorem meters_wakeUp (chipSelect : UInt8) (count : Nat) :
    Meters ((Passage.wakeUp count).signals chipSelect) 0 := by
  intro meter
  have hidles : List.replicate count (Signal.shift idleByte) =
      (List.replicate count idleByte).map .shift := by rw [List.map_replicate]
  change ((List.replicate count (Signal.shift idleByte) ++ [_]).foldl Meter.signal
    ⟨.elsewhere, meter.bytes⟩).bytes = _
  rw [hidles, List.foldl_append, foldl_elsewhere]
  rfl

/-! ## The bytes of a handshake -/

namespace Negotiation

/-- The bytes of a round of ACMD41 with all its polls: two frames, each with a poll for R1, and the
byte after the release. -/
def roundBytes (config : Config) : Nat := 2 * (6 + polls config) + 1

section Metered

variable (config : Config) (chipSelect : UInt8) (replies : Replies)

theorem attempt_meters : Meters (attempt config chipSelect replies).signals 0 := by
  obtain ⟨idles, hidles⟩ := attempt_signals config chipSelect replies
  rw [hidles]
  simpa using (meters_wakeUp chipSelect config.powerUpBytes).append
    (meters_exchange chipSelect (show (0x40 : UInt8) ≠ 0x77 by decide) _)

theorem interface_meters : Meters (interface config replies).signals 0 := by
  obtain ⟨idles, hidles⟩ := interface_signals config 0 replies
  rw [hidles]
  exact meters_exchange 0 (by decide) _

theorem conditions_meters : Meters (conditions config replies).signals 0 := by
  obtain ⟨idles, hidles⟩ := conditions_signals config 0 replies
  rw [hidles]
  exact meters_exchange 0 (by decide) _

theorem blockLength_meters : Meters (blockLength config replies).signals 0 := by
  obtain ⟨idles, hidles⟩ := blockLength_signals config 0 replies
  rw [hidles]
  exact meters_exchange 0 (by decide) _

theorem round_meters (version : Version) :
    ∃ count ≤ roundBytes config, Meters (round config version replies).signals count := by
  obtain ⟨bytes, hbytes, hbound⟩ := round_signals config 0 replies version
  refine ⟨bytes.length + 2, ?_, ?_⟩
  · unfold roundBytes
    omega
  · rw [hbytes]
    exact meters_round 0 bytes

/-- The meter counts what it counts in each of the steps. -/
theorem said_meters {step : Replies → Turn α} {count : Nat → Nat} (n : Nat)
    (h : ∀ k < n, Meters (Turn.nth step replies k).signals (count k)) :
    Meters (Turn.said step replies n) (∑ k ∈ Finset.range n, count k) := by
  induction n with
  | zero => exact meters_nil
  | succ n ih =>
    have hsaid : Turn.said step replies (n + 1) =
        Turn.said step replies n ++ (Turn.nth step replies n).signals := by
      unfold Turn.said
      rw [List.range_succ, List.flatMap_append, List.flatMap_singleton]
    rw [hsaid, Finset.sum_range_succ]
    exact (ih fun k hk => h k (by omega)).append (h n (Nat.lt_succ_self n))

theorem sentReset_meters (n : Nat) : Meters (sentReset config chipSelect replies n) 0 := by
  have hsaid : Meters (Turn.said (attempt config chipSelect) replies n)
      (∑ _ ∈ Finset.range n, 0) :=
    said_meters replies n fun k _ => attempt_meters config chipSelect _
  rw [Finset.sum_const_zero] at hsaid
  exact ((meters_control _).append (meters_control _)).append hsaid

theorem sentInterface_meters (i : Nat) :
    Meters (sentInterface config chipSelect replies i) 0 :=
  (sentReset_meters config chipSelect replies _).append (interface_meters config _)

theorem sentConditions_meters (i : Nat) :
    Meters (sentConditions config chipSelect replies i) 0 :=
  ((sentInterface_meters config chipSelect replies i).append (meters_control _)).append
    (conditions_meters config _)

/-- Of `n` rounds, none takes more than all its bytes. -/
theorem sentRounds_meters (i : Nat) (version : Version) (n : Nat) :
    ∃ count ≤ n * roundBytes config,
      Meters (sentRounds config chipSelect replies i version n) count := by
  choose count hcount hmeters using fun k => round_meters config
    (Turn.left (round config version) k (afterConditions config chipSelect replies i)) version
  refine ⟨0 + ∑ k ∈ Finset.range n, count k, ?_,
    (sentConditions_meters config chipSelect replies i).append
      (said_meters _ n fun k _ => hmeters k)⟩
  have hsum := Finset.sum_le_card_nsmul (Finset.range n) count (roundBytes config)
    fun k _ => hcount k
  rw [Finset.card_range, Nat.nsmul_eq_mul] at hsum
  rwa [Nat.zero_add]

end Metered

/-- No handshake takes more bytes for its rounds than all of them with all their polls. -/
theorem Course.meters {config : Config} {chipSelect : UInt8} {replies : Replies}
    {sent : List Signal} {verdict : Except Failure ReadyMode}
    (h : Course config chipSelect replies sent verdict) :
    readyBytes sent ≤ config.readyRounds.toNat * roundBytes config := by
  have hnone : ∀ {t : List Signal}, Meters t 0 →
      readyBytes t ≤ config.readyRounds.toNat * roundBytes config := fun ht => by
    rw [ht.readyBytes_eq]
    exact Nat.zero_le _
  -- the last step comes after all rounds, and is no round itself
  have hlast : ∀ {i version j} {answered : List Signal}, j < config.readyRounds.toNat →
      Meters answered 0 →
      readyBytes (sentRounds config chipSelect replies i version (j + 1) ++ answered) ≤
        config.readyRounds.toNat * roundBytes config := by
    intro i version j answered hj hanswered
    obtain ⟨count, hcount, hrounds⟩ := sentRounds_meters config chipSelect replies i version (j + 1)
    rw [(hrounds.append hanswered).readyBytes_eq]
    exact Nat.le_trans hcount (Nat.mul_le_mul_right _ hj)
  cases h with
  | resetIgnored => exact hnone (sentReset_meters config chipSelect replies _)
  | @interfaceRejected i | @voltageNotEchoed i | @patternMismatch i =>
    exact hnone (sentInterface_meters config chipSelect replies i)
  | @voltageUnsupported i => exact hnone (sentConditions_meters config chipSelect replies i)
  | @stayedIdle i version =>
    obtain ⟨count, hcount, hrounds⟩ := sentRounds_meters config chipSelect replies i version
      config.readyRounds.toNat
    rw [hrounds.readyBytes_eq]
    exact hcount
  | @notPoweredUp i j answered hstarted hanswered | @readyV2 i j answered hstarted hanswered =>
    rw [← hanswered]
    exact hlast hstarted.2.1 (conditions_meters config _)
  | @blockLengthRejected i j answered hstarted hanswered
  | @readyV1 i j answered hstarted hanswered =>
    rw [← hanswered]
    exact hlast hstarted.2.1 (blockLength_meters config _)

/-! ## A card that answers late -/

theorem exists_after (n : Nat) (rest : Replies) : ∃ replies : Replies, replies.after n = rest :=
  ⟨fun k => rest (k - n), funext fun k => by rw [Replies.after, Nat.add_sub_cancel_left]⟩

/-- Some bytes may come before the others. -/
theorem exists_before (bytes : List UInt8) (rest : Replies) : ∃ replies : Replies,
    (∀ (k : Nat) (h : k < bytes.length), replies k = bytes[k]) ∧
      replies.after bytes.length = rest := by
  refine ⟨fun k => bytes[k]?.getD (rest (k - bytes.length)), fun k hk => ?_, funext fun k => ?_⟩
  · dsimp only
    rw [List.getElem?_eq_getElem hk]
    rfl
  · rw [Replies.after, List.getElem?_eq_none (Nat.le_add_right _ _), Nat.add_sub_cancel_left]
    rfl

/-- The response to a command may come with the last poll. -/
theorem exists_late_command (frame : List UInt8) {polls : Nat} (hpolls : 0 < polls)
    {response : UInt8} (h : response ≠ 0xFF) (rest : Replies) : ∃ replies,
    Turn.command frame polls replies = ⟨response,
      (frame ++ List.replicate polls idleByte).map .shift, rest⟩ := by
  obtain ⟨heard, hheard, hrest⟩ :=
    exists_before (List.replicate (polls - 1) 0xFF ++ [response]) rest
  obtain ⟨replies, hreplies⟩ := exists_after frame.length heard
  have hlength : (List.replicate (polls - 1) 0xFF ++ [response]).length = polls := by
    simp
    omega
  rw [hlength] at hrest
  have hlast : heard (polls - 1) = response := by
    rw [hheard (polls - 1) (by omega)]
    simp
  have hidle : ∀ k < polls - 1, ¬ heard k ≠ 0xFF := by
    intro k hk
    rw [hheard k (by omega)]
    simp [hk]
  have hanswered : heard (polls - 1) ≠ 0xFF := hlast ▸ h
  have hpolled : Replies.Polled heard polls (heard (polls - 1)) (polls - 1 + 1) :=
    .answered ⟨by omega, hanswered, hidle⟩
  rw [hlast, Nat.sub_add_cancel hpolls] at hpolled
  refine ⟨replies, ?_⟩
  unfold Turn.command
  dsimp only
  rw [hreplies, hpolled.eq.1, hpolled.eq.2, hrest, List.map_append, List.map_replicate]

theorem polls_pos (config : Config) : 0 < polls config := Nat.le_max_right _ _

section Late

variable (config : Config) (chipSelect : UInt8)

theorem exists_late_attempt (rest : Replies) : ∃ replies,
    (attempt config chipSelect replies).value = 0x01 ∧
      (attempt config chipSelect replies).rest = rest := by
  obtain ⟨held, hheld⟩ := exists_after 1 rest
  obtain ⟨heard, hheard⟩ := exists_late_command [0x40, 0, 0, 0, 0, 0x95] (polls_pos config)
    (show (0x01 : UInt8) ≠ 0xFF by decide) held
  obtain ⟨replies, hreplies⟩ := exists_after config.powerUpBytes heard
  refine ⟨replies, ?_⟩
  unfold attempt Turn.held
  dsimp only
  rw [hreplies, hheard]
  exact ⟨rfl, hheld⟩

theorem exists_late_long (frame : List UInt8) {response : UInt8} (h : response ≠ 0xFF)
    (more : Bytes 4) (rest : Replies) : ∃ replies,
    (Turn.longCommand frame (polls config) 4 replies).held.value = more.cons response ∧
      (Turn.longCommand frame (polls config) 4 replies).held.rest = rest := by
  obtain ⟨held, hheld⟩ := exists_after 1 rest
  obtain ⟨heard, hheard, hrest⟩ := exists_before more.toList held
  obtain ⟨replies, hreplies⟩ := exists_late_command frame (polls_pos config) h heard
  have hmore : heard.bytes 4 = more := by
    rw [← Vector.toList_inj, Replies.toList_bytes]
    apply List.ext_getElem
    · simp [Replies.take]
    · intro k hk hk'
      rw [← hheard k hk']
      simp [Replies.take]
  have hfour : more.toList.length = 4 := Vector.length_toList
  rw [hfour] at hrest
  refine ⟨replies, ?_⟩
  unfold Turn.longCommand Turn.held
  rw [hreplies]
  dsimp only
  rw [if_neg (show ¬ response = idleByte from h), hmore, hrest]
  exact ⟨rfl, hheld⟩

/-- A round in which both responses come with the last poll takes all its bytes. -/
theorem exists_late_round (version : Version) (rest : Replies) : ∃ replies,
    (round config version replies).value = (0x01, some 0x01) ∧
      (round config version replies).rest = rest ∧
      Meters (round config version replies).signals (roundBytes config) := by
  have hframe : Command.applicationCommand.frame.toList = [0x77, 0, 0, 0, 0, 0x01] := by decide
  obtain ⟨held, hheld⟩ := exists_after 1 rest
  obtain ⟨heard, hheard⟩ := exists_late_command
    [0x69, if version = .v2 then 0x40 else 0, 0, 0, 0, 0x01] (polls_pos config)
    (show (0x01 : UInt8) ≠ 0xFF by decide) held
  obtain ⟨replies, hreplies⟩ := exists_late_command [0x77, 0, 0, 0, 0, 0x01] (polls_pos config)
    (show (0x01 : UInt8) ≠ 0xFF by decide) heard
  refine ⟨replies, ?_⟩
  have hround : round config version replies = Turn.held ⟨(0x01, some 0x01),
      (0x77 :: ([0, 0, 0, 0, 0x01] ++ List.replicate (polls config) idleByte ++
        ([0x69, if version = Version.v2 then 0x40 else 0, 0, 0, 0, 0x01] ++
          List.replicate (polls config) idleByte))).map .shift, held⟩ := by
    unfold round Turn.applicationCommand
    dsimp only
    rw [hframe, hreplies, if_pos (.inr rfl), hheard, ← List.map_append]
    rfl
  rw [hround]
  refine ⟨rfl, hheld, ?_⟩
  rw [Turn.signals_held _ 0 rfl]
  have hmeters := meters_round 0 ([0, 0, 0, 0, 0x01] ++ List.replicate (polls config) idleByte ++
    ([0x69, if version = Version.v2 then 0x40 else 0, 0, 0, 0, 0x01] ++
      List.replicate (polls config) idleByte))
  have hcount : ([0, 0, 0, 0, 0x01] ++ List.replicate (polls config) idleByte ++
      ([0x69, if version = Version.v2 then 0x40 else 0, 0, 0, 0, 0x01] ++
        List.replicate (polls config) idleByte)).length + 2 = roundBytes config := by
    unfold roundBytes
    simp only [List.length_append, List.length_cons, List.length_nil, List.length_replicate]
    omega
  rwa [hcount] at hmeters

/-- So may all of the rounds. -/
theorem exists_late_rounds (version : Version) (n : Nat) (rest : Replies) : ∃ replies,
    ∀ k < n, (Turn.nth (round config version) replies k).value = (0x01, some 0x01) ∧
      Meters (Turn.nth (round config version) replies k).signals (roundBytes config) := by
  induction n with
  | zero => exact ⟨rest, nofun⟩
  | succ n ih =>
    obtain ⟨later, hlater⟩ := ih
    obtain ⟨replies, hvalue, hleft, hmeters⟩ := exists_late_round config version later
    refine ⟨replies, fun k hk => ?_⟩
    cases k with
    | zero => exact ⟨hvalue, hmeters⟩
    | succ k =>
      have hnth : Turn.nth (round config version) replies (k + 1) =
          Turn.nth (round config version) (round config version replies).rest k := rfl
      rw [hnth, hleft]
      exact hlater k (by omega)

/-- A card may stay idle in all rounds, and answer in each of them with the last polls. -/
theorem exists_late : ∃ replies sent, Course config chipSelect replies sent (.error .stayedIdle) ∧
    readyBytes sent = config.readyRounds.toNat * roundBytes config := by
  obtain ⟨rounds, hrounds⟩ := exists_late_rounds config .v2 config.readyRounds.toNat fun _ => 0xFF
  obtain ⟨supplied, hvoltage, hsupplied⟩ := exists_late_long config [0x7A, 0, 0, 0, 0, 0x01]
    (show (0x01 : UInt8) ≠ 0xFF by decide) #v[0x00, 0xFF, 0x80, 0x00] rounds
  obtain ⟨told, hversion, htold⟩ := exists_late_long config [0x48, 0, 0, 0x01, 0xAA, 0x87]
    (show (0x01 : UInt8) ≠ 0xFF by decide) #v[0x00, 0x00, 0x01, 0xAA] supplied
  obtain ⟨replies, hidle, hwoken⟩ := exists_late_attempt config chipSelect told
  have hreset : afterReset config chipSelect replies 0 = told := hwoken
  have hinterface : afterInterface config chipSelect replies 0 = supplied := by
    rw [afterInterface, hreset]
    exact htold
  have hconditions : afterConditions config chipSelect replies 0 = rounds := by
    rw [afterConditions, hinterface]
    exact hsupplied
  have hsupply : Supplied config chipSelect replies 0 .v2 := by
    refine ⟨⟨⟨Nat.le_max_right _ _, hidle, nofun⟩, ?_⟩, ?_⟩
    · rw [hreset, interface, hversion]
      exact ⟨by decide, by decide, by decide⟩
    · rw [hinterface, conditions, hvoltage]
      decide
  refine ⟨replies, _, .stayedIdle hsupply fun k hk => ?_, ?_⟩
  · rw [hconditions, (hrounds k hk).1]
    decide
  · have hsaid : Meters (Turn.said (round config .v2)
        (afterConditions config chipSelect replies 0) config.readyRounds.toNat)
        (∑ _ ∈ Finset.range config.readyRounds.toNat, roundBytes config) := by
      rw [hconditions]
      exact said_meters _ _ fun k hk => (hrounds k hk).2
    rw [Finset.sum_const, Finset.card_range, Nat.nsmul_eq_mul] at hsaid
    rw [sentRounds, ((sentConditions_meters config chipSelect replies 0).append
      hsaid).readyBytes_eq, Nat.zero_add]

end Late

/-! ## The budget -/

/-- The bytes that fit into the time in which the card may leave its idle state. -/
def readyBudget (config : Config) : Nat :=
  (bytesForMillis config.dataHz config.readyMillis).toNat

/-- A round is reckoned at 28 bytes. -/
theorem toNat_readyRounds (config : Config) :
    config.readyRounds.toNat = max (readyBudget config / 28) 1 := by
  have hdiv : (bytesForMillis config.dataHz config.readyMillis / readyRoundBytes).toNat =
      readyBudget config / 28 := UInt32.toNat_div ..
  unfold Config.readyRounds
  dsimp only
  split
  · rename_i hzero
    rw [hzero] at hdiv
    have hnone : readyBudget config / 28 = 0 := hdiv.symm
    rw [hnone]
    rfl
  · rename_i hsome
    have hpositive : readyBudget config / 28 ≠ 0 := fun h =>
      hsome (UInt32.toNat_inj.mp (hdiv.trans h))
    rw [hdiv]
    omega

/-- Rounds of at most 28 bytes keep within the budget. -/
theorem rounds_le_of_polls_le (config : Config) (h : polls config ≤ 7) :
    config.readyRounds.toNat * roundBytes config ≤
      max (readyBudget config) (roundBytes config) := by
  have hbytes : roundBytes config ≤ 28 := by
    unfold roundBytes
    omega
  rw [toNat_readyRounds]
  rcases Nat.eq_zero_or_pos (readyBudget config / 28) with hzero | hpositive
  · rw [hzero, Nat.zero_max, Nat.one_mul]
    exact Nat.le_max_right _ _
  · rw [Nat.max_eq_left hpositive]
    calc readyBudget config / 28 * roundBytes config
        ≤ readyBudget config / 28 * 28 := Nat.mul_le_mul_left _ hbytes
      _ ≤ readyBudget config := Nat.div_mul_le_self _ _
      _ ≤ _ := Nat.le_max_left _ _

/-- Longer rounds do not, once there are 28 of them. -/
theorem lt_rounds_of_lt_polls (config : Config) (hrounds : 28 ≤ config.readyRounds.toNat)
    (h : 7 < polls config) :
    max (readyBudget config) (roundBytes config) <
      config.readyRounds.toNat * roundBytes config := by
  have hbytes : 29 ≤ roundBytes config := by
    unfold roundBytes
    omega
  rw [toNat_readyRounds] at hrounds ⊢
  have hsome : 28 ≤ readyBudget config / 28 := by omega
  have hone : 1 ≤ readyBudget config / 28 := by omega
  rw [Nat.max_eq_left hone]
  have hmany : readyBudget config / 28 * 29 ≤ readyBudget config / 28 * roundBytes config :=
    Nat.mul_le_mul_left _ hbytes
  have htwo : 2 * roundBytes config ≤ readyBudget config / 28 * roundBytes config :=
    Nat.mul_le_mul_right _ (by omega)
  omega

end Negotiation

namespace Session

open Negotiation

/-- A handshake in which no call fails takes no more bytes for its rounds of ACMD41 than the time
for them allows, or those of a single round if that takes longer. -/
def KeepsReadyBudget (ε : Type) (config : Config) : Prop :=
  ∀ (s s' : Session) (t : List (Event ε)) (result : Except (Error ε) ReadyMode)
    (replies rest : Replies), s.config = config →
    Program.Traces ((start : Action ε Session ReadyMode).exec s) t (result, s') →
    Heard t replies rest →
    readyBytes (signals t) ≤ max (readyBudget config) (roundBytes config)

theorem readyBytes_le {s s' : Session} {t : List (Event ε)} {result : Except (Error ε) ReadyMode}
    {replies rest : Replies}
    (h : Program.Traces ((start : Action ε Session ReadyMode).exec s) t (result, s'))
    (hheard : Heard t replies rest) :
    readyBytes (signals t) ≤ s.config.readyRounds.toNat * roundBytes s.config := by
  obtain ⟨sent, verdict, hcourse⟩ := exists_course s.config s.chipSelect replies
  rw [(((start_course h hheard).2 sent verdict).mp hcourse).1]
  exact hcourse.meters

theorem exists_readyBytes_eq (s : Session) :
    ∃ (t : List (Event ε)) (result : Except (Error ε) ReadyMode) (s' : Session)
      (replies rest : Replies),
      Program.Traces ((start : Action ε Session ReadyMode).exec s) t (result, s') ∧
      Heard t replies rest ∧
      readyBytes (signals t) = s.config.readyRounds.toNat * roundBytes s.config := by
  obtain ⟨replies, sent, hcourse, hbytes⟩ := exists_late s.config s.chipSelect
  obtain ⟨t, ⟨result, s'⟩, rest, h, hheard⟩ :=
    exists_heard ((start : Action ε Session ReadyMode).exec s) replies
  refine ⟨t, result, s', replies, rest, h, hheard, ?_⟩
  rw [(((start_course h hheard).2 sent _).mp hcourse).1]
  exact hbytes

/-- The rounds of ACMD41 take as many bytes as all of them with all their polls, and no more. So
the time for them is kept by every handshake if and only if it has room for these bytes: always if
at most seven polls are allowed for a response, and never if more are and the time is that of 28
rounds or more, as they are reckoned. -/
theorem readyBytes_budget (ε : Type) (config : Config) :
    (∀ (s s' : Session) (t : List (Event ε)) (result : Except (Error ε) ReadyMode)
      (replies rest : Replies), s.config = config →
      Program.Traces ((start : Action ε Session ReadyMode).exec s) t (result, s') →
      Heard t replies rest →
      readyBytes (signals t) ≤ config.readyRounds.toNat * roundBytes config) ∧
    (∀ s : Session, s.config = config → ∃ (t : List (Event ε))
      (result : Except (Error ε) ReadyMode) (s' : Session) (replies rest : Replies),
      Program.Traces ((start : Action ε Session ReadyMode).exec s) t (result, s') ∧
      Heard t replies rest ∧
      readyBytes (signals t) = config.readyRounds.toNat * roundBytes config) ∧
    (KeepsReadyBudget ε config ↔
      config.readyRounds.toNat * roundBytes config ≤
        max (readyBudget config) (roundBytes config)) ∧
    (polls config ≤ 7 → KeepsReadyBudget ε config) ∧
    (28 ≤ config.readyRounds.toNat → (KeepsReadyBudget ε config ↔ polls config ≤ 7)) := by
  have hatMost : ∀ (s s' : Session) (t : List (Event ε)) (result : Except (Error ε) ReadyMode)
      (replies rest : Replies), s.config = config →
      Program.Traces ((start : Action ε Session ReadyMode).exec s) t (result, s') →
      Heard t replies rest →
      readyBytes (signals t) ≤ config.readyRounds.toNat * roundBytes config := by
    rintro s s' t result replies rest rfl h hheard
    exact readyBytes_le h hheard
  have hkeeps : KeepsReadyBudget ε config ↔ config.readyRounds.toNat * roundBytes config ≤
      max (readyBudget config) (roundBytes config) := by
    constructor
    · intro hkept
      -- a card that answers late takes as long as any
      obtain ⟨t, result, s', replies, rest, h, hheard, hbytes⟩ :=
        exists_readyBytes_eq (ε := ε) (fresh 0 config)
      have hkept := hkept _ s' t result replies rest rfl h hheard
      rw [hbytes] at hkept
      exact hkept
    · intro hroom s s' t result replies rest hconfig h hheard
      exact Nat.le_trans (hatMost s s' t result replies rest hconfig h hheard) hroom
  refine ⟨hatMost, ?_, hkeeps, fun hpolls => hkeeps.mpr (rounds_le_of_polls_le config hpolls),
    fun hrounds => ?_⟩
  · rintro s rfl
    exact exists_readyBytes_eq s
  · rw [hkeeps]
    refine ⟨fun hroom => ?_, rounds_le_of_polls_le config⟩
    by_contra hpolls
    have hlong := lt_rounds_of_lt_polls config hrounds (Nat.lt_of_not_le hpolls)
    omega

/-- One poll makes the difference: the budget of a second is kept with seven of them, and not with
the eight that are usual. -/
theorem readyBytes_budget_usual :
    KeepsReadyBudget Unit { responsePolls := 7 } ∧ ¬ KeepsReadyBudget Unit {} := by
  have hseven := (readyBytes_budget Unit { responsePolls := 7 }).2.2.2.1
  have height := (readyBytes_budget Unit {}).2.2.2.2
  refine ⟨hseven (by decide), fun hkept => ?_⟩
  exact absurd ((height (by decide)).mp hkept) (by decide)

/-- A card that answers with the twentieth poll and stays idle: the budget is 56 bytes, and there
are two rounds of 53 bytes. -/
theorem ready_budget_overrun :
    let config : Config :=
      { dataHz := 8000, readyMillis := 56, responsePolls := 20, powerUpBytes := 2 }
    let late := List.replicate 25 0xFF
    let script : Script := ⟨[0xFF, 0xFF] ++ late ++ [0x01, 0xFF] ++
      late ++ [0x01, 0x00, 0x00, 0x01, 0xAA, 0xFF] ++
      late ++ [0x01, 0x00, 0xFF, 0x80, 0x00, 0xFF] ++
      late ++ [0x01] ++ late ++ [0x01, 0xFF] ++ late ++ [0x01] ++ late ++ [0x01, 0xFF],
      0xFF, [], none, 0⟩
    let run := (start.exec (fresh 0 config)).run (ScriptedBus.bus ()) ⟨script, 0⟩
    (∀ event ∈ run.events.toList, event.isFault = false) ∧
      readyBytes (signals run.events.toList) = 106 ∧
      max (bytesForMillis config.dataHz config.readyMillis).toNat
        (2 * (6 + max config.responsePolls.toNat 1) + 1) = 56 := by
  refine ⟨by decide +kernel, by decide +kernel, by decide +kernel⟩

end Session

end SdCard
