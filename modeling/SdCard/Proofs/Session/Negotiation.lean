import SdCard.Proofs.Session.Hearing

/-!
# The protocol of the handshake

Which replies bring a card up, told without the program: every frame by its bytes, every condition
on a response as a condition on bytes and bits, and every retry by the number of the attempt that
ends it. `Accepts` says when a card comes up, and `Course` says of every stream of replies how the
handshake ends and what is sent until then.

* `negotiate` is the protocol as a turn, one step after the other;
* `Course.negotiate`: what is on a course is what `negotiate` makes of the replies;
* `exists_course`: every stream of replies has a course;
* `accepts_iff`: the courses that end well are those of the accepted streams.
-/

namespace SdCard

namespace Negotiation

variable (config : Config) (chipSelect : UInt8)

/-! ## The steps -/

/-- Replies heard for R1 at most, past the frame. -/
def polls : Nat := atLeastOnce config.responsePolls

/-- Idle bytes with the card not named, and CMD0. -/
def attempt (replies : Replies) : Turn UInt8 :=
  let answered := (Turn.command [0x40, 0, 0, 0, 0, 0x95] (polls config)
    (replies.after config.powerUpBytes)).held
  ⟨answered.value,
    .control (.chipSelect chipSelect false) ::
      (List.replicate config.powerUpBytes (.shift 0xFF) ++
        .control (.chipSelect chipSelect true) :: answered.signals),
    answered.rest⟩

/-- CMD8 with the argument `1AA`. -/
def interface (replies : Replies) : Turn (Bytes 5) :=
  (Turn.longCommand [0x48, 0, 0, 0x01, 0xAA, 0x87] (polls config) 4 replies).held

/-- CMD58. -/
def conditions (replies : Replies) : Turn (Bytes 5) :=
  (Turn.longCommand [0x7A, 0, 0, 0, 0, 0x01] (polls config) 4 replies).held

/-- CMD55 and ACMD41, which announces support for high capacity to a card of version 2. -/
def round (version : Version) (replies : Replies) : Turn (UInt8 × Option UInt8) :=
  (Turn.applicationCommand [0x69, if version = .v2 then 0x40 else 0, 0, 0, 0, 0x01] (polls config)
    replies).held

/-- CMD16 with the argument 512. -/
def blockLength (replies : Replies) : Turn UInt8 :=
  (Turn.command [0x50, 0, 0, 0x02, 0, 0x01] (polls config) replies).held

/-! ## What a response means -/

/-- Byte `k` of a response. -/
def byte (response : Bytes 5) (k : Nat) : UInt8 := response.toList.getD k 0

/-- The response to CMD8 of a card of the version. -/
def TellsVersion (response : Bytes 5) : Version → Prop
  | .unknown => False
  | .v1 => byte response 0 = 0x05
  | .v2 => byte response 0 = 0x01 ∧ byte response 3 &&& 0x0F = 0x01 ∧ byte response 4 = 0xAA

/-- A bit of the OCR that follows R1. -/
def ocrBit (response : Bytes 5) (bit : Nat) : Prop :=
  (bigEndian response.toList.tail).testBit bit = true

/-- The card runs at 3.3 volts. -/
def SuppliesVoltage (response : Bytes 5) : Prop :=
  (byte response 0 = 0x00 ∨ byte response 0 = 0x01) ∧ (ocrBit response 20 ∨ ocrBit response 21)

/-- The card has started up. -/
def LeavesIdle (responses : UInt8 × Option UInt8) : Prop :=
  (responses.1 = 0x00 ∨ responses.1 = 0x01) ∧ responses.2 = some 0x00

/-- The card says that it is powered up. -/
def PoweredUp (response : Bytes 5) : Prop := byte response 0 = 0x00 ∧ ocrBit response 31

/-- Attempt `k` is the first of at most `n` with a property. -/
def IsFirst (p : Nat → Prop) (n k : Nat) : Prop := k < n ∧ p k ∧ ∀ i < k, ¬ p i

instance (response : Bytes 5) (bit : Nat) : Decidable (ocrBit response bit) :=
  inferInstanceAs (Decidable (_ = true))

instance (response : Bytes 5) : Decidable (SuppliesVoltage response) :=
  inferInstanceAs (Decidable (_ ∧ _))

instance (responses : UInt8 × Option UInt8) : Decidable (LeavesIdle responses) :=
  inferInstanceAs (Decidable (_ ∧ _))

instance (response : Bytes 5) : Decidable (PoweredUp response) :=
  inferInstanceAs (Decidable (_ ∧ _))

/-! ## Courses -/

section Courses

variable (replies : Replies)

/-- The replies that are left when attempt `i` of CMD0 has been answered. -/
def afterReset (i : Nat) : Replies := Turn.left (attempt config chipSelect) (i + 1) replies

/-- The replies that are left by CMD8. -/
def afterInterface (i : Nat) : Replies :=
  (interface config (afterReset config chipSelect replies i)).rest

/-- The replies that are left by the first CMD58. -/
def afterConditions (i : Nat) : Replies :=
  (conditions config (afterInterface config chipSelect replies i)).rest

/-- The replies that are left when round `j` of ACMD41 has been answered. -/
def afterRounds (i : Nat) (version : Version) (j : Nat) : Replies :=
  Turn.left (round config version) (j + 1) (afterConditions config chipSelect replies i)

/-- What is sent with `n` attempts of CMD0. -/
def sentReset (n : Nat) : List Signal :=
  [.control (.mode .mode0), .control (.clock config.initialHz)] ++
    Turn.said (attempt config chipSelect) replies n

/-- What is sent up to CMD8. -/
def sentInterface (i : Nat) : List Signal :=
  sentReset config chipSelect replies (i + 1) ++
    (interface config (afterReset config chipSelect replies i)).signals

/-- What is sent up to the first CMD58. -/
def sentConditions (i : Nat) : List Signal :=
  sentInterface config chipSelect replies i ++ [.control (.clock config.dataHz)] ++
    (conditions config (afterInterface config chipSelect replies i)).signals

/-- What is sent with `n` rounds of ACMD41. -/
def sentRounds (i : Nat) (version : Version) (n : Nat) : List Signal :=
  sentConditions config chipSelect replies i ++
    Turn.said (round config version) (afterConditions config chipSelect replies i) n

/-- Attempt `i` of CMD0 is the first that brings the card into its idle state. -/
def Woken (i : Nat) : Prop :=
  IsFirst (fun k => (Turn.nth (attempt config chipSelect) replies k).value = 0x01)
    (atLeastOnce config.resetAttempts) i

/-- The card has answered CMD8 with its version. -/
def Identified (i : Nat) (version : Version) : Prop :=
  Woken config chipSelect replies i ∧
    TellsVersion (interface config (afterReset config chipSelect replies i)).value version

/-- The card has answered CMD58 with a voltage that it can be run at. -/
def Supplied (i : Nat) (version : Version) : Prop :=
  Identified config chipSelect replies i version ∧
    SuppliesVoltage (conditions config (afterInterface config chipSelect replies i)).value

/-- Round `j` of ACMD41 is the first that takes the card out of its idle state. -/
def Started (i : Nat) (version : Version) (j : Nat) : Prop :=
  Supplied config chipSelect replies i version ∧
    IsFirst (fun k => LeavesIdle (Turn.nth (round config version)
      (afterConditions config chipSelect replies i) k).value) config.readyRounds.toNat j

/-- The card comes up: CMD0, CMD8, CMD58 and ACMD41 are answered as they should be, and so is a
second CMD58 by a card of version 2, or CMD16 by one of version 1. -/
def Accepts : Prop :=
  ∃ i version j, Started config chipSelect replies i version j ∧
    if version = .v2 then
      PoweredUp (conditions config (afterRounds config chipSelect replies i version j)).value
    else (blockLength config (afterRounds config chipSelect replies i version j)).value = 0x00

/-- How the handshake goes: what is sent, and the mode of the card or the step that failed. -/
inductive Course : List Signal → Except Failure ReadyMode → Prop
  | resetIgnored :
      (∀ k < atLeastOnce config.resetAttempts,
        (Turn.nth (attempt config chipSelect) replies k).value ≠ 0x01) →
      Course (sentReset config chipSelect replies (atLeastOnce config.resetAttempts))
        (.error .resetIgnored)
  | interfaceRejected {i response} : Woken config chipSelect replies i →
      (interface config (afterReset config chipSelect replies i)).value = response →
      byte response 0 ≠ 0x01 → byte response 0 ≠ 0x05 →
      Course (sentInterface config chipSelect replies i) (.error .interfaceRejected)
  | voltageNotEchoed {i response} : Woken config chipSelect replies i →
      (interface config (afterReset config chipSelect replies i)).value = response →
      byte response 0 = 0x01 → byte response 3 &&& 0x0F ≠ 0x01 →
      Course (sentInterface config chipSelect replies i) (.error .voltageNotEchoed)
  | patternMismatch {i response} : Woken config chipSelect replies i →
      (interface config (afterReset config chipSelect replies i)).value = response →
      byte response 0 = 0x01 → byte response 3 &&& 0x0F = 0x01 → byte response 4 ≠ 0xAA →
      Course (sentInterface config chipSelect replies i) (.error .patternMismatch)
  | voltageUnsupported {i version} : Identified config chipSelect replies i version →
      ¬ SuppliesVoltage (conditions config (afterInterface config chipSelect replies i)).value →
      Course (sentConditions config chipSelect replies i) (.error .voltageUnsupported)
  | stayedIdle {i version} : Supplied config chipSelect replies i version →
      (∀ k < config.readyRounds.toNat, ¬ LeavesIdle (Turn.nth (round config version)
        (afterConditions config chipSelect replies i) k).value) →
      Course (sentRounds config chipSelect replies i version config.readyRounds.toNat)
        (.error .stayedIdle)
  | notPoweredUp {i j answered} : Started config chipSelect replies i .v2 j →
      conditions config (afterRounds config chipSelect replies i .v2 j) = answered →
      ¬ PoweredUp answered.value →
      Course (sentRounds config chipSelect replies i .v2 (j + 1) ++ answered.signals)
        (.error .notPoweredUp)
  | blockLengthRejected {i j answered} : Started config chipSelect replies i .v1 j →
      blockLength config (afterRounds config chipSelect replies i .v1 j) = answered →
      answered.value ≠ 0x00 →
      Course (sentRounds config chipSelect replies i .v1 (j + 1) ++ answered.signals)
        (.error .blockLengthRejected)
  | readyV2 {i j answered} : Started config chipSelect replies i .v2 j →
      conditions config (afterRounds config chipSelect replies i .v2 j) = answered →
      PoweredUp answered.value →
      Course (sentRounds config chipSelect replies i .v2 (j + 1) ++ answered.signals)
        (.ok (if ocrBit answered.value 30 then .highCapacityV2 else .standardCapacityV2))
  | readyV1 {i j answered} : Started config chipSelect replies i .v1 j →
      blockLength config (afterRounds config chipSelect replies i .v1 j) = answered →
      answered.value = 0x00 →
      Course (sentRounds config chipSelect replies i .v1 (j + 1) ++ answered.signals)
        (.ok .standardCapacityV1)

end Courses

/-! ## What the handshake makes of replies -/

/-- What a response to CMD8 leads to. -/
def versionOf (response : Bytes 5) : Except Failure Version :=
  if byte response 0 = 0x01 then
    if byte response 3 &&& 0x0F = 0x01 then
      if byte response 4 = 0xAA then .ok .v2 else .error .patternMismatch
    else .error .voltageNotEchoed
  else if byte response 0 = 0x05 then .ok .v1
  else .error .interfaceRejected

/-- What the response to the second CMD58 leads to. -/
def modeOf (response : Bytes 5) : Except Failure ReadyMode :=
  if PoweredUp response then
    .ok (if ocrBit response 30 then .highCapacityV2 else .standardCapacityV2)
  else .error .notPoweredUp

/-- A round takes the card out of its idle state if its last response is zero. -/
theorem leavesIdle_iff (version : Version) (replies : Replies) :
    LeavesIdle (round config version replies).value ↔
      (round config version replies).value.2.getD (round config version replies).value.1 = 0 := by
  have hsome := Turn.isSome_applicationCommand
    [0x69, if version = .v2 then 0x40 else 0, 0, 0, 0, 0x01] (polls config) replies
  unfold LeavesIdle round Turn.held
  rw [← hsome]
  -- where CMD55 was refused there is no second response, and the first one is not zero
  cases hanswered : (Turn.applicationCommand [0x69, if version = .v2 then 0x40 else 0, 0, 0, 0, 0x01]
    (polls config) replies).value.2 with
  | none =>
    rw [hanswered] at hsome
    have hannounced := mt hsome.mpr Bool.false_ne_true
    simp only [not_or] at hannounced
    simp [hannounced.1]
  | some answered => simp

/-- The last step. -/
def settle (version : Version) (replies : Replies) : Turn (Except Failure ReadyMode) :=
  if version = .v2 then (conditions config replies).map modeOf
  else (blockLength config replies).map fun response =>
    if response = 0x00 then .ok .standardCapacityV1 else .error .blockLengthRejected

/-- The steps from ACMD41 on. -/
def startUp (version : Version) (replies : Replies) : Turn (Except Failure ReadyMode) :=
  (Turn.retry (fun responses => decide (LeavesIdle responses)) .stayedIdle
    config.readyRounds.toNat (round config version) replies).andThen fun _ =>
      settle config version

/-- The steps from the first CMD58 on. -/
def supply (version : Version) (replies : Replies) : Turn (Except Failure ReadyMode) :=
  ((conditions config replies).map fun response =>
    if SuppliesVoltage response then .ok () else .error .voltageUnsupported).andThen fun _ =>
      startUp config version

/-- The steps from CMD8 on. -/
def identify (replies : Replies) : Turn (Except Failure ReadyMode) :=
  ((interface config replies).map versionOf).andThen fun version replies =>
    (supply config version replies).preceded [.control (.clock config.dataHz)]

/-- All steps. -/
def negotiate (replies : Replies) : Turn (Except Failure ReadyMode) :=
  ((Turn.retry (· = 0x01) .resetIgnored (atLeastOnce config.resetAttempts)
    (attempt config chipSelect) replies).andThen fun _ => identify config).preceded
      [.control (.mode .mode0), .control (.clock config.initialHz)]

/-! ## The courses and the steps -/

section Retry

variable {α : Type} {step : Replies → Turn α} {p : α → Prop} [DecidablePred p] {n : Nat}
  {replies : Replies}

/-- A step is retried up to the first attempt that is accepted. -/
theorem retry_isFirst (failure : Failure) {k : Nat}
    (h : IsFirst (fun k => p (Turn.nth step replies k).value) n k) :
    Turn.retry (fun value => decide (p value)) failure n step replies =
      ⟨.ok (), Turn.said step replies (k + 1), Turn.left step (k + 1) replies⟩ := by
  obtain ⟨hk, hp, hfirst⟩ := h
  apply Turn.retry_some
  rw [List.find?_range_eq_some]
  refine ⟨decide_eq_true hp, List.mem_range.mpr hk, fun i hi => ?_⟩
  rw [decide_eq_false (hfirst i hi)]
  rfl

/-- A step that is never accepted fails after the last attempt. -/
theorem retry_forall (failure : Failure) (h : ∀ k < n, ¬ p (Turn.nth step replies k).value) :
    Turn.retry (fun value => decide (p value)) failure n step replies =
      ⟨.error failure, Turn.said step replies n, Turn.left step n replies⟩ := by
  apply Turn.retry_none
  rw [List.find?_range_eq_none]
  intro k hk
  rw [decide_eq_false (h k hk)]
  rfl

end Retry

/-- One of the attempts is the first, or none has the property. -/
theorem isFirst_or_forall (p : Nat → Prop) (n : Nat) : (∃ k, IsFirst p n k) ∨ ∀ k < n, ¬ p k := by
  induction n with
  | zero => exact .inr fun k hk => absurd hk (Nat.not_lt_zero k)
  | succ n ih =>
    rcases ih with ⟨k, hk, hp, hfirst⟩ | hnone
    · exact .inl ⟨k, by omega, hp, hfirst⟩
    · by_cases hp : p n
      · exact .inl ⟨n, by omega, hp, hnone⟩
      · right
        intro k hk
        rcases Nat.lt_succ_iff_lt_or_eq.mp hk with hlt | rfl
        · exact hnone k hlt
        · exact hp

theorem versionOf_eq_ok {response : Bytes 5} {version : Version}
    (h : TellsVersion response version) : versionOf response = .ok version := by
  unfold versionOf
  cases version with
  | unknown => exact absurd h id
  | v1 =>
    have hfive : byte response 0 = 0x05 := h
    simp [hfive]
  | v2 =>
    obtain ⟨hone, hvoltage, hpattern⟩ := h
    rw [if_pos hone, if_pos hvoltage, if_pos hpattern]

section

variable {config chipSelect} {replies : Replies} {version : Version} {i j : Nat}

theorem negotiate_woken (h : Woken config chipSelect replies i) :
    negotiate config chipSelect replies =
      (identify config (afterReset config chipSelect replies i)).preceded
        (sentReset config chipSelect replies (i + 1)) := by
  unfold negotiate
  rw [retry_isFirst (p := (· = 0x01)) .resetIgnored h, Turn.andThen_ok _ rfl,
    Turn.preceded_preceded]
  rfl

theorem negotiate_identified (h : Identified config chipSelect replies i version) :
    negotiate config chipSelect replies =
      (supply config version (afterInterface config chipSelect replies i)).preceded
        (sentInterface config chipSelect replies i ++ [.control (.clock config.dataHz)]) := by
  have hversion : ((interface config (afterReset config chipSelect replies i)).map
      versionOf).value = .ok version := by
    rw [Turn.value_map]
    exact versionOf_eq_ok h.2
  rw [negotiate_woken h.1, identify, Turn.andThen_ok _ hversion, Turn.preceded_preceded,
    Turn.preceded_preceded]
  rfl

theorem negotiate_supplied (h : Supplied config chipSelect replies i version) :
    negotiate config chipSelect replies =
      (startUp config version (afterConditions config chipSelect replies i)).preceded
        (sentConditions config chipSelect replies i) := by
  have hvoltage : ((conditions config (afterInterface config chipSelect replies i)).map
      fun response => if SuppliesVoltage response then Except.ok ()
        else .error Failure.voltageUnsupported).value = .ok () := by
    rw [Turn.value_map]
    exact if_pos h.2
  rw [negotiate_identified h.1, supply, Turn.andThen_ok _ hvoltage, Turn.preceded_preceded]
  rfl

theorem negotiate_started (h : Started config chipSelect replies i version j) :
    negotiate config chipSelect replies =
      (settle config version (afterRounds config chipSelect replies i version j)).preceded
        (sentRounds config chipSelect replies i version (j + 1)) := by
  rw [negotiate_supplied h.1, startUp, retry_isFirst (p := LeavesIdle) .stayedIdle h.2,
    Turn.andThen_ok _ rfl, Turn.preceded_preceded]
  rfl

theorem negotiate_rejected {failure : Failure} (h : Woken config chipSelect replies i)
    (hversion : versionOf (interface config (afterReset config chipSelect replies i)).value =
      .error failure) :
    (negotiate config chipSelect replies).signals = sentInterface config chipSelect replies i ∧
      (negotiate config chipSelect replies).value = .error failure := by
  have hvalue : ((interface config (afterReset config chipSelect replies i)).map
      versionOf).value = .error failure := by
    rw [Turn.value_map]
    exact hversion
  rw [negotiate_woken h, identify, Turn.andThen_error _ hvalue]
  exact ⟨rfl, rfl⟩

/-- What is on a course is what the steps make of the replies. -/
theorem Course.negotiate {sent : List Signal} {verdict : Except Failure ReadyMode}
    (h : Course config chipSelect replies sent verdict) :
    (negotiate config chipSelect replies).signals = sent ∧
      (negotiate config chipSelect replies).value = verdict := by
  cases h with
  | resetIgnored hnone =>
    unfold Negotiation.negotiate
    rw [retry_forall (p := (· = 0x01)) .resetIgnored hnone, Turn.andThen_error _ rfl]
    exact ⟨rfl, rfl⟩
  | interfaceRejected hwoken hresponse hone hfive =>
    apply negotiate_rejected hwoken
    rw [hresponse, versionOf, if_neg hone, if_neg hfive]
  | voltageNotEchoed hwoken hresponse hone hvoltage =>
    apply negotiate_rejected hwoken
    rw [hresponse, versionOf, if_pos hone, if_neg hvoltage]
  | patternMismatch hwoken hresponse hone hvoltage hpattern =>
    apply negotiate_rejected hwoken
    rw [hresponse, versionOf, if_pos hone, if_pos hvoltage, if_neg hpattern]
  | @voltageUnsupported i version hidentified hsupplies =>
    have hvoltage : ((conditions config (afterInterface config chipSelect replies i)).map
        fun response => if SuppliesVoltage response then Except.ok ()
          else .error Failure.voltageUnsupported).value = .error .voltageUnsupported := by
      rw [Turn.value_map]
      exact if_neg hsupplies
    rw [negotiate_identified hidentified, supply, Turn.andThen_error _ hvoltage]
    exact ⟨rfl, rfl⟩
  | stayedIdle hsupplied hnone =>
    rw [negotiate_supplied hsupplied, startUp, retry_forall (p := LeavesIdle) .stayedIdle hnone,
      Turn.andThen_error _ rfl]
    exact ⟨rfl, rfl⟩
  | notPoweredUp hstarted hanswered hpowered =>
    rw [negotiate_started hstarted, settle, if_pos rfl, hanswered]
    exact ⟨rfl, if_neg hpowered⟩
  | blockLengthRejected hstarted hanswered hlength =>
    rw [negotiate_started hstarted, settle, if_neg (by decide), hanswered]
    exact ⟨rfl, if_neg hlength⟩
  | readyV2 hstarted hanswered hpowered =>
    rw [negotiate_started hstarted, settle, if_pos rfl, hanswered]
    exact ⟨rfl, if_pos hpowered⟩
  | readyV1 hstarted hanswered hlength =>
    rw [negotiate_started hstarted, settle, if_neg (by decide), hanswered]
    exact ⟨rfl, if_pos hlength⟩

theorem Started.exists_course (h : Started config chipSelect replies i version j) :
    ∃ sent verdict, Course config chipSelect replies sent verdict := by
  cases version with
  | unknown =>
    obtain ⟨⟨⟨-, hversion⟩, -⟩, -⟩ := h
    exact absurd hversion id
  | v1 =>
    by_cases hlength : (blockLength config (afterRounds config chipSelect replies i .v1 j)).value = 0x00
    · exact ⟨_, _, .readyV1 h rfl hlength⟩
    · exact ⟨_, _, .blockLengthRejected h rfl hlength⟩
  | v2 =>
    by_cases hpowered : PoweredUp (conditions config (afterRounds config chipSelect replies i .v2 j)).value
    · exact ⟨_, _, .readyV2 h rfl hpowered⟩
    · exact ⟨_, _, .notPoweredUp h rfl hpowered⟩

theorem Identified.exists_course (h : Identified config chipSelect replies i version) :
    ∃ sent verdict, Course config chipSelect replies sent verdict := by
  by_cases hsupplies : SuppliesVoltage
      (conditions config (afterInterface config chipSelect replies i)).value
  · rcases isFirst_or_forall (fun k => LeavesIdle (Turn.nth (round config version)
      (afterConditions config chipSelect replies i) k).value) config.readyRounds.toNat with
        ⟨j, hfirst⟩ | hnone
    · have hstarted : Started config chipSelect replies i version j := ⟨⟨h, hsupplies⟩, hfirst⟩
      exact hstarted.exists_course
    · exact ⟨_, _, .stayedIdle ⟨h, hsupplies⟩ hnone⟩
  · exact ⟨_, _, .voltageUnsupported h hsupplies⟩

theorem Woken.exists_course (h : Woken config chipSelect replies i) :
    ∃ sent verdict, Course config chipSelect replies sent verdict := by
  by_cases hone : byte (interface config (afterReset config chipSelect replies i)).value 0 = 0x01
  · by_cases hvoltage :
        byte (interface config (afterReset config chipSelect replies i)).value 3 &&& 0x0F = 0x01
    · by_cases hpattern :
          byte (interface config (afterReset config chipSelect replies i)).value 4 = 0xAA
      · have hidentified : Identified config chipSelect replies i .v2 :=
          ⟨h, hone, hvoltage, hpattern⟩
        exact hidentified.exists_course
      · exact ⟨_, _, .patternMismatch h rfl hone hvoltage hpattern⟩
    · exact ⟨_, _, .voltageNotEchoed h rfl hone hvoltage⟩
  · by_cases hfive : byte (interface config (afterReset config chipSelect replies i)).value 0 = 0x05
    · have hidentified : Identified config chipSelect replies i .v1 := ⟨h, hfive⟩
      exact hidentified.exists_course
    · exact ⟨_, _, .interfaceRejected h rfl hone hfive⟩

variable (config chipSelect replies)

/-- Every stream of replies has a course. -/
theorem exists_course : ∃ sent verdict, Course config chipSelect replies sent verdict := by
  rcases isFirst_or_forall (fun k => (Turn.nth (attempt config chipSelect) replies k).value = 0x01)
    (atLeastOnce config.resetAttempts) with ⟨i, hwoken⟩ | hnone
  · have hwoken : Woken config chipSelect replies i := hwoken
    exact hwoken.exists_course
  · exact ⟨_, _, .resetIgnored hnone⟩

/-- The courses that end well are those of the accepted streams. -/
theorem accepts_iff :
    Accepts config chipSelect replies ↔
      ∃ sent mode, Course config chipSelect replies sent (.ok mode) := by
  constructor
  · intro h
    obtain ⟨i, version, j, hstarted, hsettled⟩ := h
    cases version with
    | unknown =>
      obtain ⟨⟨⟨-, hversion⟩, -⟩, -⟩ := hstarted
      exact absurd hversion id
    | v1 => exact ⟨_, _, .readyV1 hstarted rfl hsettled⟩
    | v2 => exact ⟨_, _, .readyV2 hstarted rfl hsettled⟩
  · intro h
    obtain ⟨sent, mode, h⟩ := h
    cases h with
    | @readyV2 i j answered hstarted hanswered hpowered =>
      exact ⟨i, .v2, j, hstarted, hanswered ▸ hpowered⟩
    | @readyV1 i j answered hstarted hanswered hlength =>
      exact ⟨i, .v1, j, hstarted, hanswered ▸ hlength⟩

end

end Negotiation

end SdCard
