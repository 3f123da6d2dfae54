import SdCard.Proofs.PinBus.Wire
import SdCard.Proofs.Session.Exchanging
import SdCard.Proofs.Session.Refinement

/-!
# What the wire sees of a session

On hardware that does not fail, the pin is low for the bytes of an exchange, and high for the byte
after it, for the bytes that wake a card up, and between operations. A handshake is clocked slowly
up to the exchange of CMD8, and everything that follows it is clocked fast.

Between two operations the lines are at rest, and a card that is ready is named and has the fast
clock: `Between` is that, and it carries the induction over the operations.

* `Lines.shifts_passages` and `Lines.shifts_told`: what passages, and the stages of a handshake,
  bring onto the wire;
* `wire_passages`: every operation after every sequence of operations.
-/

namespace SdCard

open PinBus (Shift Setting Lines)

/-- What a passage brings onto the wire. -/
def Passage.shifts (setting : Option Setting) : Passage → List Shift
  | .exchange bytes => bytes.map (⟨·, true, setting⟩) ++ [⟨idleByte, false, setting⟩]
  | .wakeUp count => List.replicate count ⟨idleByte, false, setting⟩

namespace PinBus.Lines

variable {lines : Lines} {chipSelect : UInt8}

/-- No card is driven. -/
structure Resting (lines : Lines) : Prop where
  forced : lines.forced = false
  low : lines.low = false

/-! ## Passages -/

/-- A wake-up finds the lines at rest and leaves them so, with the card named. -/
theorem wakeUp_passage (h : lines.Resting) (chipSelect : UInt8) (count : Nat) :
    lines.after ((Passage.wakeUp count).signals chipSelect) = { lines with selected := true } ∧
      lines.shifts ((Passage.wakeUp count).signals chipSelect) =
        (Passage.wakeUp count).shifts lines.setting := by
  obtain ⟨mode, hz, selected, forced, low, setting⟩ := lines
  obtain ⟨rfl, rfl⟩ := h
  have hsignals : (Passage.wakeUp count).signals chipSelect =
      .control (.chipSelect chipSelect false) :: ((List.replicate count idleByte).map .shift ++
        [.control (.chipSelect chipSelect true)]) := by
    rw [List.map_replicate]
    rfl
  rw [hsignals]
  constructor
  · change after (next _ _) (_ ++ _) = _
    rw [after_append, after_bytes]
    rfl
  · change shifts (next _ _) (_ ++ _) = _
    rw [shifts_append, shifts_bytes, List.map_replicate, after_bytes]
    exact List.append_nil _

/-- An exchange with the card that is named finds the lines at rest and leaves them so. -/
theorem exchange_passage (h : lines.Resting) (hselected : lines.selected = true)
    (chipSelect : UInt8) (bytes : List UInt8) :
    lines.after ((Passage.exchange bytes).signals chipSelect) = lines ∧
      lines.shifts ((Passage.exchange bytes).signals chipSelect) =
        (Passage.exchange bytes).shifts lines.setting := by
  obtain ⟨mode, hz, selected, forced, low, setting⟩ := lines
  obtain ⟨rfl, rfl⟩ := h
  obtain rfl : selected = true := hselected
  unfold Passage.signals Passage.shifts
  constructor
  · change after (next _ _) (_ ++ _) = _
    rw [after_append, after_bytes]
    rfl
  · change shifts (next _ _) (_ ++ _) = _
    rw [shifts_append, shifts_bytes, after_bytes]
    rfl

/-- Any passages after the card has been named. -/
theorem shifts_passages (h : lines.Resting) (hselected : lines.selected = true)
    (chipSelect : UInt8) (passages : List Passage) :
    lines.after (passages.flatMap (Passage.signals chipSelect)) = lines ∧
      lines.shifts (passages.flatMap (Passage.signals chipSelect)) =
        passages.flatMap (Passage.shifts lines.setting) := by
  induction passages with
  | nil => exact ⟨rfl, rfl⟩
  | cons passage passages ih =>
    have hpassage : lines.after (passage.signals chipSelect) = lines ∧
        lines.shifts (passage.signals chipSelect) = passage.shifts lines.setting := by
      cases passage with
      | exchange bytes => exact exchange_passage h hselected chipSelect bytes
      | wakeUp count =>
        obtain ⟨hafter, hshifts⟩ := wakeUp_passage h chipSelect count
        refine ⟨hafter.trans ?_, hshifts⟩
        rw [← hselected]
    rw [List.flatMap_cons, List.flatMap_cons, after_append, shifts_append, hpassage.1, hpassage.2]
    exact ⟨ih.1, congrArg _ ih.2⟩

/-! ## The stages of a handshake -/

/-- The two settings before the first attempt, of which the second one counts. -/
theorem after_settings (lines : Lines) {hz : UInt32} (hhz : hz ≠ 0) :
    lines.after [.control (.mode .mode0), .control (.clock hz)] =
      { lines with mode := .mode0, hz, setting := some (.mode0, hz) } := by
  obtain ⟨mode, before, selected, forced, low, setting⟩ := lines
  by_cases hbefore : before = 0
  · simp [after, next, configured, hhz, hbefore]
  · simp [after, next, configured, hhz, hbefore]

theorem after_clock (lines : Lines) {hz : UInt32} (hhz : hz ≠ 0) :
    lines.next (.control (.clock hz)) = { lines with hz, setting := some (lines.mode, hz) } := by
  simp [next, configured, hhz]

end PinBus.Lines

open Negotiation

section Handshake

variable {lines : Lines} {config : Config}

/-- The opening begins with a wake-up, so that the card is named from then on. -/
theorem PinBus.Lines.shifts_opening (h : lines.Resting) (config : Config) (chipSelect : UInt8)
    (stages : Stages) :
    (∃ selected, lines.after ((stages.opening config).flatMap (Passage.signals chipSelect)) =
        { lines with selected } ∧ (stages.interface.isSome = true → selected = true)) ∧
      lines.shifts ((stages.opening config).flatMap (Passage.signals chipSelect)) =
        (stages.opening config).flatMap (Passage.shifts lines.setting) := by
  cases hattempts : stages.attempts with
  | nil =>
    have hnone : stages.interface = none := by
      cases hinterface : stages.interface with
      | none => rfl
      | some idles => exact absurd hattempts (stages.reset (by rw [hinterface]; rfl))
    have hopening : stages.opening config = [] := by
      simp [Stages.opening, attemptPassages, hattempts, hnone]
    rw [hopening, hnone]
    exact ⟨⟨lines.selected, rfl, fun h => absurd h Bool.false_ne_true⟩, rfl⟩
  | cons idles attempts =>
    obtain ⟨passages, hopening⟩ : ∃ passages,
        stages.opening config = .wakeUp config.powerUpBytes :: passages := by
      unfold Stages.opening
      rw [hattempts]
      exact ⟨_, rfl⟩
    obtain ⟨hwoken, hfirst⟩ := Lines.wakeUp_passage h chipSelect config.powerUpBytes
    have hresting : ({ lines with selected := true } : Lines).Resting := ⟨h.forced, h.low⟩
    obtain ⟨hafter, hrest⟩ := Lines.shifts_passages hresting rfl chipSelect passages
    rw [hopening, List.flatMap_cons, List.flatMap_cons, Lines.after_append, Lines.shifts_append,
      hwoken, hfirst, hafter, hrest]
    exact ⟨⟨true, rfl, fun _ => rfl⟩, rfl⟩

/-- What follows CMD8 has the fast clock. -/
theorem PinBus.Lines.shifts_toldLast (h : lines.Resting) (hmode : lines.mode = .mode0)
    (hdata : config.dataHz ≠ 0) (chipSelect : UInt8) {stages : Stages}
    (hselected : stages.exchanges ≠ [] → lines.selected = true) :
    (lines.after (stages.toldLast config chipSelect)).Resting ∧
      lines.shifts (stages.toldLast config chipSelect) =
        stages.closing.flatMap (Passage.shifts (some (.mode0, config.dataHz))) ∧
      (stages.exchanges ≠ [] →
        (lines.after (stages.toldLast config chipSelect)).selected = true ∧
        (lines.after (stages.toldLast config chipSelect)).setting =
          some (.mode0, config.dataHz)) := by
  unfold Stages.toldLast
  by_cases hnil : stages.exchanges = []
  · have hclosing : stages.closing = [] := by
      rw [Stages.closing, hnil]
      rfl
    rw [if_pos hnil, hclosing]
    exact ⟨h, rfl, fun hexchanges => absurd hnil hexchanges⟩
  · have hclock := Lines.after_clock lines hdata
    have hresting : (lines.next (.control (.clock config.dataHz))).Resting := by
      rw [hclock]
      exact ⟨h.forced, h.low⟩
    have hnamed : (lines.next (.control (.clock config.dataHz))).selected = true := by
      rw [hclock]
      exact hselected hnil
    have hsetting : (lines.next (.control (.clock config.dataHz))).setting =
        some (.mode0, config.dataHz) := by
      rw [hclock, ← hmode]
    obtain ⟨hafter, hshifts⟩ := Lines.shifts_passages hresting hnamed chipSelect stages.closing
    rw [hsetting] at hshifts
    rw [if_neg hnil]
    change (Lines.after (lines.next _) _).Resting ∧ Lines.shifts (lines.next _) _ = _ ∧
      (_ → (Lines.after (lines.next _) _).selected = true ∧
        (Lines.after (lines.next _) _).setting = _)
    rw [hafter]
    exact ⟨hresting, hshifts, fun _ => ⟨hnamed, hsetting⟩⟩

/-- What the stages of a handshake bring onto the wire. Where there was an exchange after CMD8, the
card is named and has the fast clock. -/
theorem PinBus.Lines.shifts_told (h : lines.Resting) (hinitial : config.initialHz ≠ 0)
    (hdata : config.dataHz ≠ 0) (chipSelect : UInt8) (stages : Stages) :
    (lines.after (stages.told config chipSelect)).Resting ∧
      lines.shifts (stages.told config chipSelect) =
        (stages.opening config).flatMap (Passage.shifts (some (.mode0, config.initialHz))) ++
          stages.closing.flatMap (Passage.shifts (some (.mode0, config.dataHz))) ∧
      (stages.exchanges ≠ [] → (lines.after (stages.told config chipSelect)).selected = true ∧
        (lines.after (stages.told config chipSelect)).setting = some (.mode0, config.dataHz)) := by
  let slow : Lines := { lines with
    mode := .mode0, hz := config.initialHz, setting := some (.mode0, config.initialHz) }
  have hslow : slow.Resting := ⟨h.forced, h.low⟩
  obtain ⟨⟨selected, hopened, hselected⟩, hopening⟩ :=
    Lines.shifts_opening hslow config chipSelect stages
  have hnamed : stages.exchanges ≠ [] → ({ slow with selected } : Lines).selected = true :=
    fun hexchanges => hselected (stages.identified hexchanges)
  have hresting : ({ slow with selected } : Lines).Resting := ⟨h.forced, h.low⟩
  obtain ⟨hafter, hclosing, hlast⟩ :=
    Lines.shifts_toldLast hresting rfl hdata chipSelect hnamed
  have hshifts : lines.shifts [.control (.mode .mode0), .control (.clock config.initialHz)] = [] :=
    rfl
  unfold Stages.told
  rw [List.append_assoc, Lines.after_append, Lines.shifts_append,
    Lines.after_settings lines hinitial, Lines.after_append, Lines.shifts_append, hopened, hopening,
    hclosing, hshifts]
  exact ⟨hafter, rfl, hlast⟩

end Handshake

namespace Session

variable {ε φ π σ : Type}

/-- What an operation tells the bus, and what this brings onto the wire: passages with the settings
that they are to have. -/
structure Wiring (config : Config) (chipSelect : UInt8) (call : Call ε) (shifts : List Shift) :
    Prop where
  /-- A handshake is clocked slowly up to CMD8, and fast after that. -/
  handshake : call.request = .start → ∃ stages : Stages,
    signals call.events = stages.told config chipSelect ∧
    shifts = (stages.opening config).flatMap (Passage.shifts (some (.mode0, config.initialHz))) ++
      stages.closing.flatMap (Passage.shifts (some (.mode0, config.dataHz)))
  /-- Any other operation is exchanges, and clocked fast. -/
  exchanges : call.request ≠ .start → ∃ exchanges : List (List UInt8),
    signals call.events = (exchanges.map .exchange).flatMap (Passage.signals chipSelect) ∧
    shifts = (exchanges.map .exchange).flatMap (Passage.shifts (some (.mode0, config.dataHz)))

/-- Between two operations no card is driven and no byte is under way, and a card that is ready is
named and has the fast clock. -/
structure Between (found : Bool) (session : Session) (bus : PinBus (σ × Array (Access φ π))) :
    Prop where
  resting : (PinBus.lines found bus).Resting
  idle : PinBus.underWay bus = []
  ready : ∀ mode, session.state = .ready mode → (PinBus.lines found bus).selected = true ∧
    (PinBus.lines found bus).setting = some (.mode0, session.config.dataHz)

/-! ## One operation -/

/-- A run of the handshake in which no call fails has its stages, and one that leaves the card ready
has exchanges after CMD8. -/
theorem exists_stages {s s' : Session} {t : List (Event ε)} {result : Except (Error ε) ReadyMode}
    (h : Program.Traces (start.exec s) t (result, s'))
    (hfault : ∀ event ∈ t, event.isFault = false) :
    ∃ stages : Stages, signals t = stages.told s.config s.chipSelect ∧
      ∀ mode, s'.state = .ready mode → stages.exchanges ≠ [] := by
  obtain ⟨-, verdict, hresult, hturn⟩ := hears_start s t result s' h ⟨rfl, rfl⟩ _ _
    (heard_received hfault idleByte)
  obtain ⟨sent, told, hcourse⟩ := exists_course s.config s.chipSelect
    fun k => (received t).getD k idleByte
  obtain ⟨hsent, htold⟩ := hcourse.negotiate
  obtain ⟨stages, hstages, hready⟩ := hcourse.stages
  refine ⟨stages, by rw [hturn.signals, hsent, hstages], fun mode hmode => ?_⟩
  cases verdict with
  | ok reached => exact hready reached (by rw [← htold, ← hturn.value])
  | error failure =>
    -- a handshake that failed has been noted, so that it has not left the card ready
    have hstarted := start_started s t result s' h
    obtain ⟨session, rfl⟩ := hstarted.failed (.card failure) hresult
    obtain ⟨noted, hnoted⟩ := noted_state (hstarted.cause (.card failure) hresult)
    rw [hnoted] at hmode
    cases hmode

/-- However an operation ends, the card is reached as before. -/
theorem Outcome.reached {α : Type} {s s' : Session} {t : List (Event ε)}
    {result : Except (Error ε) α} (h : Outcome s t result s') :
    s'.config = s.config ∧ s'.chipSelect = s.chipSelect := by
  cases h with
  | notReady => exact ⟨rfl, rfl⟩
  | outOfRange => exact ⟨rfl, rfl⟩
  | carriedOut _ h =>
    obtain ⟨left, hkept, hnoted⟩ := h.left
    have hsettled : (left.settled result).config = left.config ∧
        (left.settled result).chipSelect = left.chipSelect := by
      cases result with
      | ok => exact ⟨rfl, rfl⟩
      | error error => cases error <;> exact ⟨rfl, rfl⟩
    rw [show s' = left.settled result from hnoted, hsettled.1, hsettled.2]
    exact ⟨hkept.config, hkept.chipSelect⟩

/-- An operation other than the handshake finds the card ready, or it does nothing. -/
theorem Outcome.silent_or_ready {α : Type} {s s' : Session} {t : List (Event ε)}
    {result : Except (Error ε) α} (h : Outcome s t result s') :
    (t = [] ∧ s' = s) ∨ ∃ mode, s.state = .ready mode := by
  cases h with
  | notReady => exact .inl ⟨rfl, rfl⟩
  | outOfRange => exact .inl ⟨rfl, rfl⟩
  | carriedOut hready => exact .inr ⟨_, hready⟩

section Hardware

variable {hardware : Hardware φ π σ} {found : Bool} {session : Session}
  {s : PinBus (σ × Array (Access φ π))}

/-- One operation, from rest to rest. -/
theorem between_run (hsound : hardware.Sound) (hinitial : session.config.initialHz ≠ 0)
    (hdata : session.config.dataHz ≠ 0) (h : Between found session s) (request : Request) :
    let carried := Call.run (PinBus.bus hardware.recorded) request session s
    carried.1.after.config = session.config ∧ carried.1.after.chipSelect = session.chipSelect ∧
      Between found carried.1.after carried.2 ∧
      ∃ shifts, PinBus.wire found carried.2 = PinBus.wire found s ++ shifts ∧
        Wiring session.config session.chipSelect carried.1 shifts := by
  intro carried
  have hwired : PinBus.Wired found s carried.1.events carried.2 :=
    PinBus.wired_run hsound h.idle ((perform request).exec session)
  have hgenuine : Program.Traces ((perform request).exec session) carried.1.events
      (carried.1.result, carried.1.after) :=
    Call.genuine_run (PinBus.bus hardware.recorded) request session s
  by_cases hrequest : request = .start
  · subst hrequest
    obtain ⟨started, -, hstart⟩ := traces_start_of_perform hgenuine
    obtain ⟨hconfig, hchipSelect, -, -⟩ := (start_started _ _ _ _ hstart).toUnderway
    obtain ⟨stages, hsignals, hready⟩ := exists_stages hstart hwired.sound
    obtain ⟨hresting, hshifts, hlast⟩ :=
      Lines.shifts_told h.resting hinitial hdata session.chipSelect stages
    rw [← hsignals, ← hwired.lines] at hresting hlast
    rw [← hsignals] at hshifts
    refine ⟨hconfig, hchipSelect, ⟨hresting, hwired.underWay, fun mode hmode => ?_⟩, _,
      hwired.wire, fun _ => ⟨stages, hsignals, hshifts⟩, fun h => absurd rfl h⟩
    rw [hconfig]
    exact hlast (hready mode hmode)
  · have houtcome := perform_outcome hrequest _ _ _ _ hgenuine
    obtain ⟨hconfig, hchipSelect⟩ := houtcome.reached
    refine ⟨hconfig, hchipSelect, ?_⟩
    rcases houtcome.silent_or_ready with ⟨hnil, hafter⟩ | ⟨mode, hmode⟩
    · have hlines : PinBus.lines found carried.2 = PinBus.lines found s := by
        rw [hwired.lines, hnil]
        rfl
      rw [hafter]
      refine ⟨⟨hlines ▸ h.resting, hwired.underWay, hlines ▸ h.ready⟩, _, hwired.wire,
        fun h => absurd h hrequest, fun _ => ⟨[], ?_, ?_⟩⟩
      · rw [hnil]
        rfl
      · rw [hnil]
        rfl
    · obtain ⟨hselected, hsetting⟩ := h.ready mode hmode
      have hexchanging : Exchanging session.chipSelect carried.1.events :=
        exchanges_perform hrequest _ _ _ _ hgenuine
      obtain ⟨exchanges, hsignals⟩ := hexchanging hwired.sound
      obtain ⟨hafter, hshifts⟩ := Lines.shifts_passages h.resting hselected session.chipSelect
        (exchanges.map .exchange)
      rw [← hsignals] at hafter hshifts
      have hlines : PinBus.lines found carried.2 = PinBus.lines found s :=
        hwired.lines.trans hafter
      refine ⟨⟨hlines ▸ h.resting, hwired.underWay, fun _ _ => ?_⟩, _, hwired.wire,
        fun h => absurd h hrequest, fun _ => ⟨exchanges, hsignals, ?_⟩⟩
      · rw [hlines, hconfig]
        exact ⟨hselected, hsetting⟩
      · rw [hshifts, hsetting]

/-! ## All operations -/

/-- Operations one after the other, from rest to rest. -/
theorem between_carryOut (hsound : hardware.Sound) (hinitial : session.config.initialHz ≠ 0)
    (hdata : session.config.dataHz ≠ 0) (h : Between found session s) (requests : List Request) :
    let reached := carryOut (PinBus.bus hardware.recorded) requests session s
    reached.1.config = session.config ∧ reached.1.chipSelect = session.chipSelect ∧
      Between found reached.1 reached.2 := by
  -- the way to the card goes with the induction, since the next operation goes that way too
  induction requests generalizing session s with
  | nil => exact ⟨rfl, rfl, h⟩
  | cons request requests ih =>
    obtain ⟨hconfig, hchipSelect, hbetween, -⟩ := between_run hsound hinitial hdata h request
    obtain ⟨hconfig', hchipSelect', hrest⟩ :=
      ih (by rwa [hconfig]) (by rwa [hconfig]) hbetween
    exact ⟨hconfig'.trans hconfig, hchipSelect'.trans hchipSelect, hrest⟩

/-- A bus that has just been made has its lines at rest, wherever the pin was before, and nothing
has been shifted. -/
theorem between_fresh (hsound : hardware.Sound) (s : σ) (mode : SpiMode) (chipSelect : UInt8)
    (config : Config) :
    ∃ first, PinBus.ofHardware hardware.recorded (s, #[]) mode = .ok first ∧ ∀ found,
      PinBus.wire found first = [] ∧ Between found (fresh chipSelect config) first := by
  refine ⟨⟨((hardware.setPin true s).2, #[.setPin true (.ok ())]), mode, 0, false, false⟩, ?_,
    fun found => ⟨rfl, ⟨rfl, rfl⟩, rfl, fun _ h => nomatch h⟩⟩
  simp [PinBus.ofHardware, Hardware.recorded, hsound.setPin]

/-- On hardware that does not fail, and with rates that are not zero, the pin is high before and
after every operation after every sequence of operations, wherever it was before the bus was made.
What the operation brings onto the wire is passages, with the pin low for the bytes of an exchange
only, and the settings that they are to have, and no byte of it is still under way at the end. -/
theorem wire_passages (hsound : hardware.Sound) (s : σ) (mode : SpiMode) (chipSelect : UInt8)
    (config : Config) (hinitial : config.initialHz ≠ 0) (hdata : config.dataHz ≠ 0)
    (requests : List Request) (request : Request) :
    ∃ first, PinBus.ofHardware hardware.recorded (s, #[]) mode = .ok first ∧
      ∀ found, PinBus.wire found first = [] ∧
      let bus := PinBus.bus hardware.recorded
      let reached := carryOut bus requests (fresh chipSelect config) first
      let carried := Call.run bus request reached.1 reached.2
      PinBus.isLow found reached.2 = false ∧ PinBus.isLow found carried.2 = false ∧
        PinBus.underWay carried.2 = [] ∧
        ∃ shifts, PinBus.wire found carried.2 = PinBus.wire found reached.2 ++ shifts ∧
          Wiring config chipSelect carried.1 shifts := by
  obtain ⟨first, hfirst, hstart⟩ := between_fresh hsound s mode chipSelect config
  refine ⟨first, hfirst, fun found => ⟨(hstart found).1, ?_⟩⟩
  intro bus reached carried
  obtain ⟨hconfig, hchipSelect, hreached⟩ :=
    between_carryOut hsound hinitial hdata (hstart found).2 requests
  have hconfig : reached.1.config = config := hconfig
  have hchipSelect : reached.1.chipSelect = chipSelect := hchipSelect
  obtain ⟨-, -, hcarried, shifts, hwire, hwiring⟩ :=
    between_run hsound (by rwa [hconfig]) (by rwa [hconfig]) hreached request
  rw [hconfig, hchipSelect] at hwiring
  exact ⟨hreached.resting.low, hcarried.resting.low, hcarried.idle, shifts, hwire, hwiring⟩

end Hardware

/-- Hardware that does not fail, and shifts in the bytes that it holds. -/
def replying : Hardware Unit Unit (List UInt8) where
  setPin _ replies := (.ok (), replies)
  reconfigure _ _ replies := (.ok (), replies)
  shift _ replies := (.ok (replies.headD idleByte), replies.tail)
  flush replies := (.ok (), replies)

/-- A card of version 1 comes up on a bus with another mode, whose pin was low before it was made,
and then tells its status. -/
theorem wire_passages_status :
    -- a card answers once the frame of the command has been shifted out
    let answers := [[0x01], [0x05, 0, 0, 0, 0], [0x01, 0x80, 0xFF, 0x80, 0],
      [0x01] ++ List.replicate 6 idleByte ++ [0], [0], [0, 0]]
    let replies := idleByte :: answers.flatMap fun bytes =>
      List.replicate 6 idleByte ++ bytes ++ [idleByte]
    ∃ first, PinBus.ofHardware replying.recorded (replies, #[]) .mode3 = .ok first ∧
      let bus := PinBus.bus replying.recorded
      let reached := carryOut bus [.start] (fresh 0 { powerUpBytes := 1 }) first
      let carried := Call.run bus .status reached.1 reached.2
      reached.1.state = .ready .standardCapacityV1 ∧ carried.1.result.toOption = some (.status 0) ∧
        PinBus.isLow true carried.2 = false ∧
        ∃ shifts, PinBus.wire true carried.2 = PinBus.wire true reached.2 ++ shifts ∧
          Wiring { powerUpBytes := 1 } 0 carried.1 shifts := by
  intro answers replies
  have hsound : replying.Sound :=
    ⟨fun _ _ => rfl, fun _ _ _ => rfl, fun _ _ => ⟨_, rfl⟩, fun _ => rfl⟩
  obtain ⟨first, hfirst, h⟩ := wire_passages hsound replies .mode3 0
    { powerUpBytes := 1 } (by decide) (by decide) [.start] .status
  obtain ⟨-, -, hlow, -, hwiring⟩ := h true
  refine ⟨first, hfirst, ?_, ?_, hlow, hwiring⟩
  · cases hfirst
    decide +kernel
  · cases hfirst
    decide +kernel

end Session

end SdCard
