import SdCard.PinBus.Basic
import SdCard.Proofs.Bus.Assertion
import SdCard.Proofs.Bus.Line
import SdCard.Simulation.ScriptedBus

/-!
# The level of the select pin

A card hears what is shifted while its pin is low, so the pin has to be high whenever nobody drives
the line. It follows the calls of the bus: low means that the last chip select named the card and
that the last force select drove the line. There is one way for it to stay low without that. A
release waits for the peripheral before it lets the pin go, and if the peripheral fails then, the
pin is not touched.

* `Follows.run`: the pin follows the calls of any program;
* `run_release`: what becomes of it when the card is let go of;
* `select_line`: both, for a new bus and any use of it.

The pin is assumed to do as it is told; the peripheral may fail at any access. Nothing is assumed of
the level that the pin is found at.
-/

namespace SdCard

namespace PinBus

open Line

variable {φ π σ α : Type}

/-! ## The pin -/

/-- Whether the pin is low after an access, if it was or was not before. -/
def lowAfter (low : Bool) : Access φ π → Bool
  | .setPin high (.ok ()) => !high
  | _ => low

/-- The bytes among some accesses, each with whether the pin was low while it was shifted. -/
def shiftedFrom (low : Bool) : List (Access φ π) → List (UInt8 × Bool)
  | [] => []
  | .shift byte _ :: accesses => (byte, low) :: shiftedFrom low accesses
  | access :: accesses => shiftedFrom (lowAfter low access) accesses

/-- Whether the pin is low, if it was or was not before the first access. -/
def isLow (found : Bool) (bus : PinBus (σ × Array (Access φ π))) : Bool :=
  bus.hardware.2.toList.foldl lowAfter found

/-- All bytes shifted so far, each with whether the pin was low meanwhile. -/
def shifted (found : Bool) (bus : PinBus (σ × Array (Access φ π))) : List (UInt8 × Bool) :=
  shiftedFrom found bus.hardware.2.toList

theorem shiftedFrom_append (low : Bool) (accesses more : List (Access φ π)) :
    shiftedFrom low (accesses ++ more) =
      shiftedFrom low accesses ++ shiftedFrom (accesses.foldl lowAfter low) more := by
  induction accesses generalizing low with
  | nil => rfl
  | cons access accesses ih => cases access <;> simp [shiftedFrom, lowAfter, ih]

/-! ## The hardware follows -/

/-- The bus remembers the calls that concern the line, and the pin is where they have put it. -/
structure Follows (found : Bool) (t : List (Event (PinBusFault φ π)))
    (bus : PinBus (σ × Array (Access φ π))) : Prop where
  selected : bus.selected = true ↔ Named t
  forced : bus.forced = true ↔ Forced t
  low : isLow found bus = true ↔ Driven t ∨ Stuck t

/-- Nothing of what has to do with the line has changed. -/
structure Untouched (found : Bool) (before after : PinBus (σ × Array (Access φ π))) : Prop where
  selected : after.selected = before.selected
  forced : after.forced = before.forced
  low : isLow found after = isLow found before

theorem Untouched.trans {found : Bool} {a b c : PinBus (σ × Array (Access φ π))}
    (hab : Untouched found a b) (hbc : Untouched found b c) : Untouched found a c where
  selected := hbc.selected.trans hab.selected
  forced := hbc.forced.trans hab.forced
  low := hbc.low.trans hab.low

section Calls

variable {hardware : Hardware φ π σ} {found : Bool} {t : List (Event (PinBusFault φ π))}
  {bus : PinBus (σ × Array (Access φ π))}

/-! ### Accesses -/

/-- A pin that does as it is told has the level that it is given. -/
theorem exec_setPin (hpin : ∀ high s, (hardware.setPin high s).1 = .ok ()) (found : Bool)
    (bus : PinBus (σ × Array (Access φ π))) (high : Bool) :
    ∃ after, (setPin hardware.recorded high).exec bus = (.ok (), after) ∧
      after.selected = bus.selected ∧ after.forced = bus.forced ∧
      isLow found after = !high ∧ shifted found after = shifted found bus := by
  have hanswer : ((setPin hardware.recorded high).exec bus).1 = .ok () := by
    change Except.mapError _ (hardware.setPin high bus.hardware.1).1 = _
    rw [hpin]
    rfl
  refine ⟨((setPin hardware.recorded high).exec bus).2, Prod.ext hanswer rfl, rfl, rfl, ?_, ?_⟩
  · simp [setPin, Hardware.recorded, hpin, isLow, lowAfter]
  · simp [setPin, Hardware.recorded, shifted, shiftedFrom_append, shiftedFrom]

theorem untouched_flush (hardware : Hardware φ π σ) (bus : PinBus (σ × Array (Access φ π))) :
    Untouched found bus ((flush hardware.recorded).exec bus).2 := by
  refine ⟨rfl, rfl, ?_⟩
  simp [flush, Hardware.recorded, isLow, lowAfter]

theorem shifted_flush (hardware : Hardware φ π σ) (bus : PinBus (σ × Array (Access φ π))) :
    shifted found ((flush hardware.recorded).exec bus).2 = shifted found bus := by
  simp [flush, Hardware.recorded, shifted, shiftedFrom_append, shiftedFrom]

theorem untouched_configure (mode : SpiMode) (hz : UInt32) :
    Untouched found bus ((configure hardware.recorded).exec { bus with mode, hz }).2 := by
  unfold configure
  simp only [Step.exec_bind, Step.exec_get]
  split
  · exact ⟨rfl, rfl, rfl⟩
  · refine ⟨rfl, rfl, ?_⟩
    simp [Hardware.recorded, isLow, lowAfter]

/-- A byte is shifted with the pin where it is, and leaves it there. -/
theorem exec_transfer (hardware : Hardware φ π σ) (bus : PinBus (σ × Array (Access φ π)))
    (byte : UInt8) :
    Untouched found bus ((transfer hardware.recorded byte).exec bus).2 ∧
    shifted found ((transfer hardware.recorded byte).exec bus).2 =
      shifted found bus ++ [(byte, isLow found bus)] := by
  have hshift : Untouched found bus
        ((Step.access .peripheral (hardware.recorded.shift byte) :
          Step φ π _ UInt8).exec bus).2 ∧
      shifted found ((Step.access .peripheral (hardware.recorded.shift byte) :
          Step φ π _ UInt8).exec bus).2 = shifted found bus ++ [(byte, isLow found bus)] := by
    refine ⟨⟨rfl, rfl, ?_⟩, ?_⟩
    · simp [Hardware.recorded, isLow, lowAfter]
    · simp [Hardware.recorded, shifted, shiftedFrom_append, shiftedFrom, isLow]
  unfold transfer
  rw [Step.exec_bind]
  split
  · -- the peripheral is waited for after every byte, which only a success of the shift comes to
    rw [Step.exec_bind]
    split
    · exact ⟨hshift.1.trans (untouched_flush ..), (shifted_flush ..).trans hshift.2⟩
    · exact ⟨hshift.1.trans (untouched_flush ..), (shifted_flush ..).trans hshift.2⟩
  · exact hshift

/-- The pin is let go unless the peripheral fails first, and then it stays where it is. -/
theorem exec_letGo (hpin : ∀ high s, (hardware.setPin high s).1 = .ok ()) (found : Bool)
    (bus : PinBus (σ × Array (Access φ π))) :
    ∃ answer after,
      (do flush hardware.recorded; setPin hardware.recorded true).exec bus = (answer, after) ∧
      after.selected = bus.selected ∧ after.forced = bus.forced ∧
      (isLow found after = true ↔ isLow found bus = true ∧ answer ≠ .ok ()) ∧
      shifted found after = shifted found bus := by
  have hflush : Untouched found bus ((flush hardware.recorded).exec bus).2 :=
    untouched_flush hardware bus
  have hshifted : shifted found ((flush hardware.recorded).exec bus).2 = shifted found bus :=
    shifted_flush hardware bus
  generalize hrun : (flush hardware.recorded).exec bus = outcome at hflush hshifted
  obtain ⟨answer, flushed⟩ := outcome
  cases answer with
  | error fault =>
    refine ⟨.error fault, flushed, by simp [hrun], hflush.selected, hflush.forced, ?_, hshifted⟩
    rw [hflush.low]
    exact (and_iff_left (by simp)).symm
  | ok =>
    obtain ⟨after, hpinned, hselected, hforced, hlow, hbytes⟩ :=
      exec_setPin hpin found flushed true
    exact ⟨.ok (), after, by simp [hrun, hpinned], hselected.trans hflush.selected,
      hforced.trans hflush.forced, by simp [hlow], hbytes.trans hshifted⟩

/-! ### Calls of the bus -/

/-- A call that does not concern the line, and that leaves it alone. -/
theorem Follows.untouched {event : Event (PinBusFault φ π)}
    {after : PinBus (σ × Array (Access φ π))} (h : Follows found t bus)
    (hchip : chipSelects [event] = []) (hforce : forceSelects [event] = [])
    (hafter : Untouched found bus after) : Follows found (t ++ [event]) after := by
  have hnamed : Named (t ++ [event]) ↔ Named t := named_concat hchip
  have hforced : Forced (t ++ [event]) ↔ Forced t := forced_concat hforce
  have hstuck : Stuck (t ++ [event]) ↔ Stuck t := by
    rw [stuck_concat]
    constructor
    · rintro (h | ⟨-, fault, rfl⟩)
      · exact h.1
      · cases hforce
    · intro h
      refine .inl ⟨h, ?_⟩
      cases event with
      | control call answer =>
        cases call with
        | chipSelect => cases hchip
        | forceSelect => cases hforce
        | _ => exact id
      | _ => exact id
  refine ⟨?_, ?_, ?_⟩
  · rw [hafter.selected, h.selected, hnamed]
  · rw [hafter.forced, h.forced, hforced]
  · rw [hafter.low, h.low, Driven, Driven, hnamed, hforced, hstuck]

theorem Follows.chipSelect (hpin : ∀ high s, (hardware.setPin high s).1 = .ok ())
    (h : Follows found t bus) (index : UInt8) (active : Bool) :
    Follows found (t ++ [.control (.chipSelect index active)
        ((control hardware.recorded (.chipSelect index active)).exec bus).1])
      ((control hardware.recorded (.chipSelect index active)).exec bus).2 := by
  have hdone : ∀ (answer : Except (PinBusFault φ π) Unit) (after : PinBus (σ × Array (Access φ π))),
      after.selected = active → after.forced = bus.forced →
      (isLow found after = true ↔ active = true ∧ (Forced t ∨ Stuck t)) →
      Follows found (t ++ [.control (.chipSelect index active) answer]) after := by
    intro answer after hselected hforced hlow
    refine ⟨?_, ?_, ?_⟩
    · rw [hselected, named_chipSelect]
    · rw [hforced, h.forced, forced_concat rfl]
    · rw [hlow, driven_chipSelect, stuck_chipSelect, and_comm (a := Stuck t), and_or_left]
  cases active with
  | false =>
    obtain ⟨after, hafter, hselected, hforced, hlow, -⟩ :=
      exec_setPin hpin found { bus with selected := false } true
    have hcall : (control hardware.recorded (.chipSelect index false)).exec bus =
        (.ok (), after) := by simpa [control] using hafter
    rw [hcall]
    exact hdone _ _ hselected hforced (by simp [hlow])
  | true =>
    cases hforce : bus.forced with
    | false =>
      -- nobody drives the line, so it is low only if it is stuck, and the pin is not touched
      have hnot : ¬ Forced t := by simp [← h.forced, hforce]
      have hcall : (control hardware.recorded (.chipSelect index true)).exec bus =
          (.ok (), { bus with selected := true }) := by simp [control, hforce]
      rw [hcall]
      refine hdone _ _ rfl rfl ?_
      change isLow found bus = true ↔ _
      rw [h.low, Driven]
      simp [hnot]
    | true =>
      have hyes : Forced t := h.forced.mp hforce
      obtain ⟨after, hafter, hselected, hforced, hlow, -⟩ :=
        exec_setPin hpin found { bus with selected := true } false
      have hcall : (control hardware.recorded (.chipSelect index true)).exec bus =
          (.ok (), after) := by simpa [control, hforce] using hafter
      rw [hcall]
      exact hdone _ _ hselected hforced (by simp [hlow, hyes])

theorem Follows.forceSelect (hpin : ∀ high s, (hardware.setPin high s).1 = .ok ())
    (h : Follows found t bus) (active : Bool) :
    Follows found (t ++ [.control (.forceSelect active)
        ((control hardware.recorded (.forceSelect active)).exec bus).1])
      ((control hardware.recorded (.forceSelect active)).exec bus).2 := by
  have hdone : ∀ (answer : Except (PinBusFault φ π) Unit) (after : PinBus (σ × Array (Access φ π))),
      after.selected = bus.selected → after.forced = active →
      (isLow found after = true ↔ (Named t ∧ active = true) ∨
        Stuck (t ++ [.control (.forceSelect active) answer])) →
      Follows found (t ++ [.control (.forceSelect active) answer]) after := by
    intro answer after hselected hforced hlow
    refine ⟨?_, ?_, ?_⟩
    · rw [hselected, h.selected, named_concat rfl]
    · rw [hforced, forced_forceSelect]
    · rw [hlow, driven_forceSelect]
  cases active with
  | false =>
    obtain ⟨answer, after, hcall, hselected, hforced, hlow, -⟩ :=
      exec_letGo hpin found { bus with forced := false }
    rw [show (control hardware.recorded (.forceSelect false)).exec bus = (answer, after) from hcall]
    refine hdone _ _ hselected hforced ?_
    change isLow found after = true ↔ isLow found bus = true ∧ _ at hlow
    rw [hlow, h.low]
    cases answer with
    | ok =>
      have hsettled : ¬ Stuck (t ++ [.control (.forceSelect false) (.ok ())]) :=
        not_stuck_forceSelect (.inr rfl)
      simp [hsettled]
    | error fault => simp [stuck_release]
  | true =>
    have hsettled : ∀ answer, ¬ Stuck (t ++ [.control (.forceSelect true) answer]) :=
      fun answer => not_stuck_forceSelect (.inl rfl)
    cases hselect : bus.selected with
    | true =>
      have hyes : Named t := h.selected.mp hselect
      obtain ⟨after, hafter, hselected, hforced, hlow, -⟩ :=
        exec_setPin hpin found { bus with forced := true } false
      have hcall : (control hardware.recorded (.forceSelect true)).exec bus = (.ok (), after) := by
        simpa [control, hselect] using hafter
      rw [hcall]
      exact hdone _ _ hselected hforced (by simp [hlow, hyes])
    | false =>
      -- the pin is high already, since a card that is not named has not been left low
      have hnot : ¬ Named t := by simp [← h.selected, hselect]
      have hhigh : isLow found bus = false := by
        rw [Bool.eq_false_iff, Ne, h.low]
        rintro (hdriven | hstuck)
        · exact hnot hdriven.1
        · exact hnot hstuck.named_and_not_forced.1
      obtain ⟨answer, after, hafter, hselected, hforced, hlow, -⟩ :=
        exec_letGo hpin found { bus with forced := true }
      have hcall : (control hardware.recorded (.forceSelect true)).exec bus = (answer, after) := by
        simpa [control, hselect] using hafter
      change isLow found after = true ↔ isLow found bus = true ∧ _ at hlow
      rw [hcall]
      exact hdone _ _ hselected hforced (by simp [hlow, hhigh, hnot, hsettled])

/-! ### Runs -/

/-- Whatever a program does with the bus, the pin follows its calls. -/
theorem Follows.run (hpin : ∀ high s, (hardware.setPin high s).1 = .ok ())
    (h : Follows found [] bus) (p : Program (PinBusFault φ π) α) :
    Follows found (p.run (PinBus.bus hardware.recorded) bus).events.toList
      (p.run (PinBus.bus hardware.recorded) bus).bus := by
  refine Program.runFrom_invariant (Follows found) ?_ ?_ ?_ ?_ p bus #[] h
  · intro t bus call h
    cases call with
    | mode mode => exact h.untouched rfl rfl (untouched_configure mode bus.hz)
    | clock hz => exact h.untouched rfl rfl (untouched_configure bus.mode hz)
    | chipSelect index active => exact h.chipSelect hpin index active
    | forceSelect active => exact h.forceSelect hpin active
  · intro t bus byte h
    exact h.untouched rfl rfl (exec_transfer hardware bus byte).1
  · intro t bus h
    exact h.untouched rfl rfl ⟨rfl, rfl, rfl⟩
  · intro t bus record h
    exact h.untouched rfl rfl ⟨rfl, rfl, rfl⟩

/-- A bus that has just been made has its pin high, wherever that was before, and nothing
selected. -/
theorem ofHardware_follows (hpin : ∀ high s, (hardware.setPin high s).1 = .ok ()) (s : σ)
    (mode : SpiMode) :
    ∃ first, ofHardware hardware.recorded (s, #[]) mode = .ok first ∧
      ∀ found, Follows found ([] : List (Event (PinBusFault φ π))) first := by
  refine ⟨⟨((hardware.setPin true s).2, #[.setPin true (.ok ())]), mode, 0, false, false⟩, ?_, ?_⟩
  · simp [ofHardware, Hardware.recorded, hpin]
  · intro found
    constructor
    · simp [Named, chipSelects]
    · simp [Forced, forceSelects]
    · simp [isLow, lowAfter, Driven, Named, chipSelects, Stuck]

/-- Letting go of the card is a query, the release of the line, and the idle byte, which is shifted
with the pin where the release has left it. -/
theorem run_release (hpin : ∀ high s, (hardware.setPin high s).1 = .ok ()) :
    ∃ released reply,
      (Program.release.run (PinBus.bus hardware.recorded) bus).events.toList =
        [.fifoBusy false, .control (.forceSelect false) released, .transfer idleByte reply] ∧
      (isLow found (Program.release.run (PinBus.bus hardware.recorded) bus).bus = true ↔
        isLow found bus = true ∧ released ≠ .ok ()) ∧
      shifted found (Program.release.run (PinBus.bus hardware.recorded) bus).bus =
        shifted found bus ++
          [(idleByte, isLow found (Program.release.run (PinBus.bus hardware.recorded) bus).bus)] := by
  obtain ⟨released, after, hcall, -, -, hlow, hbytes⟩ :=
    exec_letGo hpin found { bus with forced := false }
  have hrun : Program.release.run (PinBus.bus hardware.recorded) bus =
      ⟨(), ((transfer hardware.recorded idleByte).exec after).2,
        #[.fifoBusy false, .control (.forceSelect false) released,
          .transfer idleByte ((transfer hardware.recorded idleByte).exec after).1]⟩ := by
    have hfalse : (control hardware.recorded (.forceSelect false)).exec bus = (released, after) :=
      hcall
    -- the first query says that the queue is empty, so no other one is made
    have hdrain : (Program.drain drainPolls : Program (PinBusFault φ π) Unit) =
        .fifoBusy fun busy => if busy then Program.drain 1023 else .done () := rfl
    rw [Program.release, hdrain]
    simp [Program.run, Program.runFrom, Program.bind_eq, Program.bind, PinBus.bus, hfalse]
  obtain ⟨huntouched, hshifted⟩ := exec_transfer hardware after idleByte
  rw [hrun]
  refine ⟨released, _, rfl, ?_, ?_⟩
  · rw [huntouched.low, hlow]
    exact Iff.rfl
  · rw [hshifted, huntouched.low, hbytes]
    rfl

end Calls

/-! ## The line, whatever is done -/

/-- After any use of a new bus, the pin is low if the line should be driven or if it is stuck; so it
is low only while it should be, exactly if no release has left it stuck. Letting go of the card then
makes the pin high unless it was low and the release meets a fault, and the idle byte is shifted
with the pin so. This holds wherever the pin is found. A program may end after any call, so this is
the level of the pin after each. -/
theorem select_line (hardware : Hardware φ π σ)
    (hpin : ∀ high s, (hardware.setPin high s).1 = .ok ()) (s : σ) (mode : SpiMode) :
    ∃ first, ofHardware hardware.recorded (s, #[]) mode = .ok first ∧
      ∀ (found : Bool) (α : Type) (p : Program (PinBusFault φ π) α),
        let run := p.run (bus hardware.recorded) first
        let dropped := Program.release.run (bus hardware.recorded) run.bus
        (isLow found run.bus = true ↔ Driven run.events.toList ∨ Stuck run.events.toList) ∧
        ((isLow found run.bus = true → Driven run.events.toList) ↔ ¬ Stuck run.events.toList) ∧
        ∃ released reply,
          dropped.events.toList =
            [.fifoBusy false, .control (.forceSelect false) released, .transfer idleByte reply] ∧
          (isLow found dropped.bus = true ↔ isLow found run.bus = true ∧ released ≠ .ok ()) ∧
          shifted found dropped.bus =
            shifted found run.bus ++ [(idleByte, isLow found dropped.bus)] := by
  obtain ⟨first, hfirst, hfollows⟩ := ofHardware_follows hpin s mode
  refine ⟨first, hfirst, fun found α p => ?_⟩
  have hlow := ((hfollows found).run hpin p).low
  refine ⟨hlow, ?_, run_release hpin⟩
  rw [hlow]
  constructor
  · intro hdriven hstuck
    exact hstuck.named_and_not_forced.2 (hdriven (.inr hstuck)).2
  · intro hstuck hor
    exact hor.resolve_right hstuck

/-- A pin that does as it is told, beside a peripheral on a script. -/
def steadyPin : Hardware Unit Unit Script :=
  { scriptedHardware () () with setPin := fun _ script => (.ok (), script) }

/-- A fault after a byte leaves the line driven, and letting go of the card leaves it high. The pin
was found low. -/
theorem select_line_byte_fault :
    ∃ first, ofHardware steadyPin.recorded (⟨[], 0xFF, [2], none, 0⟩, #[]) .mode0 = .ok first ∧
      let run := Program.run (bus steadyPin.recorded)
        (.control (.chipSelect 0 true) fun _ => .control (.forceSelect true) fun _ =>
          .transfer 0x40 .done) first
      run.value = .error (.peripheral ()) ∧ Driven run.events.toList ∧
      ¬ Stuck run.events.toList ∧ isLow true run.bus = true ∧
      isLow true (Program.release.run (bus steadyPin.recorded) run.bus).bus = false := by
  obtain ⟨first, hfirst, h⟩ := select_line steadyPin (fun _ _ => rfl)
    ⟨[], 0xFF, [2], none, 0⟩ .mode0
  cases hfirst
  obtain ⟨hlow, hmet, -⟩ := h true _ (.control (.chipSelect 0 true) fun _ =>
    .control (.forceSelect true) fun _ => .transfer 0x40 .done)
  have hdriven : Driven (ε := PinBusFault Unit Unit) [.control (.chipSelect 0 true) (.ok ()),
      .control (.forceSelect true) (.ok ()), .transfer 0x40 (.error (.peripheral ()))] := ⟨rfl, rfl⟩
  exact ⟨_, rfl, rfl, hdriven, hmet.mp fun _ => hdriven, hlow.mpr (.inl hdriven), rfl⟩

/-- Where the peripheral fails at the release, the line stays low, although the last force select
was to release it, and the idle byte is shifted to the card. -/
theorem line_left_low :
    ∃ first, ofHardware steadyPin.recorded (⟨[], 0xFF, [3], none, 0⟩, #[]) .mode0 = .ok first ∧
      let run := Program.run (bus steadyPin.recorded)
        (.control (.chipSelect 0 true) fun _ =>
          .whileSelected (fun _ => ()) (.transfer 0x40 fun _ => .done ())) first
      forceSelects run.events.toList = [true, false] ∧ ¬ Driven run.events.toList ∧
      ∀ found, isLow found run.bus = true ∧
        shifted found run.bus = [(0x40, true), (idleByte, true)] := by
  refine ⟨_, rfl, rfl, ?_, fun _ => ⟨rfl, rfl⟩⟩
  intro hdriven
  have hforced : some false = some true := hdriven.2
  exact absurd hforced (by decide)

end PinBus

end SdCard
