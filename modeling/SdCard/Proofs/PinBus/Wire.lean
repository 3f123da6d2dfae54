import SdCard.Proofs.Bus.Hearing
import SdCard.Proofs.PinBus.SelectLine

/-!
# What the wire sees

A card at the end of the wire sees bytes, the level of its pin, and the clock. `wire` is all of
that: the bytes shifted so far, each with the level of the pin and the setting of the peripheral
that it was on the wire under. A peripheral may still be busy with a byte that it has taken, so a
byte is on the wire until the peripheral has been waited for. If the pin or the setting changes
before that, the byte is seen with both.

On hardware that does not fail, what a program tells the bus decides what the wire sees. `Lines` is
what the bus and the hardware keep between two calls, `Lines.next` is what a signal makes of it, and
`Lines.shifts` which bytes some signals bring onto the wire: `wired_run`. Nothing is under way
between two calls.
-/

namespace SdCard

/-- No access to the hardware fails. -/
structure Hardware.Sound {φ π σ : Type} (hardware : Hardware φ π σ) : Prop where
  setPin : ∀ high s, (hardware.setPin high s).1 = .ok ()
  reconfigure : ∀ mode hz s, (hardware.reconfigure mode hz s).1 = .ok ()
  shift : ∀ byte s, ∃ reply, (hardware.shift byte s).1 = .ok reply
  flush : ∀ s, (hardware.flush s).1 = .ok ()

namespace PinBus

variable {φ π σ α : Type}

/-! ## The wire -/

/-- A mode with a clock rate, as they are handed to the peripheral. -/
abbrev Setting := SpiMode × UInt32

/-- A byte on the wire, with the level of the pin and the last setting of the peripheral. -/
structure Shift where
  byte : UInt8
  low : Bool
  setting : Option Setting
deriving DecidableEq

/-- The last setting after an access, if it was `setting` before. -/
def settingAfter (setting : Option Setting) : Access φ π → Option Setting
  | .reconfigure mode hz (.ok ()) => some (mode, hz)
  | _ => setting

/-- The bytes under way after an access, if there were some before: those that the peripheral has
taken and has not been waited for. -/
def underWayAfter (underWay : List UInt8) : Access φ π → List UInt8
  | .shift byte _ => underWay ++ [byte]
  | .flush (.ok ()) => []
  | _ => underWay

/-- What an access brings onto the wire: the byte that it shifts, or what is under way once more
where it may change the pin or the setting. -/
def seen (low : Bool) (setting : Option Setting) (underWay : List UInt8) (access : Access φ π) :
    List Shift :=
  match access with
  | .shift byte _ => [⟨byte, low, setting⟩]
  | .flush _ => []
  | .setPin .. | .reconfigure .. =>
    underWay.map fun byte => ⟨byte, lowAfter low access, settingAfter setting access⟩

/-- What some accesses bring onto the wire. -/
def wireFrom (low : Bool) (setting : Option Setting) (underWay : List UInt8) :
    List (Access φ π) → List Shift
  | [] => []
  | access :: accesses => seen low setting underWay access ++
    wireFrom (lowAfter low access) (settingAfter setting access) (underWayAfter underWay access)
      accesses

/-- The last setting of the peripheral. -/
def setting (bus : PinBus (σ × Array (Access φ π))) : Option Setting :=
  bus.hardware.2.toList.foldl settingAfter none

/-- The bytes under way. -/
def underWay (bus : PinBus (σ × Array (Access φ π))) : List UInt8 :=
  bus.hardware.2.toList.foldl underWayAfter []

/-- All that the wire has seen, if the pin was low or was not before the first access. -/
def wire (found : Bool) (bus : PinBus (σ × Array (Access φ π))) : List Shift :=
  wireFrom found none [] bus.hardware.2.toList

theorem wireFrom_append (low : Bool) (setting : Option Setting) (underWay : List UInt8)
    (accesses more : List (Access φ π)) :
    wireFrom low setting underWay (accesses ++ more) = wireFrom low setting underWay accesses ++
      wireFrom (accesses.foldl lowAfter low) (accesses.foldl settingAfter setting)
        (accesses.foldl underWayAfter underWay) more := by
  induction accesses generalizing low setting underWay with
  | nil => rfl
  | cons access accesses ih =>
    rw [List.cons_append, wireFrom, wireFrom, ih, List.append_assoc]
    rfl

/-! ## What signals make of the lines -/

/-- What the bus keeps, and what it has made of the hardware. -/
structure Lines where
  mode : SpiMode
  hz : UInt32
  selected : Bool
  forced : Bool
  low : Bool
  setting : Option Setting
deriving DecidableEq

/-- The lines of a bus, if the pin was low or was not before the first access. -/
def lines (found : Bool) (bus : PinBus (σ × Array (Access φ π))) : Lines where
  mode := bus.mode
  hz := bus.hz
  selected := bus.selected
  forced := bus.forced
  low := isLow found bus
  setting := setting bus

namespace Lines

/-- Mode and rate reach the peripheral once a rate is known. -/
def configured (lines : Lines) : Lines :=
  if lines.hz = 0 then lines else { lines with setting := some (lines.mode, lines.hz) }

/-- The lines after a signal. -/
def next (lines : Lines) : Signal → Lines
  | .shift _ => lines
  | .control (.mode mode) => { lines with mode }.configured
  | .control (.clock hz) => { lines with hz }.configured
  | .control (.chipSelect _ active) =>
    { lines with selected := active, low := active && (lines.forced || lines.low) }
  | .control (.forceSelect active) =>
    { lines with forced := active, low := active && lines.selected }

/-- The lines after some signals. -/
def after (lines : Lines) (signals : List Signal) : Lines := signals.foldl next lines

/-- What some signals bring onto the wire. -/
def shifts (lines : Lines) : List Signal → List Shift
  | [] => []
  | .shift byte :: signals => ⟨byte, lines.low, lines.setting⟩ :: lines.shifts signals
  | .control call :: signals => (lines.next (.control call)).shifts signals

theorem after_append (lines : Lines) (signals more : List Signal) :
    lines.after (signals ++ more) = (lines.after signals).after more := List.foldl_append ..

theorem shifts_append (lines : Lines) (signals more : List Signal) :
    lines.shifts (signals ++ more) = lines.shifts signals ++ (lines.after signals).shifts more := by
  induction signals generalizing lines with
  | nil => rfl
  | cons signal signals ih =>
    cases signal with
    | shift byte => exact congrArg _ (ih lines)
    | control call => exact ih _

/-- Bytes are shifted with the lines where they are, and leave them there. -/
theorem shifts_bytes (lines : Lines) (bytes : List UInt8) :
    lines.shifts (bytes.map .shift) = bytes.map fun byte => ⟨byte, lines.low, lines.setting⟩ := by
  induction bytes with
  | nil => rfl
  | cons byte bytes ih => exact congrArg _ ih

theorem after_bytes (lines : Lines) (bytes : List UInt8) :
    lines.after (bytes.map .shift) = lines := by
  induction bytes with
  | nil => rfl
  | cons byte bytes ih => exact ih

end Lines

/-! ## The hardware follows the signals -/

section Accesses

variable {bus after : PinBus (σ × Array (Access φ π))} {access : Access φ π}

theorem isLow_push (found : Bool) (h : after.hardware.2 = bus.hardware.2.push access) :
    isLow found after = lowAfter (isLow found bus) access := by
  unfold isLow
  rw [h, Array.toList_push, List.foldl_append]
  rfl

theorem setting_push (h : after.hardware.2 = bus.hardware.2.push access) :
    setting after = settingAfter (setting bus) access := by
  unfold setting
  rw [h, Array.toList_push, List.foldl_append]
  rfl

theorem underWay_push (h : after.hardware.2 = bus.hardware.2.push access) :
    underWay after = underWayAfter (underWay bus) access := by
  unfold underWay
  rw [h, Array.toList_push, List.foldl_append]
  rfl

theorem wire_push (found : Bool) (h : after.hardware.2 = bus.hardware.2.push access) :
    wire found after =
      wire found bus ++ seen (isLow found bus) (setting bus) (underWay bus) access := by
  unfold wire
  rw [h, Array.toList_push, wireFrom_append, wireFrom, wireFrom, List.append_nil]
  rfl

end Accesses

section Calls

variable {hardware : Hardware φ π σ} {found : Bool}

/-- A step of the bus succeeds, and this is what it does to the lines, what it leaves under way, and
what it brings onto the wire. -/
structure Does (found : Bool) (bus : PinBus (σ × Array (Access φ π))) (lines' : Lines)
    (left : List UInt8) (shifts : List Shift)
    (outcome : Except (PinBusFault φ π) α × PinBus (σ × Array (Access φ π))) : Prop where
  succeeds : ∃ value, outcome.1 = .ok value
  lines : lines found outcome.2 = lines'
  underWay : underWay outcome.2 = left
  wire : wire found outcome.2 = wire found bus ++ shifts

theorem does_pure (found : Bool) (bus : PinBus (σ × Array (Access φ π))) (value : α) :
    Does found bus (lines found bus) (underWay bus) [] ((pure value : Step φ π _ α).exec bus) :=
  ⟨⟨value, rfl⟩, rfl, rfl, (List.append_nil _).symm⟩

/-- The second step goes on from where the first one has brought the lines. -/
theorem does_bind {β : Type} {bus : PinBus (σ × Array (Access φ π))} {step : Step φ π _ α}
    {f : α → Step φ π _ β} {first last : Lines} {between left : List UInt8}
    {shifts more : List Shift} (hstep : Does found bus first between shifts (step.exec bus))
    (hf : ∀ value middle, lines found middle = first → underWay middle = between →
      Does found middle last left more ((f value).exec middle)) :
    Does found bus last left (shifts ++ more) ((step >>= f).exec bus) := by
  obtain ⟨value, hvalue⟩ := hstep.succeeds
  have hnext := hf value (step.exec bus).2 hstep.lines hstep.underWay
  rw [Step.exec_bind, hvalue]
  refine ⟨hnext.succeeds, hnext.lines, hnext.underWay, ?_⟩
  rw [hnext.wire, hstep.wire, List.append_assoc]

/-- The second step may bring nothing onto the wire. -/
theorem does_bind_silent {β : Type} {bus : PinBus (σ × Array (Access φ π))} {step : Step φ π _ α}
    {f : α → Step φ π _ β} {first last : Lines} {between left : List UInt8} {shifts : List Shift}
    (hstep : Does found bus first between shifts (step.exec bus))
    (hf : ∀ value middle, lines found middle = first → underWay middle = between →
      Does found middle last left [] ((f value).exec middle)) :
    Does found bus last left shifts ((step >>= f).exec bus) := by
  rw [← List.append_nil shifts]
  exact does_bind hstep hf

/-- What the bus keeps is not seen on the wire. -/
theorem does_modify_bind {bus : PinBus (σ × Array (Access φ π))}
    {f : PinBus (σ × Array (Access φ π)) → PinBus (σ × Array (Access φ π))}
    {g : Unit → Step φ π _ α} {last : Lines} {left : List UInt8} {shifts : List Shift}
    (hf : (f bus).hardware = bus.hardware)
    (hg : Does found (f bus) last left shifts ((g ()).exec (f bus))) :
    Does found bus last left shifts ((modify f >>= g).exec bus) := by
  have hwire : wire found (f bus) = wire found bus := by
    unfold wire
    rw [hf]
  rw [Step.exec_bind, Step.exec_modify]
  exact ⟨hg.succeeds, hg.lines, hg.underWay, hwire ▸ hg.wire⟩

theorem does_get_bind {bus : PinBus (σ × Array (Access φ π))}
    {g : PinBus (σ × Array (Access φ π)) → Step φ π _ α} {last : Lines} {left : List UInt8}
    {shifts : List Shift} (hg : Does found bus last left shifts ((g bus).exec bus)) :
    Does found bus last left shifts ((get >>= g).exec bus) := by
  rw [Step.exec_bind, Step.exec_get]
  exact hg

/-- An access that succeeds moves the lines as its record says. -/
theorem does_access {δ : Type} (found : Bool) (bus : PinBus (σ × Array (Access φ π)))
    (wrap : δ → PinBusFault φ π)
    (call : σ × Array (Access φ π) → Except δ α × (σ × Array (Access φ π))) {value : α}
    {access : Access φ π} (hanswer : (call bus.hardware).1 = .ok value)
    (hpush : (call bus.hardware).2.2 = bus.hardware.2.push access) :
    Does found bus { lines found bus with
        low := lowAfter (isLow found bus) access, setting := settingAfter (setting bus) access }
      (underWayAfter (underWay bus) access)
      (seen (isLow found bus) (setting bus) (underWay bus) access)
      ((Step.access wrap call : Step φ π _ α).exec bus) := by
  have hrecord : ((Step.access wrap call : Step φ π _ α).exec bus).2.hardware.2 =
      bus.hardware.2.push access := hpush
  refine ⟨⟨value, ?_⟩, ?_, underWay_push hrecord, wire_push found hrecord⟩
  · rw [Step.exec_access, hanswer]
    rfl
  · unfold lines
    rw [isLow_push found hrecord, setting_push hrecord]
    rfl

/-- The pin is moved while nothing is under way. -/
theorem does_setPin (hsound : hardware.Sound) {bus : PinBus (σ × Array (Access φ π))}
    (hidle : underWay bus = []) (high : Bool) :
    Does found bus { lines found bus with low := !high } [] []
      ((setPin hardware.recorded high).exec bus) := by
  have hanswer : (hardware.setPin high bus.hardware.1).1 = .ok () := hsound.setPin _ _
  have hpush : (hardware.recorded.setPin high bus.hardware).2.2 =
      bus.hardware.2.push (.setPin high (.ok ())) := by
    rw [← hanswer]
    rfl
  have haccess := does_access found bus .pin (hardware.recorded.setPin high) hanswer hpush
  rw [hidle] at haccess
  exact haccess

/-- Nothing is under way once the peripheral has been waited for. -/
theorem does_flush (hsound : hardware.Sound) (bus : PinBus (σ × Array (Access φ π))) :
    Does found bus (lines found bus) [] [] ((flush hardware.recorded).exec bus) := by
  have hanswer : (hardware.flush bus.hardware.1).1 = .ok () := hsound.flush _
  have hpush : (hardware.recorded.flush bus.hardware).2.2 =
      bus.hardware.2.push (.flush (.ok ())) := by
    rw [← hanswer]
    rfl
  exact does_access found bus .peripheral hardware.recorded.flush hanswer hpush

theorem does_configure (hsound : hardware.Sound) {bus : PinBus (σ × Array (Access φ π))}
    (hidle : underWay bus = []) :
    Does found bus (lines found bus).configured [] [] ((configure hardware.recorded).exec bus) := by
  have hanswer : (hardware.reconfigure bus.mode bus.hz bus.hardware.1).1 = .ok () :=
    hsound.reconfigure _ _ _
  refine does_get_bind ?_
  unfold Lines.configured
  by_cases hhz : bus.hz = 0
  · have hlines : (lines found bus).hz = 0 := hhz
    rw [if_pos hhz, if_pos hlines, ← hidle]
    exact does_pure found bus ()
  · have hlines : ¬ (lines found bus).hz = 0 := hhz
    have hpush : (hardware.recorded.reconfigure bus.mode bus.hz bus.hardware).2.2 =
        bus.hardware.2.push (.reconfigure bus.mode bus.hz (.ok ())) := by
      rw [← hanswer]
      rfl
    have haccess := does_access found bus .peripheral
      (hardware.recorded.reconfigure bus.mode bus.hz) hanswer hpush
    rw [hidle] at haccess
    rw [if_neg hhz, if_neg hlines]
    exact haccess

/-- The pin goes high once nothing is under way. -/
theorem does_letGo (hsound : hardware.Sound) (bus : PinBus (σ × Array (Access φ π))) :
    Does found bus { lines found bus with low := false } [] []
      ((do flush hardware.recorded; setPin hardware.recorded true).exec bus) := by
  refine does_bind_silent (does_flush hsound bus) fun _ middle hmiddle hidle => ?_
  rw [← hmiddle]
  exact does_setPin hsound hidle true

theorem does_control (hsound : hardware.Sound) {bus : PinBus (σ × Array (Access φ π))}
    (hidle : underWay bus = []) (call : Control) :
    Does found bus ((lines found bus).next (.control call)) [] []
      ((control hardware.recorded call).exec bus) := by
  cases call with
  | mode mode =>
    have hset : underWay { bus with mode } = [] := hidle
    exact does_modify_bind rfl (does_configure hsound hset)
  | clock hz =>
    have hset : underWay { bus with hz } = [] := hidle
    exact does_modify_bind rfl (does_configure hsound hset)
  | chipSelect index active =>
    refine does_modify_bind rfl ?_
    obtain ⟨state, mode, hz, selected, forced⟩ := bus
    cases active with
    | false =>
      have hset : underWay (PinBus.mk state mode hz false forced) = [] := hidle
      exact does_setPin hsound hset true
    | true =>
      refine does_get_bind ?_
      cases forced with
      | false =>
        have hpure := does_pure (φ := φ) (π := π) found (PinBus.mk state mode hz true false) ()
        rw [show underWay (PinBus.mk state mode hz true false) = [] from hidle] at hpure
        exact hpure
      | true =>
        have hset : underWay (PinBus.mk state mode hz true true) = [] := hidle
        exact does_setPin hsound hset false
  | forceSelect active =>
    refine does_modify_bind rfl (does_get_bind ?_)
    obtain ⟨state, mode, hz, selected, forced⟩ := bus
    cases active with
    | false => exact does_letGo hsound ⟨state, mode, hz, selected, false⟩
    | true =>
      cases selected with
      | false => exact does_letGo hsound ⟨state, mode, hz, false, true⟩
      | true =>
        have hset : underWay (PinBus.mk state mode hz true true) = [] := hidle
        exact does_setPin hsound hset false

/-- A byte comes onto the wire with the lines where they are, and it has left when they are moved
again. -/
theorem does_transfer (hsound : hardware.Sound) (bus : PinBus (σ × Array (Access φ π)))
    (byte : UInt8) :
    Does found bus (lines found bus) [] [⟨byte, (lines found bus).low, (lines found bus).setting⟩]
      ((transfer hardware.recorded byte).exec bus) := by
  obtain ⟨reply, hanswer⟩ := hsound.shift byte bus.hardware.1
  have hpush : (hardware.recorded.shift byte bus.hardware).2.2 =
      bus.hardware.2.push (.shift byte (.ok reply)) := by
    rw [← hanswer]
    rfl
  have hshift : Does found bus (lines found bus) (underWay bus ++ [byte])
      [⟨byte, (lines found bus).low, (lines found bus).setting⟩]
      ((Step.access .peripheral (hardware.recorded.shift byte) : Step φ π _ UInt8).exec bus) :=
    does_access found bus .peripheral (hardware.recorded.shift byte) hanswer hpush
  refine does_bind_silent hshift fun reply middle hmiddle _ => ?_
  refine does_bind_silent (hmiddle ▸ does_flush hsound middle) fun _ last hlast hidle => ?_
  rw [← hlast, ← hidle]
  exact does_pure found last reply

/-! ### Runs -/

/-- What a program has told the bus decides where its lines are and what the wire has seen. No call
has failed, and nothing is under way. -/
structure Wired (found : Bool) (before : PinBus (σ × Array (Access φ π)))
    (t : List (Event (PinBusFault φ π))) (bus : PinBus (σ × Array (Access φ π))) : Prop where
  lines : lines found bus = (PinBus.lines found before).after (signals t)
  wire : wire found bus =
    PinBus.wire found before ++ (PinBus.lines found before).shifts (signals t)
  underWay : underWay bus = []
  sound : ∀ event ∈ t, event.isFault = false

section Wired

variable {before bus : PinBus (σ × Array (Access φ π))} {t : List (Event (PinBusFault φ π))}
  {event : Event (PinBusFault φ π)}

/-- One more call, which does to the lines what its signal says. -/
theorem Wired.concat {signal : Signal} {outcome : Except (PinBusFault φ π) α × PinBus _}
    (h : Wired found before t bus) (hsignal : signals [event] = [signal])
    (hfault : event.isFault = false)
    (hdoes : Does found bus ((PinBus.lines found bus).next signal) []
      ((PinBus.lines found bus).shifts [signal]) outcome) :
    Wired found before (t ++ [event]) outcome.2 where
  lines := by
    rw [signals_append, hsignal, Lines.after_append, ← h.lines]
    exact hdoes.lines
  wire := by
    rw [signals_append, hsignal, Lines.shifts_append, ← h.lines, hdoes.wire, h.wire,
      List.append_assoc]
  underWay := hdoes.underWay
  sound e he := by
    rcases List.mem_append.mp he with he | he
    · exact h.sound e he
    · rw [List.mem_singleton.mp he]
      exact hfault

/-- One more event that tells the bus nothing. -/
theorem Wired.silent (h : Wired found before t bus) (hsignal : signals [event] = [])
    (hfault : event.isFault = false) : Wired found before (t ++ [event]) bus where
  lines := by rw [signals_append, hsignal, List.append_nil, h.lines]
  wire := by rw [signals_append, hsignal, List.append_nil, h.wire]
  underWay := h.underWay
  sound e he := by
    rcases List.mem_append.mp he with he | he
    · exact h.sound e he
    · rw [List.mem_singleton.mp he]
      exact hfault

end Wired

/-- On sound hardware the lines follow what any program tells the bus. -/
theorem wired_run (hsound : hardware.Sound) {before : PinBus (σ × Array (Access φ π))}
    (hidle : underWay before = []) (p : Program (PinBusFault φ π) α) :
    Wired found before (p.run (PinBus.bus hardware.recorded) before).events.toList
      (p.run (PinBus.bus hardware.recorded) before).bus := by
  have hnil : Wired found before ([] : List (Event (PinBusFault φ π))) before :=
    ⟨rfl, (List.append_nil _).symm, hidle, fun _ h => nomatch h⟩
  refine Program.runFrom_invariant (Wired found before) ?_ ?_ ?_ ?_ p before #[] hnil
  · intro t bus call h
    have hdoes : Does found bus _ [] [] _ := does_control hsound h.underWay call
    obtain ⟨value, hvalue⟩ := hdoes.succeeds
    have hanswer : ((PinBus.bus hardware.recorded).control call bus).1 = .ok value := hvalue
    rw [hanswer]
    exact h.concat rfl rfl hdoes
  · intro t bus byte h
    have hdoes : Does found bus _ [] _ _ := does_transfer hsound bus byte
    obtain ⟨reply, hreply⟩ := hdoes.succeeds
    have hanswer : ((PinBus.bus hardware.recorded).transfer byte bus).1 = .ok reply := hreply
    rw [hanswer]
    exact h.concat rfl rfl hdoes
  · intro t bus h
    exact h.silent rfl rfl
  · intro t bus record h
    exact h.silent rfl rfl

end Calls

end PinBus

end SdCard
