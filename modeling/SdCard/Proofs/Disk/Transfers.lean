import SdCard.Disk.Basic
import SdCard.Proofs.Session.Windowing

/-!
# Reads and writes of a disk

A disk looks at the arguments of a read or a write before its session does, and the session looks at
the card before it looks at the arguments. So a result code tells who has turned a request away:
the disk for its arguments, or the session for its card. What neither turns away is an operation of
the session, and the code tells how it ended.

* `Refusing`: the codes of a request that is turned away, which costs nothing;
* `Delegated`: the codes of a request that is handed over to the session;
* `Buffered`: what a read leaves in its buffer;
* `endsWithin`: the test of a range as a machine makes it that counts in words;
* `transfers_judged`: every read and every write of a disk on every bus.
-/

namespace SdCard

variable {ε σ α : Type} {n m : Nat}

/-- A program without events is done. -/
theorem Program.Traces.eq_done {p : Program ε α} {value : α} (h : Traces p [] value) :
    p = .done value := by
  cases h
  rfl

/-- A state without a mode is no ready state. -/
theorem State.readyMode_eq_none_iff {state : State} :
    state.readyMode = none ↔ ∀ mode, state ≠ .ready mode := by
  rw [Option.eq_none_iff_forall_ne_some]
  exact forall_congr' fun mode => not_congr State.readyMode_eq_some_iff

/-! ## Operations of a session that fit a sector -/

namespace Session

/-- A card that is not ready has an operation turned away, before anything else is looked at. -/
theorem Outcome.of_notReady {s s' : Session} {t : List (Event ε)} {result : Except (Error ε) α}
    (h : Outcome s t result s') (hs : s.state.readyMode = none) :
    t = [] ∧ result = .error .notReady ∧ s' = s := by
  cases h with
  | notReady => exact ⟨rfl, rfl, rfl⟩
  | outOfRange hmode => exact absurd hmode (State.readyMode_eq_none_iff.mp hs _)
  | carriedOut hmode => exact absurd hmode (State.readyMode_eq_none_iff.mp hs _)

theorem Outcome.notReady_iff {s s' : Session} {t : List (Event ε)} {result : Except (Error ε) α}
    (h : Outcome s t result s') : result = .error .notReady ↔ s.state.readyMode = none := by
  refine ⟨?_, fun hs => (h.of_notReady hs).2.1⟩
  rintro rfl
  cases h with
  | notReady hs => exact hs
  | carriedOut _ hrecorded => exact (hrecorded.cause _ rfl).elim

/-- An operation that is turned away does not call the bus. -/
theorem run_of_notReady {action : Action ε Session α} {s : Session} (bus : Bus ε σ) (b : σ)
    (h : action.Satisfies Outcome) (hs : s.state.readyMode = none) :
    (action.exec s).run bus b = ⟨(.error .notReady, s), b, #[]⟩ := by
  have htrace := Program.run_traces bus (action.exec s) b
  obtain ⟨hevents, hresult, hleft⟩ := (h _ _ _ _ htrace).of_notReady hs
  have hvalue : ((action.exec s).run bus b).value = (.error .notReady, s) :=
    Prod.ext hresult hleft
  rw [hevents, hvalue] at htrace
  rw [htrace.eq_done]
  rfl

/-- A block that is no longer than a sector is not out of range. -/
theorem inRange_writeBlock (lba : UInt32) {data : List UInt8} (hdata : data.length ≤ sectorSize) :
    (writeBlock lba data : Action ε Session Unit).Satisfies fun _ _ result _ =>
      ∀ offset length, result ≠ .error (.outOfRange offset length) := by
  intro s t result s' ht
  rw [writeBlock, Action.exec_bind, exec_requireReady] at ht
  cases hmode : s.state.readyMode with
  | none =>
    rw [hmode] at ht
    cases ht
    exact nofun
  | some mode =>
    rw [hmode] at ht
    change Program.Traces ((if _ then _ else _ : Action ε Session Unit).exec s) t (result, s') at ht
    rw [if_pos hdata] at ht
    have hrecorded := recording_recorded (conduct_whileSelected (steady_writeSelected _ _)
      (opens_writeSelected _ _) (by decide)) s t result s' ht
    exact fun offset length hresult => hrecorded.cause _ hresult

end Session

namespace Reading

/-- A card that is not ready is not read. -/
theorem exec_readWindow_notReady {reading : Reading n} (lba : UInt32)
    (h : reading.session.state.readyMode = none) :
    (readWindow lba : Action ε (Reading n) Unit).exec reading =
      pure (.error .notReady, reading) := by
  rw [readWindow, Action.exec_bind, Session.exec_inSession_requireReady, h]
  rfl

/-- Reads through two windows that keep within the sector are alike, whether or not the card is
ready. -/
theorem alike_readWindow_inSector {s : Session} (lba : UInt32) {window : Window n}
    {other : Window m} (hrange : window.InSector) (hother : other.InSector) :
    Program.Alike (fun left right => left.1 = right.1 ∧ SameSession left.2 right.2)
      ((readWindow lba : Action ε (Reading n) Unit).exec ⟨s, window⟩)
      ((readWindow lba : Action ε (Reading m) Unit).exec ⟨s, other⟩) := by
  cases hmode : s.state.readyMode with
  | none =>
    rw [exec_readWindow_notReady lba hmode, exec_readWindow_notReady lba hmode]
    exact .done ⟨rfl, rfl⟩
  | some mode =>
    exact alike_readWindow _ _ lba (State.readyMode_eq_some_iff.mp hmode) rfl hrange hother

theorem fills_readWindow_inSector {s : Session} {lba : UInt32} {window : Window n}
    {t : List (Event ε)} {result : Except (Error ε) Unit} {s' : Reading n}
    (hrange : window.InSector)
    (h : Program.Traces ((readWindow lba : Action ε (Reading n) Unit).exec ⟨s, window⟩) t
      (result, s')) : Fills ⟨s, window⟩ t result s' := by
  cases hmode : s.state.readyMode with
  | none =>
    rw [exec_readWindow_notReady lba hmode] at h
    cases h
    exact ⟨rfl, nofun, nofun⟩
  | some mode => exact fills_readWindow (State.readyMode_eq_some_iff.mp hmode) hrange h

/-- A window that keeps within the sector is not out of range. -/
theorem inRange_readWindow {s : Session} {lba : UInt32} {window : Window n}
    {t : List (Event ε)} {result : Except (Error ε) Unit} {s' : Reading n}
    (hrange : window.InSector)
    (h : Program.Traces ((readWindow lba : Action ε (Reading n) Unit).exec ⟨s, window⟩) t
      (result, s')) (offset length : Nat) : result ≠ .error (.outOfRange offset length) := by
  cases hmode : s.state.readyMode with
  | none =>
    rw [exec_readWindow_notReady lba hmode] at h
    cases h
    exact nofun
  | some mode =>
    rw [exec_readWindow lba (State.readyMode_eq_some_iff.mp hmode) hrange] at h
    have hrecorded := Session.recorded_readAddress _ _ t result s' h
    exact fun hresult => hrecorded.cause _ hresult

end Reading

namespace Disk

/-! ## Requests that are turned away -/

/-- How a request is turned away that has arguments which do not fit, or finds the card not ready.
It leaves the disk and the bus as they were. -/
structure Refusing (disk : Disk) (b : σ) (misfit : Prop) (call : Run ε σ (DiskResult × Disk)) :
    Prop where
  parameterError : call.value.1 = .parameterError ↔ misfit
  notReady : call.value.1 = .notReady ↔ ¬ misfit ∧ ∀ mode, disk.session.state ≠ .ready mode
  free : call.value.1 = .parameterError ∨ call.value.1 = .notReady →
    call = ⟨(call.value.1, disk), b, #[]⟩

/-- How a request is handed over to an operation of the session. Nothing else is done, and the
operation does not turn its arguments away once more. -/
structure Delegated (disk : Disk) (call : Run ε σ (DiskResult × Disk))
    (operation : Run ε σ (Except (Error ε) α × Session)) : Prop where
  events : call.events = operation.events
  bus : call.bus = operation.bus
  left : call.value.2 = { disk with session := operation.value.2 }
  inRange : ∀ offset length, operation.value.1 ≠ .error (.outOfRange offset length)
  ok : call.value.1 = .ok ↔ ∃ value, operation.value.1 = .ok value
  error : call.value.1 = .error ↔ (∃ mode, disk.session.state = .ready mode) ∧
    ∃ error, operation.value.1 = .error error

/-- Arguments that do not fit are turned away. -/
theorem refusing_misfit (disk : Disk) (b : σ) {misfit : Prop} (h : misfit) :
    Refusing (ε := ε) disk b misfit ⟨(.parameterError, disk), b, #[]⟩ :=
  ⟨iff_of_true rfl h, iff_of_false nofun fun hfits => hfits.1 h, fun _ => rfl⟩

theorem ofExcept_eq_ok_iff {result : Except (Error ε) α} :
    DiskResult.ofExcept result = .ok ↔ ∃ value, result = .ok value := by
  cases result with
  | ok value => exact iff_of_true rfl ⟨value, rfl⟩
  | error error => cases error <;> exact iff_of_false nofun nofun

/-- An error that turns nothing away tells of a failure. -/
theorem ofExcept_eq_error_iff {result : Except (Error ε) α} :
    DiskResult.ofExcept result = .error ↔ (∃ error, result = .error error) ∧
      DiskResult.ofExcept result ≠ .notReady ∧ DiskResult.ofExcept result ≠ .parameterError := by
  cases result with
  | ok value => exact iff_of_false nofun nofun
  | error error =>
    cases error with
    | transport | card => exact iff_of_true rfl ⟨⟨_, rfl⟩, nofun, nofun⟩
    | notReady => exact iff_of_false nofun fun h => h.2.1 rfl
    | outOfRange => exact iff_of_false nofun fun h => h.2.2 rfl

theorem ofExcept_eq_notReady_iff {result : Except (Error ε) α} :
    DiskResult.ofExcept result = .notReady ↔ result = .error .notReady := by
  cases result with
  | ok value => exact iff_of_false nofun nofun
  | error error =>
    cases error with
    | notReady => exact iff_of_true rfl rfl
    | transport | card | outOfRange => exact iff_of_false nofun nofun

theorem ofExcept_ne_parameterError {result : Except (Error ε) α}
    (h : ∀ offset length, result ≠ .error (.outOfRange offset length)) :
    DiskResult.ofExcept result ≠ .parameterError := by
  rintro hcode
  cases result with
  | ok value => cases hcode
  | error error =>
    cases error with
    | outOfRange offset length => exact h offset length rfl
    | transport | card | notReady => cases hcode

/-- Other requests are handed over. -/
theorem refusing_delegated (disk : Disk) (bus : Bus ε σ) (b : σ) {misfit : Prop}
    {operation : Action ε Session α} (houtcome : operation.Satisfies Session.Outcome)
    (hfits : ¬ misfit)
    (hinRange : ∀ offset length, ((operation.exec disk.session).run bus b).value.1 ≠
      .error (.outOfRange offset length)) :
    let run := (operation.exec disk.session).run bus b
    let call : Run ε σ (DiskResult × Disk) :=
      ⟨(.ofExcept run.value.1, { disk with session := run.value.2 }), run.bus, run.events⟩
    Refusing disk b misfit call ∧ Delegated disk call run := by
  intro run call
  have hrange : call.value.1 ≠ .parameterError := ofExcept_ne_parameterError hinRange
  -- whether the card is ready decides the code, and the other way round
  have hnotReady : call.value.1 = .notReady ↔ disk.session.state.readyMode = none :=
    ofExcept_eq_notReady_iff.trans (houtcome _ _ _ _ (Program.run_traces bus _ b)).notReady_iff
  have hstate : disk.session.state.readyMode = none ↔
      ∀ mode, disk.session.state ≠ .ready mode := State.readyMode_eq_none_iff
  have hready : (∃ mode, disk.session.state = .ready mode) ↔ call.value.1 ≠ .notReady := by
    rw [Ne, hnotReady, hstate, Classical.not_forall_not]
  refine ⟨⟨iff_of_false hrange hfits, ?notReady, ?free⟩,
    ⟨rfl, rfl, rfl, hinRange, ofExcept_eq_ok_iff, ?error⟩⟩
  case notReady => rw [hnotReady, hstate, and_iff_right hfits]
  case free =>
    rintro (hcode | hcode)
    · exact absurd hcode hrange
    · have hrun := Session.run_of_notReady bus b houtcome (hnotReady.mp hcode)
      change (⟨(.ofExcept run.value.1, _), _, _⟩ : Run ε σ (DiskResult × Disk)) =
        ⟨(.ofExcept run.value.1, _), _, _⟩
      rw [show run = _ from hrun]
  case error =>
    rw [hready, and_comm]
    exact ofExcept_eq_error_iff.trans (and_congr_right fun _ => and_iff_left hrange)

/-! ## Writes -/

/-- An operation of the session as a call of the disk. -/
theorem run_inSession (disk : Disk) (bus : Bus ε σ) (b : σ) (action : Action ε Session α) :
    let run := (action.exec disk.session).run bus b
    (do
      let (result, disk) ← inSession action disk
      return (DiskResult.ofExcept result, disk) : Program ε (DiskResult × Disk)).run bus b =
      ⟨(.ofExcept run.value.1, { disk with session := run.value.2 }), run.bus, run.events⟩ := by
  intro run
  rw [inSession, bind_assoc]
  exact Program.runFrom_bind bus (action.exec disk.session) _ b #[]

theorem run_writeData {disk : Disk} {sector : UInt32} (hpending : disk.pending = some sector)
    {data : List UInt8} {count : Nat} (h : count ≤ sectorSize ∧ count ≤ data.length)
    (bus : Bus ε σ) (b : σ) :
    let run := ((Session.writeBlock sector (data.take count)).exec disk.session).run bus b
    (writeData data count disk).run bus b =
      ⟨(.ofExcept run.value.1, { disk with session := run.value.2 }), run.bus, run.events⟩ := by
  obtain ⟨session, pending⟩ := disk
  cases hpending
  change (if _ then _ else _ : Program ε (DiskResult × Disk)).run bus b = _
  rw [if_pos h]
  exact run_inSession ⟨session, some sector⟩ bus b (Session.writeBlock sector (data.take count))

/-- How a write of the first bytes of some data ends. -/
structure WriteJudged (disk : Disk) (bus : Bus ε σ) (b : σ) (data : List UInt8) (count : Nat)
    (call : Run ε σ (DiskResult × Disk)) : Prop where
  refusing : Refusing disk b (disk.pending = none ∨ 512 < count ∨ data.length < count) call
  delegated : ∀ sector, disk.pending = some sector → ¬ (512 < count ∨ data.length < count) →
    Delegated disk call
      (((Session.writeBlock sector (data.take count)).exec disk.session).run bus b)

theorem writeData_judged (disk : Disk) (bus : Bus ε σ) (b : σ) (data : List UInt8) (count : Nat) :
    WriteJudged disk bus b data count ((writeData data count disk).run bus b) := by
  cases hpending : disk.pending with
  | none =>
    have hrefused : (writeData data count disk : Program ε _) = pure (.parameterError, disk) := by
      rw [writeData, hpending]
    rw [hrefused]
    exact ⟨refusing_misfit disk b (.inl hpending), fun _ h => nomatch hpending.symm.trans h⟩
  | some sector =>
    by_cases hmisfit : 512 < count ∨ data.length < count
    · have hcount : ¬ (count ≤ sectorSize ∧ count ≤ data.length) := by
        unfold sectorSize
        omega
      have hrefused : (writeData data count disk : Program ε _) = pure (.parameterError, disk) := by
        rw [writeData, hpending]
        exact if_neg hcount
      rw [hrefused]
      exact ⟨refusing_misfit disk b (.inr hmisfit), fun _ _ hfits => absurd hmisfit hfits⟩
    · have hcount : count ≤ sectorSize ∧ count ≤ data.length := by
        unfold sectorSize
        omega
      have hlength : (data.take count).length ≤ sectorSize :=
        Nat.le_trans (List.length_take_le ..) hcount.1
      rw [run_writeData hpending hcount]
      have hfits : ¬ (disk.pending = none ∨ 512 < count ∨ data.length < count) :=
        not_or.mpr ⟨fun h => (nomatch hpending.symm.trans h), hmisfit⟩
      obtain ⟨hrefusing, hdelegated⟩ := refusing_delegated disk bus b
        (Session.outcome_writeBlock sector (data.take count)) hfits
        (Session.inRange_writeBlock sector hlength _ _ _ _ (Program.run_traces bus _ b))
      refine ⟨hrefusing, fun other hother _ => ?_⟩
      cases hpending.symm.trans hother
      exact hdelegated

/-! ## Reads -/

/-- What a read leaves in its buffer. The places from `count` on are left alone, also where the read
fails; in the others stand the data bytes that came, as far as they came. After a success these are
bytes of the sector, as it is read whole on the same bus. -/
structure Buffered (disk : Disk) (bus : Bus ε σ) (b : σ) (buffer : Bytes n) (sector : UInt32)
    (offset count : Nat) (read : Run ε σ (DiskResult × Bytes n × Disk)) : Prop where
  beyond : ∀ (k : Nat) (h : k < n), count ≤ k → read.value.2.1[k] = buffer[k]
  within : ∀ (k : Nat) (h : k < n), k < count →
    read.value.2.1[k] = (dataReceived read.events.toList)[offset + k]?.getD buffer[k]
  onSuccess : read.value.1 = .ok → ∃ whole : Sector,
    ((Session.readBlock sector).exec disk.session).run bus b =
      ⟨(.ok whole, read.value.2.2.session), read.bus, read.events⟩ ∧
    ∀ (k : Nat) (h : k < n), k < count → whole.toList[offset + k]? = some read.value.2.1[k]

/-- A code does not tell what a success gives. -/
theorem ofExcept_map {β : Type} (f : α → β) (result : Except (Error ε) α) :
    DiskResult.ofExcept (result.map f) = DiskResult.ofExcept result := by
  cases result <;> rfl

section Read

variable (disk : Disk) (bus : Bus ε σ) (b : σ) {window : Window n} (sector : UInt32)

/-- A read of a sector through a window into it. -/
def readThrough (window : Window n) : Run ε σ (Except (Error ε) Unit × Reading n) :=
  ((Reading.readWindow sector).exec ⟨disk.session, window⟩).run bus b

/-- The same read as a call of the disk. -/
def readThroughCall (window : Window n) : Run ε σ (DiskResult × Bytes n × Disk) :=
  let run := readThrough disk bus b sector window
  ⟨(.ofExcept run.value.1, run.value.2.window.bytes, { disk with session := run.value.2.session }),
    run.bus, run.events⟩

theorem run_readPartial (buffer : Bytes n) {offset count : Nat}
    (h : offset + count ≤ sectorSize ∧ count ≤ n) :
    (readPartial buffer sector offset count disk).run bus b =
      readThroughCall disk bus b sector ⟨offset, count, buffer, h.2⟩ := by
  rw [readPartial, dif_pos h]
  exact Program.runFrom_bind bus ((Reading.readWindow sector).exec _) _ b #[]

theorem fills_readThrough (hwindow : window.InSector) :
    let run := readThrough disk bus b sector window
    Reading.Fills ⟨disk.session, window⟩ run.events.toList run.value.1 run.value.2 :=
  Reading.fills_readWindow_inSector hwindow (Program.run_traces bus _ b)

theorem inRange_readThrough (hwindow : window.InSector) (offset length : Nat) :
    (readThrough disk bus b sector window).value.1 ≠ .error (.outOfRange offset length) :=
  Reading.inRange_readWindow hwindow (Program.run_traces bus _ b) offset length

/-- Any read of the sector does the same to the bus and the session. -/
theorem run_readRange_readThrough (hwindow : window.InSector) {offset : Nat} (buffer : Bytes m)
    (hrange : offset + m ≤ sectorSize) :
    let run := readThrough disk bus b sector window
    ∃ reading : Reading m,
      Reading.Fills ⟨disk.session, .full offset buffer⟩ run.events.toList run.value.1 reading ∧
      ((Session.readRange sector offset buffer).exec disk.session).run bus b =
        ⟨(run.value.1.map fun _ => reading.window.bytes, run.value.2.session), run.bus,
          run.events⟩ := by
  intro run
  have hfull : (Window.full offset buffer).InSector := hrange
  obtain ⟨hevents, hbus, hresult, hsession⟩ := (Reading.alike_readWindow_inSector (ε := ε)
    (s := disk.session) sector hwindow hfull).run bus b
  have hfills : Reading.Fills ⟨disk.session, .full offset buffer⟩ _ _ _ :=
    Reading.fills_readWindow_inSector hfull (Program.run_traces bus
      ((Reading.readWindow sector).exec ⟨disk.session, .full offset buffer⟩) b)
  rw [Session.run_readRange, Session.run_readInto]
  rw [← hevents, ← hresult] at hfills
  dsimp only
  rw [← hevents, ← hbus, ← hresult, ← hsession]
  exact ⟨_, hfills, rfl⟩

theorem buffered_readThrough (hwindow : window.InSector) :
    Buffered disk bus b window.bytes sector window.offset window.count
      (readThroughCall disk bus b sector window) := by
  let run := readThrough disk bus b sector window
  have hfills : Reading.Fills ⟨disk.session, window⟩ run.events.toList run.value.1 run.value.2 :=
    fills_readThrough disk bus b sector hwindow
  have hbytes : ∀ (k : Nat) (hk : k < n), run.value.2.window.bytes[k] =
      if k < window.count ∧ 0 ≤ window.offset + k then
        (dataReceived run.events.toList)[window.offset + k]?.getD window.bytes[k]
      else window.bytes[k] := by
    intro k hk
    rw [hfills.window]
    exact Window.getElem_storeAll _ 0 _ k hk
  have hwithin : ∀ (k : Nat) (hk : k < n), k < window.count → run.value.2.window.bytes[k] =
      (dataReceived run.events.toList)[window.offset + k]?.getD window.bytes[k] :=
    fun k hk hcount => (hbytes k hk).trans (if_pos ⟨hcount, Nat.zero_le _⟩)
  refine ⟨fun k hk hcount => (hbytes k hk).trans (if_neg (by omega)), hwithin, fun hok => ?_⟩
  have hresult : run.value.1 = .ok () := (ofExcept_eq_ok_iff.mp hok).choose_spec
  obtain ⟨reading, hwhole, hrun⟩ := run_readRange_readThrough disk bus b sector hwindow
    (Bytes.zero sectorSize) (Nat.le_of_eq (Nat.zero_add _))
  have hlength : (dataReceived run.events.toList).length = 512 := hfills.whole () hresult
  refine ⟨reading.window.bytes, ?_, fun k hk hcount => ?_⟩
  · refine hrun.trans ?_
    change (⟨(run.value.1.map _, _), _, _⟩ : Run ε σ (Except (Error ε) Sector × Session)) = _
    rw [hresult]
    rfl
  · -- both buffers have the data byte that came at this place of the sector
    have hend : window.offset + window.count ≤ sectorSize := hwindow
    have hplace : window.offset + k < sectorSize := by omega
    have hcame : window.offset + k < (dataReceived run.events.toList).length := by
      rw [hlength]
      exact hplace
    have hbyte := Session.getElem_readInto hwhole (window.offset + k) hplace
    rw [Nat.zero_add] at hbyte
    have hread : (readThroughCall disk bus b sector window).value.2.1[k] =
        (dataReceived run.events.toList)[window.offset + k]?.getD window.bytes[k] :=
      hwithin k hk hcount
    rw [Vector.getElem?_toList, Vector.getElem?_eq_getElem hplace, hbyte, hread]
    change some ((dataReceived run.events.toList)[window.offset + k]?.getD _) =
      some ((dataReceived run.events.toList)[window.offset + k]?.getD _)
    rw [List.getElem?_eq_getElem hcame]
    rfl

/-- The read is handed over to any read of the sector that keeps within it. -/
theorem delegated_readThrough (hwindow : window.InSector) {misfit : Prop} (hfits : ¬ misfit)
    {offset : Nat} (buffer : Bytes m) (hrange : offset + m ≤ sectorSize) :
    let read := readThroughCall disk bus b sector window
    let call : Run ε σ (DiskResult × Disk) :=
      ⟨(read.value.1, read.value.2.2), read.bus, read.events⟩
    Refusing disk b misfit call ∧ Delegated disk call
      (((Session.readRange sector offset buffer).exec disk.session).run bus b) := by
  intro read call
  obtain ⟨reading, -, hrun⟩ := run_readRange_readThrough disk bus b sector hwindow buffer hrange
  have hinRange : ∀ place length,
      (((Session.readRange sector offset buffer).exec disk.session).run bus b).value.1 ≠
        .error (.outOfRange place length) := by
    intro place length
    have hnot := inRange_readThrough disk bus b sector hwindow place length
    rw [hrun]
    dsimp only
    cases hresult : (readThrough disk bus b sector window).value.1 with
    | ok => exact nofun
    | error error =>
      rintro ⟨⟩
      exact hnot hresult
  have hjudged := refusing_delegated disk bus b (Session.outcome_readRange sector offset buffer)
    hfits hinRange
  -- the buffer of the other read does not show in the code
  rw [hrun] at hjudged ⊢
  dsimp only at hjudged
  rw [ofExcept_map] at hjudged
  exact hjudged

end Read

/-- The sum of two sizes that are words of 64 bits, where it is one itself. -/
def wordSum? (size more : UInt64) : Option UInt64 :=
  if size.toNat + more.toNat < UInt64.size then some (size + more) else none

/-- Whether a range ends within a sector, by an end that has to be a word. -/
def endsWithin (offset count : UInt64) : Bool := (wordSum? offset count).any (· ≤ 512)

/-- A range whose end is no word does not end within a sector. -/
theorem endsWithin_iff (offset count : UInt64) :
    endsWithin offset count = true ↔ offset.toNat + count.toNat ≤ 512 := by
  unfold endsWithin wordSum?
  split
  · rename_i hword
    have hsum : (offset + count).toNat = offset.toNat + count.toNat := by
      rw [UInt64.toNat_add]
      exact Nat.mod_eq_of_lt hword
    rw [Option.any_some, decide_eq_true_iff, UInt64.le_iff_toNat_le, hsum]
    rfl
  · rename_i hword
    unfold UInt64.size at hword
    exact iff_of_false Bool.false_ne_true (by omega)

/-- How a read of a part of a sector ends. -/
structure ReadJudged (disk : Disk) (bus : Bus ε σ) (b : σ) (buffer : Bytes n) (sector : UInt32)
    (offset count : Nat) (read : Run ε σ (DiskResult × Bytes n × Disk)) : Prop where
  refusing : Refusing disk b (512 < offset + count ∨ n < count)
    ⟨(read.value.1, read.value.2.2), read.bus, read.events⟩
  untouched : read.value.1 = .parameterError ∨ read.value.1 = .notReady → read.value.2.1 = buffer
  delegated : ¬ (512 < offset + count ∨ n < count) →
    Delegated disk ⟨(read.value.1, read.value.2.2), read.bus, read.events⟩
      (((Session.readRange sector offset (buffer.take count)).exec disk.session).run bus b)
  buffered : Buffered disk bus b buffer sector offset count read

theorem readPartial_judged (disk : Disk) (bus : Bus ε σ) (b : σ) (buffer : Bytes n)
    (sector : UInt32) (offset count : Nat) :
    ReadJudged disk bus b buffer sector offset count
      ((readPartial buffer sector offset count disk).run bus b) := by
  by_cases hmisfit : 512 < offset + count ∨ n < count
  · have hcount : ¬ (offset + count ≤ sectorSize ∧ count ≤ n) := by
      unfold sectorSize
      omega
    have hrefused : (readPartial buffer sector offset count disk : Program ε _) =
        pure (.parameterError, buffer, disk) := by
      rw [readPartial, dif_neg hcount]
    rw [hrefused]
    exact ⟨refusing_misfit disk b hmisfit, fun _ => rfl, fun hfits => absurd hmisfit hfits,
      fun _ _ _ => rfl, fun _ _ _ => rfl, nofun⟩
  · have h : offset + count ≤ sectorSize ∧ count ≤ n := by
      unfold sectorSize
      omega
    have hwindow : (Window.mk offset count buffer h.2).InSector := h.1
    have hbuffered := buffered_readThrough disk bus b sector hwindow
    have hrange : offset + min count n ≤ sectorSize := by
      rw [Nat.min_eq_left h.2]
      exact h.1
    obtain ⟨hrefusing, hdelegated⟩ :=
      delegated_readThrough disk bus b sector hwindow hmisfit (buffer.take count) hrange
    rw [run_readPartial disk bus b sector buffer h]
    refine ⟨hrefusing, fun hcode => ?_, fun _ => hdelegated, hbuffered⟩
    -- nothing came, so nothing was stored
    have hfree := hrefusing.free hcode
    have hevents : (readThroughCall disk bus b sector ⟨offset, count, buffer, h.2⟩).events = #[] :=
      congrArg Run.events hfree
    refine Vector.ext fun k hk => ?_
    by_cases hplace : k < count
    · rw [hbuffered.within k hk hplace, hevents]
      rfl
    · exact hbuffered.beyond k hk (Nat.le_of_not_lt hplace)

/-- Every read and every write of a disk on every bus. The disk turns away what does not describe
bytes of one sector and of the buffer, or data for a sector that was named; the session turns away
the rest if the card is not ready; and what is carried out is judged by how it ends. Sums of sizes
are those of numbers, and a machine that counts in words comes to the same answer. -/
theorem transfers_judged (disk : Disk) (bus : Bus ε σ) (b : σ) :
    (∀ (n : Nat) (buffer : Bytes n) (sector : UInt32) (offset count : Nat),
      ReadJudged disk bus b buffer sector offset count
        ((readPartial buffer sector offset count disk).run bus b)) ∧
    (∀ (data : List UInt8) (count : Nat),
      WriteJudged disk bus b data count ((writeData data count disk).run bus b)) ∧
    ∀ offset count : UInt64,
      endsWithin offset count = true ↔ offset.toNat + count.toNat ≤ 512 :=
  ⟨fun _ => readPartial_judged disk bus b, writeData_judged disk bus b, endsWithin_iff⟩

end Disk

end SdCard
