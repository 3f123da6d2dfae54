import SdCard.Proofs.Disk.History
import SdCard.Proofs.Disk.Transfers

/-!
# The operation that a call comes to

A disk judges the arguments of a call, and what is then left to do is one operation of its session,
or nothing at all. That a card is brought up is left out: a disk adds a record of its own there.

* `Request.operation`: the operation, read off the request and the sector that is named;
* `genuine_handsOver`: every other call is this operation, or leaves bus and session alone.
-/

namespace SdCard

variable {ε α : Type}

namespace Session

/-- An operation answers in the form of a request. -/
theorem traces_answer {action : Action ε Session α} {s s' : Session} {t : List (Event ε)}
    {result : Except (Error ε) α} (f : α → Answer)
    (h : Program.Traces (action.exec s) t (result, s')) :
    Program.Traces ((do return f (← action) : Action ε Session Answer).exec s) t
      (result.map f, s') := by
  rw [← List.append_nil t, Action.exec_bind]
  refine h.bind ?_
  cases result with
  | ok value => exact .done _
  | error error => exact .done _

/-- The bytes of a part of a sector may be read into any buffer that has room for them. -/
theorem traces_readRange_of_readWindow {n m : Nat} {window : Window n} {s : Session}
    {lba : UInt32} {t : List (Event ε)} {result : Except (Error ε) Unit} {reading : Reading n}
    (offset : Nat) (buffer : Bytes m) (hwindow : window.InSector) (hrange : offset + m ≤ sectorSize)
    (h : Program.Traces ((Reading.readWindow lba : Action ε (Reading n) Unit).exec ⟨s, window⟩) t
      (result, reading)) :
    ∃ result, Program.Traces ((readRange lba offset buffer : Action ε Session (Bytes m)).exec s) t
      (result, reading.session) := by
  have hin : (Window.full offset buffer).InSector := hrange
  obtain ⟨⟨result', other⟩, ⟨-, hsession⟩, hother⟩ :=
    (Reading.alike_readWindow_inSector (ε := ε) (s := s) lba hwindow hin).traces h
  refine ⟨result'.map fun _ => other.window.bytes, ?_⟩
  rw [show reading.session = other.session from hsession, ← List.append_nil t, readRange,
    Action.exec_ofProgram]
  exact hother.bind (.done _)

end Session

namespace Disk

/-! ## What is handed over -/

/-- A read of a part of a sector into the front of a buffer, if it lies in both. -/
def readOperation (buffer : Array UInt8) (sector : UInt32) (offset count : Nat) :
    Option Session.Request :=
  if offset + count ≤ sectorSize ∧ count ≤ buffer.size then
    some (.readRange sector offset (buffer.take count))
  else
    none

/-- A write of the first bytes of some data to the pending sector, if there is one. -/
def writeOperation (disk : Disk) (data : List UInt8) (count : Nat) : Option Session.Request := do
  let sector ← disk.pending
  if count ≤ sectorSize ∧ count ≤ data.length then
    some (.writeBlock sector (data.take count))
  else
    none

/-- The operation of the session that a request is handed over to, if it is handed over. That a card
is brought up is not among them. -/
def Request.operation (disk : Disk) : Request → Option Session.Request
  | .readPartial buffer sector offset count => readOperation buffer sector offset count
  | .writeData data count => disk.writeOperation data count
  | .writePartial (some data) number => disk.writeOperation data number.toNat
  | .sectorCount => some .sectorCount
  | .start | .status | .writeBegin _ | .writeFinish | .writePartial none _ => none

/-- What happens between two disks is the operation of the session, or nothing if there is none. -/
def HandsOver (disk disk' : Disk) (t : List (Event ε)) : Option Session.Request → Prop
  | some request => ∃ result,
      Program.Traces ((Session.perform request).exec disk.session) t (result, disk'.session)
  | none => t = [] ∧ disk'.session = disk.session

/-! ## The calls of a disk -/

/-- A read is handed over if its bytes lie in one sector and fit the buffer. -/
theorem handsOver_readPartial {buffer : Array UInt8} {bytes : Bytes buffer.size}
    {sector : UInt32} {offset count : Nat} {disk disk' : Disk} {t : List (Event ε)}
    {result : DiskResult}
    (h : Program.Traces (readPartial buffer.toVector sector offset count disk) t
      (result, bytes, disk')) :
    HandsOver disk disk' t (readOperation buffer sector offset count) := by
  unfold readOperation
  by_cases hcount : offset + count ≤ sectorSize ∧ count ≤ buffer.size
  · rw [readPartial, dif_pos hcount] at h
    obtain ⟨t, u, ⟨result, reading⟩, rfl, hrun, hdone⟩ := Program.traces_bind_iff.mp h
    cases hdone
    rw [List.append_nil]
    have hsize : offset + (buffer.take count).size ≤ sectorSize := by
      rw [Array.take_eq_extract, Array.size_extract, Nat.sub_zero, Nat.min_eq_left hcount.2]
      exact hcount.1
    have hwindow : (Window.mk offset count buffer.toVector hcount.2).InSector := hcount.1
    obtain ⟨result, hread⟩ := Session.traces_readRange_of_readWindow offset
      (buffer.take count).toVector hwindow hsize hrun
    rw [if_pos hcount]
    exact ⟨_, Session.traces_answer (fun bytes : Bytes (buffer.take count).size =>
      .bytes bytes.toArray) hread⟩
  · rw [readPartial, dif_neg hcount] at h
    cases h
    rw [if_neg hcount]
    exact ⟨rfl, rfl⟩

theorem handsOver_writeData {data : List UInt8} {count : Nat} {disk disk' : Disk}
    {t : List (Event ε)} {result : DiskResult}
    (h : Program.Traces (writeData data count disk) t (result, disk')) :
    HandsOver disk disk' t (disk.writeOperation data count) := by
  unfold writeData at h
  unfold writeOperation
  cases hpending : disk.pending with
  | none =>
    rw [hpending] at h
    cases h
    exact ⟨rfl, rfl⟩
  | some sector =>
    rw [hpending] at h
    dsimp only at h
    rw [Option.bind_eq_bind, Option.bind_some]
    by_cases hcount : count ≤ sectorSize ∧ count ≤ data.length
    · rw [if_pos hcount] at h ⊢
      obtain ⟨t, u, ⟨written, middle⟩, rfl, hwrite, hdone⟩ := Program.traces_bind_iff.mp h
      cases hdone
      rw [List.append_nil]
      obtain ⟨session, hrun, rfl⟩ := traces_inSession hwrite
      exact ⟨_, Session.traces_answer (fun _ => .done) hrun⟩
    · rw [if_neg hcount] at h ⊢
      cases h
      exact ⟨rfl, rfl⟩

/-- A write without data names a sector and does no more. -/
theorem handsOver_writePartial {data : Option (List UInt8)} {number : UInt32} {disk disk' : Disk}
    {t : List (Event ε)} {result : DiskResult}
    (h : Program.Traces (writePartial data number disk) t (result, disk')) :
    HandsOver disk disk' t (Request.operation disk (.writePartial data number)) := by
  cases data with
  | some data => exact handsOver_writeData h
  | none =>
    unfold writePartial at h
    dsimp only at h
    split at h
    all_goals
      cases h
      exact ⟨rfl, rfl⟩

theorem handsOver_sectorCount {disk disk' : Disk} {t : List (Event ε)}
    {result : Except DiskResult UInt32} (h : Program.Traces (sectorCount disk) t (result, disk')) :
    HandsOver disk disk' t (some .sectorCount) := by
  obtain ⟨t, u, ⟨count, middle⟩, rfl, hcount, hdone⟩ := Program.traces_bind_iff.mp h
  cases hdone
  rw [List.append_nil]
  obtain ⟨session, hrun, rfl⟩ := traces_inSession hcount
  exact ⟨_, Session.traces_answer .sectors hrun⟩

/-- Every call but a start is the operation that it comes to. -/
theorem genuine_handsOver {call : Call ε} (h : call.Genuine) (hrequest : call.request ≠ .start) :
    HandsOver call.before call.after call.events (call.request.operation call.before) := by
  obtain ⟨request, events, answer, before, after⟩ := call
  unfold Call.Genuine at h
  dsimp only at h hrequest ⊢
  cases request with
  | start => exact absurd rfl hrequest
  | status | writeBegin | writeFinish =>
    cases h
    exact ⟨rfl, rfl⟩
  | readPartial buffer sector offset count =>
    obtain ⟨t, u, ⟨result, bytes, middle⟩, rfl, hread, hdone⟩ := Program.traces_bind_iff.mp h
    cases hdone
    rw [List.append_nil]
    exact handsOver_readPartial hread
  | writeData data count =>
    obtain ⟨result, -, hwrite⟩ := traces_answered h
    exact handsOver_writeData hwrite
  | writePartial data number =>
    obtain ⟨result, -, hwrite⟩ := traces_answered h
    exact handsOver_writePartial hwrite
  | sectorCount =>
    obtain ⟨t, u, ⟨count, middle⟩, rfl, hcount, hdone⟩ := Program.traces_bind_iff.mp h
    have hmiddle : u = [] ∧ after = middle := by
      cases count <;> (cases hdone; exact ⟨rfl, rfl⟩)
    obtain ⟨rfl, rfl⟩ := hmiddle
    rw [List.append_nil]
    exact handsOver_sectorCount hcount

end Disk

end SdCard
