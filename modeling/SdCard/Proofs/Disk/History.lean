import SdCard.CardModel.Transfer
import SdCard.Disk.Request
import SdCard.Proofs.Session.Work

/-!
# Histories of a disk

A sector is named in one call and its data comes in another, with any calls between them: the card
may fail, be brought up again, or be asked for something else. `History` lists the calls of a disk,
and `Streamed` says of each call which sector is named after it and what it may say to the card.

* `genuine_streamed`: every call on every disk and every bus;
* `streamed_write`: every call of a history, by the calls before it alone.
-/

namespace SdCard

namespace Disk

variable {ε α : Type}

/-- A call that was carried out: what was asked for, what went over the bus, the answer, and the
disk before and after. -/
structure Call (ε : Type) where
  request : Request
  events : List (Event ε)
  answer : Answer
  before : Disk
  after : Disk

/-- The call goes like this on some bus. -/
def Call.Genuine (call : Call ε) : Prop :=
  Program.Traces (perform call.request call.before) call.events (call.answer, call.after)

/-- One call carried out on a bus, and the state that this leaves the bus in. -/
def Call.run {σ : Type} (bus : Bus ε σ) (request : Request) (disk : Disk) (s : σ) : Call ε × σ :=
  let run := (perform request disk).run bus s
  (⟨request, run.events.toList, run.value.1, disk, run.value.2⟩, run.bus)

theorem Call.genuine_run {σ : Type} (bus : Bus ε σ) (request : Request) (disk : Disk) (s : σ) :
    (run bus request disk s).1.Genuine :=
  Program.run_traces bus (perform request disk) s

@[simp] theorem Call.before_run {σ : Type} (bus : Bus ε σ) (request : Request) (disk : Disk)
    (s : σ) : (run bus request disk s).1.before = disk := rfl

@[simp] theorem Call.request_run {σ : Type} (bus : Bus ε σ) (request : Request) (disk : Disk)
    (s : σ) : (run bus request disk s).1.request = request := rfl

/-- The calls carried out on a disk since it was `first`, the last one in front. -/
inductive History (first : Disk) : List (Call ε) → Disk → Prop
  | nil : History first [] first
  | cons {past disk call} : History first past disk → call.Genuine →
      call.before = disk → History first (call :: past) call.after

/-! ## What a request is about -/

/-- The sector that is named after the request, or none, if the request decides that. -/
def Request.names : Request → Option (Option UInt32)
  | .start => some none
  | .writeBegin sector => some (some sector)
  | .writeFinish => some none
  | .writePartial none number => some (if number = 0 then none else some number)
  | _ => none

/-- The data that the request has to write, and how many bytes of it. -/
def Request.data : Request → Option (List UInt8 × Nat)
  | .writeData data count => some (data, count)
  | .writePartial (some data) number => some (data, number.toNat)
  | _ => none

/-- The sector that the last request to decide it has named. -/
def lastNamed (calls : List (Call ε)) : Option UInt32 :=
  (calls.findSome? fun call => call.request.names).getD none

/-- What is said for a write of the first bytes of some data: a command with the address of the
sector, and a block in which zeros follow the data. -/
def streamMessages (capacity : Capacity) (sector : UInt32) (data : List UInt8) (count : Nat) :
    List Message :=
  [.command writeIndex (blockAddress capacity sector),
    .block (data.take count ++ List.replicate (sectorSize - count) 0)]

/-- What a call does with the sector that is named, and what it says to the card. -/
structure Streamed (call : Call ε) : Prop where
  /-- Only a request that decides which sector is named changes it. -/
  pending : call.after.pending = call.request.names.getD call.before.pending
  /-- The call leaves no message half said. -/
  complete : Says call.events (messages call.events)
  noData : call.request.data = none → ∀ message ∈ messages call.events, message.writes = false
  /-- If anything is said at all, it is for the sector that is named, on a card that is ready. -/
  data : ∀ data count, call.request.data = some (data, count) → messages call.events ≠ [] →
    ∃ sector mode, call.before.pending = some sector ∧ call.before.session.state = .ready mode ∧
      count ≤ sectorSize ∧ count ≤ data.length ∧
      messages call.events <+: streamMessages mode.capacity sector data count
  /-- If the data is written, all of it has been said. -/
  written : ∀ data count, call.request.data = some (data, count) → call.answer = .result .ok →
    ∃ sector mode, call.before.pending = some sector ∧ call.before.session.state = .ready mode ∧
      messages call.events = streamMessages mode.capacity sector data count

/-! ## What the operations of a disk say -/

/-- Nothing is said that belongs to a write. -/
def SaysNoWrite (t : List (Event ε)) : Prop :=
  ∃ said, Says t said ∧ ∀ message ∈ said, message.writes = false

theorem saysNoWrite_nil : SaysNoWrite ([] : List (Event ε)) := ⟨[], .nil, fun _ h => nomatch h⟩

/-- An operation of the session leaves the sector that is named. -/
theorem traces_inSession {action : Action ε Session α} {disk disk' : Disk} {t : List (Event ε)}
    {result : Except (Error ε) α}
    (h : Program.Traces (inSession action disk) t (result, disk')) :
    ∃ session, Program.Traces (action.exec disk.session) t (result, session) ∧
      disk' = { disk with session } := by
  obtain ⟨t₁, t₂, ⟨result, session⟩, rfl, h₁, h₂⟩ := Program.traces_bind_iff.mp h
  cases h₂
  exact ⟨session, by rwa [List.append_nil], rfl⟩

theorem traces_answered {program : Program ε (DiskResult × Disk)} {disk : Disk}
    {t : List (Event ε)} {answer : Answer}
    (h : Program.Traces (answered program) t (answer, disk)) :
    ∃ result, answer = .result result ∧ Program.Traces program t (result, disk) := by
  obtain ⟨t₁, t₂, ⟨result, disk⟩, rfl, h₁, h₂⟩ := Program.traces_bind_iff.mp h
  cases h₂
  exact ⟨result, rfl, by rwa [List.append_nil]⟩

/-- The handshake forgets the sector before it does anything else. -/
theorem start_says {disk disk' : Disk} {t : List (Event ε)} {status : DiskStatus}
    (h : Program.Traces (start disk) t (status, disk')) :
    disk'.pending = none ∧ SaysNoWrite t := by
  obtain ⟨t₁, t₂, ⟨result, middle⟩, rfl, h₁, h₂⟩ := Program.traces_bind_iff.mp h
  obtain ⟨session, hstart, rfl⟩ := traces_inSession h₁
  obtain ⟨-, -, said, hsays, hsaid⟩ := Session.speaks_start _ _ _ _ hstart rfl
  cases result with
  | ok mode =>
    cases h₂
    rw [List.append_nil]
    exact ⟨rfl, said, hsays, hsaid⟩
  | error error =>
    -- the failure is logged, and a log record is not heard
    cases h₂ with
    | log h₂ =>
      cases h₂
      refine ⟨rfl, said, ?_, hsaid⟩
      have hlog : Says [Event.log (.diskFailed session.chipSelect error session.state)] [] :=
        fun before => by rw [List.append_nil]; rfl
      simpa using hsays.append hlog

theorem readPartial_says {n : Nat} {buffer bytes : Bytes n} {sector : UInt32} {offset count : Nat}
    {disk disk' : Disk} {t : List (Event ε)} {result : DiskResult}
    (h : Program.Traces (readPartial buffer sector offset count disk) t (result, bytes, disk')) :
    disk'.pending = disk.pending ∧ SaysNoWrite t := by
  unfold readPartial at h
  split at h
  · obtain ⟨t₁, t₂, ⟨result, reading⟩, rfl, h₁, h₂⟩ := Program.traces_bind_iff.mp h
    cases h₂
    rw [List.append_nil]
    obtain ⟨-, -, said, hsays, hsaid⟩ := Session.speaks_readWindow sector _ _ _ _ h₁ rfl
    exact ⟨rfl, said, hsays, hsaid⟩
  · cases h
    exact ⟨rfl, saysNoWrite_nil⟩

theorem sectorCount_says {disk disk' : Disk} {t : List (Event ε)}
    {result : Except DiskResult UInt32}
    (h : Program.Traces (sectorCount disk) t (result, disk')) :
    disk'.pending = disk.pending ∧ SaysNoWrite t := by
  obtain ⟨t₁, t₂, ⟨count, middle⟩, rfl, h₁, h₂⟩ := Program.traces_bind_iff.mp h
  cases h₂
  rw [List.append_nil]
  obtain ⟨session, hcount, rfl⟩ := traces_inSession h₁
  obtain ⟨-, -, said, hsays, hsaid⟩ := Session.speaks_sectorCount _ _ _ _ hcount rfl
  exact ⟨rfl, said, hsays, hsaid⟩

/-- The messages of a write of the first bytes of some data, which are few enough for a sector. -/
theorem writeMessages_take (capacity : Capacity) (sector : UInt32) {data : List UInt8} {count : Nat}
    (hsector : count ≤ sectorSize) (hdata : count ≤ data.length) :
    Session.writeMessages capacity sector (data.take count) =
      streamMessages capacity sector data count := by
  have hlength : (data.take count).length = count := by
    rw [List.length_take, Nat.min_eq_left hdata]
  have htake : (data.take count).take sectorSize = data.take count :=
    List.take_of_length_le (hlength.symm ▸ hsector)
  unfold Session.writeMessages streamMessages
  rw [Bytes.toList_ofList, htake, hlength]

/-- Data says nothing unless a sector is named and the card is ready, and it goes nowhere else. -/
theorem writeData_says {data : List UInt8} {count : Nat} {disk disk' : Disk} {t : List (Event ε)}
    {result : DiskResult} (h : Program.Traces (writeData data count disk) t (result, disk')) :
    disk'.pending = disk.pending ∧ ∃ said, Says t said ∧
      (said ≠ [] ∨ result = .ok → ∃ sector mode, disk.pending = some sector ∧
        disk.session.state = .ready mode ∧ count ≤ sectorSize ∧ count ≤ data.length ∧
        said <+: streamMessages mode.capacity sector data count ∧
        (result = .ok → said = streamMessages mode.capacity sector data count)) := by
  have hrefused : ¬ (([] : List Message) ≠ [] ∨ DiskResult.parameterError = .ok) := by simp
  unfold writeData at h
  cases hpending : disk.pending with
  | none =>
    rw [hpending] at h
    cases h
    exact ⟨hpending, [], .nil, fun h => absurd h hrefused⟩
  | some sector =>
    rw [hpending] at h
    dsimp only at h
    split at h
    · rename_i hcount
      obtain ⟨t₁, t₂, ⟨written, middle⟩, rfl, h₁, h₂⟩ := Program.traces_bind_iff.mp h
      cases h₂
      rw [List.append_nil]
      obtain ⟨session, hwrite, rfl⟩ := traces_inSession h₁
      obtain ⟨-, said, hsays, hsaid⟩ := Session.writeBlock_speaks sector _ _ _ _ _ hwrite
      have hok : DiskResult.ofExcept written = .ok → written.isOk = true := by
        intro hresult
        cases written with
        | ok value => rfl
        | error error => cases error <;> cases hresult
      refine ⟨hpending, said, hsays, fun hcase => ?_⟩
      obtain ⟨mode, hstate, hbegins, hall⟩ := hsaid (hcase.imp_right hok)
      rw [writeMessages_take _ _ hcount.1 hcount.2] at hbegins hall
      exact ⟨sector, mode, rfl, hstate, hcount.1, hcount.2, hbegins, fun h => hall (hok h)⟩
    · cases h
      exact ⟨hpending, [], .nil, fun h => absurd h hrefused⟩

/-! ## Calls -/

/-- A call without data that says nothing of a write. -/
theorem streamed_of_noWrite {call : Call ε}
    (hpending : call.after.pending = call.request.names.getD call.before.pending)
    (hdata : call.request.data = none) (hsaid : SaysNoWrite call.events) : Streamed call := by
  obtain ⟨said, hsays, hsaid⟩ := hsaid
  obtain rfl : said = messages call.events := hsays.messages.symm
  refine ⟨hpending, hsays, fun _ => hsaid, ?_, ?_⟩
  · rw [hdata]
    nofun
  · rw [hdata]
    nofun

/-- A call that only names a sector, or looks at the disk. -/
theorem streamed_of_silent {call : Call ε} (hevents : call.events = [])
    (hpending : call.after.pending = call.request.names.getD call.before.pending)
    (hdata : call.request.data = none) : Streamed call :=
  streamed_of_noWrite hpending hdata (hevents ▸ saysNoWrite_nil)

/-- A call with data. -/
theorem streamed_of_writeData {call : Call ε} {data : List UInt8} {count : Nat}
    (hnames : call.request.names = none) (hdata : call.request.data = some (data, count))
    (h : Program.Traces (answered (writeData data count call.before)) call.events
      (call.answer, call.after)) : Streamed call := by
  obtain ⟨result, hanswer, hwrite⟩ := traces_answered h
  obtain ⟨hpending, said, hsays, hsaid⟩ := writeData_says hwrite
  obtain rfl : said = messages call.events := hsays.messages.symm
  refine ⟨?_, hsays, ?_, ?_, ?_⟩
  · rw [hnames]
    exact hpending
  · rw [hdata]
    nofun
  · rw [hdata]
    rintro _ _ ⟨⟩ hspeaks
    obtain ⟨sector, mode, hsector, hstate, hfits, hlength, hbegins, -⟩ := hsaid (.inl hspeaks)
    exact ⟨sector, mode, hsector, hstate, hfits, hlength, hbegins⟩
  · rw [hdata, hanswer]
    rintro _ _ ⟨⟩ ⟨⟩
    obtain ⟨sector, mode, hsector, hstate, -, -, -, hall⟩ := hsaid (.inr rfl)
    exact ⟨sector, mode, hsector, hstate, hall rfl⟩

/-- On any disk and any bus, a call keeps to the sector that is named. -/
theorem genuine_streamed {call : Call ε} (h : call.Genuine) : Streamed call := by
  obtain ⟨request, events, answer, before, after⟩ := call
  unfold Call.Genuine at h
  dsimp only at h
  cases request with
  | start =>
    obtain ⟨t₁, t₂, ⟨status, middle⟩, rfl, h₁, h₂⟩ := Program.traces_bind_iff.mp h
    cases h₂
    rw [List.append_nil]
    obtain ⟨hpending, hsaid⟩ := start_says h₁
    exact streamed_of_noWrite hpending rfl hsaid
  | status =>
    cases h
    exact streamed_of_silent rfl rfl rfl
  | readPartial buffer sector offset count =>
    obtain ⟨t₁, t₂, ⟨result, bytes, middle⟩, rfl, h₁, h₂⟩ := Program.traces_bind_iff.mp h
    cases h₂
    rw [List.append_nil]
    obtain ⟨hpending, hsaid⟩ := readPartial_says h₁
    exact streamed_of_noWrite hpending rfl hsaid
  | writeBegin sector =>
    cases h
    exact streamed_of_silent rfl rfl rfl
  | writeData data count => exact streamed_of_writeData rfl rfl h
  | writeFinish =>
    cases h
    exact streamed_of_silent rfl rfl rfl
  | writePartial data number =>
    cases data with
    | some data => exact streamed_of_writeData rfl rfl h
    | none =>
      obtain ⟨result, -, hnamed⟩ := traces_answered h
      unfold writePartial at hnamed
      dsimp only at hnamed
      split at hnamed
      · rename_i hzero
        cases hnamed
        exact streamed_of_silent rfl (by simp [Request.names, hzero]) rfl
      · rename_i hzero
        cases hnamed
        exact streamed_of_silent rfl (by simp [Request.names, hzero]) rfl
  | sectorCount =>
    obtain ⟨t₁, t₂, ⟨count, middle⟩, rfl, h₁, h₂⟩ := Program.traces_bind_iff.mp h
    obtain ⟨hpending, hsaid⟩ := sectorCount_says h₁
    cases count with
    | ok count =>
      cases h₂
      rw [List.append_nil]
      exact streamed_of_noWrite hpending rfl hsaid
    | error result =>
      cases h₂
      rw [List.append_nil]
      exact streamed_of_noWrite hpending rfl hsaid

/-! ## Histories -/

theorem lastNamed_cons (call : Call ε) (past : List (Call ε)) :
    lastNamed (call :: past) = call.request.names.getD (lastNamed past) := by
  unfold lastNamed
  rw [List.findSome?_cons]
  cases call.request.names with
  | none => rfl
  | some named => rfl

/-- The sector that is named is the one that the last request to decide it has named. -/
theorem History.pending {session : Session} {calls : List (Call ε)} {disk : Disk}
    (h : History (ofSession session) calls disk) : disk.pending = lastNamed calls := by
  induction h with
  | nil => rfl
  | cons _ hgenuine hbefore ih =>
    rw [lastNamed_cons, (genuine_streamed hgenuine).pending, hbefore, ih]

/-- In every history of a disk, on any buses, a write goes to the sector that was named last. -/
theorem streamed_write {session : Session} {past : List (Call ε)} {call : Call ε} {disk : Disk}
    (h : History (ofSession session) (call :: past) disk) :
    disk = call.after ∧ call.before.pending = lastNamed past ∧
      call.after.pending = lastNamed (call :: past) ∧ Streamed call := by
  have hpending := h.pending
  cases h with
  | cons hpast hgenuine hbefore =>
    subst hbefore
    exact ⟨rfl, hpast.pending, hpending, genuine_streamed hgenuine⟩

/-- A card is brought up, a sector is named, and three bytes go to it with zeros after them. -/
theorem streamed_write_card :
    let disk := ofSession (Session.fresh 0 {})
    let start := Call.run (CardModel.bus ()) .start disk (CardModel.ofKind (.v2 true))
    let named := Call.run (CardModel.bus ()) (.writeBegin 7) start.1.after start.2
    let written := Call.run (CardModel.bus ()) (.writeData [1, 2, 3] 3) named.1.after named.2
    History disk [written.1, named.1, start.1] written.1.after ∧
      written.1.before.pending = some 7 ∧ written.1.after.pending = some 7 ∧
      messages written.1.events = streamMessages .high 7 [1, 2, 3] 3 := by
  intro disk start named written
  have hhistory : History disk [written.1, named.1, start.1] written.1.after :=
    .cons (.cons (.cons .nil (Call.genuine_run _ _ _ _) (Call.before_run _ _ _ _))
      (Call.genuine_run _ _ _ _) (Call.before_run _ _ _ _)) (Call.genuine_run _ _ _ _)
      (Call.before_run _ _ _ _)
  have hnamed : lastNamed [named.1, start.1] = some 7 := by
    rw [lastNamed_cons, Call.request_run]
    rfl
  have hlast : lastNamed [written.1, named.1, start.1] = some 7 := by
    rw [lastNamed_cons, Call.request_run, hnamed]
    rfl
  have hanswer : written.1.answer = .result .ok := by decide +kernel
  have hstate : written.1.before.session.state = .ready .highCapacityV2 := by decide +kernel
  have hdata : written.1.request.data = some ([1, 2, 3], 3) := by rw [Call.request_run]; rfl
  obtain ⟨-, hbefore, hafter, hstreamed⟩ := streamed_write hhistory
  rw [hnamed] at hbefore
  rw [hlast] at hafter
  obtain ⟨sector, mode, hsector, hmode, hsaid⟩ := hstreamed.written _ _ hdata hanswer
  cases hbefore.symm.trans hsector
  cases hstate.symm.trans hmode
  exact ⟨hhistory, hbefore, hafter, hsaid⟩

end Disk

end SdCard
