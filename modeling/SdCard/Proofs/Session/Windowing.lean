import SdCard.Proofs.Bus.Faults
import SdCard.Proofs.Bus.Hearing
import SdCard.Proofs.Bus.Likeness
import SdCard.Proofs.Session.Operation
import SdCard.Proofs.Session.Storage
import SdCard.Simulation.ScriptedBus

/-!
# A read through a window

The card sends a sector whole, and the reader's window decides what is kept of it. So a read of a
part of a sector and a read of all of it cannot be told from each other on the bus, whatever the
bus answers and wherever it fails; and what either leaves in its buffer is decided by the data bytes
that came before the read ended. `dataReceived` tells these from the calls alone.

* `Reading.alike_readWindow`: what goes on outside of the window does not depend on it;
* `Reading.fills_readWindow`: the data bytes that came have passed by the window;
* `Session.readRange_window`: a partial and a full read on the same bus, with their buffers.
-/

namespace SdCard

variable {ε σ α : Type} {n m : Nat}

/-! ## The window makes no difference to the bus -/

namespace Reading

open SdCard.Action (alike_exchange alike_get_bind alike_modify alike_onPart alike_pure alike_require)

/-- The sessions of two reads agree; their windows need not. -/
def SameSession (reading : Reading n) (other : Reading m) : Prop :=
  reading.session = other.session

theorem alike_inSession (action : Action ε Session α) :
    Action.Alike SameSession (inSession action : Action ε (Reading n) α)
      (inSession action : Action ε (Reading m) α) :=
  alike_onPart action (fun _ _ h => h) fun _ _ _ _ => rfl

theorem alike_receiveInto (index count : Nat) :
    Action.Alike (ε := ε) SameSession (receiveInto index count : Action ε (Reading n) Unit)
      (receiveInto index count : Action ε (Reading m) Unit) := by
  induction count generalizing index with
  | zero => exact alike_pure ()
  | succ count ih =>
    refine (alike_exchange _).bind fun byte => ?_
    have hstore : Action.Alike (ε := ε) SameSession
        (modify fun s : Reading n => { s with window := s.window.store index byte })
        (modify fun s : Reading m => { s with window := s.window.store index byte }) :=
      alike_modify fun _ _ h => h
    exact hstore.bind fun _ => ih (index + 1)

theorem alike_readSelected (address : UInt32) :
    Action.Alike (ε := ε) SameSession (readSelected address : Action ε (Reading n) UInt16)
      (readSelected address : Action ε (Reading m) UInt16) := by
  refine alike_get_bind fun reading other h => ?_
  rw [show reading.session = other.session from h]
  refine (alike_exchange _).bind fun response => ?_
  refine (alike_inSession _).bind fun _ => (alike_require _ _).bind fun _ => ?_
  refine (alike_exchange _).bind fun token => ?_
  refine (alike_inSession _).bind fun _ => (alike_require _ _).bind fun _ => ?_
  refine (alike_receiveInto 0 sectorSize).bind fun _ => ?_
  exact (alike_exchange _).bind fun _ => alike_pure _

theorem alike_readAddress (address : UInt32) :
    Action.Alike (ε := ε) SameSession (readAddress address : Action ε (Reading n) Unit)
      (readAddress address : Action ε (Reading m) Unit) := by
  refine (alike_readSelected address).whileSelected.bind fun checksum => ?_
  exact (alike_inSession _).bind fun _ => alike_require _ _

/-- A ready card is read at the wire address, if the window keeps within the sector. -/
theorem exec_readWindow {mode : ReadyMode} {reading : Reading n} (lba : UInt32)
    (hready : reading.session.state = .ready mode) (hrange : reading.window.InSector) :
    (readWindow lba : Action ε (Reading n) Unit).exec reading =
      (Action.noting (fun error => inSession (Session.record error))
        (readAddress (blockAddress mode.capacity lba))).exec reading := by
  rw [readWindow, Action.exec_bind, Session.exec_inSession_requireReady, hready]
  change (if _ then _ else _ : Action ε (Reading n) Unit).exec reading = _
  rw [if_pos hrange]

/-- What goes on outside of the window does not depend on it. -/
theorem alike_readWindow {mode : ReadyMode} (reading : Reading n) (other : Reading m) (lba : UInt32)
    (hready : reading.session.state = .ready mode) (hsame : SameSession reading other)
    (hrange : reading.window.InSector) (hother : other.window.InSector) :
    Program.Alike (fun left right => left.1 = right.1 ∧ SameSession left.2 right.2)
      ((readWindow lba : Action ε (Reading n) Unit).exec reading)
      ((readWindow lba : Action ε (Reading m) Unit).exec other) := by
  have hready' : other.session.state = .ready mode := hsame ▸ hready
  rw [exec_readWindow lba hready hrange, exec_readWindow lba hready' hother]
  exact (alike_readAddress _).noting (fun error => alike_inSession _) reading other hsame

end Reading

/-! ## The data bytes of a run -/

/-- What follows the first reply that is not idle, provided that it is `answer`. -/
def afterAnswer (answer : UInt8) (replies : List UInt8) : List UInt8 :=
  match replies.dropWhile (· = 0xFF) with
  | [] => []
  | reply :: rest => if reply = answer then rest else []

/-- The bytes of a block among the replies to a selected card: six replies to the frame, R1 that
reports no error, the start token, and then up to 512 bytes of data. -/
def blockReceived (replies : List UInt8) : List UInt8 :=
  (afterAnswer 0xFE (afterAnswer 0x00 (replies.drop 6))).take 512

/-- The data bytes that came in a read, before the card was let go of. -/
def dataReceived (t : List (Event ε)) : List UInt8 :=
  blockReceived (received (t.takeWhile fun event => !event.releases))

@[simp] theorem afterAnswer_nil (answer : UInt8) : afterAnswer answer [] = [] := rfl

theorem afterAnswer_cons {reply : UInt8} (h : reply ≠ 0xFF) (answer : UInt8)
    (replies : List UInt8) :
    afterAnswer answer (reply :: replies) = if reply = answer then replies else [] := by
  unfold afterAnswer
  rw [List.dropWhile_cons_of_neg (by simpa using h)]

theorem length_blockReceived_le (replies : List UInt8) : (blockReceived replies).length ≤ 512 :=
  List.length_take_le ..

namespace Exchange

/-- Of the replies to the exchange, `strip` leaves those that come after it if it ended with
`answer`, and none otherwise. -/
def Awaits (exchange : Exchange ε UInt8) (answer : UInt8)
    (strip : List UInt8 → List UInt8) : Prop :=
  exchange.Satisfies fun t result =>
    (result = .ok answer → ∀ rest, strip (received t ++ rest) = rest) ∧
    (result ≠ .ok answer → strip (received t) = [])

theorem awaits_pollWithin {answer : UInt8} (h : answer ≠ 0xFF) (polls : Nat) :
    (pollWithin polls : Exchange ε UInt8).Awaits answer (afterAnswer answer) := by
  induction polls with
  | zero =>
    refine satisfies_pure ⟨fun hanswer => ?_, fun _ => rfl⟩
    exact absurd (Except.ok.inj hanswer).symm h
  | succ polls ih =>
    have hrest : ∀ reply, (if reply = idleByte then pollWithin polls else pure reply :
        Exchange ε UInt8).Satisfies fun t result =>
          (result = .ok answer → ∀ rest, afterAnswer answer (reply :: (received t ++ rest)) = rest) ∧
          (result ≠ .ok answer → afterAnswer answer (reply :: received t) = []) := by
      intro reply
      split
      · rename_i hidle
        rw [hidle]
        exact ih
      · rename_i hreply
        refine satisfies_pure ⟨fun hanswer rest => ?_, fun hanswer => ?_⟩
        · rw [afterAnswer_cons hreply, if_pos (Except.ok.inj hanswer)]
          rfl
        · rw [afterAnswer_cons hreply, if_neg fun hsame => hanswer (congrArg _ hsame)]
    refine Satisfies.bind (one_transfer idleByte) hrest ?_ ?_
    · rintro t fault rfl
      exact ⟨nofun, fun _ => rfl⟩
    · rintro t reply u result rfl hu
      exact hu

/-- The response to a command comes after the six replies to its frame. -/
theorem awaits_sendAndPoll (command : Command) (bound : UInt32) {answer : UInt8}
    (h : answer ≠ 0xFF) :
    (do
      sendCommand command
      poll bound : Exchange ε UInt8).Awaits answer
        fun replies => afterAnswer answer (replies.drop 6) := by
  have hframe : command.frame.toList.length = 6 := Vector.length_toList
  refine Satisfies.bind (counted_send _) (fun _ => awaits_pollWithin h _) ?_ ?_
  · rintro t fault ⟨hcount, -⟩
    refine ⟨nofun, fun _ => ?_⟩
    dsimp only
    rw [List.drop_of_length_le (by omega)]
    rfl
  · intro t _ u result ht hu
    have hcount : (received t).length = 6 := (ht.2 rfl).trans hframe
    have hdrop : ∀ rest, (received t ++ rest).drop 6 = rest := fun rest =>
      List.drop_left' hcount
    dsimp only
    refine ⟨fun hanswer rest => ?_, fun hanswer => ?_⟩
    · rw [received_append, List.append_assoc, hdrop]
      exact hu.1 hanswer rest
    · rw [received_append, hdrop]
      exact hu.2 hanswer

end Exchange

/-! ## What passes by the window -/

namespace Reading

/-- The data bytes among the replies, which `strip` finds, have passed by the window: all of them
after a success, and none if the card broke off. -/
structure Gathers (strip : List UInt8 → List UInt8) (s : Reading n) (t : List (Event ε))
    (result : Except (Error ε) α) (s' : Reading n) : Prop where
  window : s'.window = s.window.storeAll 0 ((strip (received t)).take 512)
  whole : ∀ value, result = .ok value → 512 ≤ (strip (received t)).length
  none : ∀ failure, result = .error (.card failure) → strip (received t) = []

/-- Bytes that are received pass by the window one after the other. -/
theorem passes_receiveInto (index count : Nat) :
    (receiveInto index count : Action ε (Reading n) Unit).Satisfies fun s t result s' =>
      s'.window = s.window.storeAll index (received t) ∧ (received t).length ≤ count ∧
      (result = .ok () → (received t).length = count) ∧
      ∀ failure, result ≠ .error (.card failure) := by
  induction count generalizing index with
  | zero => exact Action.satisfies_pure fun s => ⟨rfl, Nat.le_refl 0, fun _ => rfl, nofun⟩
  | succ count ih =>
    have hbyte : (Action.exchange Exchange.receiveByte : Action ε (Reading n) UInt8).Satisfies
        fun s t result s' => s' = s ∧ ∃ answer : Except ε UInt8, t = [.transfer idleByte answer] ∧
          result = answer.mapError .transport :=
      Action.satisfies_exchange (Exchange.one_transfer idleByte) fun s t answer ht =>
        ⟨rfl, answer, ht, rfl⟩
    have hrest : ∀ byte, (do
        modify fun reading => { reading with window := reading.window.store index byte }
        receiveInto (index + 1) count : Action ε (Reading n) Unit).Satisfies fun s t result s' =>
          s'.window = s.window.storeAll index (byte :: received t) ∧ (received t).length ≤ count ∧
          (result = .ok () → (received t).length = count) ∧
          ∀ failure, result ≠ .error (.card failure) :=
      fun byte s t result s' ht => ih (index + 1) _ t result s' ht
    refine hbyte.bind hrest ?_ ?_
    · rintro s t error s' ⟨rfl, answer, rfl, hanswer⟩
      cases answer with
      | ok reply => cases hanswer
      | error fault =>
        cases hanswer
        exact ⟨rfl, Nat.zero_le _, nofun, nofun⟩
    · rintro s t byte s' u result s'' ⟨rfl, answer, rfl, hanswer⟩ ⟨hwindow, hle, hcount, hcause⟩
      cases answer with
      | error fault => cases hanswer
      | ok reply =>
        cases hanswer
        refine ⟨hwindow, Nat.succ_le_succ hle, fun hresult => ?_, hcause⟩
        exact congrArg Nat.succ (hcount hresult)

/-- All data bytes come before the check sum. -/
theorem gathers_block :
    (do
      receiveInto 0 sectorSize
      let checksum ← Action.exchange (Exchange.receive 2)
      return checksum.half : Action ε (Reading n) UInt16).Satisfies (Gathers id) := by
  have hchecksum : (do
      let checksum ← Action.exchange (Exchange.receive 2)
      return checksum.half : Action ε (Reading n) UInt16).Satisfies fun s t result s' =>
        s' = s ∧ ∀ failure, result ≠ .error (.card failure) := by
    have hreceive : (Action.exchange (Exchange.receive 2) : Action ε (Reading n) (Bytes 2)).Satisfies
        fun s t result s' => s' = s ∧ ∀ failure, result ≠ .error (.card failure) := by
      refine Action.satisfies_exchange (Exchange.satisfies_true _) fun s t result _ => ?_
      refine ⟨rfl, fun failure => ?_⟩
      cases result <;> exact nofun
    have hhalf : ∀ checksum : Bytes 2, (pure checksum.half : Action ε (Reading n) UInt16).Satisfies
        fun s t result s' => s' = s ∧ ∀ failure, result ≠ .error (.card failure) :=
      fun checksum => Action.satisfies_pure fun s => ⟨rfl, nofun⟩
    refine hreceive.bind hhalf ?_ ?_
    · rintro s t error s' ⟨rfl, hcause⟩
      exact ⟨rfl, fun failure herror => hcause failure (by cases herror; rfl)⟩
    · rintro s t value s' u result s'' ⟨rfl, -⟩ h
      exact h
  refine (passes_receiveInto 0 sectorSize).bind (fun _ => hchecksum) ?_ ?_
  · rintro s t error s' ⟨hwindow, hle, -, hcause⟩
    have hshort : (received t).length ≤ 512 := hle
    refine ⟨?_, nofun, fun failure herror => ?_⟩
    · rw [id, List.take_of_length_le hshort]
      exact hwindow
    · cases herror
      exact absurd rfl (hcause failure)
  · rintro s t _ s' u result s'' ⟨hwindow, -, hcount, -⟩ ⟨rfl, hcause⟩
    have hwhole : (received t).length = 512 := hcount rfl
    refine ⟨?_, fun value _ => ?_, fun failure hfailure => absurd hfailure (hcause failure)⟩
    · rw [received_append, id, List.take_left' hwhole]
      exact hwindow
    · rw [received_append, id, List.length_append]
      omega

/-- A reply is waited for on the bus alone. -/
theorem reply_awaited {exchange : Exchange ε UInt8} {answer : UInt8}
    {strip : List UInt8 → List UInt8} (h : exchange.Awaits answer strip) :
    (Action.exchange exchange : Action ε (Reading n) UInt8).Satisfies fun s t result s' =>
      s' = s ∧ (result = .ok answer → ∀ rest, strip (received t ++ rest) = rest) ∧
        (result ≠ .ok answer → strip (received t) = []) := by
  refine Action.satisfies_exchange h fun s t result ht => ⟨rfl, ?_⟩
  cases result with
  | ok reply =>
    refine ⟨fun h => ht.1 ?_, fun h => ht.2 fun h' => h ?_⟩
    · cases h; rfl
    · cases h'; rfl
  | error fault => exact ⟨nofun, fun _ => ht.2 nofun⟩

/-- A reply that is not what was awaited ends the read before the bus is called again. -/
theorem gathers_judged {answer : UInt8} {next : List UInt8 → List UInt8}
    {rest : Action ε (Reading n) α} (keep : UInt8 → Session → Session) (failure : Failure)
    (hrest : rest.Satisfies (Gathers next)) (reply : UInt8) :
    (do
      inSession (modify (keep reply))
      Action.require (reply = answer) failure
      rest : Action ε (Reading n) α).Satisfies fun s t result s' =>
        (reply = answer → Gathers next s t result s') ∧
        (reply ≠ answer → s'.window = s.window ∧ t = [] ∧ result = .error (.card failure)) := by
  intro s t result s' ht
  change Program.Traces ((Action.require (reply = answer) failure >>= fun _ => rest).exec
    { s with session := keep reply s.session }) t (result, s') at ht
  rw [Action.exec_bind, Action.exec_require] at ht
  refine ⟨fun hanswer => ?_, fun hanswer => ?_⟩
  · rw [if_pos hanswer] at ht
    obtain ⟨hwindow, hwhole, hnone⟩ := hrest _ t result s' ht
    exact ⟨hwindow, hwhole, hnone⟩
  · rw [if_neg hanswer] at ht
    cases ht
    exact ⟨rfl, rfl, rfl⟩

/-- A reply is waited for, kept, and has to be what was awaited for anything else to come. -/
theorem gathers_awaited {exchange : Exchange ε UInt8} {answer : UInt8}
    {strip next : List UInt8 → List UInt8} {rest : Action ε (Reading n) α}
    (keep : UInt8 → Session → Session) (failure : Failure) (hexchange : exchange.Awaits answer strip)
    (hnil : next [] = []) (hrest : rest.Satisfies (Gathers next)) :
    (do
      let reply ← Action.exchange exchange
      inSession (modify (keep reply))
      Action.require (reply = answer) failure
      rest : Action ε (Reading n) α).Satisfies (Gathers fun replies => next (strip replies)) := by
  refine (reply_awaited hexchange).bind (gathers_judged keep failure hrest) ?_ ?_
  · rintro s t error s' ⟨rfl, -, hother⟩
    have hempty : next (strip (received t)) = [] := by rw [hother nofun, hnil]
    refine ⟨?_, nofun, fun _ _ => hempty⟩
    rw [hempty]
    rfl
  · rintro s t reply s' u result s'' ⟨rfl, hawaited, hother⟩ ⟨hsame, hdifferent⟩
    by_cases hanswer : reply = answer
    · obtain ⟨hwindow, hwhole, hnone⟩ := hsame hanswer
      have hstrip : strip (received (t ++ u)) = received u := by
        rw [received_append]
        exact hawaited (congrArg _ hanswer) _
      refine ⟨?_, ?_, ?_⟩
      all_goals
        rw [hstrip]
        assumption
    · obtain ⟨hwindow, rfl, hfailure⟩ := hdifferent hanswer
      have hempty : next (strip (received (t ++ []))) = [] := by
        rw [List.append_nil, hother fun h => hanswer (Except.ok.inj h), hnil]
      refine ⟨?_, fun value hvalue => ?_, fun _ _ => hempty⟩
      · rw [hempty]
        exact hwindow
      · rw [hfailure] at hvalue
        cases hvalue

/-- The data bytes are what follows R1 and the start token. -/
theorem gathers_readSelected (address : UInt32) :
    (readSelected address : Action ε (Reading n) UInt16).Satisfies
      (Gathers fun replies => afterAnswer 0xFE (afterAnswer 0x00 (replies.drop 6))) := by
  refine Action.satisfies_get_bind fun seen => ?_
  have htoken := gathers_awaited (n := n) (ε := ε)
    (fun token session => { session with lastToken := token }) .readNotStarted
    (Exchange.awaits_pollWithin (show (0xFE : UInt8) ≠ 0xFF by decide)
      (atLeastOnce seen.session.config.tokenPolls)) rfl gathers_block
  have hresponse := gathers_awaited (n := n) (ε := ε)
    (fun response session => { session with lastResponse := response }) .readUnanswered
    (Exchange.awaits_sendAndPoll (.readBlock address) seen.session.config.responsePolls
      (show (0x00 : UInt8) ≠ 0xFF by decide)) rfl htoken
  exact hresponse.mono fun s t result s' h _ => h

end Reading

/-! ## The data bytes of the whole read -/

/-- What comes after the release is no data. -/
theorem dataReceived_held {talk queries : List (Event ε)} {ending : Option ε}
    {released : Except ε Unit} {reply : Except ε UInt8} (htalk : Talk talk ending)
    (hqueries : Drained drainPolls queries) :
    dataReceived (.control (.forceSelect true) (.ok ()) :: (talk ++ queries ++
      [.control (.forceSelect false) released, .transfer idleByte reply])) =
      blockReceived (received talk) := by
  have hkept : ∀ event ∈ talk ++ queries, (!event.releases) = true := by
    rw [List.forall_mem_append]
    exact ⟨fun event h => by rw [htalk.not_releases event h]; rfl,
      fun event h => by rw [hqueries.not_releases event h]; rfl⟩
  unfold dataReceived
  rw [List.takeWhile_cons_of_pos rfl, List.takeWhile_append_of_pos hkept,
    List.takeWhile_cons_of_neg (by simp [Event.releases]), List.append_nil]
  change blockReceived (received (talk ++ queries)) = _
  rw [received_append, hqueries.received_nil, List.append_nil]

/-- Log records are no data. -/
theorem dataReceived_append_silent (t : List (Event ε)) {u : List (Event ε)}
    (hu : busCalls u = []) : dataReceived (t ++ u) = dataReceived t := by
  unfold dataReceived
  rw [received_takeWhile_append t hu]

namespace Reading

/-- What a read does to its window is decided by the data bytes of its calls: all 512 after a
success, none if the card broke off, and any number if the bus failed. -/
structure Fills (s : Reading n) (t : List (Event ε)) (result : Except (Error ε) α)
    (s' : Reading n) : Prop where
  window : s'.window = s.window.storeAll 0 (dataReceived t)
  whole : ∀ value, result = .ok value → (dataReceived t).length = 512
  none : ∀ failure, result = .error (.card failure) → dataReceived t = []

theorem fills_readAddress (address : UInt32) :
    (readAddress address : Action ε (Reading n) Unit).Satisfies Fills := by
  have hselected : (Action.whileSelected (readSelected address) :
      Action ε (Reading n) UInt16).Satisfies Fills := by
    intro s t result s' ht
    rw [Action.exec_whileSelected] at ht
    rcases traces_whileSelected ht with ⟨fault, hvalue, rfl⟩ |
      ⟨talk, queries, released, reply, hrun, hdrained, rfl⟩
    · cases hvalue
      exact ⟨rfl, nofun, nofun⟩
    · have htalk := (Session.steady_readSelected address s talk result s' hrun).talk
      obtain ⟨hwindow, hwhole, hnone⟩ := gathers_readSelected address s talk result s' hrun
      refine ⟨?_, fun value hvalue => ?_, fun failure hfailure => ?_⟩
      · rw [dataReceived_held htalk hdrained]
        exact hwindow
      · rw [dataReceived_held htalk hdrained, blockReceived, List.length_take]
        exact Nat.min_eq_left (hwhole value hvalue)
      · rw [dataReceived_held htalk hdrained, blockReceived, hnone failure hfailure]
        rfl
  have hchecksum : ∀ checksum, (do
      inSession <| modify fun session => { session with lastChecksum := checksum }
      Action.require (isChecksumAccepted checksum) .readChecksumRejected :
      Action ε (Reading n) Unit).Satisfies fun s t result s' =>
        s'.window = s.window ∧ t = [] ∧ result = .ok () := by
    intro checksum s t result s' ht
    cases ht
    exact ⟨rfl, rfl, rfl⟩
  refine hselected.bind hchecksum ?_ ?_
  · rintro s t error s' ⟨hwindow, -, hnone⟩
    exact ⟨hwindow, nofun, fun failure h => hnone failure (by cases h; rfl)⟩
  · rintro s t checksum s' u result s'' ⟨hwindow, hwhole, -⟩ ⟨hkept, rfl, rfl⟩
    rw [List.append_nil]
    exact ⟨hkept.trans hwindow, fun _ _ => hwhole checksum rfl, nofun⟩

/-- The window has been passed by the data bytes that came. -/
theorem fills_readWindow {mode : ReadyMode} {s s' : Reading n} {t : List (Event ε)}
    {result : Except (Error ε) Unit} {lba : UInt32} (hready : s.session.state = .ready mode)
    (hrange : s.window.InSector)
    (h : Program.Traces ((readWindow lba : Action ε (Reading n) Unit).exec s) t (result, s')) :
    Fills s t result s' := by
  rw [exec_readWindow lba hready hrange] at h
  have hnote : ∀ error, (inSession (Session.record error) : Action ε (Reading n) Unit).Satisfies
      fun s t result s' => busCalls t = [] ∧ result = .ok () ∧ s'.window = s.window :=
    fun error => Action.satisfies_onPart (Session.record_noted error)
      fun s t result s' hrecord => ⟨hrecord.1, hrecord.2.1, rfl⟩
  refine Action.satisfies_noting (fills_readAddress _) hnote ?_ ?_ s t result s' h
  · exact fun s t value s' hfills => hfills
  · rintro s t error s' u result s'' ⟨hwindow, -, hnone⟩ ⟨hsilent, rfl, hkept⟩
    have hdata := dataReceived_append_silent t hsilent
    refine ⟨?_, nofun, fun failure hfailure => ?_⟩
    · rw [hdata]
      exact hkept.trans hwindow
    · rw [hdata]
      exact hnone failure (by cases hfailure; rfl)

end Reading

namespace Session

/-- A read into a buffer, which is given back also where the read fails. -/
def readInto (lba : UInt32) (offset : Nat) (buffer : Bytes n) (session : Session) :
    Program ε (Except (Error ε) Unit × Session × Bytes n) := do
  let (result, reading) ← (Reading.readWindow lba).exec ⟨session, .full offset buffer⟩
  return (result, reading.session, reading.window.bytes)

/-- A read gives what it has left in the buffer, if it succeeds. -/
theorem exec_readRange (lba : UInt32) (offset : Nat) (buffer : Bytes n) (s : Session) :
    (readRange lba offset buffer : Action ε Session (Bytes n)).exec s = (do
      let (result, session, left) ← readInto lba offset buffer s
      return (result.map fun _ => left, session)) := by
  unfold readInto
  rw [bind_assoc]
  rfl

/-- A read of `n` bytes from `offset` on, seen against a read of the whole sector on the same bus.
They cannot be told apart but by their buffers, and of the data bytes that came each buffer has
those that its window shows; its other places are as they were. -/
structure SeenThrough {τ : Type} (offset : Nat) (buffer : Bytes n) (sector : Sector)
    (part : Run ε τ (Except (Error ε) Unit × Session × Bytes n))
    (whole : Run ε τ (Except (Error ε) Unit × Session × Sector)) : Prop where
  events : part.events = whole.events
  bus : part.bus = whole.bus
  result : part.value.1 = whole.value.1
  session : part.value.2.1 = whole.value.2.1
  atMost : (dataReceived part.events.toList).length ≤ 512
  onSuccess : part.value.1 = .ok () → (dataReceived part.events.toList).length = 512
  onFailure : ∀ failure, part.value.1 = .error (.card failure) →
    dataReceived part.events.toList = []
  kept : ∀ (k : Nat) (h : k < n), part.value.2.2[k] =
    (dataReceived part.events.toList)[offset + k]?.getD buffer[k]
  keptWhole : ∀ (k : Nat) (h : k < sectorSize), whole.value.2.2[k] =
    (dataReceived part.events.toList)[k]?.getD sector[k]
  inBounds : ∀ (i : Nat) (h : i < (dataReceived part.events.toList).length), offset ≤ i →
    i < offset + n → ∃ h' : i - offset < n,
      part.value.2.2[i - offset] = (dataReceived part.events.toList)[i]

section Windowing

variable {τ : Type} {s : Session} {mode : ReadyMode}

/-- The events of a read decide what it leaves in its buffer. -/
theorem getElem_readInto {t : List (Event ε)} {result : Except (Error ε) Unit} {reading : Reading n}
    {offset : Nat} {buffer : Bytes n} (h : Reading.Fills ⟨s, .full offset buffer⟩ t result reading)
    (k : Nat) (hk : k < n) : reading.window.bytes[k] = (dataReceived t)[offset + k]?.getD buffer[k] := by
  have hbytes := Window.getElem_storeAll (.full offset buffer) 0 (dataReceived t) k hk
  rw [if_pos ⟨hk, Nat.zero_le _⟩] at hbytes
  rw [h.window]
  exact hbytes

theorem run_readRange (bus : Bus ε τ) (b : τ) (lba : UInt32) (offset : Nat) (buffer : Bytes n)
    (s : Session) :
    let run := (readInto lba offset buffer s).run bus b
    ((readRange lba offset buffer : Action ε Session (Bytes n)).exec s).run bus b =
      ⟨(run.value.1.map fun _ => run.value.2.2, run.value.2.1), run.bus, run.events⟩ := by
  intro run
  rw [exec_readRange]
  exact Program.runFrom_bind bus (readInto lba offset buffer s) _ b #[]

theorem run_readInto (bus : Bus ε τ) (b : τ) (lba : UInt32) (offset : Nat) (buffer : Bytes n)
    (s : Session) :
    let run := ((Reading.readWindow lba).exec ⟨s, .full offset buffer⟩).run bus b
    (readInto lba offset buffer s).run bus b =
      ⟨(run.value.1, run.value.2.session, run.value.2.window.bytes), run.bus, run.events⟩ := by
  intro run
  exact Program.runFrom_bind bus ((Reading.readWindow lba).exec _) _ b #[]

theorem seenThrough_readInto (bus : Bus ε τ) (b : τ) (lba : UInt32) (offset : Nat)
    (buffer : Bytes n) (sector : Sector) (hready : s.state = .ready mode)
    (hrange : offset + n ≤ 512) : SeenThrough offset buffer sector ((readInto lba offset buffer s).run bus b)
      ((readInto lba 0 sector s).run bus b) := by
  have hin : (Window.full offset buffer).InSector := hrange
  have hwhole : (Window.full 0 sector).InSector := Nat.le_of_eq (Nat.zero_add _)
  -- no bus can tell the two apart
  obtain ⟨hevents, hbus, hresult, hsession⟩ := (Reading.alike_readWindow (ε := ε)
    ⟨s, .full offset buffer⟩ ⟨s, .full 0 sector⟩ lba hready rfl hin hwhole).run bus b
  have hpart : Reading.Fills ⟨s, .full offset buffer⟩ _ _ _ := Reading.fills_readWindow hready hin
    (Program.run_traces bus ((Reading.readWindow lba).exec ⟨s, .full offset buffer⟩) b)
  have hfull : Reading.Fills ⟨s, .full 0 sector⟩ _ _ _ := Reading.fills_readWindow hready hwhole
    (Program.run_traces bus ((Reading.readWindow lba).exec ⟨s, .full 0 sector⟩) b)
  rw [← hevents] at hfull
  rw [run_readInto, run_readInto]
  have hkept := getElem_readInto hpart
  refine ⟨hevents, hbus, hresult, hsession, length_blockReceived_le _, hpart.whole (),
    hpart.none, hkept, fun k hk => ?_, fun i hi hle hlt => ?_⟩
  · have hbyte := getElem_readInto hfull k hk
    rw [Nat.zero_add] at hbyte
    exact hbyte
  · have hplace : i - offset < n := by omega
    refine ⟨hplace, ?_⟩
    have hbyte := hkept (i - offset) hplace
    rw [Nat.add_sub_cancel' hle, List.getElem?_eq_getElem hi] at hbyte
    exact hbyte

/-- A read of a part of a sector is a read of the whole sector seen through a window, whatever the
bus answers and wherever it fails. -/
theorem readRange_window (bus : Bus ε τ) (b : τ) (lba : UInt32) (offset : Nat) (buffer : Bytes n)
    (hready : s.state = .ready mode) (hrange : offset + n ≤ 512) :
    let part := (readInto lba offset buffer s).run bus b
    (∀ sector, SeenThrough offset buffer sector part ((readInto lba 0 sector s).run bus b)) ∧
    ((readRange lba offset buffer : Action ε Session (Bytes n)).exec s).run bus b =
      ⟨(part.value.1.map fun _ => part.value.2.2, part.value.2.1), part.bus, part.events⟩ ∧
    ∃ sector, ((readBlock lba : Action ε Session Sector).exec s).run bus b =
      ⟨(part.value.1.map fun _ => sector, part.value.2.1), part.bus, part.events⟩ := by
  intro part
  have hseen := seenThrough_readInto bus b lba offset buffer (Bytes.zero sectorSize) hready hrange
  refine ⟨fun sector => seenThrough_readInto bus b lba offset buffer sector hready hrange,
    run_readRange bus b lba offset buffer s,
    ((readInto lba 0 (Bytes.zero sectorSize) s).run bus b).value.2.2, ?_⟩
  rw [hseen.result, hseen.session, hseen.bus, hseen.events]
  exact run_readRange bus b lba 0 (Bytes.zero sectorSize) s

/-- The bus fails within the sector, when three data bytes have come. -/
theorem readRange_window_fault :
    let s : Session := { fresh 0 {} with state := .ready .highCapacityV2 }
    let script : ScriptedBus := ⟨⟨List.replicate 6 0xFF ++ [0x00, 0xFE, 0x11, 0x22, 0x33], 0xFF,
      [13], none, 0⟩, 0⟩
    let part := (readInto 7 1 #v[0xAA, 0xAA, 0xAA] s).run (ScriptedBus.bus ()) script
    let whole := (readInto 7 0 (Bytes.zero sectorSize) s).run (ScriptedBus.bus ()) script
    SeenThrough 1 #v[0xAA, 0xAA, 0xAA] (Bytes.zero sectorSize) part whole ∧
      part.value.1.isOk = false ∧ part.value.2.2 = #v[0x22, 0x33, 0xAA] := by
  intro s script part whole
  have hready : s.state = .ready .highCapacityV2 := rfl
  have hseen := (readRange_window (ScriptedBus.bus ()) script 7 1 #v[0xAA, 0xAA, 0xAA] hready
    (by decide)).1
  exact ⟨hseen (Bytes.zero sectorSize), by decide +kernel, by decide +kernel⟩

end Windowing

end Session

end SdCard
