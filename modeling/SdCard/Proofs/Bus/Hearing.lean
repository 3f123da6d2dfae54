import SdCard.Proofs.Bus.Conversation

/-!
# What exchanges make of replies

Where no call of the bus fails, an exchange is driven by the bytes shifted in alone. `Heard` says
that the bytes shifted in during a run are the first ones of an unbounded stream, and a `Turn` tells
what an exchange makes of such a stream: its value, what it sends, and the replies that it leaves.

* `heard_append`: the parts of a run hear the parts of a stream;
* `Exchange.Hears.bind`: turns follow each other as exchanges do;
* `Exchange.hears_pollWithin`: a poll gives the first byte that is not idle;
* `Exchange.hears_whileSelected`: a release takes one reply, whatever the output queue says.
-/

namespace SdCard

variable {ε α β : Type}

/-- A call that drives the bus or shifts a byte, without its answer. -/
inductive Signal
  | control (call : Control)
  | shift (byte : UInt8)
deriving DecidableEq

/-- What the bus was told to do in a run. Queries of the output queue tell it nothing. -/
def signals (t : List (Event ε)) : List Signal :=
  t.filterMap fun
    | .control call _ => some (.control call)
    | .transfer byte _ => some (.shift byte)
    | .fifoBusy _ | .log _ => none

@[simp] theorem signals_nil : signals ([] : List (Event ε)) = [] := rfl

@[simp] theorem signals_append (t u : List (Event ε)) :
    signals (t ++ u) = signals t ++ signals u := List.filterMap_append ..

@[simp] theorem signals_control (call : Control) (answer : Except ε Unit) (t : List (Event ε)) :
    signals (.control call answer :: t) = .control call :: signals t := rfl

@[simp] theorem signals_transfer (byte : UInt8) (answer : Except ε UInt8) (t : List (Event ε)) :
    signals (.transfer byte answer :: t) = .shift byte :: signals t := rfl

@[simp] theorem signals_log (record : LogRecord ε) (t : List (Event ε)) :
    signals (.log record :: t) = signals t := rfl

/-- The bytes that are going to be shifted in, the next one first. -/
abbrev Replies := Nat → UInt8

namespace Replies

/-- The replies that are left when `count` of them have been heard. -/
def after (replies : Replies) (count : Nat) : Replies := fun index => replies (count + index)

/-- The next `count` replies. -/
def take (replies : Replies) (count : Nat) : List UInt8 := (List.range count).map replies

@[simp] theorem after_zero (replies : Replies) : after replies 0 = replies := by
  funext index
  simp [after]

@[simp] theorem after_after (replies : Replies) (m n : Nat) :
    after (after replies m) n = after replies (m + n) := by
  funext index
  simp [after, Nat.add_assoc]

@[simp] theorem take_zero (replies : Replies) : take replies 0 = [] := rfl

theorem take_succ (replies : Replies) (count : Nat) :
    take replies (count + 1) = replies 0 :: take (after replies 1) count := by
  unfold take after
  rw [List.range_succ_eq_map, List.map_cons, List.map_map]
  congr 2
  funext index
  rw [Function.comp_apply, Nat.add_comm]

/-- The next `n` replies as a string of bytes. -/
def bytes (replies : Replies) (n : Nat) : Bytes n := Vector.ofFn fun index => replies index

theorem toList_bytes (replies : Replies) (n : Nat) :
    (bytes replies n).toList = take replies n := by
  unfold bytes take
  rw [Vector.toList_ofFn]
  apply List.ext_getElem
  · simp
  · intro index h h'
    simp

theorem bytes_succ (replies : Replies) (n : Nat) :
    bytes replies (n + 1) = (bytes (after replies 1) n).cons (replies 0) := by
  rw [← Vector.toList_inj, Bytes.toList_cons, toList_bytes, toList_bytes, take_succ]

/-- The first of the next `polls` replies that is not idle, and the idle byte if there is none. -/
def answer (replies : Replies) (polls : Nat) : UInt8 :=
  ((take replies polls).find? (· ≠ idleByte)).getD idleByte

/-- How many replies are heard to find the answer: all up to it, or all that may be. -/
def polled (replies : Replies) (polls : Nat) : Nat :=
  min ((take replies polls).findIdx (· ≠ idleByte) + 1) polls

theorem answer_succ (replies : Replies) (polls : Nat) :
    answer replies (polls + 1) =
      if replies 0 = idleByte then answer (after replies 1) polls else replies 0 := by
  unfold answer
  rw [take_succ, List.find?_cons]
  by_cases h : replies 0 = idleByte
  · simp [h]
  · simp [h]

theorem polled_succ (replies : Replies) (polls : Nat) :
    polled replies (polls + 1) =
      if replies 0 = idleByte then polled (after replies 1) polls + 1 else 1 := by
  unfold polled
  rw [take_succ, List.findIdx_cons]
  by_cases h : replies 0 = idleByte
  · simp [h]
  · simp [h]

end Replies

/-- No call of the run fails, and the bytes shifted in are those of a stream, up to `rest`. -/
inductive Heard : List (Event ε) → Replies → Replies → Prop
  | nil {replies} : Heard [] replies replies
  | control {call t replies rest} :
      Heard t replies rest → Heard (.control call (.ok ()) :: t) replies rest
  | transfer {byte t replies rest} :
      Heard t (Replies.after replies 1) rest → Heard (.transfer byte (.ok (replies 0)) :: t) replies rest
  | fifoBusy {busy t replies rest} :
      Heard t replies rest → Heard (.fifoBusy busy :: t) replies rest
  | log {record t replies rest} :
      Heard t replies rest → Heard (.log record :: t) replies rest

/-- The parts of a run hear the parts of a stream. -/
theorem heard_append {t u : List (Event ε)} {replies rest : Replies} :
    Heard (t ++ u) replies rest ↔ ∃ middle, Heard t replies middle ∧ Heard u middle rest := by
  constructor
  · intro h
    induction t generalizing replies with
    | nil => exact ⟨replies, .nil, h⟩
    | cons event t ih =>
      cases h with
      | control h =>
        obtain ⟨middle, ht, hu⟩ := ih h
        exact ⟨middle, .control ht, hu⟩
      | transfer h =>
        obtain ⟨middle, ht, hu⟩ := ih h
        exact ⟨middle, .transfer ht, hu⟩
      | fifoBusy h =>
        obtain ⟨middle, ht, hu⟩ := ih h
        exact ⟨middle, .fifoBusy ht, hu⟩
      | log h =>
        obtain ⟨middle, ht, hu⟩ := ih h
        exact ⟨middle, .log ht, hu⟩
  · intro h
    obtain ⟨middle, ht, hu⟩ := h
    induction ht with
    | nil => exact hu
    | control _ ih => exact .control (ih hu)
    | transfer _ ih => exact .transfer (ih hu)
    | fifoBusy _ ih => exact .fifoBusy (ih hu)
    | log _ ih => exact .log (ih hu)

/-- Log records tell the bus nothing. -/
theorem signals_of_busCalls_nil {t : List (Event ε)} (h : busCalls t = []) : signals t = [] := by
  apply List.filterMap_eq_nil_iff.mpr
  intro event hevent
  obtain ⟨record, rfl⟩ := logs_of_busCalls_nil h event hevent
  rfl

/-- Log records take no reply and tell the bus nothing. -/
theorem heard_of_busCalls_nil {t : List (Event ε)} {replies rest : Replies}
    (ht : busCalls t = []) (h : Heard t replies rest) : signals t = [] ∧ rest = replies := by
  refine ⟨signals_of_busCalls_nil ht, ?_⟩
  induction h with
  | nil => rfl
  | control => cases ht
  | transfer => cases ht
  | fifoBusy => cases ht
  | log _ ih => exact ih ht

/-- A call that the bus failed. -/
def Event.isFault : Event ε → Bool
  | .control _ (.error _) | .transfer _ (.error _) => true
  | _ => false

/-- The bytes shifted in during a run. -/
def received (t : List (Event ε)) : List UInt8 :=
  t.filterMap fun
    | .transfer _ (.ok reply) => some reply
    | _ => none

@[simp] theorem received_nil : received ([] : List (Event ε)) = [] := rfl

@[simp] theorem received_append (t u : List (Event ε)) :
    received (t ++ u) = received t ++ received u := List.filterMap_append ..

/-- Log records shift nothing in. -/
theorem received_of_busCalls_nil {t : List (Event ε)} (h : busCalls t = []) : received t = [] := by
  apply List.filterMap_eq_nil_iff.mpr
  intro event hevent
  obtain ⟨record, rfl⟩ := logs_of_busCalls_nil h event hevent
  rfl

/-- What is shifted in first does not depend on log records that follow. -/
theorem received_takeWhile_append (t : List (Event ε)) {u : List (Event ε)} (hu : busCalls u = [])
    (p : Event ε → Bool) : received ((t ++ u).takeWhile p) = received (t.takeWhile p) := by
  rw [List.takeWhile_append]
  split
  · rename_i hall
    have hlogs : busCalls (u.takeWhile p) = [] :=
      List.sublist_nil.mp (hu ▸ (List.takeWhile_sublist p).filter _)
    rw [received_append, received_of_busCalls_nil hlogs, List.append_nil,
      (List.takeWhile_prefix p).eq_of_length hall]
  · rfl

/-- A run hears a stream if no call of it fails and the stream begins with the bytes shifted in. -/
theorem heard_iff {t : List (Event ε)} {replies rest : Replies} :
    Heard t replies rest ↔ (∀ event ∈ t, event.isFault = false) ∧
      received t = replies.take (received t).length ∧
      rest = replies.after (received t).length := by
  constructor
  · intro h
    induction h with
    | nil => exact ⟨List.forall_mem_nil _, rfl, (Replies.after_zero _).symm⟩
    | control _ ih => exact ⟨List.forall_mem_cons.mpr ⟨rfl, ih.1⟩, ih.2⟩
    | fifoBusy _ ih => exact ⟨List.forall_mem_cons.mpr ⟨rfl, ih.1⟩, ih.2⟩
    | log _ ih => exact ⟨List.forall_mem_cons.mpr ⟨rfl, ih.1⟩, ih.2⟩
    | @transfer byte t replies rest _ ih =>
      obtain ⟨hfault, hreplies, hrest⟩ := ih
      have hreceived : received (.transfer byte (.ok (replies 0)) :: t) =
          replies 0 :: received t := rfl
      refine ⟨List.forall_mem_cons.mpr ⟨rfl, hfault⟩, ?_, ?_⟩
      · rw [hreceived, List.length_cons, Replies.take_succ, ← hreplies]
      · rw [hreceived, List.length_cons, hrest, Replies.after_after, Nat.add_comm]
  · intro h
    induction t generalizing replies with
    | nil =>
      obtain ⟨-, -, rfl⟩ := h
      rw [received, List.filterMap_nil, List.length_nil, Replies.after_zero]
      exact .nil
    | cons event t ih =>
      obtain ⟨hfault, hreplies, hrest⟩ := h
      rw [List.forall_mem_cons] at hfault
      cases event with
      | control call answer =>
        cases answer with
        | error => cases hfault.1
        | ok => exact .control (ih ⟨hfault.2, hreplies, hrest⟩)
      | fifoBusy busy => exact .fifoBusy (ih ⟨hfault.2, hreplies, hrest⟩)
      | log record => exact .log (ih ⟨hfault.2, hreplies, hrest⟩)
      | transfer byte answer =>
        cases answer with
        | error => cases hfault.1
        | ok reply =>
          -- the first byte shifted in is the first of the stream, the others are the rest of it
          have hreceived : received (.transfer byte (.ok reply) :: t) = reply :: received t := rfl
          rw [hreceived, List.length_cons, Replies.take_succ, List.cons.injEq] at hreplies
          rw [hreceived, List.length_cons, Nat.add_comm, ← Replies.after_after] at hrest
          rw [hreplies.1]
          exact .transfer (ih ⟨hfault.2, hreplies.2, hrest⟩)

/-- A run in which no call fails hears the bytes shifted in, whatever would come after them. -/
theorem heard_received {t : List (Event ε)} (h : ∀ event ∈ t, event.isFault = false) (byte : UInt8) :
    Heard t (fun k => (received t).getD k byte) fun _ => byte := by
  rw [heard_iff]
  refine ⟨h, ?_, ?_⟩
  · unfold Replies.take
    apply List.ext_getElem
    · simp
    · intro k hk hk'
      simp [hk]
  · funext k
    simp [Replies.after]

/-- Every stream of replies is heard in some run of every program. -/
theorem exists_heard (p : Program ε α) (replies : Replies) :
    ∃ t value rest, Program.Traces p t value ∧ Heard t replies rest := by
  induction p generalizing replies with
  | done value => exact ⟨[], value, replies, .done value, .nil⟩
  | control call next ih =>
    obtain ⟨t, value, rest, ht, hheard⟩ := ih (.ok ()) replies
    exact ⟨_, value, rest, .control ht, .control hheard⟩
  | transfer byte next ih =>
    obtain ⟨t, value, rest, ht, hheard⟩ := ih (.ok (replies 0)) (replies.after 1)
    exact ⟨_, value, rest, .transfer ht, .transfer hheard⟩
  | fifoBusy next ih =>
    obtain ⟨t, value, rest, ht, hheard⟩ := ih false replies
    exact ⟨_, value, rest, .fifoBusy ht, .fifoBusy hheard⟩
  | log record next ih =>
    obtain ⟨t, value, rest, ht, hheard⟩ := ih replies
    exact ⟨_, value, rest, .log ht, .log hheard⟩

/-- What is made of a stream of replies: a value, the signals given for it, and the replies that
are left. -/
structure Turn (α : Type) where
  value : α
  signals : List Signal
  rest : Replies

namespace Turn

/-- One turn after another. -/
def bind (turn : Turn α) (f : α → Replies → Turn β) : Turn β :=
  ⟨(f turn.value turn.rest).value, turn.signals ++ (f turn.value turn.rest).signals,
    (f turn.value turn.rest).rest⟩

/-- The same turn with its value seen in another way. -/
def map (f : α → β) (turn : Turn α) : Turn β := ⟨f turn.value, turn.signals, turn.rest⟩

theorem value_map (f : α → β) (turn : Turn α) : (turn.map f).value = f turn.value := rfl

/-- The turn of a selected card, whose release takes one more reply. -/
def held (turn : Turn α) : Turn α :=
  ⟨turn.value, .control (.forceSelect true) ::
    (turn.signals ++ [.control (.forceSelect false), .shift idleByte]), turn.rest.after 1⟩

theorem held_map (f : α → β) (turn : Turn α) : (turn.map f).held = turn.held.map f := rfl

/-- A run tells the same as a turn does. -/
structure Tells (turn : Turn α) (t : List (Event ε)) (value : α) (rest : Replies) : Prop where
  value : value = turn.value
  signals : SdCard.signals t = turn.signals
  rest : rest = turn.rest

end Turn

/-- Queries of the output queue tell the bus nothing. -/
theorem Drained.signals_nil {polls : Nat} {t : List (Event ε)} (h : Drained polls t) :
    signals t = [] := by
  apply List.filterMap_eq_nil_iff.mpr
  intro event hevent
  obtain ⟨busy, rfl⟩ := h.queries event hevent
  rfl

/-- Queries of the output queue take no reply and tell the bus nothing. -/
theorem Drained.heard {polls : Nat} {t : List (Event ε)} {replies rest : Replies}
    (ht : Drained polls t) (h : Heard t replies rest) : signals t = [] ∧ rest = replies := by
  refine ⟨ht.signals_nil, ?_⟩
  obtain ⟨k, busy, rfl, -, -⟩ := ht
  induction k with
  | zero =>
    cases h with
    | fifoBusy h =>
      cases h
      rfl
  | succ k ih =>
    rw [List.replicate_succ, List.cons_append] at h
    cases h with
    | fifoBusy h => exact ih h

/-- Queries of the output queue shift nothing in. -/
theorem Drained.received_nil {polls : Nat} {t : List (Event ε)} (h : Drained polls t) :
    received t = [] := by
  apply List.filterMap_eq_nil_iff.mpr
  intro event hevent
  obtain ⟨busy, rfl⟩ := h.queries event hevent
  rfl

namespace Exchange

/-- The replies to the bytes that were sent are at most as many, and as many if no call failed. -/
theorem counted_send (bytes : List UInt8) : (send bytes : Exchange ε Unit).Satisfies fun t result =>
    (received t).length ≤ bytes.length ∧
      (result = .ok () → (received t).length = bytes.length) := by
  induction bytes with
  | nil => exact satisfies_pure ⟨Nat.le_refl 0, fun _ => rfl⟩
  | cons byte bytes ih =>
    refine Satisfies.bind (one_sendByte byte) (fun _ => ih) ?_ ?_
    · rintro t fault ⟨answer, rfl, hanswer⟩
      cases answer with
      | ok reply => cases hanswer
      | error fault => exact ⟨Nat.zero_le _, nofun⟩
    · rintro t _ u result ⟨answer, rfl, hanswer⟩ ⟨hle, hcount⟩
      cases answer with
      | error fault => cases hanswer
      | ok reply => exact ⟨Nat.succ_le_succ hle, fun hresult => congrArg Nat.succ (hcount hresult)⟩

/-- Where no call fails, the exchange makes of every stream what the turn says, and ends well. -/
def Hears (exchange : Exchange ε α) (turn : Replies → Turn α) : Prop :=
  exchange.Satisfies fun t result => ∀ replies rest, Heard t replies rest →
    ∃ value, result = .ok value ∧ (turn replies).Tells t value rest

theorem hears_pure (value : α) : (pure value : Exchange ε α).Hears fun replies =>
    ⟨value, [], replies⟩ := by
  apply satisfies_pure
  intro replies rest h
  cases h
  exact ⟨value, rfl, rfl, rfl, rfl⟩

theorem hears_control (call : Control) : (control call : Exchange ε Unit).Hears fun replies =>
    ⟨(), [.control call], replies⟩ := by
  apply satisfies_control
  intro answer replies rest h
  cases h with
  | control h =>
    cases h
    exact ⟨(), rfl, rfl, rfl, rfl⟩

theorem hears_transfer (byte : UInt8) : (transfer byte : Exchange ε UInt8).Hears fun replies =>
    ⟨replies 0, [.shift byte], Replies.after replies 1⟩ := by
  apply satisfies_transfer
  intro answer replies rest h
  cases h with
  | transfer h =>
    cases h
    exact ⟨replies 0, rfl, rfl, rfl, rfl⟩

/-- Turns follow each other as exchanges do. -/
theorem Hears.bind {exchange : Exchange ε α} {f : α → Exchange ε β} {turn : Replies → Turn α}
    {next : α → Replies → Turn β} (hexchange : exchange.Hears turn)
    (hf : ∀ value, (f value).Hears (next value)) :
    (exchange >>= f).Hears fun replies => (turn replies).bind next := by
  refine Satisfies.bind hexchange hf ?_ ?_
  · intro t fault h replies rest hheard
    obtain ⟨value, hvalue, -⟩ := h replies rest hheard
    cases hvalue
  · intro t value u result h hnext replies rest hheard
    obtain ⟨middle, ht, hu⟩ := heard_append.mp hheard
    obtain ⟨value', hvalue, hturn⟩ := h replies middle ht
    cases hvalue
    obtain ⟨value'', rfl, hturn'⟩ := hnext middle rest hu
    -- the second turn starts from what the first one made of the stream, and not from the run
    rw [hturn.value, hturn.rest] at hturn'
    refine ⟨value'', rfl, hturn'.value, ?_, hturn'.rest⟩
    rw [signals_append, hturn.signals, hturn'.signals]
    rfl

/-- A turn may be told in another way. -/
theorem Hears.of_eq {exchange : Exchange ε α} {turn other : Replies → Turn α}
    (h : exchange.Hears turn) (heq : ∀ replies, turn replies = other replies) :
    exchange.Hears other := by
  have hother : other = turn := funext fun replies => (heq replies).symm
  rwa [hother]

/-! ## The turns of simple exchanges -/

theorem hears_sendByte (byte : UInt8) : (sendByte byte : Exchange ε Unit).Hears fun replies =>
    ⟨(), [.shift byte], replies.after 1⟩ :=
  Hears.of_eq ((hears_transfer byte).bind fun _ => hears_pure ()) fun _ => rfl

theorem hears_send (bytes : List UInt8) : (send bytes : Exchange ε Unit).Hears fun replies =>
    ⟨(), bytes.map .shift, replies.after bytes.length⟩ := by
  induction bytes with
  | nil => exact Hears.of_eq (hears_pure ()) fun replies => by simp
  | cons byte bytes ih =>
    refine Hears.of_eq ((hears_sendByte byte).bind fun _ => ih) fun replies => ?_
    simp [Turn.bind, Nat.add_comm]

theorem hears_sendIdle (count : Nat) : (sendIdle count : Exchange ε Unit).Hears fun replies =>
    ⟨(), List.replicate count (.shift idleByte), replies.after count⟩ := by
  induction count with
  | zero => exact Hears.of_eq (hears_pure ()) fun replies => by simp
  | succ count ih =>
    refine Hears.of_eq ((hears_sendByte idleByte).bind fun _ => ih) fun replies => ?_
    simp [Turn.bind, List.replicate_succ, Nat.add_comm]

theorem hears_receive (n : Nat) : (receive n : Exchange ε (Bytes n)).Hears fun replies =>
    ⟨replies.bytes n, List.replicate n (.shift idleByte), replies.after n⟩ := by
  induction n with
  | zero => exact Hears.of_eq (hears_pure _) fun replies => by simp [Replies.bytes]
  | succ n ih =>
    have hstep := (hears_transfer (ε := ε) idleByte).bind fun byte => ih.bind fun bytes =>
      hears_pure (bytes.cons byte)
    refine Hears.of_eq hstep fun replies => ?_
    simp [Turn.bind, List.replicate_succ, Nat.add_comm, Replies.bytes_succ]

/-- A poll gives the first byte that is not idle. -/
theorem hears_pollWithin (polls : Nat) : (pollWithin polls : Exchange ε UInt8).Hears fun replies =>
    ⟨replies.answer polls, List.replicate (replies.polled polls) (.shift idleByte),
      replies.after (replies.polled polls)⟩ := by
  induction polls with
  | zero => exact Hears.of_eq (hears_pure _) fun replies => by simp [Replies.answer, Replies.polled]
  | succ polls ih =>
    have hstep : (pollWithin (polls + 1) : Exchange ε UInt8).Hears fun replies =>
        Turn.bind ⟨replies 0, [.shift idleByte], replies.after 1⟩ fun reply replies =>
          if reply = idleByte then ⟨replies.answer polls,
            List.replicate (replies.polled polls) (.shift idleByte),
            replies.after (replies.polled polls)⟩
          else ⟨reply, [], replies⟩ := by
      refine (hears_transfer idleByte).bind fun reply => ?_
      split
      · exact ih
      · exact hears_pure reply
    refine Hears.of_eq hstep fun replies => ?_
    rw [Replies.answer_succ, Replies.polled_succ]
    by_cases h : replies 0 = idleByte
    · simp [Turn.bind, h, List.replicate_succ, Nat.add_comm 1]
    · simp [Turn.bind, h]

theorem hears_poll (bound : UInt32) : (poll bound : Exchange ε UInt8).Hears fun replies =>
    ⟨replies.answer (atLeastOnce bound),
      List.replicate (replies.polled (atLeastOnce bound)) (.shift idleByte),
      replies.after (replies.polled (atLeastOnce bound))⟩ := hears_pollWithin _

/-- A release takes one reply, whatever the output queue says. -/
theorem hears_whileSelected {body : Exchange ε α} {turn : Replies → Turn α} (h : body.Hears turn) :
    (whileSelected body).Hears fun replies => (turn replies).held := by
  intro t result ht replies rest hheard
  rcases traces_whileSelected ht with ⟨fault, -, rfl⟩ |
    ⟨talk, queries, released, reply, hrun, hdrained, rfl⟩
  · cases hheard
  · cases hheard with
    | control hheard =>
      rw [List.append_assoc, heard_append] at hheard
      obtain ⟨middle, htalk, hrest⟩ := hheard
      obtain ⟨last, hqueries, hrelease⟩ := heard_append.mp hrest
      obtain ⟨value, hvalue, hturn⟩ := h _ _ hrun replies middle htalk
      -- the queries are not heard, so the release goes on where the talk has ended
      obtain ⟨hsilent, hlast⟩ := hdrained.heard hqueries
      rw [hlast, hturn.rest] at hrelease
      cases hrelease with
      | control hrelease =>
        cases hrelease with
        | transfer hrelease =>
          cases hrelease
          refine ⟨value, hvalue, hturn.value, ?_, ?_⟩
          · simp [hturn.signals, hsilent, Turn.held]
          · rfl

end Exchange

end SdCard
