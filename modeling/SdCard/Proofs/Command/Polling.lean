import SdCard.Command.Exchange
import SdCard.Proofs.Bus.Assertion
import SdCard.Proofs.Bus.Possible

/-!
# What polls take from a bus

A bus that is asked for one byte after the other answers each time with a byte or a fault. Which
bytes a later exchange sees depends on how many of these answers a poll has taken, so for every
stream of answers both are told: how a poll ends, and how many answers it takes. `Takes` says this
of one exchange on one bus, and that it calls the bus in no other way.

* `Takes.bind_ok`, `Takes.bind_error`: takings add up until there is a fault;
* `takes_await`: the one loop behind both polls, by induction on its bound;
* `polling_course`: the poll for a response, a response in a buffer, and the wait for a release.
-/

namespace SdCard

variable {ε σ α β : Type}

/-! ## The answers of a bus -/

/-- What a bus answers when it is asked for one byte after the other. -/
abbrev Answers (ε : Type) := Nat → Except ε UInt8

namespace Bus

/-- Where a bus is left that has been asked for `count` bytes. -/
def asked (bus : Bus ε σ) (s : σ) : (count : Nat) → σ
  | 0 => s
  | count + 1 => bus.asked (bus.transfer idleByte s).2 count

/-- What it answers, byte by byte. -/
def answers (bus : Bus ε σ) (s : σ) : Answers ε := fun k =>
  (bus.transfer idleByte (bus.asked s k)).1

theorem asked_add (bus : Bus ε σ) (s : σ) (m n : Nat) :
    bus.asked s (m + n) = bus.asked (bus.asked s m) n := by
  induction m generalizing s with
  | zero => rw [Nat.zero_add, asked]
  | succ m ih => rw [Nat.succ_add, asked, asked, ih]

theorem answers_asked (bus : Bus ε σ) (s : σ) (m n : Nat) :
    bus.answers (bus.asked s m) n = bus.answers s (m + n) := by
  unfold answers
  rw [asked_add]

/-- The calls by which a bus is asked for `count` bytes. -/
def asking (bus : Bus ε σ) (s : σ) (count : Nat) : List (Event ε) :=
  (List.range count).map fun k => .transfer idleByte (bus.answers s k)

theorem asking_add (bus : Bus ε σ) (s : σ) (m n : Nat) :
    bus.asking s (m + n) = bus.asking s m ++ bus.asking (bus.asked s m) n := by
  unfold asking
  rw [List.range_add, List.map_append, List.map_map]
  congr 2
  funext k
  rw [Function.comp_apply, answers_asked]

end Bus

/-! ## Exchanges that ask for bytes -/

namespace Exchange

variable {bus : Bus ε σ} {s : σ} {exchange : Exchange ε α} {f : α → Exchange ε β} {m n : Nat}

/-- The run asks the bus for so many bytes, does nothing else with it, and ends like this. -/
structure Takes (bus : Bus ε σ) (s : σ) (exchange : Exchange ε α) (count : Nat)
    (result : Except ε α) : Prop where
  value : (exchange.run.run bus s).value = result
  left : (exchange.run.run bus s).bus = bus.asked s count
  events : (exchange.run.run bus s).events.toList = bus.asking s count

theorem takes_pure (value : α) : Takes bus s (pure value) 0 (.ok value) := ⟨rfl, rfl, rfl⟩

theorem takes_receiveByte : Takes bus s receiveByte 1 (bus.answers s 0) := ⟨rfl, rfl, rfl⟩

/-- After an exchange that met no fault, the next one takes the answers that follow. -/
theorem Takes.bind_ok {value : α} {result : Except ε β} (h : Takes bus s exchange m (.ok value))
    (hf : Takes bus (bus.asked s m) (f value) n result) :
    Takes bus s (exchange >>= f) (m + n) result := by
  have hrun : (exchange >>= f).run.run bus s = _ := Program.run_bind bus exchange.run _ s
  dsimp only at hrun
  rw [h.value, h.left] at hrun
  refine ⟨?_, ?_, ?_⟩
  · rw [hrun]
    exact hf.value
  · rw [hrun, Bus.asked_add]
    exact hf.left
  · rw [hrun, Bus.asking_add, ← h.events, ← hf.events]
    exact Array.toList_append

/-- After a fault there is no next one. -/
theorem Takes.bind_error {fault : ε} (h : Takes bus s exchange m (.error fault)) :
    Takes bus s (exchange >>= f) m (.error fault) := by
  have hrun : (exchange >>= f).run.run bus s = _ := Program.run_bind bus exchange.run _ s
  dsimp only at hrun
  rw [h.value, h.left] at hrun
  refine ⟨?_, ?_, ?_⟩
  · rw [hrun]
    rfl
  · rw [hrun]
    rfl
  · rw [hrun, ← h.events]
    exact congrArg Array.toList Array.append_empty

/-- What is made of a value takes no more answers than the value does. -/
theorem Takes.map {result : Except ε α} (h : Takes bus s exchange m result) (g : α → β) :
    Takes bus s (exchange >>= fun value => pure (g value)) m (result.map g) := by
  cases result with
  | ok value =>
    refine h.bind_ok (n := 0) ?_
    exact takes_pure (g value)
  | error => exact h.bind_error

/-! ## Polls -/

/-- What a wait of at most `polls` answers ends with, and how many it takes: all up to the first one
that is not the byte to be passed over, which may be a fault; or all that it may. -/
inductive Awaited (passed : UInt8) (answers : Answers ε) (polls : Nat) : Except ε UInt8 → Nat → Prop
  | ended {k} : k < polls → answers k ≠ .ok passed → (∀ j < k, answers j = .ok passed) →
      Awaited passed answers polls (answers k) (k + 1)
  | exhausted : (∀ j < polls, answers j = .ok passed) →
      Awaited passed answers polls (.ok passed) polls

/-- If the first answer is passed over, the wait goes on with the others. -/
theorem Awaited.later {passed : UInt8} {answers others : Answers ε} {polls count : Nat}
    {result : Except ε UInt8} (h : Awaited passed others polls result count)
    (hfirst : answers 0 = .ok passed) (hothers : ∀ k, others k = answers (1 + k)) :
    Awaited passed answers (polls + 1) result (1 + count) := by
  have hpassed : ∀ k, (∀ j < k, others j = .ok passed) → ∀ j < 1 + k, answers j = .ok passed := by
    intro k hk j hj
    cases j with
    | zero => exact hfirst
    | succ j =>
      rw [Nat.add_comm, ← hothers]
      exact hk j (by omega)
  cases h with
  | @ended k hk hanswer hbefore =>
    rw [hothers] at hanswer ⊢
    exact .ended (by omega) hanswer (hpassed k hbefore)
  | exhausted hall =>
    rw [Nat.add_comm 1]
    exact .exhausted fun j hj => hpassed polls hall j (by omega)

/-- A wait that ends with the byte to be passed over has taken all that it may. -/
theorem Awaited.exhausted_of_eq {passed : UInt8} {answers : Answers ε} {polls count : Nat}
    {result : Except ε UInt8} (h : Awaited passed answers polls result count)
    (hresult : result = .ok passed) : (∀ j < polls, answers j = .ok passed) ∧ count = polls := by
  cases h with
  | ended _ hanswer => exact absurd hresult hanswer
  | exhausted hall => exact ⟨hall, rfl⟩

/-- A wait is a loop that goes on while the byte to be passed over comes in, as often as it may. -/
theorem takes_await {passed : UInt8} {verdict : UInt8 → α} {wait : Nat → Exchange ε α}
    (hzero : wait 0 = pure (verdict passed))
    (hsucc : ∀ polls, wait (polls + 1) = receiveByte >>= fun reply =>
      if reply = passed then wait polls else pure (verdict reply))
    (bus : Bus ε σ) (s : σ) (polls : Nat) :
    ∃ result count, Awaited passed (bus.answers s) polls result count ∧
      Takes bus s (wait polls) count (result.map verdict) := by
  induction polls generalizing s with
  | zero =>
    rw [hzero]
    exact ⟨.ok passed, 0, .exhausted fun j hj => absurd hj (Nat.not_lt_zero j), takes_pure _⟩
  | succ polls ih =>
    rw [hsucc]
    have hbyte : Takes bus s receiveByte 1 (bus.answers s 0) := takes_receiveByte
    have hnone : ∀ j < 0, bus.answers s j = .ok passed := fun j hj => absurd hj (Nat.not_lt_zero j)
    by_cases hpassed : bus.answers s 0 = .ok passed
    · -- the byte is passed over, and the loop goes on where the bus has been left
      obtain ⟨result, count, hawaited, htakes⟩ := ih (bus.asked s 1)
      rw [hpassed] at hbyte
      refine ⟨result, 1 + count, hawaited.later hpassed (bus.answers_asked s 1), ?_⟩
      refine hbyte.bind_ok ?_
      rwa [if_pos rfl]
    · refine ⟨bus.answers s 0, 1, .ended (Nat.succ_pos polls) hpassed hnone, ?_⟩
      cases hanswer : bus.answers s 0 with
      | error fault =>
        rw [hanswer] at hbyte
        exact hbyte.bind_error
      | ok reply =>
        rw [hanswer] at hbyte hpassed
        have hother : ¬ reply = passed := fun h => hpassed (congrArg _ h)
        refine hbyte.bind_ok (n := 0) ?_
        rw [if_neg hother]
        exact takes_pure _

theorem takes_poll (bus : Bus ε σ) (s : σ) (bound : UInt32) :
    ∃ result count, Awaited idleByte (bus.answers s) (atLeastOnce bound) result count ∧
      Takes bus s (poll bound) count result := by
  have hsucc : ∀ polls, (pollWithin (polls + 1) : Exchange ε UInt8) = receiveByte >>= fun reply =>
      if reply = idleByte then pollWithin polls else pure (id reply) := fun _ => rfl
  obtain ⟨result, count, hawaited, htakes⟩ := takes_await rfl hsucc bus s (atLeastOnce bound)
  refine ⟨result, count, hawaited, ?_⟩
  cases result <;> exact htakes

/-- The wait for a release does not give the byte, but says whether one came that is not zero. -/
theorem takes_waitReleased (bus : Bus ε σ) (s : σ) (bound : UInt32) :
    ∃ result count, Awaited 0 (bus.answers s) (atLeastOnce bound) result count ∧
      Takes bus s (waitReleased bound) count (result.map fun reply => decide (reply ≠ 0)) := by
  refine takes_await rfl (fun polls => ?_) bus s (atLeastOnce bound)
  rw [waitWithin]
  congr 1
  funext reply
  split
  · rfl
  · rename_i hreply
    simp [hreply]

/-! ## Strings of bytes and responses -/

/-- What becomes of `n` bytes that are asked for, and how many answers that takes: all of them come
in, or a fault comes first. -/
inductive Supplied (answers : Answers ε) (n : Nat) : Except ε (Bytes n) → Nat → Prop
  | whole {bytes : Bytes n} : (∀ j (h : j < n), answers j = .ok bytes[j]) →
      Supplied answers n (.ok bytes) n
  | broken {k fault} : k < n → (∀ j < k, ∃ reply, answers j = .ok reply) →
      answers k = .error fault → Supplied answers n (.error fault) (k + 1)

theorem Supplied.cons {answers others : Answers ε} {n count : Nat} {first : UInt8}
    {rest : Except ε (Bytes n)} (h : Supplied others n rest count) (hfirst : answers 0 = .ok first)
    (hothers : ∀ k, others k = answers (1 + k)) :
    Supplied answers (n + 1) (rest.map (Bytes.cons first)) (1 + count) := by
  have hlater : ∀ k, answers (k + 1) = others k := fun k => by rw [hothers, Nat.add_comm]
  cases h with
  | @whole bytes hall =>
    rw [Nat.add_comm 1]
    refine .whole fun j hj => ?_
    cases j with
    | zero => rw [hfirst, Bytes.getElem_cons_zero]
    | succ j =>
      rw [hlater, hall j (by omega)]
      simp [Bytes.cons]
  | @broken k fault hk hbefore hfault =>
    rw [Nat.add_comm 1]
    refine .broken (Nat.succ_lt_succ hk) (fun j hj => ?_) (hlater k ▸ hfault)
    cases j with
    | zero => exact ⟨first, hfirst⟩
    | succ j =>
      rw [hlater]
      exact hbefore j (Nat.lt_of_succ_lt_succ hj)

theorem takes_receive (bus : Bus ε σ) (s : σ) (n : Nat) :
    ∃ result count, Supplied (bus.answers s) n result count ∧
      Takes bus s (receive n) count result := by
  induction n generalizing s with
  | zero =>
    exact ⟨.ok #v[], 0, .whole fun j hj => absurd hj (Nat.not_lt_zero j), takes_pure _⟩
  | succ n ih =>
    have hbyte : Takes bus s receiveByte 1 (bus.answers s 0) := takes_receiveByte
    cases hanswer : bus.answers s 0 with
    | error fault =>
      rw [hanswer] at hbyte
      refine ⟨.error fault, 1, .broken (Nat.succ_pos n) (fun j hj => ?_) hanswer, hbyte.bind_error⟩
      exact absurd hj (Nat.not_lt_zero j)
    | ok first =>
      rw [hanswer] at hbyte
      obtain ⟨rest, count, hsupplied, htakes⟩ := ih (bus.asked s 1)
      exact ⟨rest.map (Bytes.cons first), 1 + count, hsupplied.cons hanswer (bus.answers_asked s 1),
        hbyte.bind_ok (htakes.map _)⟩

/-- What becomes of a buffer into which a response is read. -/
inductive Responded (answers : Answers ε) (polls : Nat) :
    {n : Nat} → Bytes n → Except ε (Bytes n) → Nat → Prop
  /-- A buffer without room takes no answers. -/
  | empty {buffer : Bytes 0} : Responded answers polls buffer (.ok buffer) 0
  /-- No byte comes: the idle byte goes to the front, and the rest stays as it is. -/
  | unanswered {n : Nat} {buffer : Bytes (n + 1)} : (∀ j < polls, answers j = .ok idleByte) →
      Responded answers polls buffer (.ok (buffer.set 0 idleByte n.succ_pos)) polls
  | broken {n : Nat} {buffer : Bytes (n + 1)} {fault heard} :
      Awaited idleByte answers polls (.error fault) heard →
      Responded answers polls buffer (.error fault) heard
  /-- The first byte that is not idle goes to the front, and all that follow it behind it. -/
  | answered {n : Nat} {buffer : Bytes (n + 1)} {first heard rest count} :
      Awaited idleByte answers polls (.ok first) heard → first ≠ idleByte →
      Supplied (fun j => answers (heard + j)) n rest count →
      Responded answers polls buffer (rest.map (Bytes.cons first)) (heard + count)

theorem takes_receiveResponse (bus : Bus ε σ) (s : σ) (bound : UInt32) {n : Nat}
    (buffer : Bytes n) :
    ∃ result count, Responded (bus.answers s) (atLeastOnce bound) buffer result count ∧
      Takes bus s (receiveResponse bound buffer) count result := by
  cases n with
  | zero => exact ⟨.ok buffer, 0, .empty, takes_pure buffer⟩
  | succ n =>
    obtain ⟨result, heard, hawaited, hpoll⟩ := takes_poll bus s bound
    cases result with
    | error fault => exact ⟨.error fault, heard, .broken hawaited, hpoll.bind_error⟩
    | ok first =>
      by_cases hidle : first = idleByte
      · obtain ⟨hall, rfl⟩ := hawaited.exhausted_of_eq (congrArg _ hidle)
        refine ⟨_, _, .unanswered hall, hpoll.bind_ok (n := 0) ?_⟩
        rw [if_pos hidle, hidle]
        exact takes_pure _
      · obtain ⟨rest, count, hsupplied, htakes⟩ := takes_receive bus (bus.asked s heard) n
        have hfollow : bus.answers (bus.asked s heard) = fun j => bus.answers s (heard + j) :=
          funext (bus.answers_asked s heard)
        rw [hfollow] at hsupplied
        refine ⟨_, _, .answered hawaited hidle hsupplied, hpoll.bind_ok ?_⟩
        rw [if_neg hidle]
        exact htakes.map _

/-- Whatever a bus answers, the exchanges that wait for a card take exactly the answers that they
tell of. They shift nothing but idle bytes; what ends a wait is the first answer that is not the
byte passed over; and a fault is the last answer that is taken. -/
theorem polling_course (bus : Bus ε σ) (s : σ) (bound : UInt32) :
    (∃ result count, Awaited 0xFF (bus.answers s) (max bound.toNat 1) result count ∧
      Takes bus s (poll bound) count result) ∧
    (∀ {n : Nat} (buffer : Bytes n), ∃ result count,
      Responded (bus.answers s) (max bound.toNat 1) buffer result count ∧
      Takes bus s (receiveResponse bound buffer) count result) ∧
    ∃ result count, Awaited 0x00 (bus.answers s) (max bound.toNat 1) result count ∧
      Takes bus s (waitReleased bound) count (result.map fun reply => decide (reply ≠ 0x00)) :=
  ⟨takes_poll bus s bound, takes_receiveResponse bus s bound, takes_waitReleased bus s bound⟩

end Exchange

end SdCard
