import SdCard.Proofs.Bus.Faults
import SdCard.Proofs.Bus.Hearing

/-!
# Attempts to reset a card

CMD0 is sent until the card is idle or the attempts have run out. What each attempt drew can be told
from the calls of the bus alone: `resetReplies` lists, for each CMD0, the replies that were polled
for its response.

* `Resets.append`, `resets_held`: the attempts of a run are those of its parts, and the talk with a
  selected card is one if it begins with CMD0;
* `polledAnswer`: what a poll makes of its replies, which is the idle byte if all of them are idle;
* `Exchange.answers_sendAndPoll`: the response to a command is what the poll makes of the replies
  after its frame.
-/

namespace SdCard

variable {ε α β : Type}

/-! ## Attempts among calls -/

/-- For each CMD0 among the calls, the replies that were polled for its response: those that came
after the six bytes of its frame, and before the card was let go of. -/
def resetReplies : List (Event ε) → List (List UInt8)
  | [] => []
  | event :: t =>
    if event.selects && sendsReset t then
      (received (t.takeWhile fun event => !event.releases)).drop 6 :: resetReplies t
    else
      resetReplies t

/-- What a poll makes of the replies to it: the first that is not idle, or else the idle byte. -/
def polledAnswer (replies : List UInt8) : UInt8 := (replies.find? (· ≠ 0xFF)).getD 0xFF

@[simp] theorem polledAnswer_nil : polledAnswer [] = 0xFF := rfl

theorem polledAnswer_cons (reply : UInt8) (replies : List UInt8) :
    polledAnswer (reply :: replies) = if reply = 0xFF then polledAnswer replies else reply := by
  unfold polledAnswer
  rw [List.find?_cons]
  by_cases h : reply = 0xFF
  · simp [h]
  · simp [h]

/-- The idle byte is the answer if there is no other one. -/
theorem polledAnswer_eq_idle_iff {replies : List UInt8} :
    polledAnswer replies = 0xFF ↔ ∀ reply ∈ replies, reply = 0xFF := by
  induction replies with
  | nil => simp
  | cons reply replies ih =>
    rw [polledAnswer_cons, List.forall_mem_cons]
    by_cases h : reply = 0xFF
    · rw [if_pos h, ih]
      simp [h]
    · rw [if_neg h]
      simp [h]

/-- These are the attempts of the part, whatever comes after it. -/
def Resets (t : List (Event ε)) (attempts : List (List UInt8)) : Prop :=
  ∀ u, resetReplies (t ++ u) = attempts ++ resetReplies u

theorem Resets.eq {t : List (Event ε)} {attempts : List (List UInt8)} (h : Resets t attempts) :
    resetReplies t = attempts := by
  simpa [resetReplies] using h []

theorem resets_nil : Resets ([] : List (Event ε)) [] := fun _ => rfl

theorem Resets.append {t u : List (Event ε)} {attempts others : List (List UInt8)}
    (ht : Resets t attempts) (hu : Resets u others) : Resets (t ++ u) (attempts ++ others) := by
  intro v
  rw [List.append_assoc, ht, hu, List.append_assoc]

/-- More events without an attempt make no difference. -/
theorem Resets.append_nil {t u : List (Event ε)} {attempts : List (List UInt8)}
    (ht : Resets t attempts) (hu : Resets u []) : Resets (t ++ u) attempts := by
  simpa using ht.append hu

/-- Nothing is sent to a card that is not selected. -/
theorem resets_of_not_selects {t : List (Event ε)} (h : ∀ event ∈ t, event.selects = false) :
    Resets t [] := by
  intro u
  induction t with
  | nil => rfl
  | cons event t ih =>
    rw [List.forall_mem_cons] at h
    rw [List.cons_append, resetReplies, h.1, Bool.false_and, if_neg Bool.false_ne_true]
    exact ih h.2

theorem resets_of_busCalls_nil {t : List (Event ε)} (h : busCalls t = []) : Resets t [] := by
  apply resets_of_not_selects
  intro event hevent
  obtain ⟨record, rfl⟩ := logs_of_busCalls_nil h event hevent
  rfl

/-- Log records are no attempts. -/
theorem resetReplies_append (t : List (Event ε)) {u : List (Event ε)} (hu : busCalls u = []) :
    resetReplies (t ++ u) = resetReplies t := by
  induction t with
  | nil => exact (resets_of_busCalls_nil hu).eq
  | cons event t ih =>
    have hsends : sendsReset (t ++ u) = sendsReset t := by
      cases t with
      | cons event t => cases event <;> rfl
      | nil =>
        cases u with
        | nil => rfl
        | cons event u =>
          cases event with
          | log => rfl
          | control | transfer | fifoBusy => cases hu
    rw [List.cons_append, resetReplies, resetReplies, hsends, ih, received_takeWhile_append t hu]

theorem Talk.not_selects {t : List (Event ε)} {ending : Option ε} (ht : Talk t ending) :
    ∀ event ∈ t, event.selects = false := by
  intro event hevent
  obtain ⟨byte, answer, rfl⟩ := ht.transfers event hevent
  rfl

theorem Drained.not_selects {polls : Nat} {t : List (Event ε)} (ht : Drained polls t) :
    ∀ event ∈ t, event.selects = false := by
  intro event hevent
  obtain ⟨busy, rfl⟩ := ht.queries event hevent
  rfl

theorem Idled.not_selects {t : List (Event ε)} (ht : Idled t) :
    ∀ event ∈ t, event.selects = false := (Talk.whole ht.shifted).not_selects

theorem WakeUp.not_selects {chipSelect : UInt8} {count : Nat} {t : List (Event ε)}
    {ending : Option ε} (ht : WakeUp chipSelect count t ending) :
    ∀ event ∈ t, event.selects = false := by
  cases ht with
  | notReleased => simp [Event.selects]
  | whole hidles => simpa [Event.selects, or_imp, forall_and] using hidles.not_selects
  | broken hidles => simpa [Event.selects, or_imp, forall_and] using hidles.not_selects
  | notNamed hidles => simpa [Event.selects, or_imp, forall_and] using hidles.not_selects

/-- The talk with a selected card is an attempt if it begins with CMD0. -/
theorem resets_held {talk queries : List (Event ε)} {ending : Option ε}
    {released : Except ε Unit} {reply : Except ε UInt8} {attempts : List (List UInt8)}
    (htalk : Talk talk ending) (hqueries : Drained drainPolls queries)
    (hattempts : attempts = if sendsReset talk then [(received talk).drop 6] else []) :
    Resets (.control (.forceSelect true) (.ok ()) :: (talk ++ queries ++
      [.control (.forceSelect false) released, .transfer idleByte reply])) attempts := by
  intro u
  let rest : List (Event ε) := talk ++ queries ++
    [.control (.forceSelect false) released, .transfer idleByte reply]
  have hsends : sendsReset (rest ++ u) = sendsReset talk := by
    -- where there was no talk, the first event is a query
    cases talk with
    | nil =>
      obtain ⟨k, busy, rfl, -, -⟩ := hqueries
      cases k <;> rfl
    | cons event talk => cases event <;> rfl
  have hkept : ∀ event ∈ talk ++ queries, (!event.releases) = true := by
    rw [List.forall_mem_append]
    exact ⟨fun event h => by rw [htalk.not_releases event h]; rfl,
      fun event h => by rw [hqueries.not_releases event h]; rfl⟩
  have htaken : (rest ++ u).takeWhile (fun event => !event.releases) = talk ++ queries := by
    rw [List.append_assoc, List.takeWhile_append_of_pos hkept, List.cons_append,
      List.takeWhile_cons_of_neg (by simp [Event.releases]), List.append_nil]
  have hrest : Resets rest [] := by
    refine resets_of_not_selects ?_
    rw [List.forall_mem_append, List.forall_mem_append]
    exact ⟨⟨htalk.not_selects, hqueries.not_selects⟩, by simp [Event.selects]⟩
  change (if sendsReset (rest ++ u) then
      (received ((rest ++ u).takeWhile _)).drop 6 :: resetReplies (rest ++ u)
    else resetReplies (rest ++ u)) = _
  rw [hsends, htaken, hrest, received_append, hqueries.received_nil, List.append_nil, hattempts]
  cases sendsReset talk <;> rfl

namespace Exchange

/-- The poll gives what `polledAnswer` makes of its replies. -/
theorem answers_pollWithin (polls : Nat) : (pollWithin polls : Exchange ε UInt8).Satisfies
    fun t result => ∀ reply, result = .ok reply → reply = polledAnswer (received t) := by
  induction polls with
  | zero => exact satisfies_pure fun reply h => by cases h; rfl
  | succ polls ih =>
    have hrest : ∀ first, (if first = idleByte then pollWithin polls else pure first :
        Exchange ε UInt8).Satisfies fun t result => ∀ reply, result = .ok reply →
          reply = polledAnswer (first :: received t) := by
      intro first
      split
      · rename_i hidle
        rw [hidle]
        exact ih
      · rename_i hfirst
        refine satisfies_pure fun reply h => ?_
        cases h
        exact ((polledAnswer_cons first []).trans (if_neg hfirst)).symm
    refine Satisfies.bind (one_transfer idleByte) hrest ?_ ?_
    · rintro t fault rfl
      exact nofun
    · rintro t first u result rfl hu
      exact hu

/-- The poll for the response to a command comes after the six replies to its frame. -/
theorem answers_sendAndPoll (command : Command) (bound : UInt32) :
    (do
      sendCommand command
      poll bound : Exchange ε UInt8).Satisfies fun t result =>
        ∀ reply, result = .ok reply → reply = polledAnswer ((received t).drop 6) := by
  refine Satisfies.bind (counted_send _) (fun _ => answers_pollWithin _) (fun _ _ _ => nofun) ?_
  intro t _ u result ht hu
  have hcount : (received t).length = 6 := (ht.2 rfl).trans Vector.length_toList
  rwa [received_append, List.drop_left' hcount]

end Exchange

end SdCard
