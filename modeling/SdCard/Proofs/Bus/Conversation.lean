import SdCard.Command.Exchange
import SdCard.Proofs.Bus.Contract

/-!
# Conversations with a card

The calls of an operation on the bus are not an arbitrary sequence. This file gives their grammar,
from the inside out:

* `Talk`: bytes shifted one after the other, up to the first fault;
* `Bracket`: the select line is driven, there is some talk, the output queue is drained, the line
  is let go, and one idle byte follows; or the line cannot be driven, and that is all;
* `WakeUp`: idle bytes with no card named, between the two chip selects around them;
* `Attempt`: a wake-up, and the bracket of the CMD0 that it is for;
* `Conversation`: settings of the bus, attempts, and brackets without CMD0 in turn, up to the first
  fault. So every CMD0 has its own wake-up just before it, and there is no other wake-up.

Each carries the fault that ended it, if one did. Faults met while letting go of a card are no
such fault: the conversation goes on after them.
-/

namespace SdCard

variable {ε α β : Type}

/-- The bus calls among some events: all of them but log records. -/
def busCalls (t : List (Event ε)) : List (Event ε) :=
  t.filter fun
    | .log _ => false
    | _ => true

@[simp] theorem busCalls_nil : busCalls ([] : List (Event ε)) = [] := rfl

@[simp] theorem busCalls_append (t u : List (Event ε)) :
    busCalls (t ++ u) = busCalls t ++ busCalls u := List.filter_append ..

@[simp] theorem busCalls_log (record : LogRecord ε) (t : List (Event ε)) :
    busCalls (.log record :: t) = busCalls t := rfl

/-- Bytes shifted out one after the other, none of which met a fault. -/
def Shifted (t : List (Event ε)) : Prop :=
  ∀ event ∈ t, ∃ byte reply, event = .transfer byte (.ok reply)

/-- What goes over the bus while a card is selected: transfers, of which only the last can fail. -/
inductive Talk : List (Event ε) → Option ε → Prop
  | whole {t} : Shifted t → Talk t none
  | broken {t byte fault} :
      Shifted t → Talk (t ++ [.transfer byte (.error fault)]) (some fault)

/-- The output queue is asked until it is no longer busy, but at most `polls + 1` times. -/
def Drained (polls : Nat) (t : List (Event ε)) : Prop :=
  ∃ k busy, t = List.replicate k (.fifoBusy true) ++ [.fifoBusy busy] ∧ k ≤ polls ∧
    (busy = true → k = polls)

/-- One use of the select line. -/
inductive Bracket : List (Event ε) → Option ε → Prop
  /-- The line is let go of after any talk. -/
  | held {talk queries released reply ending} :
      Talk talk ending → Drained drainPolls queries →
      Bracket (.control (.forceSelect true) (.ok ()) :: (talk ++ queries ++
        [.control (.forceSelect false) released, .transfer idleByte reply])) ending
  /-- The line was never driven, so there is nothing to let go of. -/
  | refused {fault} : Bracket [.control (.forceSelect true) (.error fault)] (some fault)

/-- Idle bytes shifted out, none of which met a fault. -/
def Idled (t : List (Event ε)) : Prop :=
  ∀ event ∈ t, ∃ reply, event = .transfer idleByte (.ok reply)

/-- `count` idle bytes for a card to wake up, while it is not named. -/
inductive WakeUp (chipSelect : UInt8) (count : Nat) : List (Event ε) → Option ε → Prop
  | whole {idles} : Idled idles → idles.length = count →
      WakeUp chipSelect count (.control (.chipSelect chipSelect false) (.ok ()) :: (idles ++
        [.control (.chipSelect chipSelect true) (.ok ())])) none
  | notReleased {fault} :
      WakeUp chipSelect count [.control (.chipSelect chipSelect false) (.error fault)] (some fault)
  | broken {idles fault} : Idled idles → idles.length < count →
      WakeUp chipSelect count (.control (.chipSelect chipSelect false) (.ok ()) :: (idles ++
        [.transfer idleByte (.error fault)])) (some fault)
  | notNamed {idles fault} : Idled idles → idles.length = count →
      WakeUp chipSelect count (.control (.chipSelect chipSelect false) (.ok ()) :: (idles ++
        [.control (.chipSelect chipSelect true) (.error fault)])) (some fault)

/-- The event drives the select line. -/
def Event.selects : Event ε → Bool
  | .control (.forceSelect true) (.ok ()) => true
  | _ => false

/-- The first byte that is shifted is that of CMD0. -/
def sendsReset : List (Event ε) → Bool
  | .transfer byte _ :: _ => byte = 0x40
  | _ => false

/-- The select line is driven, and the first byte after that is that of CMD0. -/
def opensReset : List (Event ε) → Bool
  | event :: t => event.selects && sendsReset t
  | [] => false

/-- The bracket in which CMD0 is sent, unless the line cannot be driven for it. -/
inductive ResetBracket : List (Event ε) → Option ε → Prop
  | held {t ending} : Bracket t ending → opensReset t = true → ResetBracket t ending
  | refused {fault} : ResetBracket [.control (.forceSelect true) (.error fault)] (some fault)

/-- How a card is woken up where that may happen at all: its index, and the number of bytes. -/
structure Waking where
  chipSelect : UInt8
  count : Nat

/-- One attempt to reset a card: it is woken up, and then CMD0 is sent. -/
inductive Attempt (wake : Waking) : List (Event ε) → Option ε → Prop
  | asleep {t fault} : WakeUp wake.chipSelect wake.count t (some fault) →
      Attempt wake t (some fault)
  | woken {t u ending} : WakeUp wake.chipSelect wake.count t none → ResetBracket u ending →
      Attempt wake (t ++ u) ending

/-- One part of a conversation. -/
inductive Piece (waking : Option Waking) : List (Event ε) → Option ε → Prop
  | mode {mode} : Piece waking [.control (.mode mode) (.ok ())] none
  | modeFault {mode fault} : Piece waking [.control (.mode mode) (.error fault)] (some fault)
  | clock {hz} : Piece waking [.control (.clock hz) (.ok ())] none
  | clockFault {hz fault} : Piece waking [.control (.clock hz) (.error fault)] (some fault)
  | attempt {wake t ending} : waking = some wake → Attempt wake t ending → Piece waking t ending
  | bracket {t ending} : Bracket t ending → opensReset t = false → Piece waking t ending

/-- All calls of an operation: whole parts in turn, and at most one cut short by a fault, which is
then the last. -/
inductive Conversation (waking : Option Waking) : List (Event ε) → Option ε → Prop
  | nil : Conversation waking [] none
  | next {t u ending} : Piece waking t none → Conversation waking u ending →
      Conversation waking (t ++ u) ending
  | stop {t fault} : Piece waking t (some fault) → Conversation waking t (some fault)

namespace Exchange

/-- The fault that an exchange ended with. -/
def fault? : Except ε α → Option ε
  | .ok _ => none
  | .error fault => some fault

end Exchange

/-! ## Talk -/

theorem Shifted.nil : Shifted ([] : List (Event ε)) := by
  intro event h
  cases h

theorem Shifted.append {t u : List (Event ε)} (ht : Shifted t) (hu : Shifted u) :
    Shifted (t ++ u) := by
  intro event h
  rcases List.mem_append.mp h with h | h
  · exact ht event h
  · exact hu event h

theorem Talk.nil : Talk ([] : List (Event ε)) none := .whole .nil

/-- Talk is made of transfers. -/
theorem Talk.transfers {t : List (Event ε)} {ending : Option ε} (ht : Talk t ending) :
    ∀ event ∈ t, ∃ byte answer, event = .transfer byte answer := by
  have hshifted : ∀ {u : List (Event ε)}, Shifted u →
      ∀ event ∈ u, ∃ byte answer, event = .transfer byte answer := by
    intro u hu event hevent
    obtain ⟨byte, reply, rfl⟩ := hu event hevent
    exact ⟨byte, .ok reply, rfl⟩
  cases ht with
  | whole ht => exact hshifted ht
  | @broken u byte fault ht =>
    intro event hevent
    rcases List.mem_append.mp hevent with hevent | hevent
    · exact hshifted ht event hevent
    · exact ⟨byte, .error fault, List.mem_singleton.mp hevent⟩

/-- Talk that met no fault goes on with more talk. -/
theorem Talk.append {t u : List (Event ε)} {ending : Option ε} (ht : Talk t none)
    (hu : Talk u ending) : Talk (t ++ u) ending := by
  cases ht with
  | whole ht =>
    cases hu with
    | whole hu => exact .whole (ht.append hu)
    | broken hu =>
      rw [← List.append_assoc]
      exact .broken (ht.append hu)

namespace Exchange

/-- On the bus the exchange is nothing but talk, and it ends at the first fault of it. -/
def Talks (exchange : Exchange ε α) : Prop :=
  exchange.Satisfies fun t result => Talk t (fault? result)

theorem talks_pure (value : α) : (pure value : Exchange ε α).Talks := satisfies_pure .nil

theorem talks_transfer (byte : UInt8) : (transfer byte : Exchange ε UInt8).Talks := by
  apply satisfies_transfer
  intro answer
  cases answer with
  | ok reply =>
    refine .whole fun event h => ⟨byte, reply, ?_⟩
    simpa using h
  | error fault => exact .broken (t := []) .nil

theorem Talks.bind {exchange : Exchange ε α} {f : α → Exchange ε β} (hexchange : exchange.Talks)
    (hf : ∀ value, (f value).Talks) : (exchange >>= f).Talks :=
  Satisfies.bind hexchange hf (fun _ _ h => h) fun _ _ _ _ ht hu => ht.append hu

theorem talks_send (bytes : List UInt8) : (send bytes : Exchange ε Unit).Talks := by
  induction bytes with
  | nil => exact talks_pure ()
  | cons byte bytes ih =>
    exact Talks.bind (Talks.bind (talks_transfer byte) fun _ => talks_pure ()) fun _ => ih

theorem talks_receive (n : Nat) : (receive n : Exchange ε (Bytes n)).Talks := by
  induction n with
  | zero => exact talks_pure _
  | succ n ih =>
    exact Talks.bind (talks_transfer idleByte) fun _ => Talks.bind ih fun _ => talks_pure _

theorem talks_pollWithin (polls : Nat) : (pollWithin polls : Exchange ε UInt8).Talks := by
  induction polls with
  | zero => exact talks_pure _
  | succ polls ih =>
    refine Talks.bind (talks_transfer idleByte) fun reply => ?_
    split
    · exact ih
    · exact talks_pure _

theorem talks_poll (bound : UInt32) : (poll bound : Exchange ε UInt8).Talks :=
  talks_pollWithin _

theorem talks_waitReleased (bound : UInt32) : (waitReleased bound : Exchange ε Bool).Talks := by
  unfold waitReleased
  induction atLeastOnce bound with
  | zero => exact talks_pure _
  | succ polls ih =>
    refine Talks.bind (talks_transfer idleByte) fun reply => ?_
    split
    · exact ih
    · exact talks_pure _

theorem talks_sendCommand (command : Command) : (sendCommand command : Exchange ε Unit).Talks :=
  talks_send _

theorem opens_sendCommand (command : Command) :
    (sendCommand command : Exchange ε Unit).Opens (0x40 ||| (command.index &&& 0x3F)) := by
  have htransfer : ∀ byte, (transfer byte : Exchange ε UInt8).Opens byte :=
    fun byte => satisfies_transfer fun answer => ⟨answer, [], rfl⟩
  exact ((htransfer _).bind _).bind _

theorem talks_receiveResponse (bound : UInt32) {n : Nat} (buffer : Bytes n) :
    (receiveResponse bound buffer : Exchange ε (Bytes n)).Talks := by
  cases n with
  | zero => exact talks_pure _
  | succ n =>
    refine Talks.bind (talks_poll bound) fun first => ?_
    split
    · exact talks_pure _
    · exact Talks.bind (talks_receive n) fun _ => talks_pure _

theorem talks_sendApplicationCommand (bound : UInt32) (command : Command) :
    (sendApplicationCommand bound command : Exchange ε UInt8).Talks := by
  refine Talks.bind (talks_sendCommand _) fun _ => Talks.bind (talks_poll bound) fun announced => ?_
  split
  · exact Talks.bind (talks_sendCommand command) fun _ => talks_poll bound
  · exact talks_pure _

end Exchange

/-! ## Brackets -/

/-- Draining asks at least once, and stops at the first answer that is not busy. -/
theorem drained_of_traces {polls : Nat} {t : List (Event ε)}
    (ht : Program.Traces (Program.drain polls) t ()) : Drained polls t := by
  induction polls generalizing t with
  | zero =>
    cases ht with
    | @fifoBusy _ answer _ _ ht =>
      cases ht
      exact ⟨0, answer, rfl, Nat.le_refl 0, fun _ => rfl⟩
  | succ polls ih =>
    cases ht with
    | @fifoBusy _ answer _ _ ht =>
      cases answer with
      | false =>
        cases ht
        exact ⟨0, false, rfl, Nat.zero_le _, fun h => nomatch h⟩
      | true =>
        obtain ⟨k, busy, rfl, hk, hbusy⟩ := ih ht
        -- a queue that is still busy at the end has been asked as often as may be
        refine ⟨k + 1, busy, rfl, by omega, fun h => ?_⟩
        rw [hbusy h]

/-- Nothing is done but to ask the output queue. -/
theorem Drained.queries {polls : Nat} {t : List (Event ε)} (ht : Drained polls t) :
    ∀ event ∈ t, ∃ busy, event = .fifoBusy busy := by
  obtain ⟨k, busy, rfl, -, -⟩ := ht
  rw [List.forall_mem_append, List.forall_mem_singleton]
  exact ⟨fun event hevent => ⟨true, List.eq_of_mem_replicate hevent⟩, busy, rfl⟩

/-- Selecting a card for a body gives a bracket around what the body says, and the result is the
body's; where the line cannot be driven, the result is the refusal. -/
theorem traces_whileSelected {refused : ε → α} {body : Program ε α} {t : List (Event ε)}
    {value : α} (ht : Program.Traces (Program.whileSelected refused body) t value) :
    (∃ fault, value = refused fault ∧ t = [.control (.forceSelect true) (.error fault)]) ∨
    ∃ talk queries released reply, Program.Traces body talk value ∧ Drained drainPolls queries ∧
      t = .control (.forceSelect true) (.ok ()) :: (talk ++ queries ++
        [.control (.forceSelect false) released, .transfer idleByte reply]) := by
  unfold Program.whileSelected at ht
  cases ht with
  | @control _ _ answer t _ ht =>
    cases answer with
    | error fault =>
      cases ht
      exact .inl ⟨fault, rfl, rfl⟩
    | ok =>
      right
      -- the run is that of the body, then of the drain, then of the two calls of the release
      obtain ⟨talk, u, result, rfl, hbody, hrest⟩ := Program.traces_bind_iff.mp ht
      obtain ⟨v, w, _, rfl, hrelease, hdone⟩ := Program.traces_bind_iff.mp hrest
      cases hdone
      obtain ⟨queries, x, _, rfl, hdrain, hlet⟩ := Program.traces_bind_iff.mp hrelease
      cases hlet with
      | @control _ _ released _ _ hidle =>
        cases hidle with
        | @transfer _ _ reply _ _ hdone =>
          cases hdone
          refine ⟨talk, queries, released, reply, hbody, drained_of_traces hdrain, ?_⟩
          simp

theorem Exchange.bracket_whileSelected {body : Exchange ε α} (hbody : body.Talks) :
    (Exchange.whileSelected body).Satisfies fun t result => Bracket t (fault? result) := by
  intro t result ht
  rcases traces_whileSelected ht with ⟨fault, rfl, rfl⟩ |
    ⟨talk, queries, released, reply, hrun, hdrained, rfl⟩
  · exact .refused
  · exact .held (hbody _ _ hrun) hdrained

/-- What is sent to the card that is selected begins with the first byte of the body. -/
theorem opensReset_held {byte : UInt8} {talk rest : List (Event ε)}
    (h : ∃ answer others, talk = .transfer byte answer :: others) :
    opensReset (.control (.forceSelect true) (.ok ()) :: (talk ++ rest)) =
      decide (byte = 0x40) := by
  obtain ⟨answer, others, rfl⟩ := h
  rfl

/-- Talk that begins with another byte is a bracket of the conversation around it. -/
theorem Piece.held {waking : Option Waking} {byte : UInt8} {talk queries : List (Event ε)}
    {ending : Option ε} (htalk : Talk talk ending) (hdrained : Drained drainPolls queries)
    (hopens : ∃ answer others, talk = .transfer byte answer :: others) (hbyte : byte ≠ 0x40)
    (released : Except ε Unit) (reply : Except ε UInt8) :
    Piece waking (.control (.forceSelect true) (.ok ()) :: (talk ++ queries ++
      [.control (.forceSelect false) released, .transfer idleByte reply])) ending := by
  refine .bracket (.held htalk hdrained) ?_
  rw [List.append_assoc, opensReset_held hopens, decide_eq_false hbyte]

theorem Exchange.piece_whileSelected {body : Exchange ε α} {byte : UInt8} (hbody : body.Talks)
    (hopens : body.Opens byte) (hbyte : byte ≠ 0x40) (waking : Option Waking) :
    (Exchange.whileSelected body).Satisfies fun t result => Piece waking t (fault? result) := by
  intro t result ht
  rcases traces_whileSelected ht with ⟨fault, rfl, rfl⟩ |
    ⟨talk, queries, released, reply, hrun, hdrained, rfl⟩
  · exact .bracket .refused rfl
  · exact .held (hbody _ _ hrun) hdrained (hopens _ _ hrun) hbyte released reply

theorem Exchange.resetBracket_whileSelected {body : Exchange ε α} (hbody : body.Talks)
    (hopens : body.Opens 0x40) :
    (Exchange.whileSelected body).Satisfies fun t result => ResetBracket t (fault? result) := by
  intro t result ht
  rcases traces_whileSelected ht with ⟨fault, rfl, rfl⟩ |
    ⟨talk, queries, released, reply, hrun, hdrained, rfl⟩
  · exact .refused
  · refine .held (.held (hbody _ _ hrun) hdrained) ?_
    rw [List.append_assoc, opensReset_held (hopens _ _ hrun)]
    rfl

/-! ## Wake-ups -/

/-- Idle bytes are shifted until there are `count` of them or one meets a fault. -/
theorem Exchange.idled_sendIdle (count : Nat) :
    (sendIdle count : Exchange ε Unit).Satisfies fun t result =>
      match result with
      | .ok _ => Idled t ∧ t.length = count
      | .error fault => ∃ idles, t = idles ++ [.transfer idleByte (.error fault)] ∧ Idled idles ∧
          idles.length < count := by
  induction count with
  | zero => exact satisfies_pure ⟨fun event h => (nomatch h), rfl⟩
  | succ count ih =>
    -- a byte meets a fault or not; only in the second case do the others follow
    refine Satisfies.bind (one_sendByte idleByte) (fun _ => ih) ?_ ?_
    · rintro t fault ⟨answer, rfl, hanswer⟩
      cases answer with
      | ok reply => cases hanswer
      | error fault' =>
        cases hanswer
        exact ⟨[], rfl, fun event h => (nomatch h), by simp⟩
    · rintro t _ u result ⟨answer, rfl, hanswer⟩ hu
      cases answer with
      | error fault => cases hanswer
      | ok reply =>
        have hidle : ∀ v : List (Event ε), Idled v → Idled (.transfer idleByte (.ok reply) :: v) := by
          intro v hv event h
          rcases List.mem_cons.mp h with rfl | h
          · exact ⟨reply, rfl⟩
          · exact hv event h
        cases result with
        | ok => exact ⟨hidle u hu.1, by simp [hu.2]⟩
        | error fault =>
          obtain ⟨idles, rfl, hidles, hlength⟩ := hu
          exact ⟨_ :: idles, rfl, hidle idles hidles, by simpa using hlength⟩

theorem Exchange.wakeUp_powerUp (chipSelect : UInt8) (count : Nat) :
    (do
      Exchange.control (.chipSelect chipSelect false)
      Exchange.sendIdle count
      Exchange.control (.chipSelect chipSelect true) : Exchange ε Unit).Satisfies
      fun t result => WakeUp chipSelect count t (fault? result) := by
  have hcontrol : ∀ call, (control call : Exchange ε Unit).Satisfies
      fun t answer => t = [.control call answer] := fun _ => satisfies_control fun _ => rfl
  -- from the idle bytes on, everything comes after a chip select that met no fault
  have hrest : (do
      Exchange.sendIdle count
      Exchange.control (.chipSelect chipSelect true) : Exchange ε Unit).Satisfies
      fun t result => WakeUp chipSelect count
        (.control (.chipSelect chipSelect false) (.ok ()) :: t) (fault? result) := by
    refine Satisfies.bind (idled_sendIdle count) (fun _ => hcontrol _) ?_ ?_
    · rintro t fault ⟨idles, rfl, hidles, hlength⟩
      exact .broken hidles hlength
    · rintro t _ u answer ⟨hidles, hlength⟩ rfl
      cases answer with
      | ok => exact .whole hidles hlength
      | error fault => exact .notNamed hidles hlength
  refine Satisfies.bind (hcontrol _) (fun _ => hrest) ?_ ?_
  · rintro t fault rfl
    exact .notReleased
  · rintro t _ u result rfl hu
    exact hu

/-! ## Conversations -/

/-- A conversation that met no fault goes on with another one. -/
theorem Conversation.append {waking : Option Waking} {t u : List (Event ε)} {ending : Option ε}
    (ht : Conversation waking t none) (hu : Conversation waking u ending) :
    Conversation waking (t ++ u) ending := by
  -- the ending is generalized, since it is an index that the induction has to vary
  generalize hnone : (none : Option ε) = ended at ht
  induction ht with
  | nil => exact hu
  | next hpiece _ ih =>
    rw [List.append_assoc]
    exact .next hpiece (ih hnone)
  | stop => cases hnone

theorem Piece.conversation {waking : Option Waking} {t : List (Event ε)} {ending : Option ε}
    (ht : Piece waking t ending) : Conversation waking t ending := by
  cases ending with
  | none => simpa using Conversation.next ht .nil
  | some fault => exact .stop ht

/-! ## No part of a conversation is a log record -/

/-- Where no call is made, there are log records at most. -/
theorem logs_of_busCalls_nil {t : List (Event ε)} (h : busCalls t = []) :
    ∀ event ∈ t, ∃ record, event = .log record := by
  intro event hevent
  have hlog := List.filter_eq_nil_iff.mp h event hevent
  cases event with
  | log record => exact ⟨record, rfl⟩
  | control | transfer | fifoBusy => exact absurd rfl hlog

theorem busCalls_eq_self {t : List (Event ε)} (h : ∀ record, .log record ∉ t) : busCalls t = t := by
  refine List.filter_eq_self.mpr fun event hevent => ?_
  cases event with
  | log record => exact absurd hevent (h record)
  | _ => rfl

theorem Shifted.log_notMem {t : List (Event ε)} (ht : Shifted t) (record : LogRecord ε) :
    .log record ∉ t := by
  intro h
  obtain ⟨byte, reply, heq⟩ := ht _ h
  cases heq

theorem Idled.shifted {t : List (Event ε)} (ht : Idled t) : Shifted t := by
  intro event h
  obtain ⟨reply, rfl⟩ := ht event h
  exact ⟨idleByte, reply, rfl⟩

theorem Talk.log_notMem {t : List (Event ε)} {ending : Option ε} (ht : Talk t ending)
    (record : LogRecord ε) : .log record ∉ t := by
  intro h
  obtain ⟨byte, answer, heq⟩ := ht.transfers _ h
  cases heq

theorem Drained.log_notMem {polls : Nat} {t : List (Event ε)} (ht : Drained polls t)
    (record : LogRecord ε) : .log record ∉ t := by
  intro h
  obtain ⟨busy, heq⟩ := ht.queries _ h
  cases heq

theorem WakeUp.log_notMem {chipSelect : UInt8} {count : Nat} {t : List (Event ε)}
    {ending : Option ε} (ht : WakeUp chipSelect count t ending) (record : LogRecord ε) :
    .log record ∉ t := by
  cases ht with
  | whole hidles => simpa using hidles.shifted.log_notMem record
  | notReleased => simp
  | broken hidles => simpa using hidles.shifted.log_notMem record
  | notNamed hidles => simpa using hidles.shifted.log_notMem record

theorem Bracket.log_notMem {t : List (Event ε)} {ending : Option ε} (ht : Bracket t ending)
    (record : LogRecord ε) : .log record ∉ t := by
  cases ht with
  | held htalk hdrained => simpa using ⟨htalk.log_notMem record, hdrained.log_notMem record⟩
  | refused => simp

theorem Attempt.log_notMem {wake : Waking} {t : List (Event ε)} {ending : Option ε}
    (ht : Attempt wake t ending) (record : LogRecord ε) : .log record ∉ t := by
  cases ht with
  | asleep ht => exact ht.log_notMem record
  | woken ht hu =>
    rw [List.mem_append, not_or]
    refine ⟨ht.log_notMem record, ?_⟩
    cases hu with
    | held hu => exact hu.log_notMem record
    | refused => simp

theorem Piece.log_notMem {waking : Option Waking} {t : List (Event ε)} {ending : Option ε}
    (ht : Piece waking t ending) (record : LogRecord ε) : .log record ∉ t := by
  cases ht with
  | mode => simp
  | modeFault => simp
  | clock => simp
  | clockFault => simp
  | attempt _ ht => exact ht.log_notMem record
  | bracket ht => exact ht.log_notMem record

end SdCard
