import SdCard.Proofs.Command.Speech
import SdCard.Proofs.Session.Operation

/-!
# What the actions of a session send

On any bus, whatever it answers and wherever it fails, an action of a session sends no more than so
many bytes and says no more than it is meant to. The budgets of the session decide how many bytes,
so both contracts are about sessions with a given configuration, and say that it stays.

* `Follows`: the card is selected, and the action keeps to a speech;
* `Speaks`: the card is not selected. The action sends at most so many bytes, and all that it says
  while it uses the select line is as it should be.
-/

namespace SdCard

variable {ε σ α β : Type}

/-! ## Uses of the select line -/

theorem sent_drained {polls : Nat} {t : List (Event ε)} (ht : Drained polls t) : sent t = [] := by
  apply List.filterMap_eq_nil_iff.mpr
  intro event hevent
  obtain ⟨busy, rfl⟩ := ht.queries event hevent
  rfl

/-- Queries of the output queue say nothing. -/
theorem foldl_hear_drained {polls : Nat} {t : List (Event ε)} (ht : Drained polls t)
    (listener : Listener) : t.foldl Listener.hear listener = listener := by
  obtain ⟨k, busy, rfl, -, -⟩ := ht
  rw [List.foldl_append]
  have hbusy : (List.replicate k (Event.fifoBusy true : Event ε)).foldl Listener.hear listener =
      listener := by
    induction k with
    | zero => rfl
    | succ k ih =>
      rw [List.replicate_succ, List.foldl_cons]
      exact ih
  rw [hbusy]
  rfl

/-- Where the select line cannot be driven, nothing is sent. -/
theorem says_refused (fault : ε) :
    Says [.control (.forceSelect true) (.error fault)] [] := fun before => by
  rw [List.append_nil]
  rfl

/-- Talk that keeps to a speech says a beginning of it, or all of it where the talk is complete. The
release sends one byte more and says nothing. -/
theorem exists_says_held {speech : Speech} {talk queries : List (Event ε)} {polls : Nat}
    {complete : Prop} {ending : Option ε} (htalk : Talk talk ending)
    (hkeeps : Keeps speech talk complete) (hqueries : Drained polls queries)
    (hproper : speech.Proper false) (released : Except ε Unit) (reply : Except ε UInt8) :
    let t := .control (.forceSelect true) (.ok ()) :: (talk ++ queries ++
      [.control (.forceSelect false) released, .transfer idleByte reply])
    (sent t).length ≤ speech.cost + 1 ∧
      ∃ said, Says t said ∧ said <+: speech.messages ∧ (complete → said = speech.messages) := by
  intro t
  obtain ⟨word, hspells, hsent, hall⟩ := hkeeps
  constructor
  · have hword : word.length ≤ speech.cost := Speech.length_le_cost hspells
    have htalked : (sent talk).length ≤ word.length := hsent.length_le
    have hbytes : sent t = sent talk ++ [idleByte] := by
      simp [t, sent_drained hqueries]
    rw [hbytes, List.length_append, List.length_singleton]
    omega
  · obtain ⟨said, hbegins, hsaid⟩ := Speech.messages_of_spells hspells hproper hsent
    refine ⟨said, fun before => ?_, hbegins, fun hcomplete => ?_⟩
    · -- what is left of the talk is dropped at the release, and only its messages stay
      have hdropped : t.foldl Listener.hear (.rest false before) =
          .rest false ((sent talk).foldl Listener.shift (.rest false before)).messages := by
        simp only [t, List.foldl_cons, List.foldl_append, List.foldl_nil,
          foldl_hear_drained hqueries, foldl_hear _ htalk.transfers]
        rfl
      rw [hdropped, hsaid]
    · obtain ⟨awaiting, hword⟩ := Speech.foldl_shift_spells [] hspells hproper
      rw [← hall hcomplete] at hword
      have hmessages := hsaid []
      rw [hword] at hmessages
      exact hmessages.symm

namespace Session

variable {view : σ → Session} {config : Config}

/-! ## Actions while the card is selected -/

/-- On sessions with this configuration, the action keeps to the speech. -/
def Follows (view : σ → Session) (config : Config) (speech : Speech) (action : Action ε σ α) :
    Prop :=
  action.Satisfies fun s t result s' => (view s).config = config →
    (view s').config = config ∧ Keeps speech t (result.isOk = true)

theorem follows_pure (value : α) :
    Follows view config [] (pure value : Action ε σ α) :=
  Action.satisfies_pure fun _ hconfig => ⟨hconfig, .nil _⟩

theorem follows_bind {speech more : Speech} {action : Action ε σ α} {f : α → Action ε σ β}
    (haction : Follows view config speech action)
    (hf : ∀ value, Follows view config more (f value)) :
    Follows view config (speech ++ more) (action >>= f) := by
  refine haction.bind hf ?_ ?_
  · intro s t error s' h hconfig
    exact ⟨(h hconfig).1, (h hconfig).2.broken more Bool.false_ne_true⟩
  · intro s t value s' u result s'' h₁ h₂ hconfig
    obtain ⟨hmiddle, ht⟩ := h₁ hconfig
    obtain ⟨hafter, hu⟩ := h₂ hmiddle
    exact ⟨hafter, ht.append rfl hu⟩

/-- Budgets that are looked up are those of the configuration. -/
theorem follows_get_bind {speech : Speech} {f : σ → Action ε σ α}
    (h : ∀ seen, (view seen).config = config → Follows view config speech (f seen)) :
    Follows view config speech (get >>= f) := by
  refine Action.satisfies_get_bind fun seen s t result s' ht hseen hconfig => ?_
  subst hseen
  exact h s hconfig s t result s' ht hconfig

theorem follows_modify {f : σ → σ} (h : ∀ s, (view (f s)).config = (view s).config) :
    Follows view config [] (modify f : Action ε σ Unit) :=
  Action.satisfies_modify fun s hconfig => ⟨(h s).trans hconfig, .nil _⟩

theorem follows_require {condition : Prop} [Decidable condition] {failure : Failure} :
    Follows view config [] (Action.require condition failure : Action ε σ Unit) :=
  Action.satisfies_require (fun _ _ hconfig => ⟨hconfig, .nil _⟩)
    fun _ _ hconfig => ⟨hconfig, .nil _⟩

theorem follows_exchange {speech : Speech} {exchange : Exchange ε α}
    (h : exchange.Follows speech) :
    Follows view config speech (Action.exchange exchange : Action ε σ α) := by
  refine Action.satisfies_exchange h fun s t result ht hconfig => ⟨hconfig, ?_⟩
  cases result with
  | ok value => exact ht
  | error fault => exact ht

theorem follows_inSession {n : Nat} {speech : Speech} {action : Action ε Session α}
    (h : Follows id config speech action) :
    Follows Reading.session config speech (Reading.inSession action : Action ε (Reading n) α) :=
  Action.satisfies_onPart h fun _ _ _ _ ht => ht

/-- What an action that sends nothing does first does not matter. -/
theorem follows_silent_bind {speech : Speech} {action : Action ε σ α} {f : α → Action ε σ β}
    (haction : Follows view config [] action)
    (hf : ∀ value, Follows view config speech (f value)) :
    Follows view config speech (action >>= f) := follows_bind haction hf

theorem follows_receiveInto {n : Nat} (index count : Nat) :
    Follows Reading.session config [.listen count]
      (Reading.receiveInto index count : Action ε (Reading n) Unit) := by
  induction count generalizing index with
  | zero => exact follows_exchange (Exchange.follows_silent () 0)
  | succ count ih =>
    have hbyte : Follows Reading.session config ([.listen 1] ++ [.listen count])
        (Reading.receiveInto index (count + 1) : Action ε (Reading n) Unit) :=
      follows_bind (follows_exchange Exchange.follows_receiveByte) fun byte =>
        follows_silent_bind (follows_modify fun _ => rfl) fun _ => ih (index + 1)
    intro s t result s' ht hconfig
    obtain ⟨hafter, word, hspells, hkeeps⟩ := hbyte s t result s' ht hconfig
    rw [Nat.add_comm]
    exact ⟨hafter, word, Speech.spells_listen hspells, hkeeps⟩

/-! ### What is said while the card is selected -/

/-- A read of one sector. -/
def readSpeech (config : Config) (address : UInt32) : Speech :=
  [.command (.readBlock address), .listen (atLeastOnce config.responsePolls),
    .listen (atLeastOnce config.tokenPolls), .listen sectorSize, .listen 2]

/-- A read of the CSD register. -/
def csdSpeech (config : Config) : Speech :=
  [.command .sendCsd, .listen (atLeastOnce config.responsePolls),
    .listen (atLeastOnce config.tokenPolls), .listen 16, .listen 2]

/-- A write of one sector. -/
def writeSpeech (config : Config) (address : UInt32) (sector : Sector) : Speech :=
  [.command (.writeBlock address), .listen (atLeastOnce config.responsePolls), .block sector,
    .listen 1, .listen (atLeastOnce config.busyPolls)]

/-- A time limit as a number of bytes is at least one byte, so a poll takes no more. -/
theorem atLeastOnce_bytesForMillis (hz millis : UInt32) :
    atLeastOnce (bytesForMillis hz millis) = (bytesForMillis hz millis).toNat := by
  have hpositive : bytesForMillis hz millis ≠ 0 := by
    unfold bytesForMillis
    dsimp only
    split
    · decide
    · assumption
  have hone : 1 ≤ (bytesForMillis hz millis).toNat :=
    Nat.one_le_iff_ne_zero.mpr fun h => hpositive (UInt32.toNat_inj.mp h)
  exact Nat.max_eq_left hone

theorem readSpeech_cost (config : Config) (address : UInt32) :
    (readSpeech config address).cost =
      atLeastOnce config.responsePolls + config.tokenPolls.toNat + 520 := by
  simp [readSpeech, Speech.cost, Phrase.cost, Config.tokenPolls, atLeastOnce_bytesForMillis,
    sectorSize]
  omega

theorem csdSpeech_cost (config : Config) :
    (csdSpeech config).cost =
      atLeastOnce config.responsePolls + config.tokenPolls.toNat + 24 := by
  simp [csdSpeech, Speech.cost, Phrase.cost, Config.tokenPolls, atLeastOnce_bytesForMillis]
  omega

theorem writeSpeech_cost (config : Config) (address : UInt32) (sector : Sector) :
    (writeSpeech config address sector).cost =
      atLeastOnce config.responsePolls + config.busyPolls.toNat + 523 := by
  simp [writeSpeech, Speech.cost, Phrase.cost, Config.busyPolls, atLeastOnce_bytesForMillis,
    sectorSize]
  omega

theorem readSpeech_messages (config : Config) (address : UInt32) :
    (readSpeech config address).messages = [.command 17 address] := by
  have hindex : (17 : UInt8) &&& 0x3F = 17 := by decide
  simp [readSpeech, Speech.messages, Phrase.message?, Command.readBlock, hindex]

theorem csdSpeech_messages (config : Config) :
    (csdSpeech config).messages = [.command 9 0] := by
  have hindex : (9 : UInt8) &&& 0x3F = 9 := by decide
  simp [csdSpeech, Speech.messages, Phrase.message?, Command.sendCsd, hindex]

theorem writeSpeech_messages (config : Config) (address : UInt32) (sector : Sector) :
    (writeSpeech config address sector).messages =
      [.command writeIndex address, .block sector.toList] := by
  have hindex : (24 : UInt8) &&& 0x3F = 24 := by decide
  simp [writeSpeech, Speech.messages, Phrase.message?, Command.writeBlock, hindex, writeIndex,
    List.filterMap_cons]

/-- The block comes after CMD24, which announces it. -/
theorem writeSpeech_proper (config : Config) (address : UInt32) (sector : Sector) :
    (writeSpeech config address sector).Proper false := by
  have hindex : (24 : UInt8) &&& 0x3F = 24 := by decide
  simp [writeSpeech, Speech.Proper, Command.writeBlock, hindex, writeIndex]

theorem follows_readSelected {n : Nat} (address : UInt32) :
    Follows Reading.session config (readSpeech config address)
      (Reading.readSelected address : Action ε (Reading n) UInt16) := by
  refine follows_get_bind fun reading hconfig => ?_
  rw [hconfig]
  change Follows _ _ ([_, _] ++ ([_] ++ ([_] ++ ([_] ++ [])))) _
  refine follows_bind (follows_exchange (Exchange.follows_sendAndPoll _ _)) fun response => ?_
  refine follows_silent_bind (follows_inSession (follows_modify fun _ => rfl)) fun _ => ?_
  refine follows_silent_bind follows_require fun _ => ?_
  refine follows_bind (follows_exchange (Exchange.follows_poll _)) fun token => ?_
  refine follows_silent_bind (follows_inSession (follows_modify fun _ => rfl)) fun _ => ?_
  refine follows_silent_bind follows_require fun _ => ?_
  refine follows_bind (follows_receiveInto 0 sectorSize) fun _ => ?_
  exact follows_bind (follows_exchange (Exchange.follows_receive 2)) fun _ => follows_pure _

theorem follows_readCsdSelected :
    Follows id config (csdSpeech config)
      (readCsdSelected : Action ε Session (Csd × UInt16)) := by
  refine follows_get_bind fun session hconfig => ?_
  rw [show session.config = config from hconfig]
  change Follows _ _ ([_, _] ++ ([_] ++ ([_] ++ ([_] ++ [])))) _
  refine follows_bind (follows_exchange (Exchange.follows_sendAndPoll _ _)) fun response => ?_
  refine follows_silent_bind (follows_modify fun _ => rfl) fun _ => ?_
  refine follows_silent_bind follows_require fun _ => ?_
  refine follows_bind (follows_exchange (Exchange.follows_poll _)) fun token => ?_
  refine follows_silent_bind (follows_modify fun _ => rfl) fun _ => ?_
  refine follows_silent_bind follows_require fun _ => ?_
  refine follows_bind (follows_exchange (Exchange.follows_receive 16)) fun _ => ?_
  exact follows_bind (follows_exchange (Exchange.follows_receive 2)) fun _ => follows_pure _

theorem follows_writeSelected (address : UInt32) (sector : Sector) :
    Follows id config (writeSpeech config address sector)
      (writeSelected address sector : Action ε Session Unit) := by
  refine follows_get_bind fun session hconfig => ?_
  rw [show session.config = config from hconfig]
  change Follows _ _ ([_, _] ++ ([_, _] ++ ([_] ++ []))) _
  refine follows_bind (follows_exchange (Exchange.follows_sendAndPoll _ _)) fun response => ?_
  refine follows_silent_bind (follows_modify fun _ => rfl) fun _ => ?_
  refine follows_silent_bind follows_require fun _ => ?_
  have hblock : (do
      Exchange.send (blockImage sector)
      Exchange.receiveByte : Exchange ε UInt8).Follows ([.block sector] ++ [.listen 1]) :=
    .bind (Exchange.follows_send rfl) fun _ => Exchange.follows_receiveByte
  refine follows_bind (follows_exchange hblock) fun token => ?_
  refine follows_silent_bind (follows_modify fun _ => rfl) fun _ => ?_
  refine follows_silent_bind follows_require fun _ => ?_
  exact follows_bind (follows_exchange (Exchange.follows_waitReleased _)) fun _ => follows_require

/-! ## Actions while the card is not selected -/

/-- On sessions with this configuration, the action sends at most so many bytes, and what it says is
allowed for the way in which it ends. -/
def Speaks (view : σ → Session) (config : Config) (count : Nat)
    (allowed : Bool → List Message → Prop) (action : Action ε σ α) : Prop :=
  action.Satisfies fun s t result s' => (view s).config = config →
    (view s').config = config ∧ (sent t).length ≤ count ∧
      ∃ said, Says t said ∧ allowed result.isOk said

/-- Nothing is said. -/
def Nothing (_ended : Bool) (said : List Message) : Prop := said = []

/-- Nothing is said that belongs to a write. -/
def NoWrite (_ended : Bool) (said : List Message) : Prop := ∀ message ∈ said, message.writes = false

/-- A beginning of the speech is said, and all of it if the action succeeds. -/
def Saying (speech : Speech) (succeeds : Bool) (said : List Message) : Prop :=
  said <+: speech.messages ∧ (succeeds = true → said = speech.messages)

theorem speaks_mono {count count' : Nat} {allowed allowed' : Bool → List Message → Prop}
    {action : Action ε σ α} (h : Speaks view config count allowed action) (hcount : count ≤ count')
    (hallowed : ∀ ended said, allowed ended said → allowed' ended said) :
    Speaks view config count' allowed' action := by
  intro s t result s' ht hconfig
  obtain ⟨hafter, hlength, said, hsays, hsaid⟩ := h s t result s' ht hconfig
  exact ⟨hafter, Nat.le_trans hlength hcount, said, hsays, hallowed _ _ hsaid⟩

theorem speaks_bind {count more : Nat} {first second whole : Bool → List Message → Prop}
    {action : Action ε σ α} {f : α → Action ε σ β}
    (haction : Speaks view config count first action)
    (hf : ∀ value, Speaks view config more second (f value))
    (hstop : ∀ said, first false said → whole false said)
    (hgo : ∀ ended said others, first true said → second ended others →
      whole ended (said ++ others)) :
    Speaks view config (count + more) whole (action >>= f) := by
  refine haction.bind hf ?_ ?_
  · intro s t error s' h hconfig
    obtain ⟨hafter, hlength, said, hsays, hsaid⟩ := h hconfig
    exact ⟨hafter, Nat.le_trans hlength (Nat.le_add_right ..), said, hsays, hstop said hsaid⟩
  · intro s t value s' u result s'' h₁ h₂ hconfig
    obtain ⟨hmiddle, ht, said, hsays, hsaid⟩ := h₁ hconfig
    obtain ⟨hafter, hu, others, hothers, hallowed⟩ := h₂ hmiddle
    refine ⟨hafter, ?_, said ++ others, hsays.append hothers, hgo _ _ _ hsaid hallowed⟩
    rw [sent_append, List.length_append]
    exact Nat.add_le_add ht hu

/-- One action that writes nothing after another. -/
theorem speaks_noWrite_bind {count more : Nat} {action : Action ε σ α} {f : α → Action ε σ β}
    (haction : Speaks view config count NoWrite action)
    (hf : ∀ value, Speaks view config more NoWrite (f value)) :
    Speaks view config (count + more) NoWrite (action >>= f) := by
  refine speaks_bind haction hf (fun _ h => h) fun _ said others hsaid hothers message hmessage => ?_
  rcases List.mem_append.mp hmessage with hmessage | hmessage
  · exact hsaid message hmessage
  · exact hothers message hmessage

/-- What an action that sends nothing does first does not matter, if nothing may be said. -/
theorem speaks_silent_bind {count : Nat} {allowed : Bool → List Message → Prop}
    {action : Action ε σ α} {f : α → Action ε σ β} (haction : Speaks view config 0 Nothing action)
    (hf : ∀ value, Speaks view config count allowed (f value)) (hnothing : allowed false []) :
    Speaks view config count allowed (action >>= f) := by
  have hboth : Speaks view config (0 + count) allowed (action >>= f) := by
    refine speaks_bind haction hf ?_ ?_
    · intro said hsaid
      rwa [show said = [] from hsaid]
    · intro ended said others hsaid hothers
      rwa [show said = [] from hsaid, List.nil_append]
  rwa [Nat.zero_add] at hboth

/-- What an action that sends nothing does last does not matter either. -/
theorem speaks_bind_silent {count : Nat} {action : Action ε σ α} {f : α → Action ε σ β}
    (haction : Speaks view config count NoWrite action)
    (hf : ∀ value, Speaks view config 0 Nothing (f value)) :
    Speaks view config count NoWrite (action >>= f) := by
  refine speaks_bind haction hf (fun _ h => h) fun _ said others hsaid hothers => ?_
  rwa [show others = [] from hothers, List.append_nil]

theorem speaks_pure (value : α) : Speaks view config 0 Nothing (pure value : Action ε σ α) :=
  Action.satisfies_pure fun _ hconfig => ⟨hconfig, Nat.le_refl 0, [], .nil, rfl⟩

theorem speaks_throw (error : Error ε) :
    Speaks view config 0 Nothing (throw error : Action ε σ α) :=
  Action.satisfies_throw fun _ hconfig => ⟨hconfig, Nat.le_refl 0, [], .nil, rfl⟩

theorem speaks_get_bind {count : Nat} {allowed : Bool → List Message → Prop} {f : σ → Action ε σ α}
    (h : ∀ seen, (view seen).config = config → Speaks view config count allowed (f seen)) :
    Speaks view config count allowed (get >>= f) := by
  refine Action.satisfies_get_bind fun seen s t result s' ht hseen hconfig => ?_
  subst hseen
  exact h s hconfig s t result s' ht hconfig

theorem speaks_modify {f : σ → σ} (h : ∀ s, (view (f s)).config = (view s).config) :
    Speaks view config 0 Nothing (modify f : Action ε σ Unit) :=
  Action.satisfies_modify fun s hconfig => ⟨(h s).trans hconfig, Nat.le_refl 0, [], .nil, rfl⟩

theorem speaks_log (record : LogRecord ε) :
    Speaks view config 0 Nothing (Action.log record : Action ε σ Unit) :=
  Action.satisfies_log fun _ hconfig =>
    ⟨hconfig, Nat.le_refl 0, [], fun before => by rw [List.append_nil]; rfl, rfl⟩

theorem speaks_require {condition : Prop} [Decidable condition] {failure : Failure} :
    Speaks view config 0 Nothing (Action.require condition failure : Action ε σ Unit) := by
  unfold Action.require
  split
  · exact speaks_pure ()
  · exact speaks_throw _

/-- A call that changes how the bus is driven, but not the select line, sends nothing. -/
theorem speaks_control {call : Control} (h : ∀ active, call ≠ .forceSelect active) :
    Speaks view config 0 Nothing (Action.exchange (Exchange.control call) : Action ε σ Unit) := by
  have hcontrol : (Exchange.control call : Exchange ε Unit).Satisfies fun t _ =>
      sent t = [] ∧ Says t [] := by
    refine Exchange.satisfies_control fun answer => ⟨rfl, fun before => ?_⟩
    rw [List.append_nil]
    cases call with
    | forceSelect active => exact absurd rfl (h active)
    | _ => rfl
  refine Action.satisfies_exchange hcontrol fun s t result ht hconfig => ?_
  exact ⟨hconfig, by rw [ht.1]; exact Nat.le_refl 0, [], ht.2, rfl⟩

/-- What keeps to a speech while the card is selected says it, and costs one byte more. -/
theorem speaks_whileSelected {speech : Speech} {action : Action ε σ α}
    (hproper : speech.Proper false) (hsteady : action.Satisfies (Steady view))
    (h : Follows view config speech action) :
    Speaks view config (speech.cost + 1) (Saying speech) (Action.whileSelected action) := by
  intro s t result s' ht hconfig
  rw [Action.exec_whileSelected] at ht
  rcases traces_whileSelected ht with ⟨fault, hrefused, rfl⟩ |
    ⟨talk, queries, released, reply, hrun, hdrained, rfl⟩
  · cases hrefused
    exact ⟨hconfig, Nat.zero_le _, [], says_refused fault, List.nil_prefix,
      fun h => absurd h Bool.false_ne_true⟩
  · obtain ⟨hafter, hkeeps⟩ := h _ _ _ _ hrun hconfig
    exact ⟨hafter, exists_says_held (hsteady _ _ _ _ hrun).talk hkeeps hdrained hproper
      released reply⟩

/-! ### Commands -/

theorem speaks_exchange_whileSelected {speech : Speech} {body : Exchange ε α}
    (hproper : speech.Proper false) (htalks : body.Talks)
    (h : body.Satisfies fun t _ => Keeps speech t False)
    (hwrites : ∀ message ∈ speech.messages, message.writes = false) :
    Speaks view config (speech.cost + 1) NoWrite
      (Action.exchange (Exchange.whileSelected body) : Action ε σ α) := by
  have hbracket : (Exchange.whileSelected body).Satisfies fun t _ =>
      (sent t).length ≤ speech.cost + 1 ∧ ∃ said, Says t said ∧ said <+: speech.messages := by
    intro t result ht
    rcases traces_whileSelected ht with ⟨fault, -, rfl⟩ |
      ⟨talk, queries, released, reply, hrun, hdrained, rfl⟩
    · exact ⟨Nat.zero_le _, [], says_refused fault, List.nil_prefix⟩
    · obtain ⟨hlength, said, hsays, hbegins, -⟩ := exists_says_held (htalks _ _ hrun) (h _ _ hrun)
        hdrained hproper released reply
      exact ⟨hlength, said, hsays, hbegins⟩
  refine Action.satisfies_exchange hbracket fun s t result ht hconfig => ?_
  obtain ⟨hlength, said, hsays, hbegins⟩ := ht
  exact ⟨hconfig, hlength, said, hsays, fun message hmessage =>
    hwrites message (hbegins.subset hmessage)⟩

/-- An exchange under the select line, after which the session takes note of the response. -/
theorem speaks_commanding {speech : Speech} (body : UInt32 → Exchange ε α) (note : α → UInt8)
    (hproper : speech.Proper false)
    (hwrites : ∀ message ∈ speech.messages, message.writes = false)
    (htalks : ∀ polls, (body polls).Talks)
    (h : (body config.responsePolls).Satisfies fun t _ => Keeps speech t False) :
    Speaks id config (speech.cost + 1) NoWrite (do
      let polls := (← get).config.responsePolls
      let response ← Action.exchange (Exchange.whileSelected (body polls))
      keepResponse (note response)
      return response : Action ε Session α) := by
  refine speaks_get_bind fun session hconfig => ?_
  rw [show session.config = config from hconfig]
  refine speaks_bind_silent (speaks_exchange_whileSelected hproper (htalks _) h hwrites) ?_
  intro response
  exact speaks_silent_bind (speaks_modify fun _ => rfl) (fun _ => speaks_pure response) rfl

theorem speaks_command {cmd : Command} (hcmd : cmd.index &&& 0x3F ≠ writeIndex) :
    Speaks id config (atLeastOnce config.responsePolls + 7) NoWrite
      (command cmd : Action ε Session UInt8) := by
  have h : Speaks id config
      (Speech.cost [.command cmd, .listen (atLeastOnce config.responsePolls)] + 1) NoWrite
      (command cmd : Action ε Session UInt8) := by
    refine speaks_commanding (fun polls => do
        Exchange.sendCommand cmd
        Exchange.poll polls) (fun response => response) rfl ?_ (talks_sendAndPoll cmd)
      fun t result ht => (Exchange.follows_sendAndPoll cmd _ t result ht).broken [] id
    simpa [Speech.messages, Phrase.message?, Message.writes] using hcmd
  refine speaks_mono h ?_ fun _ _ hsaid => hsaid
  simp [Speech.cost, Phrase.cost]
  omega

theorem speaks_commandWithPayload {cmd : Command} (hcmd : cmd.index &&& 0x3F ≠ writeIndex)
    (n : Nat) :
    Speaks id config (atLeastOnce config.responsePolls + 7 + n) NoWrite
      (commandWithPayload cmd n : Action ε Session (Bytes (n + 1))) := by
  have h : Speaks id config (Speech.cost [.command cmd,
      .listen (atLeastOnce config.responsePolls), .listen n] + 1) NoWrite
      (commandWithPayload cmd n : Action ε Session (Bytes (n + 1))) := by
    refine speaks_commanding (fun polls => do
        Exchange.sendCommand cmd
        Exchange.receiveResponse polls (Bytes.zero (n + 1)))
      (fun response => response.get ⟨0, n.succ_pos⟩) rfl ?_ (fun polls => Exchange.Talks.bind
        (Exchange.talks_sendCommand cmd) fun _ => Exchange.talks_receiveResponse polls _)
      fun t result ht => ?_
    · simpa [Speech.messages, Phrase.message?, Message.writes] using hcmd
    · exact (Exchange.Follows.bind (Exchange.follows_sendCommand cmd)
        (fun _ => Exchange.follows_receiveResponse _ _) t result ht).broken [] id
  refine speaks_mono h ?_ fun _ _ hsaid => hsaid
  simp [Speech.cost, Phrase.cost]
  omega

theorem speaks_applicationCommand {cmd : Command} (hcmd : cmd.index &&& 0x3F ≠ writeIndex) :
    Speaks id config (2 * atLeastOnce config.responsePolls + 13) NoWrite
      (applicationCommand cmd : Action ε Session UInt8) := by
  have h : Speaks id config (Speech.cost [.command .applicationCommand,
      .listen (atLeastOnce config.responsePolls), .command cmd,
      .listen (atLeastOnce config.responsePolls)] + 1) NoWrite
      (applicationCommand cmd : Action ε Session UInt8) := by
    refine speaks_commanding (fun polls => Exchange.sendApplicationCommand polls cmd)
      (fun response => response) rfl ?_
      (fun polls => Exchange.talks_sendApplicationCommand polls cmd)
      (Exchange.within_sendApplicationCommand _ cmd)
    have hannounce : Command.applicationCommand.index &&& 0x3F ≠ writeIndex := by decide
    simpa [Speech.messages, Phrase.message?, Message.writes] using ⟨hannounce, hcmd⟩
  refine speaks_mono h ?_ fun _ _ hsaid => hsaid
  simp [Speech.cost, Phrase.cost]
  omega

/-! ### Waking the card up -/

/-- Idle bytes while no card is selected say nothing. -/
theorem says_idled {idles : List (Event ε)} (hidles : Idled idles) :
    (sent idles).length = idles.length ∧ Says idles [] := by
  have hshifted : Talk idles none := .whole hidles.shifted
  have hsent : sent idles = List.replicate idles.length idleByte := by
    induction idles with
    | nil => rfl
    | cons event idles ih =>
      obtain ⟨reply, rfl⟩ := hidles event (List.mem_cons_self ..)
      have hrest : Idled idles := fun event hevent => hidles event (List.mem_cons_of_mem _ hevent)
      rw [sent_transfer, ih hrest (.whole hrest.shifted)]
      rfl
  constructor
  · rw [hsent, List.length_replicate]
  · intro before
    rw [foldl_hear _ hshifted.transfers, hsent, Listener.foldl_shift_idle, List.append_nil]

theorem WakeUp.silent {chipSelect : UInt8} {count : Nat} {t : List (Event ε)} {ending : Option ε}
    (ht : WakeUp chipSelect count t ending) : (sent t).length ≤ count ∧ Says t [] := by
  have hcontrol : ∀ active (answer : Except ε Unit),
      Says [.control (.chipSelect chipSelect active) answer] [] := by
    intro active answer before
    rw [List.append_nil]
    rfl
  have hidle : ∀ answer : Except ε UInt8, Says [.transfer idleByte answer] [] := by
    intro answer before
    rw [List.append_nil]
    rfl
  cases ht with
  | notReleased => exact ⟨Nat.zero_le _, hcontrol _ _⟩
  | whole hidles hlength =>
    have hsaid := says_idled hidles
    refine ⟨?_, (hcontrol _ _).append (hsaid.2.append (hcontrol _ _))⟩
    simp [hsaid.1, hlength]
  | broken hidles hlength =>
    have hsaid := says_idled hidles
    refine ⟨?_, (hcontrol _ _).append (hsaid.2.append (hidle _))⟩
    simp [hsaid.1]
    omega
  | notNamed hidles hlength =>
    have hsaid := says_idled hidles
    refine ⟨?_, (hcontrol _ _).append (hsaid.2.append (hcontrol _ _))⟩
    simp [hsaid.1, hlength]

theorem speaks_powerUp :
    Speaks id config config.powerUpBytes Nothing (powerUp : Action ε Session Unit) := by
  refine speaks_get_bind fun session hconfig => ?_
  rw [show session.config = config from hconfig]
  refine Action.satisfies_exchange (Exchange.wakeUp_powerUp _ _) fun s t result ht hconfig => ?_
  obtain ⟨hlength, hsays⟩ := WakeUp.silent ht
  exact ⟨hconfig, hlength, [], hsays, rfl⟩

end Session

end SdCard
