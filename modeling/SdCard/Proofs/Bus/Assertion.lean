import SdCard.Bus.Action
import SdCard.Bus.Run

/-!
# Assertions about a bus

Where a bus has states, a program takes it from one to another. `Leads` says so by assertions: from
states in which one of them holds, a program ends in states in which another holds, which may
speak of the value too. Exchanges and actions have two ways to end, and an assertion for each.

As with contracts, there is one rule for each form of program. `Leads.bind` goes through a program
step by step; what a step does to the bus is said once, with the bus.
-/

namespace SdCard

variable {ε σ ω α β : Type} {bus : Bus ε ω}

namespace Program

/-- The events made before a run change neither its value nor where it leaves the bus. -/
theorem runFrom_eq_run (bus : Bus ε ω) (p : Program ε α) (s : ω) (events : Array (Event ε)) :
    (p.runFrom bus s events).value = (p.run bus s).value ∧
    (p.runFrom bus s events).bus = (p.run bus s).bus := by
  -- both runs collect events, so the induction needs any two accumulators
  unfold run
  generalize #[] = others
  induction p generalizing s events others with
  | done value => exact ⟨rfl, rfl⟩
  | control call next ih => exact ih _ _ _ _
  | transfer byte next ih => exact ih _ _ _ _
  | fifoBusy next ih => exact ih _ _ _ _
  | log record next ih => exact ih _ _ _

/-- The events of a run follow those made before it. -/
theorem runFrom_events (bus : Bus ε ω) (p : Program ε α) (s : ω) (events : Array (Event ε)) :
    (p.runFrom bus s events).events = events ++ (p.run bus s).events := by
  unfold run
  -- one call more is made before the rest of the run, on either side
  have hpush : ∀ {next : Program ε α},
      (∀ s events, (next.runFrom bus s events).events =
        events ++ (next.runFrom bus s #[]).events) →
      ∀ s events event, (next.runFrom bus s (events.push event)).events =
        events ++ (next.runFrom bus s #[event]).events := by
    intro next hnext s events event
    rw [hnext, hnext s #[event], ← Array.append_assoc, ← Array.push_eq_append]
  induction p generalizing s events with
  | done value => exact Array.append_empty.symm
  | control call next ih => exact hpush (ih _) _ _ _
  | transfer byte next ih => exact hpush (ih _) _ _ _
  | fifoBusy next ih => exact hpush (ih _) _ _ _
  | log record next ih => exact hpush ih _ _ _

/-- The second part of a sequence runs where the first one has left the bus, and its events follow. -/
theorem run_bind (bus : Bus ε ω) (p : Program ε α) (f : α → Program ε β) (s : ω) :
    (p >>= f).run bus s =
      let first := p.run bus s
      let second := (f first.value).run bus first.bus
      ⟨second.value, second.bus, first.events ++ second.events⟩ := by
  have hrun := runFrom_bind bus p f s #[]
  obtain ⟨hvalue, hbus⟩ := runFrom_eq_run bus (f (p.run bus s).value) (p.run bus s).bus
    (p.run bus s).events
  have hevents := runFrom_events bus (f (p.run bus s).value) (p.run bus s).bus
    (p.run bus s).events
  dsimp only
  rw [← hvalue, ← hbus, ← hevents]
  exact hrun

/-- What every call keeps, of the events so far and the bus together, a run keeps. -/
theorem runFrom_invariant (invariant : List (Event ε) → ω → Prop)
    (hcontrol : ∀ t s call, invariant t s →
      invariant (t ++ [.control call (bus.control call s).1]) (bus.control call s).2)
    (htransfer : ∀ t s byte, invariant t s →
      invariant (t ++ [.transfer byte (bus.transfer byte s).1]) (bus.transfer byte s).2)
    (hfifoBusy : ∀ t s, invariant t s →
      invariant (t ++ [.fifoBusy (bus.fifoBusy s).1]) (bus.fifoBusy s).2)
    (hlog : ∀ t s record, invariant t s → invariant (t ++ [.log record]) s)
    (p : Program ε α) (s : ω) (events : Array (Event ε)) (h : invariant events.toList s) :
    invariant (p.runFrom bus s events).events.toList (p.runFrom bus s events).bus := by
  induction p generalizing s events with
  | done value => exact h
  | control call next ih => exact ih _ _ _ (by simpa using hcontrol _ s call h)
  | transfer byte next ih => exact ih _ _ _ (by simpa using htransfer _ s byte h)
  | fifoBusy next ih => exact ih _ _ _ (by simpa using hfifoBusy _ s h)
  | log record next ih => exact ih _ _ (by simpa using hlog _ s record h)

/-- From states in which `pre` holds, the program ends with a value and a state of which `post`
holds. -/
def Leads (bus : Bus ε ω) (pre : ω → Prop) (p : Program ε α) (post : α → ω → Prop) : Prop :=
  ∀ s, pre s → post (p.run bus s).value (p.run bus s).bus

theorem leads_pure {pre : ω → Prop} {post : α → ω → Prop} {value : α}
    (h : ∀ s, pre s → post value s) : Leads bus pre (pure value) post := h

theorem leads_control {pre : ω → Prop} {post : Except ε Unit → ω → Prop} {call : Control}
    (h : ∀ s, pre s → post (bus.control call s).1 (bus.control call s).2) :
    Leads bus pre (control call done) post := h

theorem leads_fifoBusy {pre : ω → Prop} {post : Bool → ω → Prop}
    (h : ∀ s, pre s → post (bus.fifoBusy s).1 (bus.fifoBusy s).2) :
    Leads bus pre (fifoBusy done) post := h

/-- The second program starts where the first one ends. -/
theorem Leads.bind {pre : ω → Prop} {p : Program ε α} {middle : α → ω → Prop}
    {f : α → Program ε β} {post : β → ω → Prop} (hp : Leads bus pre p middle)
    (hf : ∀ value, Leads bus (middle value) (f value) post) : Leads bus pre (p >>= f) post := by
  intro s hs
  rw [run_bind]
  exact hf _ _ (hp s hs)

theorem Leads.mono {pre pre' : ω → Prop} {p : Program ε α} {post post' : α → ω → Prop}
    (h : Leads bus pre p post) (hpre : ∀ s, pre' s → pre s)
    (hpost : ∀ value s, post value s → post' value s) : Leads bus pre' p post' :=
  fun s hs => hpost _ _ (h s (hpre s hs))

/-- Draining the output queue keeps what a query of it keeps. -/
theorem leads_drain {invariant : ω → Prop} (h : ∀ s, invariant s → invariant (bus.fifoBusy s).2)
    (polls : Nat) : Leads bus invariant (drain polls) fun _ => invariant := by
  have hquery : Leads bus invariant (fifoBusy done) fun _ => invariant := leads_fifoBusy h
  induction polls with
  | zero => exact hquery.bind fun _ => leads_pure fun _ hs => hs
  | succ polls ih =>
    refine hquery.bind (f := fun busy => if busy then drain polls else done ()) fun busy => ?_
    cases busy with
    | true => exact ih
    | false => exact leads_pure fun _ hs => hs

/-- A body under the select line starts where selecting leaves the bus, and the release starts
where the body ends. -/
theorem leads_whileSelected {pre inside : ω → Prop} {body : Program ε α}
    {middle post : α → ω → Prop} {refused : ε → α}
    (hrefused : ∀ s fault, pre s → (bus.control (.forceSelect true) s).1 = .error fault →
      post (refused fault) (bus.control (.forceSelect true) s).2)
    (hselect : ∀ s, pre s → (bus.control (.forceSelect true) s).1 = .ok () →
      inside (bus.control (.forceSelect true) s).2)
    (hbody : Leads bus inside body middle)
    (hrelease : ∀ value, Leads bus (middle value) release fun _ => post value) :
    Leads bus pre (whileSelected refused body) post := by
  have hcontrol : Leads bus pre (control (.forceSelect true) done) fun answer s =>
      (answer = .ok () → inside s) ∧ ∀ fault, answer = .error fault → post (refused fault) s :=
    leads_control fun s hs => ⟨hselect s hs, fun fault => hrefused s fault hs⟩
  refine Leads.bind (f := _) hcontrol fun answer => ?_
  cases answer with
  | error fault => exact leads_pure fun s hs => hs.2 fault rfl
  | ok =>
    -- the release comes after every body, and its own value is dropped
    have hwhole : Leads bus inside (body >>= fun result => release >>= fun _ => pure result) post :=
      hbody.bind fun value => (hrelease value).bind fun _ => leads_pure fun _ hs => hs
    exact hwhole.mono (fun s hs => hs.1 rfl) fun _ _ hs => hs

end Program

/-- What is asserted of a result and a state, for each way to end. -/
def Ending (post : α → ω → Prop) (failed : ω → Prop) : Except ε α → ω → Prop
  | .ok value, s => post value s
  | .error _, s => failed s

theorem Ending.mono {post post' : α → ω → Prop} {failed failed' : ω → Prop}
    {result : Except ε α} {s : ω} (h : Ending post failed result s)
    (hpost : ∀ value, post value s → post' value s) (hfailed : failed s → failed' s) :
    Ending post' failed' result s := by
  cases result with
  | ok value => exact hpost value h
  | error => exact hfailed h

/-- An assertion of both ways to end is one of the state. -/
theorem ending_both {assertion : ω → Prop} {result : Except ε α} {s : ω} :
    Ending (fun _ => assertion) assertion result s ↔ assertion s := by
  cases result <;> exact Iff.rfl

/-- What is asserted in both cases may be taken apart from what is known of a success. -/
theorem ending_and {known : α → Prop} {assertion : ω → Prop} {result : Except ε α} {s : ω} :
    Ending (fun value s => known value ∧ assertion s) assertion result s ↔
      (∀ value, result = .ok value → known value) ∧ assertion s := by
  cases result with
  | ok value => simp [Ending]
  | error => simp [Ending]

theorem Ending.mapError {ε' : Type} {post : α → ω → Prop} {failed : ω → Prop}
    {result : Except ε α} {s : ω} (h : Ending post failed result s) (f : ε → ε') :
    Ending post failed (result.mapError f) s := by
  cases result with
  | ok value => exact h
  | error => exact h

namespace Exchange

/-- From states in which `pre` holds, the exchange ends with a value and a state of which `post`
holds, or with a fault and a state in which `failed` holds. -/
def Leads (bus : Bus ε ω) (pre : ω → Prop) (exchange : Exchange ε α) (post : α → ω → Prop)
    (failed : ω → Prop) : Prop :=
  Program.Leads bus pre exchange.run (Ending post failed)

variable {pre failed : ω → Prop}

theorem leads_pure {post : α → ω → Prop} {value : α} (h : ∀ s, pre s → post value s) :
    Leads bus pre (pure value) post failed := h

theorem leads_transfer {post : UInt8 → ω → Prop} {byte : UInt8}
    (h : ∀ s, pre s → Ending post failed (bus.transfer byte s).1 (bus.transfer byte s).2) :
    Leads bus pre (transfer byte) post failed := h

theorem leads_control {post : Unit → ω → Prop} {call : Control}
    (h : ∀ s, pre s → Ending post failed (bus.control call s).1 (bus.control call s).2) :
    Leads bus pre (control call) post failed := h

/-- The second exchange starts where the first one ends without a fault. -/
theorem Leads.bind {exchange : Exchange ε α} {middle : α → ω → Prop} {f : α → Exchange ε β}
    {post : β → ω → Prop} (hexchange : Leads bus pre exchange middle failed)
    (hf : ∀ value, Leads bus (middle value) (f value) post failed) :
    Leads bus pre (exchange >>= f) post failed := by
  refine Program.Leads.bind hexchange fun result => ?_
  cases result with
  | ok value => exact hf value
  | error fault => exact Program.leads_pure fun _ hs => hs

theorem Leads.mono {pre' failed' : ω → Prop} {exchange : Exchange ε α} {post post' : α → ω → Prop}
    (h : Leads bus pre exchange post failed) (hpre : ∀ s, pre' s → pre s)
    (hpost : ∀ value s, post value s → post' value s) (hfailed : ∀ s, failed s → failed' s) :
    Leads bus pre' exchange post' failed' :=
  Program.Leads.mono h hpre fun _ s hs => hs.mono (fun value => hpost value s) (hfailed s)

end Exchange

namespace Action

/-- As for exchanges, with assertions that speak of the action's own state too. -/
def Leads (bus : Bus ε ω) (pre : σ → ω → Prop) (action : Action ε σ α)
    (post : α → σ → ω → Prop) (failed : σ → ω → Prop) : Prop :=
  ∀ s, Program.Leads bus (pre s) (action.exec s) fun outcome =>
    Ending (fun value => post value outcome.2) (failed outcome.2) outcome.1

section Rules

variable {pre failed : σ → ω → Prop}

theorem leads_pure {post : α → σ → ω → Prop} {value : α} (h : ∀ s w, pre s w → post value s w) :
    Leads bus pre (pure value) post failed := h

theorem leads_throw {post : α → σ → ω → Prop} {error : Error ε}
    (h : ∀ s w, pre s w → failed s w) : Leads bus pre (throw error) post failed := h

theorem leads_modify {post : Unit → σ → ω → Prop} {f : σ → σ}
    (h : ∀ s w, pre s w → post () (f s) w) : Leads bus pre (modify f) post failed := h

theorem leads_log {post : Unit → σ → ω → Prop} {record : LogRecord ε}
    (h : ∀ s w, pre s w → post () s w) : Leads bus pre (log record) post failed := h

theorem leads_require {post : Unit → σ → ω → Prop} {condition : Prop} [Decidable condition]
    {failure : Failure} (hok : condition → ∀ s w, pre s w → post () s w)
    (herror : ¬ condition → ∀ s w, pre s w → failed s w) :
    Leads bus pre (require condition failure) post failed := by
  unfold require
  split
  · exact leads_pure (hok ‹_›)
  · exact leads_throw (herror ‹_›)

/-- An exchange leaves the action's own state alone. -/
theorem leads_exchange {exchange : Exchange ε α} {post : α → σ → ω → Prop}
    (h : ∀ s, exchange.Leads bus (pre s) (fun value => post value s) (failed s)) :
    Leads bus pre (Action.exchange exchange) post failed := by
  intro s
  rw [exec_exchange]
  exact Program.Leads.bind (h s) fun result =>
    Program.leads_pure fun w hw => Ending.mapError hw Error.transport

/-- The second action starts where the first one ends without an error. -/
theorem Leads.bind {action : Action ε σ α} {middle : α → σ → ω → Prop} {f : α → Action ε σ β}
    {post : β → σ → ω → Prop} (haction : Leads bus pre action middle failed)
    (hf : ∀ value, Leads bus (middle value) (f value) post failed) :
    Leads bus pre (action >>= f) post failed := by
  intro s
  rw [exec_bind]
  refine (haction s).bind fun outcome => ?_
  obtain ⟨result, s'⟩ := outcome
  cases result with
  | ok value => exact hf value s'
  | error error => exact Program.leads_pure fun _ hw => hw

/-- A run of an exchange does not touch what is known of the action's own state. -/
theorem leads_exchange_of {exchange : Exchange ε α} {known : σ → Prop} {before fails : ω → Prop}
    {after : α → ω → Prop} (h : exchange.Leads bus before after fails) :
    Leads bus (fun s w => known s ∧ before w) (Action.exchange exchange)
      (fun value s w => known s ∧ after value w) fun _ => fails :=
  leads_exchange fun _ => Exchange.Leads.mono
    (fun w hw => (h w hw.2).mono (fun _ hafter => ⟨hw.1, hafter⟩) id) (fun _ hw => hw)
    (fun _ _ hw => hw) fun _ hw => hw

/-- Past a condition, what depends on it is known; otherwise the action fails here. -/
theorem leads_require_of {condition : Prop} [Decidable condition] {failure : Failure}
    {known : σ → Prop} {after fails : ω → Prop} :
    Leads bus (fun s w => known s ∧ fails w ∧ (condition → after w))
      (require condition failure) (fun _ s w => known s ∧ after w) fun _ => fails :=
  leads_require (fun hcondition _ _ h => ⟨h.1, h.2.2 hcondition⟩) fun _ _ _ h => h.2.1

/-- A look at the state changes nothing. -/
theorem leads_get_keep {f : σ → Action ε σ β} {post : β → σ → ω → Prop}
    (h : ∀ seen, Leads bus pre (f seen) post failed) : Leads bus pre (get >>= f) post failed :=
  fun s => h s s

/-- What comes after a look at the state starts from the state that was seen. -/
theorem leads_get_bind {f : σ → Action ε σ β} {post : β → σ → ω → Prop}
    (h : ∀ seen, Leads bus (fun s w => s = seen ∧ pre s w) (f seen) post failed) :
    Leads bus pre (get >>= f) post failed := by
  intro s
  exact (h s s).mono (fun w hw => ⟨rfl, hw⟩) fun _ _ hw => hw

theorem Leads.mono {pre' failed' : σ → ω → Prop} {action : Action ε σ α}
    {post post' : α → σ → ω → Prop} (h : Leads bus pre action post failed)
    (hpre : ∀ s w, pre' s w → pre s w)
    (hpost : ∀ value s w, post value s w → post' value s w)
    (hfailed : ∀ s w, failed s w → failed' s w) : Leads bus pre' action post' failed' :=
  fun s => (h s).mono (hpre s) fun _ w hw =>
    hw.mono (fun value => hpost value _ w) (hfailed _ w)

/-- A note of an error starts where the error was met, and leaves its own failures there too. -/
theorem leads_noting {note : Error ε → Action ε σ Unit} {body : Action ε σ α}
    {post : α → σ → ω → Prop} {middle : σ → ω → Prop} (hbody : Leads bus pre body post middle)
    (hnote : ∀ error, Leads bus middle (note error) (fun _ => failed) failed) :
    Leads bus pre (noting note body) post failed := by
  intro s
  rw [exec_noting]
  refine (hbody s).bind fun outcome => ?_
  obtain ⟨result, s'⟩ := outcome
  cases result with
  | ok value => exact Program.leads_pure fun _ hw => hw
  | error error => exact (hnote error).bind (fun _ => leads_throw fun _ _ hw => hw) s'

end Rules

/-- On a part of a larger state, an action keeps to assertions about the part. -/
theorem leads_onPart {τ : Type} {get : τ → σ} {set : σ → τ → τ} {action : Action ε σ α}
    {pre failed : τ → ω → Prop} {post : α → τ → ω → Prop}
    (h : ∀ t, Leads bus (fun s w => s = get t ∧ pre t w) action
      (fun value s w => post value (set s t) w) fun s w => failed (set s t) w) :
    Leads bus pre (onPart get set action) post failed := by
  intro t
  rw [exec_onPart]
  refine ((h t (get t)).mono (fun w hw => ⟨rfl, hw⟩) fun _ _ hw => hw).bind fun outcome => ?_
  exact Program.leads_pure fun w hw => hw

end Action

end SdCard
