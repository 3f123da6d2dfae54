import SdCard.Bus.Action
import SdCard.Bus.Run

/-!
# Contracts of actions

A contract relates the state an action starts from, the events of a run, the result, and the state
left behind. An action satisfies it if every run does, whatever the bus answers.

Programs are given by their parts, so contracts are proved by their parts too: one rule for each
form of exchange and of action, of which `Satisfies.bind` is the one that does the work.
-/

namespace SdCard

namespace Exchange

variable {ε α β : Type}

/-- Every run of the exchange, on any bus, has events and a result as the contract says. -/
def Satisfies (exchange : Exchange ε α) (contract : List (Event ε) → Except ε α → Prop) : Prop :=
  ∀ t result, Program.Traces exchange.run t result → contract t result

theorem satisfies_pure {contract : List (Event ε) → Except ε α → Prop} {value : α}
    (h : contract [] (.ok value)) : (pure value : Exchange ε α).Satisfies contract := by
  intro t result ht
  cases ht
  exact h

theorem satisfies_control {contract : List (Event ε) → Except ε Unit → Prop} {call : Control}
    (h : ∀ answer, contract [.control call answer] answer) :
    (control call : Exchange ε Unit).Satisfies contract := by
  intro t result ht
  cases ht with
  | control ht => cases ht; exact h _

theorem satisfies_transfer {contract : List (Event ε) → Except ε UInt8 → Prop} {byte : UInt8}
    (h : ∀ answer, contract [.transfer byte answer] answer) :
    (transfer byte : Exchange ε UInt8).Satisfies contract := by
  intro t result ht
  cases ht with
  | transfer ht => cases ht; exact h _

/-- The second exchange runs only where the first one met no fault. -/
theorem Satisfies.bind {exchange : Exchange ε α} {f : α → Exchange ε β}
    {first : List (Event ε) → Except ε α → Prop} {next : α → List (Event ε) → Except ε β → Prop}
    {whole : List (Event ε) → Except ε β → Prop}
    (hexchange : exchange.Satisfies first) (hf : ∀ value, (f value).Satisfies (next value))
    (herror : ∀ t fault, first t (.error fault) → whole t (.error fault))
    (hok : ∀ t value u result, first t (.ok value) → next value u result →
      whole (t ++ u) result) :
    (exchange >>= f).Satisfies whole := by
  intro t result ht
  have hrun : (exchange >>= f).run = exchange.run >>= fun result => match result with
      | .ok value => (f value).run
      | .error fault => pure (.error fault) := by
    change exchange.run.bind _ = exchange.run.bind _
    congr 1
  rw [hrun, Program.traces_bind_iff] at ht
  obtain ⟨t₁, t₂, first', rfl, h₁, h₂⟩ := ht
  cases first' with
  | ok value => exact hok _ _ _ _ (hexchange _ _ h₁) (hf _ _ _ h₂)
  | error fault =>
    cases h₂
    rw [List.append_nil]
    exact herror _ _ (hexchange _ _ h₁)

theorem satisfies_true (exchange : Exchange ε α) : exchange.Satisfies fun _ _ => True :=
  fun _ _ _ => trivial

/-- A transfer is one event, and its answer is the result. -/
theorem one_transfer (byte : UInt8) :
    (transfer byte : Exchange ε UInt8).Satisfies fun t answer => t = [.transfer byte answer] :=
  satisfies_transfer fun _ => rfl

/-- A byte that is sent is one transfer, of which only the fault is looked at. -/
theorem one_sendByte (byte : UInt8) : (sendByte byte : Exchange ε Unit).Satisfies fun t result =>
    ∃ answer : Except ε UInt8, t = [.transfer byte answer] ∧ result = answer.map fun _ => () := by
  have hdone : (pure () : Exchange ε Unit).Satisfies fun t result => t = [] ∧ result = .ok () :=
    satisfies_pure ⟨rfl, rfl⟩
  refine Satisfies.bind (one_transfer byte) (fun _ => hdone) ?_ ?_
  · rintro t fault rfl
    exact ⟨.error fault, rfl, rfl⟩
  · rintro t reply u result rfl ⟨rfl, rfl⟩
    exact ⟨.ok reply, rfl, rfl⟩

/-- The exchange begins by shifting the byte. -/
def Opens (exchange : Exchange ε α) (byte : UInt8) : Prop :=
  exchange.Satisfies fun t _ => ∃ answer rest, t = .transfer byte answer :: rest

theorem Opens.bind {exchange : Exchange ε α} {byte : UInt8} (h : exchange.Opens byte)
    (f : α → Exchange ε β) : (exchange >>= f).Opens byte := by
  refine Satisfies.bind h (fun value => satisfies_true (f value)) (fun _ _ h => h) ?_
  rintro _ value u result ⟨answer, rest, rfl⟩ -
  exact ⟨answer, rest ++ u, rfl⟩

end Exchange

namespace Action

variable {ε σ τ α β : Type}

/-- Every run of the action, on any bus, is as the contract says. -/
def Satisfies (action : Action ε σ α)
    (contract : σ → List (Event ε) → Except (Error ε) α → σ → Prop) : Prop :=
  ∀ s t result s', Program.Traces (action.exec s) t (result, s') → contract s t result s'

section Rules

variable {contract : σ → List (Event ε) → Except (Error ε) α → σ → Prop}

theorem satisfies_true (action : Action ε σ α) : action.Satisfies fun _ _ _ _ => True :=
  fun _ _ _ _ _ => trivial

theorem Satisfies.mono {weaker : σ → List (Event ε) → Except (Error ε) α → σ → Prop}
    {action : Action ε σ α} (haction : action.Satisfies contract)
    (h : ∀ s t result s', contract s t result s' → weaker s t result s') :
    action.Satisfies weaker :=
  fun s t result s' ht => h s t result s' (haction s t result s' ht)

theorem Satisfies.and {other : σ → List (Event ε) → Except (Error ε) α → σ → Prop}
    {action : Action ε σ α} (haction : action.Satisfies contract) (hother : action.Satisfies other) :
    action.Satisfies fun s t result s' => contract s t result s' ∧ other s t result s' :=
  fun s t result s' ht => ⟨haction s t result s' ht, hother s t result s' ht⟩

theorem satisfies_pure {value : α} (h : ∀ s, contract s [] (.ok value) s) :
    (pure value : Action ε σ α).Satisfies contract := by
  intro s t result s' ht
  cases ht
  exact h s

theorem satisfies_throw {error : Error ε} (h : ∀ s, contract s [] (.error error) s) :
    (throw error : Action ε σ α).Satisfies contract := by
  intro s t result s' ht
  cases ht
  exact h s

theorem satisfies_get {contract : σ → List (Event ε) → Except (Error ε) σ → σ → Prop}
    (h : ∀ s, contract s [] (.ok s) s) : (get : Action ε σ σ).Satisfies contract := by
  intro s t result s' ht
  cases ht
  exact h s

theorem satisfies_modify {contract : σ → List (Event ε) → Except (Error ε) Unit → σ → Prop}
    {f : σ → σ} (h : ∀ s, contract s [] (.ok ()) (f s)) :
    (modify f : Action ε σ Unit).Satisfies contract := by
  intro s t result s' ht
  cases ht
  exact h s

theorem satisfies_log {contract : σ → List (Event ε) → Except (Error ε) Unit → σ → Prop}
    {record : LogRecord ε} (h : ∀ s, contract s [.log record] (.ok ()) s) :
    (log record : Action ε σ Unit).Satisfies contract := by
  intro s t result s' ht
  cases ht with
  | log ht => cases ht; exact h s

theorem satisfies_require {contract : σ → List (Event ε) → Except (Error ε) Unit → σ → Prop}
    {condition : Prop} [Decidable condition] {failure : Failure}
    (hok : condition → ∀ s, contract s [] (.ok ()) s)
    (herror : ¬ condition → ∀ s, contract s [] (.error (.card failure)) s) :
    (require condition failure : Action ε σ Unit).Satisfies contract := by
  unfold require
  split
  · exact satisfies_pure (hok ‹_›)
  · exact satisfies_throw (herror ‹_›)

theorem satisfies_exchange {exchange : Exchange ε α} {talk : List (Event ε) → Except ε α → Prop}
    (hexchange : exchange.Satisfies talk)
    (h : ∀ s t result, talk t result → contract s t (result.mapError .transport) s) :
    (Action.exchange exchange : Action ε σ α).Satisfies contract := by
  intro s t result s' ht
  rw [exec_exchange, Program.traces_bind_iff] at ht
  obtain ⟨t₁, t₂, result, rfl, h₁, h₂⟩ := ht
  cases h₂
  rw [List.append_nil]
  exact h s _ _ (hexchange _ _ h₁)

/-- The second action runs only after a success, on the state that the first one left. -/
theorem Satisfies.bind {action : Action ε σ α} {f : α → Action ε σ β}
    {next : α → σ → List (Event ε) → Except (Error ε) β → σ → Prop}
    {whole : σ → List (Event ε) → Except (Error ε) β → σ → Prop}
    (haction : action.Satisfies contract) (hf : ∀ value, (f value).Satisfies (next value))
    (herror : ∀ s t error s', contract s t (.error error) s' → whole s t (.error error) s')
    (hok : ∀ s t value s' u result s'', contract s t (.ok value) s' → next value s' u result s'' →
      whole s (t ++ u) result s'') :
    (action >>= f).Satisfies whole := by
  intro s t result s'' ht
  rw [exec_bind, Program.traces_bind_iff] at ht
  obtain ⟨t₁, t₂, ⟨result₁, s'⟩, rfl, h₁, h₂⟩ := ht
  cases result₁ with
  | ok value => exact hok _ _ _ _ _ _ _ (haction _ _ _ _ h₁) (hf _ _ _ _ _ h₂)
  | error error =>
    cases h₂
    rw [List.append_nil]
    exact herror _ _ _ _ (haction _ _ _ _ h₁)

/-- What comes after a look at the state starts from the state that was seen. -/
theorem satisfies_get_bind {f : σ → Action ε σ β}
    {whole : σ → List (Event ε) → Except (Error ε) β → σ → Prop}
    (h : ∀ seen, (f seen).Satisfies fun s t result s' => s = seen → whole s t result s') :
    (get >>= f).Satisfies whole :=
  fun s t result s' ht => h s s t result s' ht rfl

/-- Taking note of an error adds the events of the note, and the state is what the note leaves. -/
theorem satisfies_noting {note : Error ε → Action ε σ Unit} {body : Action ε σ α}
    {whole : σ → List (Event ε) → Except (Error ε) α → σ → Prop}
    {noted : Error ε → σ → List (Event ε) → Except (Error ε) Unit → σ → Prop}
    (hbody : body.Satisfies contract) (hnote : ∀ error, (note error).Satisfies (noted error))
    (hok : ∀ s t value s', contract s t (.ok value) s' → whole s t (.ok value) s')
    (herror : ∀ s t error s' u result s'', contract s t (.error error) s' →
      noted error s' u result s'' →
      whole s (t ++ u) (.error (match result with | .ok _ => error | .error other => other)) s'') :
    (noting note body).Satisfies whole := by
  intro s t result s'' ht
  rw [exec_noting, Program.traces_bind_iff] at ht
  obtain ⟨t₁, t₂, ⟨result₁, s'⟩, rfl, h₁, h₂⟩ := ht
  cases result₁ with
  | ok value =>
    cases h₂
    rw [List.append_nil]
    exact hok _ _ _ _ (hbody _ _ _ _ h₁)
  | error error =>
    -- the error is thrown again after the note, unless the note has thrown one itself
    simp only at h₂
    rw [exec_bind, Program.traces_bind_iff] at h₂
    obtain ⟨u, v, ⟨result₂, s₂⟩, rfl, h₃, h₄⟩ := h₂
    have hwhole := herror _ _ _ _ _ _ _ (hbody _ _ _ _ h₁) (hnote _ _ _ _ _ h₃)
    cases result₂ <;> (cases h₄; rw [List.append_nil]; exact hwhole)

/-- On a part of a larger state, an action does to the part what it does alone. -/
theorem satisfies_onPart {get : τ → σ} {set : σ → τ → τ} {action : Action ε σ α}
    {whole : τ → List (Event ε) → Except (Error ε) α → τ → Prop}
    (haction : action.Satisfies contract)
    (h : ∀ s t result s', contract (get s) t result s' → whole s t result (set s' s)) :
    (onPart get set action).Satisfies whole := by
  intro s t result s'' ht
  rw [exec_onPart, Program.traces_bind_iff] at ht
  obtain ⟨t₁, t₂, ⟨result₁, s'⟩, rfl, h₁, h₂⟩ := ht
  cases h₂
  rw [List.append_nil]
  exact h _ _ _ _ (haction _ _ _ _ h₁)

end Rules

/-! ## First bytes -/

/-- The action begins by shifting the byte. -/
def Opens (action : Action ε σ α) (byte : UInt8) : Prop :=
  action.Satisfies fun _ t _ _ => ∃ answer rest, t = .transfer byte answer :: rest

theorem opens_exchange {exchange : Exchange ε α} {byte : UInt8} (h : exchange.Opens byte) :
    (Action.exchange exchange : Action ε σ α).Opens byte :=
  satisfies_exchange h fun _ _ _ ht => ht

theorem Opens.bind {action : Action ε σ α} {byte : UInt8} (h : action.Opens byte)
    (f : α → Action ε σ β) : (action >>= f).Opens byte := by
  refine Satisfies.bind h (fun value => satisfies_true (f value)) (fun _ _ _ _ h => h) ?_
  rintro s _ value s' u result s'' ⟨answer, rest, rfl⟩ -
  exact ⟨answer, rest ++ u, rfl⟩

theorem opens_get_bind {f : σ → Action ε σ α} {byte : UInt8} (h : ∀ s, (f s).Opens byte) :
    (get >>= f).Opens byte :=
  satisfies_get_bind fun seen => (h seen).mono fun _ _ _ _ h _ => h

/-! ## Successes -/

/-- Every run that ends with a value relates it to the states before and after. -/
def Yields (action : Action ε σ α) (post : σ → α → σ → Prop) : Prop :=
  action.Satisfies fun s _ result s' => ∀ value, result = .ok value → post s value s'

theorem yields_any (action : Action ε σ α) : action.Yields fun _ _ _ => True :=
  fun _ _ _ _ _ _ _ => trivial

theorem yields_pure {post : σ → α → σ → Prop} {value : α} (h : ∀ s, post s value s) :
    (pure value : Action ε σ α).Yields post :=
  satisfies_pure fun s v hv => by cases hv; exact h s

theorem yields_modify {post : σ → Unit → σ → Prop} {f : σ → σ} (h : ∀ s, post s () (f s)) :
    (modify f : Action ε σ Unit).Yields post :=
  satisfies_modify fun s _ _ => h s

theorem yields_throw {post : σ → α → σ → Prop} (error : Error ε) :
    (throw error : Action ε σ α).Yields post :=
  satisfies_throw fun _ _ h => (nomatch h)

theorem yields_bind {action : Action ε σ α} {f : α → Action ε σ β} {first : σ → α → σ → Prop}
    {next : α → σ → β → σ → Prop} {whole : σ → β → σ → Prop} (haction : action.Yields first)
    (hf : ∀ value, (f value).Yields (next value))
    (h : ∀ s a s' b s'', first s a s' → next a s' b s'' → whole s b s'') :
    (action >>= f).Yields whole := by
  refine haction.bind hf ?_ ?_
  · intro s t error s' _ value hvalue
    cases hvalue
  · intro s t a s' u result s'' hfirst hnext b hb
    exact h s a s' b s'' (hfirst a rfl) (hnext b hb)

/-- What the second action makes sure of may rest on what is known of the first one's value. -/
theorem yields_of_value {action : Action ε σ α} {f : α → Action ε σ β} {known : α → Prop}
    {post : β → σ → Prop} (haction : action.Yields fun _ value _ => known value)
    (h : ∀ value, known value → (f value).Yields fun _ => post) :
    (action >>= f).Yields fun _ => post := by
  have hf : ∀ value, (f value).Yields fun _ b s' => known value → post b s' := by
    intro value s t result s' ht b hb hvalue
    exact h value hvalue s t result s' ht b hb
  exact yields_bind haction hf fun _ _ _ _ _ hvalue hpost => hpost hvalue

/-- What the second action makes sure of need not depend on the first. -/
theorem yields_of_last {action : Action ε σ α} {f : α → Action ε σ β} {post : β → σ → Prop}
    (h : ∀ value, (f value).Yields fun _ => post) : (action >>= f).Yields fun _ => post :=
  yields_of_value (yields_any _) fun value _ => h value

end Action

end SdCard
