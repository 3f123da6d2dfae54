import SdCard.Bus.Action
import SdCard.Bus.Run

/-!
# Programs that do the same to the bus

Two programs are alike if they make the same calls whatever is answered, and end with related
values. Two actions are alike if they are so from related states, with the same result and with
related states at the end. A program cannot then be told from the other by any bus, although its
state may hold more or hold something else.

* `Program.Alike.run`: on every bus, the runs have the same events and leave the bus as it is left
  by the other;
* `Program.Alike.traces`: what one program can go through, the other can;
* `Action.Alike.bind`, `Action.Alike.whileSelected`, `Action.Alike.noting`: parts that are alike
  make wholes that are alike.
-/

namespace SdCard

variable {ε α α' β β' σ τ ρ : Type}

namespace Program

/-- The programs make the same calls, and their values are related. -/
inductive Alike (R : α → β → Prop) : Program ε α → Program ε β → Prop
  | done {a b} : R a b → Alike R (done a) (done b)
  | control {call next next'} : (∀ answer, Alike R (next answer) (next' answer)) →
      Alike R (control call next) (control call next')
  | transfer {byte next next'} : (∀ answer, Alike R (next answer) (next' answer)) →
      Alike R (transfer byte next) (transfer byte next')
  | fifoBusy {next next'} : (∀ answer, Alike R (next answer) (next' answer)) →
      Alike R (fifoBusy next) (fifoBusy next')
  | log {record next next'} : Alike R next next' → Alike R (log record next) (log record next')

/-- A program is like itself. -/
theorem alike_self (p : Program ε α) : Alike Eq p p := by
  induction p with
  | done value => exact .done rfl
  | control call next ih => exact .control ih
  | transfer byte next ih => exact .transfer ih
  | fifoBusy next ih => exact .fifoBusy ih
  | log record next ih => exact .log ih

/-- Programs that are alike are followed by programs that are alike. -/
theorem Alike.bind {R : α → β → Prop} {S : α' → β' → Prop} {p : Program ε α} {q : Program ε β}
    {f : α → Program ε α'} {g : β → Program ε β'} (h : Alike R p q)
    (hf : ∀ a b, R a b → Alike S (f a) (g b)) : Alike S (p >>= f) (q >>= g) := by
  induction h with
  | done hab => exact hf _ _ hab
  | control _ ih => exact .control ih
  | transfer _ ih => exact .transfer ih
  | fifoBusy _ ih => exact .fifoBusy ih
  | log _ ih => exact .log ih

/-- What is selected and let go of is of no account. -/
theorem Alike.whileSelected {R : α → β → Prop} {refused : ε → α} {refused' : ε → β}
    {body : Program ε α} {body' : Program ε β} (h : Alike R body body')
    (hrefused : ∀ fault, R (refused fault) (refused' fault)) :
    Alike R (whileSelected refused body) (whileSelected refused' body') := by
  refine .control fun answer => ?_
  cases answer with
  | error fault => exact .done (hrefused fault)
  | ok => exact h.bind fun a b hab => (alike_self release).bind fun _ _ _ => .done hab

theorem Alike.runFrom {R : α → β → Prop} {p : Program ε α} {q : Program ε β} (h : Alike R p q)
    (bus : Bus ε σ) (s : σ) (events : Array (Event ε)) :
    (p.runFrom bus s events).events = (q.runFrom bus s events).events ∧
      (p.runFrom bus s events).bus = (q.runFrom bus s events).bus ∧
      R (p.runFrom bus s events).value (q.runFrom bus s events).value := by
  induction h generalizing s events with
  | done hab => exact ⟨rfl, rfl, hab⟩
  | control _ ih => exact ih _ _ _
  | transfer _ ih => exact ih _ _ _
  | fifoBusy _ ih => exact ih _ _ _
  | log _ ih => exact ih _ _

/-- No bus can tell programs that are alike from each other. -/
theorem Alike.run {R : α → β → Prop} {p : Program ε α} {q : Program ε β} (h : Alike R p q)
    (bus : Bus ε σ) (s : σ) :
    (p.run bus s).events = (q.run bus s).events ∧ (p.run bus s).bus = (q.run bus s).bus ∧
      R (p.run bus s).value (q.run bus s).value :=
  h.runFrom bus s #[]

/-- What one program goes through, the other goes through as well. -/
theorem Alike.traces {R : α → β → Prop} {p : Program ε α} {q : Program ε β} (h : Alike R p q)
    {t : List (Event ε)} {a : α} (ht : Traces p t a) : ∃ b, R a b ∧ Traces q t b := by
  induction h generalizing t with
  | done hab =>
    cases ht
    exact ⟨_, hab, .done _⟩
  | control _ ih =>
    cases ht with
    | control ht =>
      obtain ⟨b, hab, hb⟩ := ih _ ht
      exact ⟨b, hab, .control hb⟩
  | transfer _ ih =>
    cases ht with
    | transfer ht =>
      obtain ⟨b, hab, hb⟩ := ih _ ht
      exact ⟨b, hab, .transfer hb⟩
  | fifoBusy _ ih =>
    cases ht with
    | fifoBusy ht =>
      obtain ⟨b, hab, hb⟩ := ih _ ht
      exact ⟨b, hab, .fifoBusy hb⟩
  | log _ ih =>
    cases ht with
    | log ht =>
      obtain ⟨b, hab, hb⟩ := ih ht
      exact ⟨b, hab, .log hb⟩

end Program

namespace Action

/-- From related states, the actions make the same calls, end in the same way, and leave related
states. -/
def Alike (R : σ → τ → Prop) (action : Action ε σ α) (other : Action ε τ α) : Prop :=
  ∀ s s', R s s' →
    Program.Alike (fun left right => left.1 = right.1 ∧ R left.2 right.2) (action.exec s)
      (other.exec s')

variable {R : σ → τ → Prop}

theorem alike_pure (value : α) : Alike (ε := ε) R (pure value) (pure value) :=
  fun _ _ h => .done ⟨rfl, h⟩

theorem alike_throw (error : Error ε) : Alike (α := α) R (throw error) (throw error) :=
  fun _ _ h => .done ⟨rfl, h⟩

theorem alike_require (condition : Prop) [Decidable condition] (failure : Failure) :
    Alike (ε := ε) R (require condition failure) (require condition failure) := by
  unfold require
  split
  · exact alike_pure ()
  · exact alike_throw _

theorem alike_modify {f : σ → σ} {g : τ → τ} (h : ∀ s s', R s s' → R (f s) (g s')) :
    Alike (ε := ε) R (modify f) (modify g) :=
  fun s s' hs => .done ⟨rfl, h s s' hs⟩

theorem alike_exchange (exchange : Exchange ε α) :
    Alike R (Action.exchange exchange) (Action.exchange exchange) := by
  intro s s' h
  rw [exec_exchange, exec_exchange]
  refine (Program.alike_self exchange.run).bind fun a b hab => ?_
  subst hab
  exact .done ⟨rfl, h⟩

theorem Alike.bind {action : Action ε σ α} {other : Action ε τ α} {f : α → Action ε σ β}
    {g : α → Action ε τ β} (h : Alike R action other) (hf : ∀ value, Alike R (f value) (g value)) :
    Alike R (action >>= f) (other >>= g) := by
  intro s s' hs
  rw [exec_bind, exec_bind]
  refine (h s s' hs).bind ?_
  rintro ⟨result, left⟩ ⟨result', left'⟩ ⟨hresult, hleft⟩
  cases hresult
  cases result with
  | ok value => exact hf value left left' hleft
  | error error => exact .done ⟨rfl, hleft⟩

/-- The actions may go on with what they see of their states, if that makes no difference. -/
theorem alike_get_bind {f : σ → Action ε σ α} {g : τ → Action ε τ α}
    (h : ∀ s s', R s s' → Alike R (f s) (g s')) : Alike R (get >>= f) (get >>= g) :=
  fun s s' hs => h s s' hs s s' hs

theorem Alike.whileSelected {body : Action ε σ α} {other : Action ε τ α} (h : Alike R body other) :
    Alike R (whileSelected body) (whileSelected other) :=
  fun s s' hs => (h s s' hs).whileSelected fun _ => ⟨rfl, hs⟩

/-- One action on parts that agree. -/
theorem alike_onPart {get : σ → ρ} {set : ρ → σ → σ} {get' : τ → ρ} {set' : ρ → τ → τ}
    (action : Action ε ρ α) (hget : ∀ s s', R s s' → get s = get' s')
    (hset : ∀ s s' part, R s s' → R (set part s) (set' part s')) :
    Alike R (onPart get set action) (onPart get' set' action) := by
  intro s s' hs
  rw [exec_onPart, exec_onPart, hget s s' hs]
  refine (Program.alike_self (action.exec (get' s'))).bind ?_
  rintro ⟨result, part⟩ - rfl
  exact .done ⟨rfl, hset s s' part hs⟩

theorem Alike.noting {note : Error ε → Action ε σ Unit} {note' : Error ε → Action ε τ Unit}
    {body : Action ε σ α} {other : Action ε τ α} (h : Alike R body other)
    (hnote : ∀ error, Alike R (note error) (note' error)) :
    Alike R (noting note body) (noting note' other) := by
  intro s s' hs
  rw [exec_noting, exec_noting]
  refine (h s s' hs).bind ?_
  rintro ⟨result, left⟩ ⟨result', left'⟩ ⟨hresult, hleft⟩
  cases hresult
  cases result with
  | ok value => exact .done ⟨rfl, hleft⟩
  | error error => exact (hnote error).bind (fun _ => alike_throw error) left left' hleft

end Action

end SdCard
