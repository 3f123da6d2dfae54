import SdCard.Bus.Trace

/-!
# What the calls ask of the select line

A card is named by a chip select, and its line is driven by a force select. `Driven` says of the
calls so far that the line should be driven now: the last chip select named a card, and the last
force select was to drive the line. A release that meets a fault may leave the line as it was;
`Stuck` says that this has happened and that nothing since has settled it.

Each call changes these by one step: `driven_chipSelect`, `driven_forceSelect`, `stuck_concat`.
-/

namespace SdCard

namespace Line

variable {ε : Type}

/-! ## The last calls that concern the line -/

/-- The chip selects among some events: whether each of them named the card. -/
def chipSelects (t : List (Event ε)) : List Bool :=
  t.filterMap fun
    | .control (.chipSelect _ active) _ => some active
    | _ => none

/-- The force selects among some events: whether each of them was to drive the line. -/
def forceSelects (t : List (Event ε)) : List Bool :=
  t.filterMap fun
    | .control (.forceSelect active) _ => some active
    | _ => none

/-- The last chip select named the card. -/
def Named (t : List (Event ε)) : Prop := (chipSelects t).getLast? = some true

/-- The last force select was to drive the line. -/
def Forced (t : List (Event ε)) : Prop := (forceSelects t).getLast? = some true

/-- By the calls so far, the line should be driven. -/
def Driven (t : List (Event ε)) : Prop := Named t ∧ Forced t

/-- The call ends what a failed release has left behind: it names the card no longer, drives the
line again, or releases it without a fault. -/
def Settles : Event ε → Prop
  | .control (.chipSelect _ active) _ => active = false
  | .control (.forceSelect active) answer => active = true ∨ answer = .ok ()
  | _ => False

/-- The line was driven, its release met a fault, and nothing has settled that since. -/
def Stuck (t : List (Event ε)) : Prop :=
  ∃ before fault after, t = before ++ .control (.forceSelect false) (.error fault) :: after ∧
    Driven before ∧ ∀ event ∈ after, ¬ Settles event

/-! ## One more call -/

section Calls

variable {t : List (Event ε)} {event : Event ε}

@[simp] theorem named_chipSelect (index : UInt8) (active : Bool) (answer : Except ε Unit) :
    Named (t ++ [.control (.chipSelect index active) answer]) ↔ active = true := by
  simp [Named, chipSelects]

@[simp] theorem forced_forceSelect (active : Bool) (answer : Except ε Unit) :
    Forced (t ++ [.control (.forceSelect active) answer]) ↔ active = true := by
  simp [Forced, forceSelects]

theorem named_concat (h : chipSelects [event] = []) : Named (t ++ [event]) ↔ Named t := by
  unfold Named
  rw [show chipSelects (t ++ [event]) = chipSelects t ++ chipSelects [event] from
    List.filterMap_append .., h, List.append_nil]

theorem forced_concat (h : forceSelects [event] = []) : Forced (t ++ [event]) ↔ Forced t := by
  unfold Forced
  rw [show forceSelects (t ++ [event]) = forceSelects t ++ forceSelects [event] from
    List.filterMap_append .., h, List.append_nil]

/-- The last event leaves the line stuck as it was, or it is the release that fails. -/
theorem stuck_concat : Stuck (t ++ [event]) ↔
    (Stuck t ∧ ¬ Settles event) ∨
    (Driven t ∧ ∃ fault, event = .control (.forceSelect false) (.error fault)) := by
  constructor
  · intro h
    obtain ⟨before, fault, after, heq, hdriven, hafter⟩ := h
    -- either the failed release is the last event, or it was among the others
    rcases List.eq_nil_or_concat after with rfl | ⟨others, last, rfl⟩
    · obtain ⟨rfl, hevent⟩ := List.append_inj' heq rfl
      cases hevent
      exact .inr ⟨hdriven, fault, rfl⟩
    · rw [List.concat_eq_append, ← List.cons_append, ← List.append_assoc] at heq
      obtain ⟨rfl, hevent⟩ := List.append_inj' heq rfl
      cases hevent
      simp only [List.concat_eq_append, List.mem_append, List.mem_singleton] at hafter
      exact .inl ⟨⟨before, fault, others, rfl, hdriven, fun e he => hafter e (.inl he)⟩,
        hafter _ (.inr rfl)⟩
  · intro h
    rcases h with ⟨⟨before, fault, after, rfl, hdriven, hafter⟩, hsettles⟩ | ⟨hdriven, fault, rfl⟩
    · refine ⟨before, fault, after ++ [event], by simp, hdriven, fun e he => ?_⟩
      rcases List.mem_append.mp he with he | he
      · exact hafter e he
      · rw [List.mem_singleton.mp he]
        exact hsettles
    · exact ⟨t, fault, [], rfl, hdriven, fun e he => (nomatch he)⟩

theorem driven_chipSelect (index : UInt8) (active : Bool) (answer : Except ε Unit) :
    Driven (t ++ [.control (.chipSelect index active) answer]) ↔ active = true ∧ Forced t := by
  rw [Driven, named_chipSelect, forced_concat rfl]

theorem driven_forceSelect (active : Bool) (answer : Except ε Unit) :
    Driven (t ++ [.control (.forceSelect active) answer]) ↔ Named t ∧ active = true := by
  rw [Driven, forced_forceSelect, named_concat rfl]

theorem stuck_chipSelect (index : UInt8) (active : Bool) (answer : Except ε Unit) :
    Stuck (t ++ [.control (.chipSelect index active) answer]) ↔ Stuck t ∧ active = true := by
  rw [stuck_concat]
  simp [Settles]

/-- A line that is driven, or released without a fault, is not stuck. -/
theorem not_stuck_forceSelect {active : Bool} {answer : Except ε Unit}
    (h : active = true ∨ answer = .ok ()) :
    ¬ Stuck (t ++ [.control (.forceSelect active) answer]) := by
  rw [stuck_concat]
  rintro (⟨-, hsettles⟩ | ⟨-, fault, hevent⟩)
  · exact hsettles h
  · cases hevent
    rcases h with h | h <;> cases h

theorem stuck_release (fault : ε) :
    Stuck (t ++ [.control (.forceSelect false) (.error fault)]) ↔ Driven t ∨ Stuck t := by
  rw [stuck_concat]
  simp [Settles, or_comm]

/-- Where a card is named and its line is not driven, this is so until something is settled. -/
theorem unsettled_append {more : List (Event ε)} (h : Named t ∧ ¬ Forced t)
    (hmore : ∀ event ∈ more, ¬ Settles event) : Named (t ++ more) ∧ ¬ Forced (t ++ more) := by
  induction more generalizing t with
  | nil => simpa using h
  | cons event more ih =>
    rw [List.append_cons]
    refine ih ?_ fun e he => hmore e (List.mem_cons_of_mem _ he)
    have hsettles : ¬ Settles event := hmore event (List.mem_cons_self ..)
    have hsame : chipSelects [event] = [] → forceSelects [event] = [] →
        Named (t ++ [event]) ∧ ¬ Forced (t ++ [event]) := fun hchip hforce =>
      ⟨(named_concat hchip).mpr h.1, mt (forced_concat hforce).mp h.2⟩
    cases event with
    | control call answer =>
      cases call with
      | mode => exact hsame rfl rfl
      | clock => exact hsame rfl rfl
      | chipSelect index active =>
        rw [named_chipSelect, forced_concat rfl]
        exact ⟨by simpa [Settles] using hsettles, h.2⟩
      | forceSelect active =>
        rw [named_concat rfl, forced_forceSelect]
        exact ⟨h.1, fun hactive => hsettles (.inl hactive)⟩
    | transfer => exact hsame rfl rfl
    | fifoBusy => exact hsame rfl rfl
    | log => exact hsame rfl rfl

/-- A line that is stuck is the line of a card that is still named, and nobody drives it. -/
theorem Stuck.named_and_not_forced (h : Stuck t) : Named t ∧ ¬ Forced t := by
  obtain ⟨before, fault, after, rfl, hdriven, hafter⟩ := h
  rw [List.append_cons]
  refine unsettled_append ?_ hafter
  rw [named_concat rfl, forced_forceSelect]
  exact ⟨hdriven.1, by decide⟩

end Calls

end Line

end SdCard
