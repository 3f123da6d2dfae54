import SdCard.Proofs.Bus.Conversation

/-!
# Faults of the bus

Any call of the bus may fail. A conversation ends at the first fault, with one exception: while a
card is let go of, faults are passed over, be it the release of the line or the idle byte after it
that meets one. So the faults that are met outside of releases are the one that ends the
conversation, if one does: `Conversation.meets`.
-/

namespace SdCard

variable {ε : Type}

/-! ## Faults among calls -/

/-- The fault that a call met, if it met one. -/
def Event.fault? : Event ε → Option ε
  | .control _ (.error fault) => some fault
  | .transfer _ (.error fault) => some fault
  | _ => none

/-- All faults that were met, in order. -/
def faults (t : List (Event ε)) : List ε := t.filterMap Event.fault?

/-- The event lets go of the select line. -/
def Event.releases : Event ε → Bool
  | .control (.forceSelect false) _ => true
  | _ => false

/-- The calls without releases: each release of the line, and the byte that follows it. -/
def withoutReleases : List (Event ε) → List (Event ε)
  | .control (.forceSelect false) _ :: .transfer _ _ :: t => withoutReleases t
  | event :: t => event :: withoutReleases t
  | [] => []

@[simp] theorem faults_nil : faults ([] : List (Event ε)) = [] := rfl

@[simp] theorem faults_append (t u : List (Event ε)) : faults (t ++ u) = faults t ++ faults u :=
  List.filterMap_append ..

@[simp] theorem faults_control (call : Control) (answer : Except ε Unit) (t : List (Event ε)) :
    faults (.control call answer :: t) = (Exchange.fault? answer).toList ++ faults t := by
  cases answer <;> rfl

@[simp] theorem faults_transfer (byte : UInt8) (answer : Except ε UInt8) (t : List (Event ε)) :
    faults (.transfer byte answer :: t) = (Exchange.fault? answer).toList ++ faults t := by
  cases answer <;> rfl

theorem withoutReleases_cons {event : Event ε} (h : event.releases = false) (t : List (Event ε)) :
    withoutReleases (event :: t) = event :: withoutReleases t := by
  cases event with
  | control call answer =>
    cases call with
    | forceSelect active =>
      cases active with
      | false => cases h
      | true => rfl
    | _ => rfl
  | _ => rfl

/-- What comes before all releases is kept. -/
theorem withoutReleases_append {t : List (Event ε)} (h : ∀ event ∈ t, event.releases = false)
    (u : List (Event ε)) : withoutReleases (t ++ u) = t ++ withoutReleases u := by
  induction t with
  | nil => rfl
  | cons event t ih =>
    have hrest : withoutReleases (t ++ u) = t ++ withoutReleases u :=
      ih fun e he => h e (List.mem_cons_of_mem _ he)
    rw [List.cons_append, withoutReleases_cons (h event (List.mem_cons_self ..)), hrest,
      List.cons_append]

theorem withoutReleases_sublist (t : List (Event ε)) : (withoutReleases t).Sublist t := by
  fun_induction withoutReleases t with
  | case1 _ _ _ _ ih => exact (ih.cons _).cons _
  | case2 _ _ _ ih => exact ih.cons_cons _
  | case3 => exact .refl _

/-! ## Faults in the parts of a conversation -/

/-- These faults are met in the part outside of releases, whatever comes after it. -/
def Meets (t : List (Event ε)) (met : List ε) : Prop :=
  ∀ u, faults (withoutReleases (t ++ u)) = met ++ faults (withoutReleases u)

theorem Meets.append {t u : List (Event ε)} {met others : List ε} (ht : Meets t met)
    (hu : Meets u others) : Meets (t ++ u) (met ++ others) := by
  intro v
  rw [List.append_assoc, ht, hu, List.append_assoc]

theorem meets_of_not_releases {t : List (Event ε)} (h : ∀ event ∈ t, event.releases = false) :
    Meets t (faults t) := by
  intro u
  rw [withoutReleases_append h, faults_append]

theorem meets_control {call : Control} (h : call ≠ .forceSelect false) (answer : Except ε Unit) :
    Meets [.control call answer] (Exchange.fault? answer).toList := by
  have hcall : (Event.control call answer).releases = false := by
    cases call with
    | forceSelect active =>
      cases active with
      | false => exact absurd rfl h
      | true => rfl
    | _ => rfl
  have hmeets : Meets [.control call answer] (faults [.control call answer]) :=
    meets_of_not_releases fun event hevent => by rwa [List.mem_singleton.mp hevent]
  simpa using hmeets

theorem meets_fault (byte : UInt8) (fault : ε) :
    Meets [.transfer byte (.error fault)] [fault] := fun _ => rfl

/-- The release is left out, whatever its calls meet. -/
theorem meets_release (released : Except ε Unit) (byte : UInt8) (reply : Except ε UInt8) :
    Meets [.control (.forceSelect false) released, .transfer byte reply] [] := fun _ => rfl

/-- Nothing is let go of while bytes are shifted. -/
theorem Talk.not_releases {t : List (Event ε)} {ending : Option ε} (h : Talk t ending) :
    ∀ event ∈ t, event.releases = false := by
  intro event hevent
  obtain ⟨byte, answer, rfl⟩ := h.transfers event hevent
  rfl

theorem Drained.not_releases {polls : Nat} {t : List (Event ε)} (h : Drained polls t) :
    ∀ event ∈ t, event.releases = false := by
  intro event hevent
  obtain ⟨busy, rfl⟩ := h.queries event hevent
  rfl

theorem Shifted.meets {t : List (Event ε)} (ht : Shifted t) : Meets t [] := by
  have hfaults : faults t = [] := by
    apply List.filterMap_eq_nil_iff.mpr
    intro event hevent
    obtain ⟨byte, reply, rfl⟩ := ht event hevent
    rfl
  rw [← hfaults]
  exact meets_of_not_releases (Talk.whole ht).not_releases

theorem Talk.meets {t : List (Event ε)} {ending : Option ε} (ht : Talk t ending) :
    Meets t ending.toList := by
  cases ht with
  | whole ht => exact ht.meets
  | broken ht => exact ht.meets.append (meets_fault _ _)

theorem Drained.meets {polls : Nat} {t : List (Event ε)} (ht : Drained polls t) : Meets t [] := by
  have hfaults : faults t = [] := by
    apply List.filterMap_eq_nil_iff.mpr
    intro event hevent
    obtain ⟨busy, rfl⟩ := ht.queries event hevent
    rfl
  rw [← hfaults]
  exact meets_of_not_releases ht.not_releases

theorem Bracket.meets {t : List (Event ε)} {ending : Option ε} (ht : Bracket t ending) :
    Meets t ending.toList := by
  cases ht with
  | refused => exact meets_control (by decide) _
  | @held talk queries released reply _ htalk hdrained =>
    have hselect : Meets [(Event.control (.forceSelect true) (.ok ()) : Event ε)] [] :=
      meets_control (by decide) _
    have hinside : Meets (talk ++ queries) (ending.toList ++ []) :=
      htalk.meets.append hdrained.meets
    simpa using hselect.append (hinside.append (meets_release released idleByte reply))

theorem WakeUp.meets {chipSelect : UInt8} {count : Nat} {t : List (Event ε)} {ending : Option ε}
    (ht : WakeUp chipSelect count t ending) : Meets t ending.toList := by
  have hcontrol : ∀ active (answer : Except ε Unit),
      Meets [.control (.chipSelect chipSelect active) answer] (Exchange.fault? answer).toList :=
    fun active answer => meets_control (by simp) answer
  cases ht with
  | notReleased => exact hcontrol _ _
  | whole hidles =>
    exact (hcontrol false (.ok ())).append (hidles.shifted.meets.append (hcontrol true (.ok ())))
  | broken hidles =>
    exact (hcontrol false (.ok ())).append (hidles.shifted.meets.append (meets_fault _ _))
  | notNamed hidles =>
    exact (hcontrol false (.ok ())).append (hidles.shifted.meets.append (hcontrol true (.error _)))

theorem Attempt.meets {wake : Waking} {t : List (Event ε)} {ending : Option ε}
    (ht : Attempt wake t ending) : Meets t ending.toList := by
  cases ht with
  | asleep ht => exact ht.meets
  | woken ht hu =>
    refine ht.meets.append ?_
    cases hu with
    | held hu => exact hu.meets
    | refused => exact Bracket.refused.meets

theorem Piece.meets {waking : Option Waking} {t : List (Event ε)} {ending : Option ε}
    (ht : Piece waking t ending) : Meets t ending.toList := by
  cases ht with
  | mode => exact meets_control (by simp) _
  | modeFault => exact meets_control (by simp) _
  | clock => exact meets_control (by simp) _
  | clockFault => exact meets_control (by simp) _
  | attempt _ ht => exact ht.meets
  | bracket ht => exact ht.meets

/-- Outside of releases, a conversation meets the fault that ends it and no other one. -/
theorem Conversation.meets {waking : Option Waking} {t : List (Event ε)} {ending : Option ε}
    (ht : Conversation waking t ending) : Meets t ending.toList := by
  induction ht with
  | nil => exact fun _ => rfl
  | next hpiece _ ih => exact hpiece.meets.append ih
  | stop hpiece => exact hpiece.meets

end SdCard
