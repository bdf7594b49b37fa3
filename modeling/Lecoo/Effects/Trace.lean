namespace Lecoo.Effects

/-! # Runs of a transition system -/

universe u v

variable {σ : Type u} {ε : Type v}

/-- A run in which every step is one the condition allows in the state it is
taken from. -/
inductive Trace (step : σ → ε → Option σ) (allowed : σ → ε → Prop) : σ → List ε → σ → Prop where
  | nil {state} : Trace step allowed state [] state
  | cons {before middle after event events}
      (permitted : allowed before event)
      (stepped : step before event = some middle)
      (rest : Trace step allowed middle events after) :
      Trace step allowed before (event :: events) after

namespace Trace

variable {step : σ → ε → Option σ} {allowed : σ → ε → Prop} {before middle after : σ}
  {events : List ε}

/-- What holds at the start and survives every allowed step holds throughout. -/
theorem invariant {holds : σ → Prop}
    (kept : ∀ {before event after}, holds before → allowed before event →
      step before event = some after → holds after)
    (ran : Trace step allowed before events after) (initially : holds before) : holds after := by
  induction ran with
  | nil => exact initially
  | cons permitted stepped _ ih => exact ih (kept initially permitted stepped)

theorem append {later : List ε} (first : Trace step allowed before events middle)
    (second : Trace step allowed middle later after) :
    Trace step allowed before (events ++ later) after := by
  induction first with
  | nil => exact second
  | cons permitted stepped _ ih => exact .cons permitted stepped (ih second)

theorem strengthen {holds : σ → Prop} {stronger : σ → ε → Prop}
    (kept : ∀ {before event after}, holds before → allowed before event →
      step before event = some after → holds after)
    (implies : ∀ {state event}, holds state → allowed state event → stronger state event)
    (ran : Trace step allowed before events after) (initially : holds before) :
    Trace step stronger before events after := by
  induction ran with
  | nil => exact .nil
  | cons permitted stepped _ ih =>
      exact .cons (implies initially permitted) stepped (ih (kept initially permitted stepped))

theorem mono {wider : σ → ε → Prop} (implies : ∀ {state event}, allowed state event → wider state event)
    (ran : Trace step allowed before events after) : Trace step wider before events after := by
  induction ran with
  | nil => exact .nil
  | cons permitted stepped _ ih => exact .cons (implies permitted) stepped ih

/-- The state is one that a run comes through. -/
def Visits (step : σ → ε → Option σ) (allowed : σ → ε → Prop) (before : σ) (events : List ε)
    (after state : σ) : Prop :=
  ∃ first second, events = first ++ second ∧ Trace step allowed before first state ∧
    Trace step allowed state second after

/-- Each step of a run is taken from a state the run comes through. -/
theorem visiting (ran : Trace step allowed before events after) :
    Trace step (fun state event => allowed state event ∧
      Visits step allowed before events after state) before events after := by
  induction ran with
  | nil => exact .nil
  | cons permitted stepped rest ih =>
      refine .cons ⟨permitted, [], _, rfl, .nil, .cons permitted stepped rest⟩ stepped ?_
      refine ih.mono fun {state event} ⟨allows, first, second, split, earlier, later⟩ => ?_
      exact ⟨allows, _ :: first, second, by rw [split]; rfl, .cons permitted stepped earlier, later⟩

/-- The state after the given steps, when each of them is possible and passes
the check. -/
def replay (step : σ → ε → Option σ) (check : σ → ε → Bool) : σ → List ε → Option σ
  | state, [] => some state
  | state, event :: events =>
      if check state event then
        (step state event).bind fun middle => replay step check middle events
      else
        none

theorem of_replay {check : σ → ε → Bool}
    (sound : ∀ state event, check state event = true → allowed state event)
    (replayed : replay step check before events = some after) :
    Trace step allowed before events after := by
  induction events generalizing before with
  | nil =>
      cases replayed
      exact .nil
  | cons event events ih =>
      cases passed : check before event with
      | false => simp [replay, passed] at replayed
      | true =>
          simp only [replay, passed, if_true] at replayed
          obtain ⟨middle, stepped, rest⟩ := Option.bind_eq_some_iff.mp replayed
          exact .cons (sound before event passed) stepped (ih rest)

end Trace

end Lecoo.Effects
