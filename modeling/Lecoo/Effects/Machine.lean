import Lecoo.Effects.Trace

namespace Lecoo.Effects

/-! # Machines

A machine takes labelled steps, of which only some are possible in a state.  Runs
are lists of labels; a guarded run meets a condition at each of its steps.
-/

/-- The state after a step, when the step is possible. -/
abbrev Machine (σ ε : Type) := σ → ε → Option σ

namespace Machine

variable {σ ε : Type} {machine : Machine σ ε} {condition other : σ → ε → Prop}
  {before after : σ} {events : List ε}

/-- A run whose steps all meet the condition in the states they are taken in. -/
abbrev Guarded (machine : Machine σ ε) (condition : σ → ε → Prop) : σ → List ε → σ → Prop :=
  Trace machine condition

abbrev Run (machine : Machine σ ε) : σ → List ε → σ → Prop :=
  Guarded machine fun _ _ => True

/-- The steps that lead to a state in which something holds. -/
def Leads (machine : Machine σ ε) (holds : σ → Prop) (state : σ) (event : ε) : Prop :=
  ∀ next, machine state event = some next → holds next

/-- While an invariant holds, conditions that agree on each step are met by the
same runs. -/
theorem guarded_iff (holds : σ → Prop) (ran : Run machine before events after)
    (same : ∀ {state event next}, holds state → machine state event = some next →
      (condition state event ↔ other state event))
    (kept : ∀ {state event next}, holds state → other state event →
      machine state event = some next → holds next)
    (first : holds before) :
    Guarded machine condition before events after ↔
      Guarded machine other before events after := by
  induction ran with
  | nil => exact iff_of_true .nil .nil
  | @cons before middle after event events _ step _ later =>
      constructor
      · intro guarded
        cases guarded with
        | cons met step' rest =>
            cases step.symm.trans step'
            have met := (same first step).mp met
            exact .cons met step ((later (kept first met step)).mp rest)
      · intro guarded
        cases guarded with
        | cons met step' rest =>
            cases step.symm.trans step'
            exact .cons ((same first step).mpr met) step ((later (kept first met step)).mpr rest)

theorem leads_iff {holds : σ → Prop} {event : ε} (stepped : machine before event = some after) :
    Leads machine holds before event ↔ holds after := by
  constructor
  · intro leads
    exact leads after stepped
  · intro held next stepped'
    cases stepped.symm.trans stepped'
    exact held

/-- A property that each step from the invariant leads to exactly under a condition holds
throughout a run exactly when every step meets the condition. -/
theorem guarded_leads_iff {holds : σ → Prop} (invariant : σ → Prop)
    (ran : Run machine before events after)
    (exactly : ∀ {state event next}, invariant state → machine state event = some next →
      (holds next ↔ condition state event))
    (kept : ∀ {state event next}, invariant state → condition state event →
      machine state event = some next → invariant next)
    (first : invariant before) :
    Guarded machine (Leads machine holds) before events after ↔
      Guarded machine condition before events after := by
  refine guarded_iff invariant ran ?_ kept first
  intro state event next invariant stepped
  exact (leads_iff stepped).trans (exactly invariant stepped)

/-- A condition on the labels alone is a condition on the list of labels. -/
theorem guarded_label_iff {allowed : ε → Prop} (ran : Run machine before events after) :
    Guarded machine (fun _ event => allowed event) before events after ↔
      ∀ event ∈ events, allowed event := by
  induction ran with
  | nil => exact iff_of_true .nil (by simp)
  | cons _ step _ later =>
      rw [List.forall_mem_cons, ← later]
      constructor
      · intro guarded
        cases guarded with
        | cons met step' rest =>
            cases step.symm.trans step'
            exact ⟨met, rest⟩
      · intro ⟨met, rest⟩
        exact .cons met step rest

/-- Take the steps one after the other. -/
abbrev replay (machine : Machine σ ε) : σ → List ε → Option σ :=
  Trace.replay machine fun _ _ => true

theorem run_of_replay (replayed : machine.replay before events = some after) :
    Run machine before events after :=
  Trace.of_replay (fun _ _ _ => trivial) replayed

end Machine

end Lecoo.Effects
