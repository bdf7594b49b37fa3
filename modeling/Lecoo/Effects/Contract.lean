import Lecoo.Effects.Program

namespace Lecoo.Effects

/-! # Contracts between a program and its environment

A contract has phases.  In each phase it permits some operations and promises
something about their replies; an operation may lead to the next phase.
-/

universe u

structure Contract (I : Interface.{u}) (φ : Type) where
  permits : φ → I.Operation → Prop
  replies : φ → (operation : I.Operation) → I.Reply operation → Prop
  next : φ → I.Operation → φ

variable {I : Interface.{u}} {α β ε φ κ σ : Type} {contract : Contract I φ}

/-- The environment keeps the promises of the contract. -/
def Contract.KeptBy (contract : Contract I φ) (semantics : Semantics I κ σ) : Prop :=
  ∀ phase operation choice state, contract.permits phase operation →
    contract.replies phase operation (semantics operation choice state).1

namespace Program

/-- The program keeps to the contract from the phase on, as long as the promises
about the replies are kept; the condition holds of the phase it ends in and of
its result. -/
def Meets (contract : Contract I φ) (ends : φ → α → Prop) : Program I α → φ → Prop
  | .done value, phase => ends phase value
  | .perform operation next, phase => contract.permits phase operation ∧
      ∀ reply, contract.replies phase operation reply →
        (next reply).Meets contract ends (contract.next phase operation)

variable {program : Program I α} {phase : φ} {ends : φ → α → Prop}

theorem Meets.bind {rest : α → Program I β} {last : φ → β → Prop}
    (first : program.Meets contract ends phase)
    (second : ∀ middle value, ends middle value → (rest value).Meets contract last middle) :
    (program >>= rest).Meets contract last phase := by
  induction program generalizing phase with
  | done value => exact second phase value first
  | perform operation next ih =>
      exact ⟨first.1, fun reply promised => ih reply (first.2 reply promised)⟩

/-- A contract that permits no less and promises no less. -/
theorem Meets.transfer {other : Contract I φ}
    (permits : ∀ phase operation, contract.permits phase operation →
      other.permits phase operation)
    (replies : ∀ phase operation reply, contract.permits phase operation →
      other.replies phase operation reply → contract.replies phase operation reply)
    (same : other.next = contract.next) (meets : program.Meets contract ends phase) :
    program.Meets other ends phase := by
  induction program generalizing phase with
  | done value => exact meets
  | perform operation next ih =>
      refine ⟨permits phase operation meets.1, fun reply promised => ?_⟩
      rw [same]
      exact ih reply (meets.2 reply (replies phase operation reply meets.1 promised))

theorem Meets.runs {semantics : Semantics I κ σ} {before after : σ} {result : α}
    (meets : program.Meets contract ends phase) (kept : contract.KeptBy semantics)
    (ran : program.Runs semantics before result after) : ∃ last, ends last result := by
  induction program generalizing phase before with
  | done value =>
      rw [ran.1]
      exact ⟨phase, meets⟩
  | perform operation next ih =>
      obtain ⟨choice, rest⟩ := ran
      exact ih _ (meets.2 _ (kept phase operation choice before meets.1)) rest

end Program

namespace Fallible

variable {computation : Fallible I ε α} {phase : φ} {ends : φ → Except ε α → Prop}

def Meets (contract : Contract I φ) (ends : φ → Except ε α → Prop)
    (computation : Fallible I ε α) (phase : φ) : Prop :=
  Program.Meets contract ends computation.run phase

theorem meets_bind {rest : α → Fallible I ε β} {last : φ → Except ε β → Prop}
    (first : Meets contract ends computation phase)
    (errors : ∀ middle error, ends middle (.error error) → last middle (.error error))
    (second : ∀ middle value, ends middle (.ok value) → Meets contract last (rest value) middle) :
    Meets contract last (computation >>= rest) phase := by
  refine Program.Meets.bind first fun middle outcome ended => ?_
  cases outcome with
  | error error => exact errors middle error ended
  | ok value => exact second middle value ended

theorem meets_pure {value : α} (ended : ends phase (.ok value)) :
    Meets contract ends (pure value) phase := ended

theorem meets_always {program : Program I α}
    (meets : program.Meets contract (fun last value => ends last (.ok value)) phase) :
    Meets contract ends (always program) phase :=
  Program.Meets.bind meets fun _ _ ended => ended

end Fallible

end Lecoo.Effects
