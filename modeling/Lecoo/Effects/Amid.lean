import Lecoo.Effects.Contract

namespace Lecoo.Effects

/-! # Programs amid the steps of others

Between any two operations of a program the others may change the state, as far
as a reliance allows.
-/

universe u

/-- What a program relies on the others to respect. -/
structure Reliance (σ : Type) where
  allows : σ → σ → Prop
  refl : ∀ state, allows state state
  trans : ∀ {first second third}, allows first second → allows second third → allows first third

def Reliance.none (σ : Type) : Reliance σ := ⟨fun _ _ => True, fun _ => trivial, fun _ _ => trivial⟩

variable {I : Interface.{u}} {α β ε κ σ : Type}

namespace Program

/-- Some choices of the environment and some steps of the others lead the
program from `before` to `result` and `after`. -/
def RunsAmid (semantics : Semantics I κ σ) (reliance : Reliance σ) : Program I α → σ → α → σ → Prop
  | .done value, before, result, after => result = value ∧ reliance.allows before after
  | .perform operation next, before, result, after => ∃ now choice, reliance.allows before now ∧
      (next (semantics operation choice now).1).RunsAmid semantics reliance
        (semantics operation choice now).2 result after

variable {semantics : Semantics I κ σ} {reliance : Reliance σ} {program : Program I α}
  {before now after : σ} {result : α}

theorem RunsAmid.absorb (allowed : reliance.allows before now)
    (ran : program.RunsAmid semantics reliance now result after) :
    program.RunsAmid semantics reliance before result after := by
  cases program with
  | done value => exact ⟨ran.1, reliance.trans allowed ran.2⟩
  | perform operation next =>
      obtain ⟨later, choice, passed, rest⟩ := ran
      exact ⟨later, choice, reliance.trans allowed passed, rest⟩

theorem runsAmid_bind {rest : α → Program I β} {result : β} :
    (program >>= rest).RunsAmid semantics reliance before result after ↔
      ∃ value middle, program.RunsAmid semantics reliance before value middle ∧
        (rest value).RunsAmid semantics reliance middle result after := by
  induction program generalizing before with
  | done value =>
      constructor
      · intro ran
        exact ⟨value, before, ⟨rfl, reliance.refl before⟩, ran⟩
      · intro ⟨_, _, ⟨same, allowed⟩, ran⟩
        subst same
        exact ran.absorb allowed
  | perform operation next ih =>
      constructor
      · intro ⟨now, choice, allowed, ran⟩
        obtain ⟨value, middle, first, second⟩ := ih _ |>.mp ran
        exact ⟨value, middle, ⟨now, choice, allowed, first⟩, second⟩
      · intro ⟨value, middle, ⟨now, choice, allowed, first⟩, second⟩
        exact ⟨now, choice, allowed, (ih _).mpr ⟨value, middle, first, second⟩⟩

/-- A program that was begun in `origin` has come to the given rest of it. -/
def Reached (semantics : Semantics I κ σ) (reliance : Reliance σ) (whole : Program I α) (origin : σ)
    (rest : Program I α) (now : σ) : Prop :=
  ∀ result after, rest.RunsAmid semantics reliance now result after →
    whole.RunsAmid semantics reliance origin result after

variable {whole : Program I α} {origin later : σ}

theorem Reached.start : Reached semantics reliance whole origin whole origin :=
  fun _ _ ran => ran

theorem Reached.step {operation : I.Operation} {next : I.Reply operation → Program I α}
    (reached : Reached semantics reliance whole origin (.perform operation next) now) (choice : κ) :
    Reached semantics reliance whole origin (next (semantics operation choice now).1)
      (semantics operation choice now).2 :=
  fun result after ran => reached result after ⟨now, choice, reliance.refl now, ran⟩

theorem Reached.amid {rest : Program I α}
    (reached : Reached semantics reliance whole origin rest now)
    (allowed : reliance.allows now later) :
    Reached semantics reliance whole origin rest later :=
  fun result after ran => reached result after (ran.absorb allowed)

theorem Reached.ended {value : α}
    (reached : Reached semantics reliance whole origin (.done value) now) :
    whole.RunsAmid semantics reliance origin value now :=
  reached value now ⟨rfl, reliance.refl now⟩

theorem RunsAmid.preserves {permitted : I.Operation → Prop} (relation : σ → σ → Prop)
    (uses : program.Uses permitted)
    (transitive : ∀ {first second third}, relation first second → relation second third →
      relation first third)
    (operations : ∀ operation choice state, permitted operation →
      relation state (semantics operation choice state).2)
    (others : ∀ {before after}, reliance.allows before after → relation before after)
    (ran : program.RunsAmid semantics reliance before result after) : relation before after := by
  induction program generalizing before with
  | done value => exact others ran.2
  | perform operation next ih =>
      obtain ⟨now, choice, allowed, rest⟩ := ran
      have moved := transitive (others allowed) (operations operation choice now uses.1)
      exact transitive moved (ih _ (uses.2 _) rest)

theorem Meets.runsAmid {φ : Type} {contract : Contract I φ} {ends : φ → α → Prop} {phase : φ}
    (meets : program.Meets contract ends phase) (kept : contract.KeptBy semantics)
    (ran : program.RunsAmid semantics reliance before result after) : ∃ last, ends last result := by
  induction program generalizing phase before with
  | done value =>
      rw [ran.1]
      exact ⟨phase, meets⟩
  | perform operation next ih =>
      obtain ⟨now, choice, _, rest⟩ := ran
      exact ih _ (meets.2 _ (kept phase operation choice now meets.1)) rest

end Program

namespace Fallible

def RunsAmid (semantics : Semantics I κ σ) (reliance : Reliance σ) (computation : Fallible I ε α)
    (before : σ) (result : Except ε α) (after : σ) : Prop :=
  Program.RunsAmid semantics reliance computation.run before result after

variable {semantics : Semantics I κ σ} {reliance : Reliance σ} {before after : σ}

theorem runsAmid_bind {computation : Fallible I ε α} {rest : α → Fallible I ε β}
    {result : Except ε β} (ran : RunsAmid semantics reliance (computation >>= rest) before result after) :
    (∃ error middle, RunsAmid semantics reliance computation before (.error error) middle ∧
      result = .error error ∧ reliance.allows middle after) ∨
    (∃ value middle, RunsAmid semantics reliance computation before (.ok value) middle ∧
      RunsAmid semantics reliance (rest value) middle result after) := by
  obtain ⟨outcome, middle, first, second⟩ := Program.runsAmid_bind.mp ran
  cases outcome with
  | error error => exact .inl ⟨error, middle, first, second.1, second.2⟩
  | ok value => exact .inr ⟨value, middle, first, second⟩

end Fallible

end Lecoo.Effects
