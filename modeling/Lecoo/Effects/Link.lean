import Lecoo.Effects.Expand
import Lecoo.Effects.Machine

namespace Lecoo.Effects

/-! # Two programs on a link

Two programs talk to each other over a link.  Each side keeps on a tape what it
has read and what it has written, and what a side has read is a prefix of what
the other one has written.  Nothing else is assumed of the link: it hands the
writings out in pieces of any size, late or never, and a side that performs no
further operation has hung up.
-/

universe u v

namespace Program

variable {I : Interface.{u}} {α β κ σ : Type}

/-- Some choices of the environment lead the program from `before` to the given
rest of it. -/
def Comes (semantics : Semantics I κ σ) : Program I α → σ → Program I α → σ → Prop
  | .done value, before, rest, now => rest = .done value ∧ now = before
  | .perform operation next, before, rest, now =>
      (rest = .perform operation next ∧ now = before) ∨ ∃ choice,
        (next (semantics operation choice before).1).Comes semantics
          (semantics operation choice before).2 rest now

/-- The states a run passes through, the first and the last one included. -/
def Passes (semantics : Semantics I κ σ) (program : Program I α) (before now : σ) : Prop :=
  ∃ rest, program.Comes semantics before rest now

variable {semantics : Semantics I κ σ} {program rest : Program I α} {before now after : σ}

theorem comes_refl : program.Comes semantics before program before := by
  cases program with
  | done value => exact ⟨rfl, rfl⟩
  | perform operation next => exact .inl ⟨rfl, rfl⟩

theorem Comes.step {operation : I.Operation} {next : I.Reply operation → Program I α}
    (comes : program.Comes semantics before (.perform operation next) now) (choice : κ) :
    program.Comes semantics before (next (semantics operation choice now).1)
      (semantics operation choice now).2 := by
  induction program generalizing before with
  | done value => cases comes.1
  | perform first later ih =>
      rcases comes with ⟨same, rfl⟩ | ⟨earlier, comes⟩
      · cases same
        exact .inr ⟨choice, comes_refl⟩
      · exact .inr ⟨earlier, ih _ comes⟩

theorem Comes.runs {value : α} (comes : program.Comes semantics before (.done value) now) :
    program.Runs semantics before value now := by
  induction program generalizing before with
  | done value =>
      obtain ⟨same, rfl⟩ := comes
      cases same
      exact ⟨rfl, rfl⟩
  | perform operation next ih =>
      rcases comes with ⟨impossible, _⟩ | ⟨choice, comes⟩
      · cases impossible
      · exact ⟨choice, ih _ comes⟩

theorem passes_refl : program.Passes semantics before before := ⟨program, comes_refl⟩

@[simp] theorem passes_done {value : α} :
    (Program.done value : Program I α).Passes semantics before now ↔ now = before := by
  constructor
  · intro ⟨_, _, same⟩
    exact same
  · intro same
    exact ⟨_, rfl, same⟩

theorem passes_perform {operation : I.Operation} {next : I.Reply operation → Program I α} :
    (Program.perform operation next).Passes semantics before now ↔ now = before ∨ ∃ choice,
      (next (semantics operation choice before).1).Passes semantics
        (semantics operation choice before).2 now := by
  constructor
  · intro ⟨rest, comes⟩
    rcases comes with ⟨_, same⟩ | ⟨choice, comes⟩
    · exact .inl same
    · exact .inr ⟨choice, rest, comes⟩
  · intro passes
    rcases passes with rfl | ⟨choice, rest, comes⟩
    · exact passes_refl
    · exact ⟨rest, .inr ⟨choice, comes⟩⟩

theorem Runs.passes {value : α} (ran : program.Runs semantics before value after) :
    program.Passes semantics before after := by
  induction program generalizing before with
  | done value => exact passes_done.mpr ran.2
  | perform operation next ih =>
      obtain ⟨choice, rest⟩ := ran
      exact passes_perform.mpr (.inr ⟨choice, ih _ rest⟩)

theorem passes_bind {rest : α → Program I β} :
    (program >>= rest).Passes semantics before now ↔ program.Passes semantics before now ∨
      ∃ value middle, program.Runs semantics before value middle ∧
        (rest value).Passes semantics middle now := by
  induction program generalizing before with
  | done value =>
      constructor
      · intro passes
        exact .inr ⟨value, before, ⟨rfl, rfl⟩, passes⟩
      · intro passes
        rcases passes with same | ⟨_, _, ⟨rfl, rfl⟩, passes⟩
        · rw [passes_done.mp same]
          exact passes_refl
        · exact passes
  | perform operation next ih =>
      simp only [perform_bind, passes_perform, runs_perform, ih]
      constructor
      · intro passes
        rcases passes with same | ⟨choice, first | ⟨value, middle, first, later⟩⟩
        · exact .inl (.inl same)
        · exact .inl (.inr ⟨choice, first⟩)
        · exact .inr ⟨value, middle, ⟨choice, first⟩, later⟩
      · intro passes
        rcases passes with (same | ⟨choice, first⟩) | ⟨value, middle, ⟨choice, first⟩, later⟩
        · exact .inl same
        · exact .inr ⟨choice, .inl first⟩
        · exact .inr ⟨choice, .inr ⟨value, middle, first, later⟩⟩

/-- A relation that the permitted operations respect holds all the way. -/
theorem Uses.passes {permitted : I.Operation → Prop} (relation : σ → σ → Prop)
    (uses : program.Uses permitted) (reflexive : ∀ state, relation state state)
    (transitive : ∀ {first second third}, relation first second → relation second third →
      relation first third)
    (operations : ∀ operation choice state, permitted operation →
      relation state (semantics operation choice state).2)
    (passes : program.Passes semantics before now) : relation before now := by
  induction program generalizing before with
  | done value => rw [passes_done.mp passes]; exact reflexive before
  | perform operation next ih =>
      rcases passes_perform.mp passes with rfl | ⟨choice, later⟩
      · exact reflexive _
      · exact transitive (operations operation choice before uses.1) (ih _ (uses.2 _) later)

/-- A program of the first interface leaves the state of the second one alone. -/
theorem passes_inLeft {J : Interface.{v}} {χ τ : Type} {other : Semantics J χ τ}
    {before now : σ × τ}
    (passes : (program.inLeft (J := J)).Passes (semantics.sum other) before now) :
    program.Passes semantics before.1 now.1 ∧ now.2 = before.2 := by
  induction program generalizing before with
  | done value =>
      have same := passes_done.mp passes
      exact ⟨passes_done.mpr (congrArg Prod.fst same), congrArg Prod.snd same⟩
  | perform operation next ih =>
      rcases passes_perform.mp passes with rfl | ⟨choice, later⟩
      · exact ⟨passes_refl, rfl⟩
      · obtain ⟨first, kept⟩ := ih _ later
        exact ⟨passes_perform.mpr (.inr ⟨choice.1, first⟩), kept⟩

end Program

namespace Fallible

variable {I : Interface.{u}} {α β ε κ σ : Type} {semantics : Semantics I κ σ} {before now : σ}

def Passes (semantics : Semantics I κ σ) (computation : Fallible I ε α) (before now : σ) : Prop :=
  Program.Passes semantics computation.run before now

theorem passes_always {program : Program I α} :
    Passes semantics (always program : Fallible I ε α) before now ↔
      program.Passes semantics before now := by
  change (program >>= fun value => Program.done (Except.ok value)).Passes _ _ _ ↔ _
  rw [Program.passes_bind]
  constructor
  · intro passes
    rcases passes with first | ⟨value, middle, ran, last⟩
    · exact first
    · rw [Program.passes_done.mp last]
      exact ran.passes
  · exact .inl

theorem passes_bind {computation : Fallible I ε α} {rest : α → Fallible I ε β} :
    Passes semantics (computation >>= rest) before now ↔ Passes semantics computation before now ∨
      ∃ value middle, Runs semantics computation before (.ok value) middle ∧
        Passes semantics (rest value) middle now := by
  change (computation.run >>= ExceptT.bindCont rest).Passes _ _ _ ↔ _
  rw [Program.passes_bind]
  constructor
  · intro passes
    rcases passes with first | ⟨outcome, middle, first, later⟩
    · exact .inl first
    · cases outcome with
      | error error =>
          have same := Program.passes_done.mp later
          exact .inl (same ▸ first.passes)
      | ok value => exact .inr ⟨value, middle, first, later⟩
  · intro passes
    rcases passes with first | ⟨value, middle, first, later⟩
    · exact .inl first
    · exact .inr ⟨.ok value, middle, first, later⟩

end Fallible

/-- What one side of a link has read and written so far. -/
structure Tape (τ : Type) where
  read : List τ
  written : List τ
deriving DecidableEq

def Tape.blank (τ : Type) : Tape τ := { read := [], written := [] }

/-- What a side still has to do, and the state it is in. -/
structure Party (I : Interface.{u}) (α σ : Type) where
  todo : Program I α
  now : σ

def Party.next {I : Interface.{u}} {α κ σ : Type} (semantics : Semantics I κ σ)
    (party : Party I α σ) (choice : κ) : Option (Party I α σ) :=
  match party.todo with
  | .done _ => none
  | .perform operation next =>
      let answered := semantics operation choice party.now
      some ⟨next answered.1, answered.2⟩

structure Link (I J : Interface.{0}) (α β σ ρ : Type) where
  left : Party I α σ
  right : Party J β ρ

inductive Move (κ χ : Type) where
  | left (choice : κ)
  | right (choice : χ)

section Link

variable {I J : Interface.{0}} {α β κ χ σ ρ τ : Type} [DecidableEq τ]

/-- A side performs its next operation, if it has read no more than was written to it. -/
def link (left : Semantics I κ σ) (right : Semantics J χ ρ) (leftTape : σ → Tape τ)
    (rightTape : ρ → Tape τ) : Machine (Link I J α β σ ρ) (Move κ χ)
  | state, .left choice => do
      let moved ← state.left.next left choice
      if (leftTape moved.now).read <+: (rightTape state.right.now).written then
        some { state with left := moved }
      else
        none
  | state, .right choice => do
      let moved ← state.right.next right choice
      if (rightTape moved.now).read <+: (leftTape state.left.now).written then
        some { state with right := moved }
      else
        none

/-- What is written stays written. -/
def Grows (semantics : Semantics I κ σ) (tape : σ → Tape τ) : Prop :=
  ∀ operation choice state,
    (tape state).written <+: (tape (semantics operation choice state).2).written

/-- Each side has come to where it is on its own, and has read what the other one wrote. -/
structure Linked (left : Semantics I κ σ) (right : Semantics J χ ρ) (leftTape : σ → Tape τ)
    (rightTape : ρ → Tape τ) (origin now : Link I J α β σ ρ) : Prop where
  left : origin.left.todo.Comes left origin.left.now now.left.todo now.left.now
  right : origin.right.todo.Comes right origin.right.now now.right.todo now.right.now
  leftRead : (leftTape now.left.now).read <+: (rightTape now.right.now).written
  rightRead : (rightTape now.right.now).read <+: (leftTape now.left.now).written

variable {left : Semantics I κ σ} {right : Semantics J χ ρ} {leftTape : σ → Tape τ}
  {rightTape : ρ → Tape τ} {origin before after : Link I J α β σ ρ}

theorem Party.next_some {party moved : Party I α σ} {choice : κ}
    (stepped : party.next left choice = some moved) :
    ∃ operation next, party.todo = .perform operation next ∧
      moved = ⟨next (left operation choice party.now).1, (left operation choice party.now).2⟩ := by
  cases running : party.todo with
  | done value => simp [Party.next, running] at stepped
  | perform operation next =>
      simp only [Party.next, running, Option.some.injEq] at stepped
      exact ⟨operation, next, rfl, stepped.symm⟩

theorem Linked.step {move : Move κ χ} (leftGrows : Grows left leftTape)
    (rightGrows : Grows right rightTape)
    (linked : Linked left right leftTape rightTape origin before)
    (stepped : link left right leftTape rightTape before move = some after) :
    Linked left right leftTape rightTape origin after := by
  cases move with
  | left choice =>
      obtain ⟨moved, performed, allowed⟩ := Option.bind_eq_some_iff.mp stepped
      obtain ⟨operation, next, running, rfl⟩ := Party.next_some performed
      split at allowed
      · rename_i within
        cases allowed
        have comes := linked.left
        rw [running] at comes
        exact {
          left := comes.step choice
          right := linked.right
          leftRead := within
          rightRead := linked.rightRead.trans (leftGrows operation choice before.left.now) }
      · cases allowed
  | right choice =>
      obtain ⟨moved, performed, allowed⟩ := Option.bind_eq_some_iff.mp stepped
      obtain ⟨operation, next, running, rfl⟩ := Party.next_some performed
      split at allowed
      · rename_i within
        cases allowed
        have comes := linked.right
        rw [running] at comes
        exact {
          left := linked.left
          right := comes.step choice
          leftRead := linked.leftRead.trans (rightGrows operation choice before.right.now)
          rightRead := within }
      · cases allowed

theorem Linked.run {moves : List (Move κ χ)} (leftGrows : Grows left leftTape)
    (rightGrows : Grows right rightTape) (leftStart : (leftTape origin.left.now).read = [])
    (rightStart : (rightTape origin.right.now).read = [])
    (ran : (link left right leftTape rightTape).Run origin moves after) :
    Linked left right leftTape rightTape origin after := by
  refine ran.invariant (fun linked _ stepped => linked.step leftGrows rightGrows stepped) ?_
  exact {
    left := Program.comes_refl
    right := Program.comes_refl
    leftRead := by simp [leftStart]
    rightRead := by simp [rightStart] }

end Link

end Lecoo.Effects
