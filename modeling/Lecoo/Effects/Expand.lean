import Lecoo.Effects.Program

namespace Lecoo.Effects

/-! # Operations carried out by programs

The operations of one interface can be programs over another one.  A program
over the first interface then expands into one over the second, and what holds
of the operations taken as single steps carries over to their programs.
-/

universe u v w

namespace Program

variable {I : Interface.{u}} {J : Interface.{v}} {K : Interface.{w}} {α β : Type}

def expand (handler : (operation : I.Operation) → Program J (I.Reply operation)) :
    Program I α → Program J α
  | .done value => .done value
  | .perform operation next => handler operation >>= fun reply => (next reply).expand handler

variable {handler : (operation : I.Operation) → Program J (I.Reply operation)}

@[simp] theorem expand_done (value : α) :
    (Program.done value : Program I α).expand handler = .done value := rfl

@[simp] theorem expand_perform (operation : I.Operation)
    (next : I.Reply operation → Program I α) :
    (Program.perform operation next).expand handler =
      handler operation >>= fun reply => (next reply).expand handler := rfl

theorem expand_bind (program : Program I α) (rest : α → Program I β) :
    (program >>= rest).expand handler =
      program.expand handler >>= fun value => (rest value).expand handler := by
  induction program with
  | done value => rfl
  | perform operation next ih =>
      rw [perform_bind, expand_perform, expand_perform, bind_assoc]
      exact congrArg (handler operation >>= ·) (funext ih)

/-- The program comes to nothing but what the programs of its operations come to. -/
theorem expand_uses {permitted : J.Operation → Prop} (program : Program I α)
    (handled : ∀ operation, (handler operation).Uses permitted) :
    (program.expand handler).Uses permitted := by
  induction program with
  | done value => trivial
  | perform operation next ih => exact (handled operation).bind ih

end Program

namespace Fallible

variable {I : Interface.{u}} {J : Interface.{v}} {α β ε : Type}
  {handler : (operation : I.Operation) → Program J (I.Reply operation)}

def expand (handler : (operation : I.Operation) → Program J (I.Reply operation))
    (computation : Fallible I ε α) : Fallible J ε α :=
  ExceptT.mk (computation.run.expand handler)

theorem expand_bind (computation : Fallible I ε α) (rest : α → Fallible I ε β) :
    (computation >>= rest).expand handler =
      computation.expand handler >>= fun value => (rest value).expand handler := by
  refine (Program.expand_bind computation.run (ExceptT.bindCont rest)).trans ?_
  refine congrArg (computation.run.expand handler >>= ·) (funext fun outcome => ?_)
  cases outcome <;> rfl

end Fallible

section Refinement

variable {I : Interface.{u}} {J : Interface.{v}} {α κ χ σ τ : Type}

/-- Whatever the program of an operation does from a concrete state, the
operation itself can do from any abstract state that is related to it. -/
def Refines (related : σ → τ → Prop) (concrete : Semantics J χ σ) (abstract : Semantics I κ τ)
    (handler : (operation : I.Operation) → Program J (I.Reply operation)) : Prop :=
  ∀ operation {before after reply above}, related before above →
    (handler operation).Runs concrete before reply after →
    ∃ choice, (abstract operation choice above).1 = reply ∧
      related after (abstract operation choice above).2

theorem Refines.runs {related : σ → τ → Prop} {concrete : Semantics J χ σ}
    {abstract : Semantics I κ τ}
    {handler : (operation : I.Operation) → Program J (I.Reply operation)}
    (refines : Refines related concrete abstract handler) {program : Program I α}
    {before after : σ} {above : τ} {result : α} (start : related before above)
    (ran : (program.expand handler).Runs concrete before result after) :
    ∃ reached, program.Runs abstract above result reached ∧ related after reached := by
  induction program generalizing before above with
  | done value =>
      obtain ⟨returned, same⟩ := ran
      exact ⟨above, ⟨returned, rfl⟩, same ▸ start⟩
  | perform operation next ih =>
      obtain ⟨reply, middle, first, rest⟩ := Program.runs_bind.mp ran
      obtain ⟨choice, replied, later⟩ := refines operation start first
      subst replied
      obtain ⟨reached, went, last⟩ := ih _ later rest
      exact ⟨reached, ⟨choice, went⟩, last⟩

end Refinement

/-- The operations of two interfaces side by side. -/
@[reducible] def Interface.sum (I : Interface.{u}) (J : Interface.{v}) : Interface.{max u v} where
  Operation := I.Operation ⊕ J.Operation
  Reply
    | .inl operation => I.Reply operation
    | .inr operation => J.Reply operation

namespace Program

variable {I : Interface.{u}} {J : Interface.{v}} {α κ χ σ : Type}

/-- A program that uses the operations of the first interface only. -/
def inLeft (program : Program I α) : Program (I.sum J) α :=
  program.expand fun operation => request (I := I.sum J) (.inl operation)

def inRight (program : Program J α) : Program (I.sum J) α :=
  program.expand fun operation => request (I := I.sum J) (.inr operation)

end Program

/-- Each interface is answered from its own part of the state. -/
def Semantics.sum {I : Interface.{u}} {J : Interface.{v}} {κ χ σ τ : Type}
    (left : Semantics I κ σ) (right : Semantics J χ τ) : Semantics (I.sum J) (κ × χ) (σ × τ)
  | .inl operation, choice, state =>
      let answered := left operation choice.1 state.1
      (answered.1, (answered.2, state.2))
  | .inr operation, choice, state =>
      let answered := right operation choice.2 state.2
      (answered.1, (state.1, answered.2))

namespace Program

variable {I : Interface.{u}} {J : Interface.{v}} {α κ χ σ τ : Type} {left : Semantics I κ σ}
  {right : Semantics J χ τ} {before after : σ × τ} {result : α}

/-- A program of the first interface leaves the state of the second one alone. -/
theorem runs_inLeft {program : Program I α}
    (ran : (program.inLeft (J := J)).Runs (left.sum right) before result after) :
    program.Runs left before.1 result after.1 ∧ after.2 = before.2 := by
  induction program generalizing before with
  | done value =>
      obtain ⟨returned, same⟩ := ran
      exact ⟨⟨returned, congrArg Prod.fst same⟩, congrArg Prod.snd same⟩
  | perform operation next ih =>
      obtain ⟨choice, rest⟩ := ran
      obtain ⟨went, kept⟩ := ih _ rest
      exact ⟨⟨choice.1, went⟩, kept⟩

theorem uses_inLeft {permitted : I.Operation → Prop} {wider : (I.sum J).Operation → Prop}
    {program : Program I α} (implies : ∀ operation, permitted operation → wider (.inl operation))
    (uses : program.Uses permitted) : (program.inLeft (J := J)).Uses wider := by
  induction program with
  | done value => trivial
  | perform operation next ih =>
      exact ⟨implies operation uses.1, fun reply => ih reply (uses.2 reply)⟩

end Program

end Lecoo.Effects
