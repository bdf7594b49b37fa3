import Lecoo.Effects.Program

namespace Lecoo.Effects

/-! # Triples

From every state that meets the precondition, every run of the program ends
with a result and a state that meet the postcondition.
-/

universe u

variable {I : Interface.{u}} {α β ε κ χ σ τ : Type} {semantics : Semantics I κ σ}

namespace Program

def Ensures (semantics : Semantics I κ σ) (pre : σ → Prop) (program : Program I α)
    (post : α → σ → Prop) : Prop :=
  ∀ before result after, pre before → program.Runs semantics before result after →
    post result after

variable {pre : σ → Prop} {program : Program I α} {post : α → σ → Prop}

theorem Ensures.bind {rest : α → Program I β} {last : β → σ → Prop}
    (first : program.Ensures semantics pre post)
    (second : ∀ value, (rest value).Ensures semantics (post value) last) :
    (program >>= rest).Ensures semantics pre last := by
  intro before result after met ran
  obtain ⟨value, middle, begun, ended⟩ := runs_bind.mp ran
  exact second value middle result after (first before value middle met begun) ended

theorem ensures_done {value : α} (met : ∀ state, pre state → post value state) :
    (Program.done value).Ensures semantics pre post := by
  intro before result after start ran
  obtain ⟨rfl, rfl⟩ := ran
  exact met _ start

theorem ensures_request {operation : I.Operation} {post : I.Reply operation → σ → Prop}
    (met : ∀ choice state, pre state →
      post (semantics operation choice state).1 (semantics operation choice state).2) :
    (request operation).Ensures semantics pre post := by
  intro before result after start ran
  obtain ⟨choice, rfl, rfl⟩ := ran
  exact met choice before start

theorem Ensures.mono {stronger : σ → Prop} {weaker : α → σ → Prop}
    (ensures : program.Ensures semantics pre post)
    (strengthens : ∀ state, stronger state → pre state)
    (weakens : ∀ value state, post value state → weaker value state) :
    program.Ensures semantics stronger weaker :=
  fun before result after met ran =>
    weakens result after (ensures before result after (strengthens before met) ran)

/-- What the permitted operations keep is kept by every program made of them. -/
theorem Uses.ensures {permitted : I.Operation → Prop} (uses : program.Uses permitted)
    (kept : ∀ operation choice state, permitted operation → pre state →
      pre (semantics operation choice state).2) :
    program.Ensures semantics pre fun _ => pre :=
  fun _ _ _ met ran =>
    Uses.preserves (fun before after => pre before → pre after) uses (fun _ => id)
      (fun first second => second ∘ first) kept ran met

/-- The runs of a program in an environment that sees a part of the state, and has the same
answers to the operations of the program, and maybe others. -/
theorem Uses.transfer {permitted : I.Operation → Prop} {wider : Semantics I χ τ} (view : σ → τ)
    {before after : σ} {result : α} (uses : program.Uses permitted)
    (answers : ∀ operation choice state, permitted operation → ∃ other,
      wider operation other (view state) = ((semantics operation choice state).1,
        view (semantics operation choice state).2))
    (ran : program.Runs semantics before result after) :
    program.Runs wider (view before) result (view after) := by
  induction program generalizing before with
  | done value => exact ⟨ran.1, congrArg view ran.2⟩
  | perform operation next ih =>
      obtain ⟨choice, rest⟩ := ran
      obtain ⟨other, same⟩ := answers operation choice before uses.1
      refine ⟨other, ?_⟩
      rw [same]
      exact ih _ (uses.2 _) rest

end Program

namespace Fallible

def Ensures (semantics : Semantics I κ σ) (pre : σ → Prop) (computation : Fallible I ε α)
    (post : Except ε α → σ → Prop) : Prop :=
  Program.Ensures semantics pre computation.run post

variable {pre : σ → Prop} {computation : Fallible I ε α} {post : Except ε α → σ → Prop}

theorem ensures_bind {rest : α → Fallible I ε β} {last : Except ε β → σ → Prop}
    (first : Ensures semantics pre computation post)
    (errors : ∀ error state, post (.error error) state → last (.error error) state)
    (second : ∀ value, Ensures semantics (post (.ok value)) (rest value) last) :
    Ensures semantics pre (computation >>= rest) last := by
  refine Program.Ensures.bind first fun outcome => ?_
  cases outcome with
  | error error => exact Program.ensures_done (errors error)
  | ok value => exact second value

theorem ensures_pure {value : α} (met : ∀ state, pre state → post (.ok value) state) :
    Ensures semantics pre (pure value) post := Program.ensures_done met

theorem ensures_always {program : Program I α}
    (ensures : program.Ensures semantics pre fun value state => post (.ok value) state) :
    Ensures semantics pre (always program) post :=
  Program.Ensures.bind ensures fun _ => Program.ensures_done fun _ met => met

end Fallible

end Lecoo.Effects
