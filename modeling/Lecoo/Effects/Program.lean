import Mathlib.Logic.Function.Basic

namespace Lecoo.Effects

/-! # Programs over an operation interface

A program asks its environment for one operation at a time and continues with
the reply.  It says nothing about what an operation does: a `Semantics` answers
each operation from a state and a choice of the environment (an injected fault,
the reading of a clock), so the same program can be run alone, cut short, or
interleaved with others.
-/

universe u

/-- Operations and, for each, the type of its reply. -/
structure Interface where
  Operation : Type u
  Reply : Operation → Type

inductive Program (I : Interface.{u}) (α : Type) : Type u where
  | done (value : α)
  | perform (operation : I.Operation) (next : I.Reply operation → Program I α)

namespace Program

variable {I : Interface.{u}} {α β γ : Type}

def bind : Program I α → (α → Program I β) → Program I β
  | .done value, rest => rest value
  | .perform operation next, rest => .perform operation fun reply => (next reply).bind rest

instance : Monad (Program I) where
  pure := .done
  bind := .bind

/-- One operation as a program. -/
def request (operation : I.Operation) : Program I (I.Reply operation) :=
  .perform operation .done

@[simp] theorem pure_eq (value : α) : (pure value : Program I α) = .done value := rfl

@[simp] theorem done_bind (value : α) (rest : α → Program I β) :
    (Program.done value >>= rest) = rest value := rfl

@[simp] theorem perform_bind (operation : I.Operation)
    (next : I.Reply operation → Program I α) (rest : α → Program I β) :
    (Program.perform operation next >>= rest) =
      .perform operation fun reply => next reply >>= rest := rfl

@[simp] theorem request_bind (operation : I.Operation)
    (rest : I.Reply operation → Program I β) :
    (request operation >>= rest) = .perform operation rest := rfl

theorem bind_done (program : Program I α) : program >>= Program.done = program := by
  induction program with
  | done value => rfl
  | perform operation next ih =>
      rw [perform_bind]
      exact congrArg (Program.perform operation) (funext ih)

theorem bind_assoc (program : Program I α) (first : α → Program I β) (second : β → Program I γ) :
    program >>= first >>= second = program >>= fun value => first value >>= second := by
  induction program with
  | done value => rfl
  | perform operation next ih =>
      simp only [perform_bind]
      exact congrArg (Program.perform operation) (funext ih)

instance : LawfulMonad (Program I) :=
  .mk' (Program I) bind_done (fun _ _ => rfl) bind_assoc

end Program

/-- How an environment answers one operation: the reply and the next state,
given its choice for this occurrence of the operation. -/
def Semantics (I : Interface.{u}) (κ σ : Type) : Type u :=
  (operation : I.Operation) → κ → σ → I.Reply operation × σ

namespace Program

variable {I : Interface.{u}} {α β κ σ : Type}

/-- Run a program, taking one choice per operation; when the list is used up
the default choice stands for an environment that cooperates. -/
def run [Inhabited κ] (semantics : Semantics I κ σ) :
    Program I α → List κ → σ → α × σ
  | .done value, _, state => (value, state)
  | .perform operation next, choices, state =>
      let answered := semantics operation (choices.headD default) state
      (next answered.1).run semantics choices.tail answered.2

/-- The operations of such a run, each with the choice that it is performed under. -/
def met [Inhabited κ] (semantics : Semantics I κ σ) :
    Program I α → List κ → σ → List (I.Operation × κ)
  | .done _, _, _ => []
  | .perform operation next, choices, state =>
      let answered := semantics operation (choices.headD default) state
      (operation, choices.headD default) :: (next answered.1).met semantics choices.tail answered.2

/-- Run a program that is cut short after the given number of operations: the
result when it ended before that, and the state it left. -/
def cut [Inhabited κ] (semantics : Semantics I κ σ) :
    Program I α → List κ → Nat → σ → Option α × σ
  | .done value, _, _, state => (some value, state)
  | .perform _ _, _, 0, state => (none, state)
  | .perform operation next, choices, steps + 1, state =>
      let answered := semantics operation (choices.headD default) state
      (next answered.1).cut semantics choices.tail steps answered.2

/-- Some choices of the environment lead the program from `before` to `result`
and `after`. -/
def Runs (semantics : Semantics I κ σ) : Program I α → σ → α → σ → Prop
  | .done value, before, result, after => result = value ∧ after = before
  | .perform operation next, before, result, after => ∃ choice,
      (next (semantics operation choice before).1).Runs semantics
        (semantics operation choice before).2 result after

variable {semantics : Semantics I κ σ}

@[simp] theorem runs_done {value result : α} {before after : σ} :
    (Program.done value).Runs semantics before result after ↔
      result = value ∧ after = before := Iff.rfl

@[simp] theorem runs_perform {operation : I.Operation}
    {next : I.Reply operation → Program I α} {result : α} {before after : σ} :
    (Program.perform operation next).Runs semantics before result after ↔ ∃ choice,
      (next (semantics operation choice before).1).Runs semantics
        (semantics operation choice before).2 result after := Iff.rfl

theorem run_runs [Inhabited κ] (program : Program I α) (choices : List κ) (state : σ) :
    program.Runs semantics state (program.run semantics choices state).1
      (program.run semantics choices state).2 := by
  induction program generalizing choices state with
  | done value => exact ⟨rfl, rfl⟩
  | perform operation next ih => exact ⟨choices.headD default, ih _ choices.tail _⟩

/-- The runs are what the choices of the environment can make happen. -/
theorem runs_iff_run [Inhabited κ] {program : Program I α} {before after : σ} {result : α} :
    program.Runs semantics before result after ↔
      ∃ choices, program.run semantics choices before = (result, after) := by
  constructor
  · intro ran
    induction program generalizing before with
    | done value => exact ⟨[], by rw [ran.1, ran.2]; rfl⟩
    | perform operation next ih =>
        obtain ⟨choice, rest⟩ := ran
        obtain ⟨choices, computed⟩ := ih _ rest
        exact ⟨choice :: choices, computed⟩
  · rintro ⟨choices, computed⟩
    have ran : program.Runs semantics before (program.run semantics choices before).1
        (program.run semantics choices before).2 := run_runs program choices before
    rwa [computed] at ran

theorem runs_bind {program : Program I α} {rest : α → Program I β} {before after : σ}
    {result : β} :
    (program >>= rest).Runs semantics before result after ↔
      ∃ value middle, program.Runs semantics before value middle ∧
        (rest value).Runs semantics middle result after := by
  induction program generalizing before with
  | done value =>
      constructor
      · intro ran
        exact ⟨value, before, ⟨rfl, rfl⟩, ran⟩
      · rintro ⟨_, _, ⟨rfl, rfl⟩, ran⟩
        exact ran
  | perform operation next ih =>
      simp only [perform_bind, runs_perform, ih]
      constructor
      · rintro ⟨choice, value, middle, first, second⟩
        exact ⟨value, middle, ⟨choice, first⟩, second⟩
      · rintro ⟨value, middle, ⟨choice, first⟩, second⟩
        exact ⟨choice, value, middle, first, second⟩

end Program

namespace Program

variable {I : Interface.{u}} {α β κ σ : Type} {semantics : Semantics I κ σ}

/-- Every operation the program can come to is one of the permitted ones. -/
def Uses (permitted : I.Operation → Prop) : Program I α → Prop
  | .done _ => True
  | .perform operation next => permitted operation ∧ ∀ reply, (next reply).Uses permitted

variable {permitted : I.Operation → Prop}

theorem Uses.bind {program : Program I α} {rest : α → Program I β}
    (first : program.Uses permitted) (second : ∀ value, (rest value).Uses permitted) :
    (program >>= rest).Uses permitted := by
  induction program with
  | done value => exact second value
  | perform operation next ih => exact ⟨first.1, fun reply => ih reply (first.2 reply)⟩

theorem Uses.mono {wider : I.Operation → Prop} {program : Program I α}
    (implies : ∀ operation, permitted operation → wider operation)
    (uses : program.Uses permitted) : program.Uses wider := by
  induction program with
  | done value => trivial
  | perform operation next ih =>
      exact ⟨implies operation uses.1, fun reply => ih reply (uses.2 reply)⟩

theorem Uses.run_default [Inhabited κ] {program : Program I α} (uses : program.Uses permitted)
    {choices : List κ}
    (cooperates : ∀ operation, permitted operation → ∀ choice ∈ choices, ∀ state,
      semantics operation choice state = semantics operation default state) (state : σ) :
    program.run semantics choices state = program.run semantics [] state := by
  induction program generalizing choices state with
  | done value => rfl
  | perform operation next ih =>
      cases choices with
      | nil => rfl
      | cons choice rest =>
          have first : semantics operation choice state = semantics operation default state :=
            cooperates operation uses.1 choice List.mem_cons_self state
          simp only [run, List.headD_cons, List.tail_cons, List.headD_nil, List.tail_nil, first]
          exact ih _ (uses.2 _) (fun later allowed other member =>
            cooperates later allowed other (List.mem_cons_of_mem _ member)) _

theorem uses_any (program : Program I α) : program.Uses fun _ => True := by
  induction program with
  | done value => trivial
  | perform operation next ih => exact ⟨trivial, ih⟩

/-- An environment that only makes the default choice cooperates throughout. -/
theorem run_default [Inhabited κ] (program : Program I α) {choices : List κ}
    (cooperates : ∀ choice ∈ choices, choice = default) (state : σ) :
    program.run semantics choices state = program.run semantics [] state :=
  program.uses_any.run_default (fun _ _ choice member _ => by rw [cooperates choice member]) state

/-- A relation between states that the permitted operations respect is respected
by every run that stays within them. -/
theorem Uses.preserves (relation : σ → σ → Prop) {program : Program I α} {before after : σ}
    {result : α} (uses : program.Uses permitted) (reflexive : ∀ state, relation state state)
    (transitive : ∀ {first second third}, relation first second → relation second third →
      relation first third)
    (operations : ∀ operation choice state, permitted operation →
      relation state (semantics operation choice state).2)
    (ran : program.Runs semantics before result after) : relation before after := by
  induction program generalizing before with
  | done value => rw [ran.2]; exact reflexive before
  | perform operation next ih =>
      obtain ⟨choice, rest⟩ := ran
      exact transitive (operations operation choice before uses.1) (ih _ (uses.2 _) rest)

end Program

section Fallible

variable {I : Interface.{u}} {α β κ σ ε : Type} {semantics : Semantics I κ σ}

/-- The program of a fallible computation, to be run or interleaved. -/
abbrev Fallible (I : Interface.{u}) (ε α : Type) : Type u := ExceptT ε (Program I) α

namespace Fallible

/-- An operation whose reply says whether it succeeded. -/
def attempt (program : Program I (Except ε α)) : Fallible I ε α := ExceptT.mk program

/-- An operation that cannot fail. -/
def always (program : Program I α) : Fallible I ε α := ExceptT.lift program

def Runs (semantics : Semantics I κ σ) (computation : Fallible I ε α) (before : σ)
    (result : Except ε α) (after : σ) : Prop :=
  Program.Runs semantics computation.run before result after

@[simp] theorem runs_pure {value : α} {before after : σ} {result : Except ε α} :
    Runs semantics (pure value : Fallible I ε α) before result after ↔
      result = .ok value ∧ after = before := Iff.rfl

@[simp] theorem runs_throw {error : ε} {before after : σ} {result : Except ε α} :
    Runs semantics (throw error : Fallible I ε α) before result after ↔
      result = .error error ∧ after = before := Iff.rfl

theorem runs_attempt {program : Program I (Except ε α)} {before after : σ}
    {result : Except ε α} :
    Runs semantics (attempt program) before result after ↔
      program.Runs semantics before result after := Iff.rfl

theorem runs_always {program : Program I α} {before after : σ} {result : Except ε α} :
    Runs semantics (always program : Fallible I ε α) before result after ↔
      ∃ value, result = .ok value ∧ program.Runs semantics before value after := by
  change (program >>= fun value => Program.done (Except.ok value)).Runs _ _ _ _ ↔ _
  rw [Program.runs_bind]
  constructor
  · rintro ⟨value, middle, ran, rfl, rfl⟩
    exact ⟨value, rfl, ran⟩
  · rintro ⟨value, rfl, ran⟩
    exact ⟨value, after, ran, rfl, rfl⟩

theorem runs_bind {computation : Fallible I ε α} {rest : α → Fallible I ε β}
    {before after : σ} {result : Except ε β} :
    Runs semantics (computation >>= rest) before result after ↔
      (∃ error, result = .error error ∧ Runs semantics computation before (.error error) after) ∨
      (∃ value middle, Runs semantics computation before (.ok value) middle ∧
        Runs semantics (rest value) middle result after) := by
  change (computation.run >>= ExceptT.bindCont rest).Runs _ _ _ _ ↔ _
  rw [Program.runs_bind]
  constructor
  · rintro ⟨outcome, middle, first, second⟩
    cases outcome with
    | error error =>
        obtain ⟨rfl, rfl⟩ := second
        exact .inl ⟨error, rfl, first⟩
    | ok value => exact .inr ⟨value, middle, first, second⟩
  · rintro (⟨error, rfl, first⟩ | ⟨value, middle, first, second⟩)
    · exact ⟨.error error, after, first, rfl, rfl⟩
    · exact ⟨.ok value, middle, first, second⟩

theorem runs_bind_ok {computation : Fallible I ε α} {rest : α → Fallible I ε β}
    {before after : σ} {result : β} :
    Runs semantics (computation >>= rest) before (.ok result) after ↔
      ∃ value middle, Runs semantics computation before (.ok value) middle ∧
        Runs semantics (rest value) middle (.ok result) after := by
  rw [runs_bind]
  constructor
  · rintro (⟨_, impossible, _⟩ | ran)
    · cases impossible
    · exact ran
  · exact .inr

theorem runs_bind_sure {computation : Fallible I ε α} {rest : α → Fallible I ε β}
    {before middle after : σ} {value : α} {result : Except ε β}
    (sure : ∀ {outcome reached}, Runs semantics computation before outcome reached ↔
      outcome = .ok value ∧ reached = middle) :
    Runs semantics (computation >>= rest) before result after ↔
      Runs semantics (rest value) middle result after := by
  rw [runs_bind]
  constructor
  · rintro (⟨_, _, first⟩ | ⟨_, _, first, second⟩)
    · cases (sure.mp first).1
    · obtain ⟨same, rfl⟩ := sure.mp first
      cases same
      exact second
  · exact fun ran => .inr ⟨value, middle, sure.mpr ⟨rfl, rfl⟩, ran⟩

/-- The program of a fallible computation stays within the permitted operations. -/
def Uses (permitted : I.Operation → Prop) (computation : Fallible I ε α) : Prop :=
  Program.Uses permitted computation.run

variable {permitted : I.Operation → Prop}

theorem uses_pure (value : α) : Uses permitted (pure value : Fallible I ε α) := trivial

theorem uses_throw (error : ε) : Uses permitted (throw error : Fallible I ε α) := trivial

theorem uses_bind {computation : Fallible I ε α} {rest : α → Fallible I ε β}
    (first : Uses permitted computation) (second : ∀ value, Uses permitted (rest value)) :
    Uses permitted (computation >>= rest) := by
  refine Program.Uses.bind first fun outcome => ?_
  cases outcome with
  | error error => trivial
  | ok value => exact second value

theorem uses_attempt {program : Program I (Except ε α)} (uses : program.Uses permitted) :
    Uses permitted (attempt program) := uses

theorem uses_always {program : Program I α} (uses : program.Uses permitted) :
    Uses permitted (always program : Fallible I ε α) :=
  Program.Uses.bind uses fun _ => trivial

/-- Whatever the replies are, a value that is returned satisfies the condition. -/
def Returns (condition : α → Prop) (computation : Fallible I ε α) : Prop :=
  go computation.run
where
  go : Program I (Except ε α) → Prop
    | .done outcome => ∀ value, outcome = .ok value → condition value
    | .perform _ next => ∀ reply, go (next reply)

variable {condition : α → Prop}

theorem returns_pure {value : α} (satisfied : condition value) :
    Returns condition (pure value : Fallible I ε α) := by
  rintro _ ⟨⟩
  exact satisfied

theorem returns_throw (error : ε) : Returns condition (throw error : Fallible I ε α) := by
  intro value returned
  cases returned

theorem returns_bind {computation : Fallible I ε β} {rest : β → Fallible I ε α}
    (last : ∀ value, Returns condition (rest value)) : Returns condition (computation >>= rest) := by
  have ended : ∀ program : Program I (Except ε β),
      Returns.go condition (program >>= ExceptT.bindCont rest) := by
    intro program
    induction program with
    | done outcome =>
        cases outcome with
        | error error =>
            intro value returned
            cases returned
        | ok value => exact last value
    | perform operation next ih => exact ih
  exact ended computation.run

/-- What comes after a value needs to stay within the permitted operations only for the
values that can be returned. -/
theorem uses_bind_returns {computation : Fallible I ε β} {rest : β → Fallible I ε α}
    {returned : β → Prop} (first : Uses permitted computation)
    (returns : Returns returned computation)
    (second : ∀ value, returned value → Uses permitted (rest value)) :
    Uses permitted (computation >>= rest) := by
  have ended : ∀ program : Program I (Except ε β), program.Uses permitted →
      Returns.go returned program → (program >>= ExceptT.bindCont rest).Uses permitted := by
    intro program
    induction program with
    | done outcome =>
        intro _ returns
        cases outcome with
        | error error => trivial
        | ok value => exact second value (returns value rfl)
    | perform operation next ih =>
        exact fun uses returns => ⟨uses.1, fun reply => ih reply (uses.2 reply) (returns reply)⟩
  exact ended computation.run first returns

theorem Returns.of_runs {computation : Fallible I ε α} {before after : σ} {value : α}
    (returns : Returns condition computation)
    (ran : Runs semantics computation before (.ok value) after) : condition value := by
  have ended : ∀ (program : Program I (Except ε α)) (before : σ), Returns.go condition program →
      program.Runs semantics before (.ok value) after → condition value := by
    intro program
    induction program with
    | done outcome => exact fun _ satisfied ran => satisfied value ran.1.symm
    | perform operation next ih => exact fun _ satisfied ⟨_, ran⟩ => ih _ _ (satisfied _) ran
  exact ended computation.run before returns ran

/-- Where the environment can give every reply, what all runs return is what can be returned. -/
theorem returns_of_runs {computation : Fallible I ε α} (start : σ)
    (free : ∀ operation reply state, ∃ choice, (semantics operation choice state).1 = reply)
    (ran : ∀ value after, Runs semantics computation start (.ok value) after → condition value) :
    Returns condition computation := by
  have ended : ∀ (program : Program I (Except ε α)) (start : σ), (∀ value after,
      program.Runs semantics start (.ok value) after → condition value) →
      Returns.go condition program := by
    intro program
    induction program with
    | done outcome => exact fun start ran value returned => ran value start ⟨returned.symm, rfl⟩
    | perform operation next ih =>
        intro start ran reply
        obtain ⟨choice, replied⟩ := free operation reply start
        subst replied
        exact ih _ _ fun value after later => ran value after ⟨choice, later⟩
  exact ended computation.run start ran

end Fallible

end Fallible

end Lecoo.Effects
