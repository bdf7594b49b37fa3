import Lecoo.Effects.Pool

namespace Lecoo.Effects

/-! # Monitors

A monitor follows the operations of one program and the replies to them, and says which
operation may come next.  In a pool its phase is kept beside the shared state for one
thread that is watched; what the phase says about the state then has to survive the
permitted operations of that thread and whatever the others do.
-/

universe u

structure Monitor (I : Interface.{u}) (φ : Type) where
  permits : φ → I.Operation → Prop
  next : φ → (operation : I.Operation) → I.Reply operation → φ

namespace Program

variable {I : Interface.{u}} {α β φ : Type} {monitor : Monitor I φ} {phase : φ}
  {ends : φ → α → Prop}

/-- Whatever the replies are, the program does what the monitor permits from the phase on;
the condition holds of the phase it ends in and of its result. -/
def Heeds (monitor : Monitor I φ) (ends : φ → α → Prop) : Program I α → φ → Prop
  | .done value, phase => ends phase value
  | .perform operation next, phase => monitor.permits phase operation ∧
      ∀ reply, (next reply).Heeds monitor ends (monitor.next phase operation reply)

theorem Heeds.bind {program : Program I α} {rest : α → Program I β} {last : φ → β → Prop}
    (first : program.Heeds monitor ends phase)
    (second : ∀ middle value, ends middle value → (rest value).Heeds monitor last middle) :
    (program >>= rest).Heeds monitor last phase := by
  induction program generalizing phase with
  | done value => exact second phase value first
  | perform operation next ih => exact ⟨first.1, fun reply => ih reply (first.2 reply)⟩

theorem Heeds.mono {program : Program I α} {wider : φ → α → Prop}
    (implies : ∀ last value, ends last value → wider last value)
    (heeds : program.Heeds monitor ends phase) : program.Heeds monitor wider phase := by
  induction program generalizing phase with
  | done value => exact implies phase value heeds
  | perform operation next ih => exact ⟨heeds.1, fun reply => ih reply (heeds.2 reply)⟩

theorem Uses.heeds {permitted : I.Operation → Prop} {program : Program I α}
    (uses : program.Uses permitted)
    (permits : ∀ operation, permitted operation → monitor.permits phase operation)
    (stays : ∀ operation reply, permitted operation → monitor.next phase operation reply = phase) :
    program.Heeds monitor (fun last _ => last = phase) phase := by
  induction program with
  | done value => rfl
  | perform operation next ih =>
      refine ⟨permits operation uses.1, fun reply => ?_⟩
      rw [stays operation reply uses.1]
      exact ih reply (uses.2 reply)

end Program

namespace Fallible

variable {I : Interface.{u}} {α β ε φ : Type} {monitor : Monitor I φ} {phase : φ}
  {ends : φ → Except ε α → Prop}

def Heeds (monitor : Monitor I φ) (ends : φ → Except ε α → Prop) (computation : Fallible I ε α)
    (phase : φ) : Prop :=
  Program.Heeds monitor ends computation.run phase

theorem heeds_bind {computation : Fallible I ε α} {rest : α → Fallible I ε β}
    {last : φ → Except ε β → Prop} (first : Heeds monitor ends computation phase)
    (errors : ∀ middle error, ends middle (.error error) → last middle (.error error))
    (second : ∀ middle value, ends middle (.ok value) → Heeds monitor last (rest value) middle) :
    Heeds monitor last (computation >>= rest) phase := by
  refine Program.Heeds.bind first fun middle outcome ended => ?_
  cases outcome with
  | error error => exact errors middle error ended
  | ok value => exact second middle value ended

end Fallible

section Watched

variable {I : Interface.{u}} {ι J α κ σ φ : Type} [DecidableEq ι]

/-- The semantics that keeps the phase of the watched thread beside the state. -/
def Monitor.watch (monitor : Monitor I φ) (watched : ι) (semantics : ι → J → Semantics I κ σ) :
    ι → J → Semantics I κ (σ × φ) :=
  fun thread job operation choice state =>
    let answered := semantics thread job operation choice state.1
    (answered.1, answered.2,
      if thread = watched then monitor.next state.2 operation answered.1 else state.2)

/-- The watched thread heeds the monitor, the others stay within some operations, and the
state is as the phase says. -/
structure Watched (monitor : Monitor I φ) (watched : ι) (permitted : I.Operation → Prop)
    (holds : σ → φ → Prop) (pool : Pool I ι J α (σ × φ)) : Prop where
  holds : holds pool.world.1 pool.world.2
  heeds : ∀ activity, pool.thread watched = some activity →
    activity.todo.Heeds monitor (fun _ _ => True) pool.world.2
  uses : ∀ thread activity, thread ≠ watched → pool.thread thread = some activity →
    activity.todo.Uses permitted

variable {code : J → Program I α} {semantics : ι → J → Semantics I κ σ} {monitor : Monitor I φ}
  {watched : ι} {permitted : I.Operation → Prop} {holds : σ → φ → Prop}
  {allowed : Pool I ι J α (σ × φ) → Event ι J κ → Prop} {before after : Pool I ι J α (σ × φ)}
  {events : List (Event ι J κ)}

/-- The rule for watched pools: one step of the watched thread, one step of another. -/
theorem Watched.run
    (starts : ∀ {pool thread job}, allowed pool (.start thread job) →
      thread ≠ watched ∧ (code job).Uses permitted)
    (own : ∀ {pool choice job operation phase}, allowed pool (.act watched choice) →
      holds pool.world.1 phase → monitor.permits phase operation →
      holds (semantics watched job operation choice pool.world.1).2
        (monitor.next phase operation (semantics watched job operation choice pool.world.1).1))
    (others : ∀ {pool thread choice job operation phase}, thread ≠ watched →
      allowed pool (.act thread choice) → holds pool.world.1 phase → permitted operation →
      holds (semantics thread job operation choice pool.world.1).2 phase)
    (ran : Pool.Run code (monitor.watch watched semantics) allowed before events after)
    (initially : Watched monitor watched permitted holds before) :
    Watched monitor watched permitted holds after := by
  refine Pool.Run.invariant_of_steps ?_ ?_ ?_ ran initially
  · intro pool thread job kept permits _
    obtain ⟨other, uses⟩ := starts permits
    refine ⟨kept.holds, fun activity running => ?_, fun third activity different running => ?_⟩
    · rw [Pool.put_other _ _ (Ne.symm other)] at running
      exact kept.heeds activity running
    · by_cases same : third = thread
      · subst same
        rw [Pool.put_same] at running
        cases running
        exact uses
      · rw [Pool.put_other _ _ same] at running
        exact kept.uses third activity different running
  · intro pool thread choice job operation rest kept permits running
    by_cases same : thread = watched
    · subst same
      obtain ⟨met, heeds⟩ := kept.heeds _ running
      refine ⟨?_, fun activity found => ?_, fun third activity different found => ?_⟩
      · simp only [Monitor.watch, if_true]
        exact own permits kept.holds met
      · rw [Pool.put_same] at found
        cases found
        simp only [Monitor.watch, if_true]
        exact heeds _
      · rw [Pool.put_other pool _ different] at found
        exact kept.uses third activity different found
    · obtain ⟨met, uses⟩ := kept.uses thread _ same running
      refine ⟨?_, fun activity found => ?_, fun third activity different found => ?_⟩
      · simp only [Monitor.watch, if_neg same]
        exact others same permits kept.holds met
      · rw [Pool.put_other pool _ (Ne.symm same)] at found
        simp only [Monitor.watch, if_neg same]
        exact kept.heeds activity found
      · by_cases own : third = thread
        · subst own
          rw [Pool.put_same] at found
          cases found
          exact uses _
        · rw [Pool.put_other pool _ own] at found
          exact kept.uses third activity different found
  · intro pool thread job value kept _ _
    refine ⟨kept.holds, fun activity running => ?_, fun third activity different running => ?_⟩
    · by_cases same : thread = watched
      · subst same
        rw [Pool.put_same] at running
        cases running
      · rw [Pool.put_other _ _ (Ne.symm same)] at running
        exact kept.heeds activity running
    · by_cases same : third = thread
      · subst same
        rw [Pool.put_same] at running
        cases running
      · rw [Pool.put_other _ _ same] at running
        exact kept.uses third activity different running

end Watched

end Lecoo.Effects
