import Lecoo.Effects.Pool

namespace Lecoo.Effects

/-! # What there was to see while a thread was at work

An observed pool remembers, for each thread, every shared state there has been
since the thread was started, the current one first, and those in which the thread
made its own steps, the last one first.  Besides the threads the environment may
change the shared state.  The rule for such pools is that of
rely and guarantee: each thread only makes moves of a given kind, and what it
has established survives the moves of the others.
-/

universe u

structure Observed (I : Interface.{u}) (ι J α σ : Type) where
  pool : Pool I ι J α σ
  since : ι → List σ
  met : ι → List σ

inductive Occurrence (ι J κ σ : Type) where
  | step (event : Event ι J κ)
  | outside (world : σ)

namespace Observed

variable {I : Interface.{u}} {ι J α κ σ : Type} [DecidableEq ι]

def idle (world : σ) : Observed I ι J α σ where
  pool := .idle world
  since := fun _ => []
  met := fun _ => []

/-- The states each thread has seen, after a step that leads to the given state. -/
def noting (since : ι → List σ) (world : σ) : Event ι J κ → ι → List σ
  | .start thread _ => Function.update since thread [world]
  | .act _ _ => fun thread => world :: since thread
  | .finish _ => since

/-- The states each thread has met, after a step taken in the given state. -/
def meeting (met : ι → List σ) (world : σ) : Event ι J κ → ι → List σ
  | .start thread _ => Function.update met thread []
  | .act thread _ => Function.update met thread (world :: met thread)
  | .finish _ => met

def next (code : J → Program I α) (semantics : ι → J → Semantics I κ σ)
    (observed : Observed I ι J α σ) : Occurrence ι J κ σ → Option (Observed I ι J α σ)
  | .step event => (observed.pool.next code semantics event).map fun pool =>
      { pool, since := noting observed.since pool.world event
        met := meeting observed.met observed.pool.world event }
  | .outside world => some { observed with
      pool := { observed.pool with world }
      since := fun thread => world :: observed.since thread }

abbrev Run (code : J → Program I α) (semantics : ι → J → Semantics I κ σ)
    (allowed : Observed I ι J α σ → Occurrence ι J κ σ → Prop) :
    Observed I ι J α σ → List (Occurrence ι J κ σ) → Observed I ι J α σ → Prop :=
  Trace (next code semantics) allowed

/-- Every thread at work stands where its own condition holds of what it has seen. -/
def Each (own : σ → List σ → List σ → Activity I J α → Prop) (observed : Observed I ι J α σ) :
    Prop :=
  ∀ thread activity, observed.pool.thread thread = some activity →
    ∃ earlier, observed.since thread = observed.pool.world :: earlier ∧
      own observed.pool.world earlier (observed.met thread) activity

/-- The shared state is valid, and so is every thread's view of it. -/
def Sound (valid : σ → Prop) (own : σ → List σ → List σ → Activity I J α → Prop)
    (observed : Observed I ι J α σ) : Prop :=
  valid observed.pool.world ∧ observed.Each own

/-- What the threads rely on and guarantee each other. -/
structure Rely (code : J → Program I α) (semantics : ι → J → Semantics I κ σ)
    (allowed : Observed I ι J α σ → Occurrence ι J κ σ → Prop) (valid : σ → Prop)
    (moves : σ → σ → Prop) (own : σ → List σ → List σ → Activity I J α → Prop) : Prop where
  kept : ∀ {before after}, valid before → moves before after → valid after
  start : ∀ {world} job, valid world → own world [] [] ⟨job, code job⟩
  borne : ∀ {before after earlier met activity}, valid before → moves before after →
    own before earlier met activity → own after (before :: earlier) met activity
  act : ∀ {observed thread choice job operation rest earlier}, valid observed.pool.world →
    allowed observed (.step (.act thread choice)) →
    observed.pool.thread thread = some ⟨job, .perform operation rest⟩ →
    own observed.pool.world earlier (observed.met thread) ⟨job, .perform operation rest⟩ →
    moves observed.pool.world (semantics thread job operation choice observed.pool.world).2 ∧
    own (semantics thread job operation choice observed.pool.world).2
      (observed.pool.world :: earlier) (observed.pool.world :: observed.met thread)
      ⟨job, rest (semantics thread job operation choice observed.pool.world).1⟩
  outside : ∀ {observed world}, allowed observed (.outside world) → moves observed.pool.world world

variable {code : J → Program I α} {semantics : ι → J → Semantics I κ σ}
  {allowed : Observed I ι J α σ → Occurrence ι J κ σ → Prop} {valid : σ → Prop}
  {moves : σ → σ → Prop} {own : σ → List σ → List σ → Activity I J α → Prop}
  {before after : Observed I ι J α σ}

theorem Rely.step (rely : Rely code semantics allowed valid moves own)
    {occurrence : Occurrence ι J κ σ} (sound : before.Sound valid own)
    (permitted : allowed before occurrence)
    (stepped : before.next code semantics occurrence = some after) :
    after.Sound valid own := by
  obtain ⟨holds, each⟩ := sound
  cases occurrence with
  | outside world =>
      cases stepped
      have moved := rely.outside permitted
      refine ⟨rely.kept holds moved, fun thread activity running => ?_⟩
      obtain ⟨earlier, seen, own⟩ := each thread activity running
      exact ⟨_, congrArg (world :: ·) seen, rely.borne holds moved own⟩
  | step event =>
      obtain ⟨pool, moved, rfl⟩ := Option.map_eq_some_iff.mp stepped
      cases event with
      | start thread job =>
          obtain ⟨_, rfl⟩ := Pool.next_start.mp moved
          refine ⟨holds, fun other activity running => ?_⟩
          by_cases same : other = thread
          · subst same
            rw [Pool.put_same] at running
            cases running
            exact ⟨[], by simp [noting], by simpa [meeting] using rely.start job holds⟩
          · rw [Pool.put_other _ _ same] at running
            simpa [noting, meeting, same] using each other activity running
      | act thread choice =>
          obtain ⟨job, operation, rest, running, rfl⟩ := Pool.next_act.mp moved
          obtain ⟨earlier, seen, mine⟩ := each thread _ running
          obtain ⟨moved, mine⟩ := rely.act holds permitted running mine
          refine ⟨rely.kept holds moved, fun other activity found => ?_⟩
          by_cases same : other = thread
          · subst same
            rw [Pool.put_same] at found
            cases found
            exact ⟨_, congrArg (_ :: ·) seen, by simpa [meeting] using mine⟩
          · rw [Pool.put_other before.pool _ same] at found
            obtain ⟨earlier, seen, theirs⟩ := each other activity found
            refine ⟨_, congrArg (_ :: ·) seen, ?_⟩
            simpa [meeting, same] using rely.borne holds moved theirs
      | finish thread =>
          obtain ⟨job, value, _, rfl⟩ := Pool.next_finish.mp moved
          refine ⟨holds, fun other activity found => ?_⟩
          by_cases same : other = thread
          · subst same
            rw [Pool.put_same] at found
            cases found
          · rw [Pool.put_other _ _ same] at found
            exact each other activity found

theorem Rely.run (rely : Rely code semantics allowed valid moves own)
    {occurrences : List (Occurrence ι J κ σ)}
    (ran : Run code semantics allowed before occurrences after)
    (initially : before.Sound valid own) : after.Sound valid own :=
  Trace.invariant rely.step ran initially

omit [DecidableEq ι] in
theorem sound_idle {world : σ} (holds : valid world) :
    (idle world : Observed I ι J α σ).Sound valid own := by
  refine ⟨holds, fun thread activity running => ?_⟩
  cases running

end Observed

end Lecoo.Effects
