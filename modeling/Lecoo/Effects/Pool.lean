import Lecoo.Effects.Program
import Lecoo.Effects.Trace

namespace Lecoo.Effects

/-! # Pools of interleaved programs

Any number of threads work on jobs over one shared state, one operation at a
time and in any order.  A thread keeps the job it was started for next to the
part of the job's program it still has to perform, and is free again when that
program has ended.  The semantics is told which thread performs the operation
and for which job, so that it can keep a record of who did what.
-/

universe u

structure Activity (I : Interface.{u}) (J α : Type) where
  job : J
  todo : Program I α

/-- The shared state and what each thread is working on. -/
structure Pool (I : Interface.{u}) (ι J α σ : Type) where
  world : σ
  thread : ι → Option (Activity I J α)

/-- One scheduling step: a job is started on a free thread, a thread performs
its next operation, or a thread whose program has ended is freed. -/
inductive Event (ι J κ : Type) where
  | start (thread : ι) (job : J)
  | act (thread : ι) (choice : κ)
  | finish (thread : ι)

def Event.thread {ι J κ : Type} : Event ι J κ → ι
  | .start thread _ => thread
  | .act thread _ => thread
  | .finish thread => thread

namespace Pool

variable {I : Interface.{u}} {ι J α κ σ : Type} [DecidableEq ι]

def Quiet (pool : Pool I ι J α σ) : Prop := ∀ thread, pool.thread thread = none

def idle (world : σ) : Pool I ι J α σ := { world, thread := fun _ => none }

def put (pool : Pool I ι J α σ) (thread : ι) (activity : Option (Activity I J α)) :
    Pool I ι J α σ :=
  { pool with thread := Function.update pool.thread thread activity }

/-- The pool after a scheduling step, when the step is possible. -/
def next (code : J → Program I α) (semantics : ι → J → Semantics I κ σ) (pool : Pool I ι J α σ) :
    Event ι J κ → Option (Pool I ι J α σ)
  | .start thread job =>
      match pool.thread thread with
      | none => some (pool.put thread (some ⟨job, code job⟩))
      | some _ => none
  | .act thread choice =>
      match pool.thread thread with
      | some ⟨job, .perform operation rest⟩ =>
          let answered := semantics thread job operation choice pool.world
          some { pool.put thread (some ⟨job, rest answered.1⟩) with world := answered.2 }
      | _ => none
  | .finish thread =>
      match pool.thread thread with
      | some ⟨_, .done _⟩ => some (pool.put thread none)
      | _ => none

@[simp] theorem put_world (pool : Pool I ι J α σ) (thread : ι)
    (activity : Option (Activity I J α)) : (pool.put thread activity).world = pool.world := rfl

@[simp] theorem put_same (pool : Pool I ι J α σ) (thread : ι)
    (activity : Option (Activity I J α)) :
    (pool.put thread activity).thread thread = activity := by
  simp [put]

@[simp] theorem put_other (pool : Pool I ι J α σ) {thread other : ι}
    (activity : Option (Activity I J α)) (different : other ≠ thread) :
    (pool.put thread activity).thread other = pool.thread other := by
  simp [put, different]

variable {code : J → Program I α} {semantics : ι → J → Semantics I κ σ}
  {before after : Pool I ι J α σ}

theorem next_start {thread : ι} {job : J} :
    before.next code semantics (.start thread job) = some after ↔
      before.thread thread = none ∧ after = before.put thread (some ⟨job, code job⟩) := by
  cases running : before.thread thread <;> simp [next, running, eq_comm]

theorem next_act {thread : ι} {choice : κ} :
    before.next code semantics (.act thread choice) = some after ↔
      ∃ job operation rest, before.thread thread = some ⟨job, .perform operation rest⟩ ∧
        after = { before.put thread
          (some ⟨job, rest (semantics thread job operation choice before.world).1⟩) with
          world := (semantics thread job operation choice before.world).2 } := by
  rcases running : before.thread thread with _ | ⟨job, value | ⟨operation, rest⟩⟩
  · simp [next, running]
  · simp [next, running]
  · simp only [next, running, Option.some.injEq, Activity.mk.injEq, Program.perform.injEq]
    constructor
    · rintro rfl
      exact ⟨job, operation, rest, ⟨rfl, rfl, HEq.rfl⟩, rfl⟩
    · rintro ⟨_, _, _, ⟨rfl, rfl, same⟩, rfl⟩
      cases same
      rfl

theorem next_finish {thread : ι} :
    before.next code semantics (.finish thread) = some after ↔
      ∃ job value, before.thread thread = some ⟨job, .done value⟩ ∧
        after = before.put thread none := by
  rcases running : before.thread thread with _ | ⟨job, value | ⟨operation, rest⟩⟩ <;>
    simp [next, running, eq_comm]

/-- The runs of the pool in which every scheduling step is one the condition
allows in the state it is taken from. -/
abbrev Run (code : J → Program I α) (semantics : ι → J → Semantics I κ σ)
    (allowed : Pool I ι J α σ → Event ι J κ → Prop) :
    Pool I ι J α σ → List (Event ι J κ) → Pool I ι J α σ → Prop :=
  Trace (next code semantics) allowed

variable {allowed : Pool I ι J α σ → Event ι J κ → Prop}

/-- The rule for invariants with the scheduling steps taken apart. -/
theorem Run.invariant_of_steps {events : List (Event ι J κ)} {holds : Pool I ι J α σ → Prop}
    (start : ∀ {pool thread job}, holds pool → allowed pool (.start thread job) →
      pool.thread thread = none → holds (pool.put thread (some ⟨job, code job⟩)))
    (act : ∀ {pool thread choice job operation rest}, holds pool →
      allowed pool (.act thread choice) →
      pool.thread thread = some ⟨job, .perform operation rest⟩ →
      holds { pool.put thread
        (some ⟨job, rest (semantics thread job operation choice pool.world).1⟩) with
        world := (semantics thread job operation choice pool.world).2 })
    (finish : ∀ {pool thread job value}, holds pool → allowed pool (.finish thread) →
      pool.thread thread = some ⟨job, .done value⟩ → holds (pool.put thread none))
    (ran : Run code semantics allowed before events after) (initially : holds before) :
    holds after := by
  refine ran.invariant (fun {before event after} held permitted stepped => ?_) initially
  cases event with
  | start thread job =>
      obtain ⟨free, rfl⟩ := next_start.mp stepped
      exact start held permitted free
  | act thread choice =>
      obtain ⟨job, operation, rest, running, rfl⟩ := next_act.mp stepped
      exact act held permitted running
  | finish thread =>
      obtain ⟨job, value, ended, rfl⟩ := next_finish.mp stepped
      exact finish held permitted ended

theorem next_other {event : Event ι J κ} {thread : ι}
    (stepped : before.next code semantics event = some after) (elsewhere : event.thread ≠ thread) :
    after.thread thread = before.thread thread := by
  cases event with
  | start other job =>
      obtain ⟨_, rfl⟩ := next_start.mp stepped
      exact put_other _ _ elsewhere.symm
  | act other choice =>
      obtain ⟨job, operation, rest, _, rfl⟩ := next_act.mp stepped
      exact put_other before _ elsewhere.symm
  | finish other =>
      obtain ⟨job, value, _, rfl⟩ := next_finish.mp stepped
      exact put_other _ _ elsewhere.symm

theorem Run.untouched {events : List (Event ι J κ)} {thread : ι}
    (ran : Run code semantics allowed before events after)
    (elsewhere : ∀ event ∈ events, event.thread ≠ thread) :
    after.thread thread = before.thread thread := by
  induction ran with
  | nil => rfl
  | cons _ stepped _ ih =>
      have first := next_other stepped (elsewhere _ List.mem_cons_self)
      exact (ih fun event member => elsewhere event (List.mem_cons_of_mem _ member)).trans first

theorem Run.quiet {events : List (Event ι J κ)} (threads : List ι)
    (ran : Run code semantics allowed before events after) (initially : before.Quiet)
    (covered : ∀ event ∈ events, event.thread ∈ threads)
    (ended : ∀ thread ∈ threads, after.thread thread = none) : after.Quiet := by
  intro thread
  by_cases took : thread ∈ threads
  · exact ended thread took
  · have elsewhere : ∀ event ∈ events, event.thread ≠ thread := by
      intro event member same
      exact took (same ▸ covered event member)
    rw [ran.untouched elsewhere]
    exact initially thread

/-- Every activity satisfies its own condition on the shared state. -/
def Each (own : σ → ι → Activity I J α → Prop) (pool : Pool I ι J α σ) : Prop :=
  ∀ thread activity, pool.thread thread = some activity → own pool.world thread activity

variable {own later : σ → ι → Activity I J α → Prop}

/-- One thread moves on; the others only have to bear what it did to the state. -/
theorem Each.move {pool : Pool I ι J α σ} {thread : ι} {activity : Activity I J α} {world : σ}
    (each : pool.Each own) (moved : later world thread activity)
    (borne : ∀ other activity, other ≠ thread → own pool.world other activity →
      later world other activity) :
    Each later { pool.put thread (some activity) with world := world } := by
  intro other running found
  by_cases same : other = thread
  · subst same
    rw [put_same] at found
    cases found
    exact moved
  · rw [put_other pool _ same] at found
    exact borne other running same (each other running found)

theorem Each.finish {pool : Pool I ι J α σ} {thread : ι} (each : pool.Each own) :
    Each own (pool.put thread none) := by
  intro other running found
  by_cases same : other = thread
  · subst same
    rw [put_same] at found
    cases found
  · rw [put_other _ _ same] at found
    exact each other running found

def Free (own : σ → ι → Prop) (pool : Pool I ι J α σ) : Prop :=
  ∀ thread, pool.thread thread = none → own pool.world thread

variable {spare : σ → ι → Prop}

theorem Free.move {pool : Pool I ι J α σ} {thread : ι} {activity : Activity I J α} {world : σ}
    (free : pool.Free spare) (left : σ → ι → Prop)
    (borne : ∀ other, other ≠ thread → spare pool.world other → left world other) :
    Free left { pool.put thread (some activity) with world := world } := by
  intro other idle
  by_cases same : other = thread
  · subst same
    rw [put_same] at idle
    cases idle
  · rw [put_other pool _ same] at idle
    exact borne other same (free other idle)

theorem Free.finish {pool : Pool I ι J α σ} {thread : ι} (free : pool.Free spare)
    (freed : spare pool.world thread) : Free spare (pool.put thread none) := by
  intro other idle
  by_cases same : other = thread
  · subst same
    exact freed
  · rw [put_other _ _ same] at idle
    exact free other idle

/-- A job started, worked on under the given choices and ended with nothing in between. -/
def solo (thread : ι) (job : J) (choices : List κ) : List (Event ι J κ) :=
  .start thread job :: choices.map (.act thread) ++ [.finish thread]

omit [DecidableEq ι] in
theorem solo_thread (thread : ι) (job : J) (choices : List κ) :
    ∀ event ∈ solo thread job choices, event.thread ∈ [thread] := by
  intro event member
  simp only [solo, List.cons_append, List.mem_cons, List.mem_append, List.mem_map,
    List.not_mem_nil, or_false] at member
  rcases member with rfl | ⟨choice, _, rfl⟩ | rfl <;> exact List.mem_singleton_self thread

/-- The thread takes that many steps, under the default choices. -/
def turns [Inhabited κ] (thread : ι) (count : Nat) : List (Event ι J κ) :=
  List.replicate count (.act thread default)

/-- The pool after the given steps, when each of them is possible and passes
the check. -/
abbrev replay (code : J → Program I α) (semantics : ι → J → Semantics I κ σ)
    (check : Pool I ι J α σ → Event ι J κ → Bool) :
    Pool I ι J α σ → List (Event ι J κ) → Option (Pool I ι J α σ) :=
  Trace.replay (next code semantics) check

theorem run_of_replay {events : List (Event ι J κ)}
    {check : Pool I ι J α σ → Event ι J κ → Bool}
    (sound : ∀ pool event, check pool event = true → allowed pool event)
    (replayed : before.replay code semantics check events = some after) :
    Run code semantics allowed before events after :=
  Trace.of_replay sound replayed

end Pool

end Lecoo.Effects
