import Lecoo.Effects.Expand
import Lecoo.Effects.Pool

namespace Lecoo.Effects

/-! # Operations made atomic by a lock

Threads share a state that they only access inside critical sections of one
lock.  Whatever the interleaving of the accesses, each section then acts like a
single operation: a pool of threads that lock refines the pool in which every
section is one step.
-/

universe u v

/-- The operations inside a section, and those that begin and end it. -/
inductive LockOp (I : Interface.{v}) : Type v where
  | acquire
  | release
  | inside (operation : I.Operation)

@[reducible] def locked (I : Interface.{v}) : Interface.{v} where
  Operation := LockOp I
  Reply
    | .acquire => Unit
    | .release => Unit
    | .inside operation => I.Reply operation

/-- The shared state and the thread whose section has begun. -/
structure Locked (ι σ : Type) where
  holder : Option ι
  shared : σ

def lockedSemantics {I : Interface.{v}} {ι κ σ : Type} (inner : Semantics I κ σ) (thread : ι) :
    Semantics (locked I) κ (Locked ι σ)
  | .acquire, _, state => ((), { state with holder := some thread })
  | .release, _, state => ((), { state with holder := none })
  | .inside operation, choice, state =>
      let answered := inner operation choice state.shared
      (answered.1, { state with shared := answered.2 })

namespace Program

variable {I : Interface.{v}} {α β : Type}

/-- A program that runs while its thread holds the lock. -/
def underLock (program : Program I α) : Program (locked I) α :=
  program.expand fun operation => request (I := locked I) (.inside operation)

def critical (body : Program I α) : Program (locked I) α :=
  .perform .acquire fun _ => body.underLock >>= fun reply => .perform .release fun _ => .done reply

end Program

section Atomicity

variable {A : Interface.{u}} {I : Interface.{v}} {ι J α κ χ σ τ : Type} [DecidableEq ι]

/-- A thread waits for the lock until it is free. -/
def AwaitsLock (pool : Pool (locked I) ι J α (Locked ι σ)) : Event ι J κ → Prop
  | .act thread _ => ∀ job rest, pool.thread thread = some ⟨job, .perform .acquire rest⟩ →
      pool.world.holder = none
  | _ => True

def awaitsNow (pool : Pool (locked I) ι J α (Locked ι σ)) : Event ι J κ → Bool
  | .act thread _ =>
      match pool.thread thread with
      | some ⟨_, .perform .acquire _⟩ => pool.world.holder.isNone
      | _ => true
  | _ => true

omit [DecidableEq ι] in
theorem awaitsNow_sound (pool : Pool (locked I) ι J α (Locked ι σ)) (event : Event ι J κ)
    (passed : awaitsNow pool event = true) : AwaitsLock pool event := by
  cases event with
  | start thread job => trivial
  | act thread choice =>
      intro job rest running
      simpa [awaitsNow, running] using passed
  | finish thread => trivial

/-- Each operation is a section with a body of its own. -/
abbrev inSections (body : (operation : A.Operation) → Program I (A.Reply operation))
    (program : Program A α) : Program (locked I) α :=
  program.expand fun operation => (body operation).critical

def sectioned (body : (operation : A.Operation) → Program I (A.Reply operation))
    (activity : Activity A J α) : Activity (locked I) J α :=
  ⟨activity.job, inSections body activity.todo⟩

/-- What is left of a section and of the program behind it. -/
def leaving {operation : A.Operation}
    (body : (operation : A.Operation) → Program I (A.Reply operation))
    (rest : Program I (A.Reply operation)) (next : A.Reply operation → Program A α) :
    Program (locked I) α :=
  rest.underLock >>= fun reply => .perform .release fun _ => inSections body (next reply)

theorem inSections_perform (body : (operation : A.Operation) → Program I (A.Reply operation))
    (operation : A.Operation) (next : A.Reply operation → Program A α) :
    inSections body (.perform operation next) =
      .perform .acquire fun _ => leaving body (body operation) next := by
  have assoc : (body operation).underLock >>= (fun reply => .perform .release fun _ => .done reply) >>=
        (fun reply => inSections body (next reply)) = leaving body (body operation) next :=
    Program.bind_assoc _ _ _
  simp only [inSections, Program.expand_perform, Program.critical, Program.perform_bind] at assoc ⊢
  rw [assoc]

variable {related : σ → τ → Prop} {inner : Semantics I κ σ} {abstract : Semantics A χ τ}
  {body : (operation : A.Operation) → Program I (A.Reply operation)} {code : J → Program A α}

/-- The pool of locking threads and the pool in which every section is one step.
A section that has begun has not happened yet in the latter. -/
structure Simulates (related : σ → τ → Prop) (inner : Semantics I κ σ) (abstract : Semantics A χ τ)
    (body : (operation : A.Operation) → Program I (A.Reply operation))
    (fine : Pool (locked I) ι J α (Locked ι σ)) (coarse : Pool A ι J α τ) : Prop where
  free : fine.world.holder = none → related fine.world.shared coarse.world
  held : ∀ thread, fine.world.holder = some thread → ∃ job operation next,
    ∃ rest : Program I (A.Reply operation),
      coarse.thread thread = some ⟨job, .perform operation next⟩ ∧
      fine.thread thread = some ⟨job, leaving body rest next⟩ ∧
      ∀ reply after, rest.Runs inner fine.world.shared reply after →
        ∃ choice, (abstract operation choice coarse.world).1 = reply ∧
          related after (abstract operation choice coarse.world).2
  outside : ∀ thread, fine.world.holder ≠ some thread →
    fine.thread thread = (coarse.thread thread).map (sectioned body)

variable {before : Pool (locked I) ι J α (Locked ι σ)} {coarse : Pool A ι J α τ}

/-- What a thread outside of any section does is done in both pools. -/
theorem Simulates.put (simulates : Simulates related inner abstract body before coarse)
    {thread : ι} (outside : before.world.holder ≠ some thread)
    (activity : Option (Activity A J α)) :
    Simulates related inner abstract body
      (before.put thread (activity.map (sectioned body)))
      (coarse.put thread activity) where
  free := simulates.free
  held := by
    intro other holds
    have different : other ≠ thread := fun same => outside (same ▸ holds)
    rw [Pool.put_other _ _ different, Pool.put_other _ _ different]
    exact simulates.held other holds
  outside := by
    intro other elsewhere
    by_cases same : other = thread
    · subst same
      rw [Pool.put_same, Pool.put_same]
    · rw [Pool.put_other _ _ same, Pool.put_other _ _ same]
      exact simulates.outside other elsewhere

/-- A free lock is taken: the other pool has nothing to do yet. -/
theorem Simulates.acquire (refines : Refines related inner abstract body)
    (simulates : Simulates related inner abstract body before coarse)
    (free : before.world.holder = none) {thread : ι} {job : J} {operation : A.Operation}
    {next : A.Reply operation → Program A α}
    (running : coarse.thread thread = some ⟨job, .perform operation next⟩) :
    Simulates related inner abstract body
      { before.put thread (some ⟨job, leaving body (body operation) next⟩) with
        world := { before.world with holder := some thread } } coarse where
  free := by
    intro impossible
    cases impossible
  held := by
    intro other holds
    cases holds
    exact ⟨job, operation, next, body operation, running, Pool.put_same before thread _,
      fun reply after ran => refines operation (simulates.free free) ran⟩
  outside := by
    intro other elsewhere
    have different : other ≠ thread := fun same => elsewhere (congrArg some same.symm)
    rw [← simulates.outside other (by simp [free])]
    exact Pool.put_other before _ different

/-- A step inside a section is none in the other pool. -/
theorem Simulates.inside (simulates : Simulates related inner abstract body before coarse)
    {thread : ι} {job : J} {operation : A.Operation} {next : A.Reply operation → Program A α}
    {access : I.Operation} {rest : I.Reply access → Program I (A.Reply operation)}
    (holds : before.world.holder = some thread)
    (running : coarse.thread thread = some ⟨job, .perform operation next⟩)
    (outcome : ∀ reply after, (Program.perform access rest).Runs inner before.world.shared reply
      after → ∃ choice, (abstract operation choice coarse.world).1 = reply ∧
        related after (abstract operation choice coarse.world).2) (choice : κ) :
    let answered := inner access choice before.world.shared
    Simulates related inner abstract body
      { before.put thread (some ⟨job, leaving body (rest answered.1) next⟩) with
        world := { before.world with shared := answered.2 } } coarse where
  free := by
    intro free
    cases free.symm.trans holds
  held := by
    intro other held
    cases held.symm.trans holds
    exact ⟨job, operation, next, _, running, Pool.put_same before thread _,
      fun reply after ran => outcome reply after ⟨choice, ran⟩⟩
  outside := by
    intro other elsewhere
    have different : other ≠ thread := fun same => elsewhere (same ▸ holds)
    rw [← simulates.outside other elsewhere]
    exact Pool.put_other before _ different

/-- The end of a section is the one step of the other pool. -/
theorem Simulates.release (simulates : Simulates related inner abstract body before coarse)
    {thread : ι} {job : J} {operation : A.Operation} {next : A.Reply operation → Program A α}
    {choice : χ} (holds : before.world.holder = some thread)
    (later : related before.world.shared (abstract operation choice coarse.world).2) :
    Simulates related inner abstract body
      { before.put thread (some ⟨job, inSections body
        (next (abstract operation choice coarse.world).1)⟩) with
        world := { before.world with holder := none } }
      { coarse.put thread (some ⟨job, next (abstract operation choice coarse.world).1⟩) with
        world := (abstract operation choice coarse.world).2 } where
  free := fun _ => later
  held := by
    intro other impossible
    cases impossible
  outside := by
    intro other _
    by_cases same : other = thread
    · subst same
      have moved := Pool.put_same coarse other
        (some ⟨job, next (abstract operation choice coarse.world).1⟩)
      exact (Pool.put_same before other _).trans
        (congrArg (Option.map (sectioned body)) moved).symm
    · have elsewhere : before.world.holder ≠ some other := by
        intro held
        exact same (Option.some.inj (held.symm.trans holds))
      refine (Pool.put_other before _ same).trans ((simulates.outside other elsewhere).trans ?_)
      have kept := Pool.put_other coarse
        (some ⟨job, next (abstract operation choice coarse.world).1⟩) same
      exact (congrArg (Option.map (sectioned body)) kept).symm

theorem Simulates.step (refines : Refines related inner abstract body)
    {after : Pool (locked I) ι J α (Locked ι σ)}
    (simulates : Simulates related inner abstract body before coarse) {event : Event ι J κ}
    (awaits : AwaitsLock before event)
    (stepped : before.next (fun job => inSections body (code job))
      (fun thread _ => lockedSemantics inner thread) event = some after) :
    ∃ events reached, Pool.Run code (fun _ _ => abstract) (fun _ _ => True) coarse events reached ∧
      Simulates related inner abstract body after reached := by
  cases event with
  | start thread job =>
      obtain ⟨idle, rfl⟩ := Pool.next_start.mp stepped
      have outside : before.world.holder ≠ some thread := by
        intro holds
        obtain ⟨_, _, _, _, _, running, _⟩ := simulates.held thread holds
        rw [idle] at running
        cases running
      have same := simulates.outside thread outside
      rw [idle] at same
      exact ⟨[.start thread job], _,
        .cons trivial (Pool.next_start.mpr ⟨Option.map_eq_none_iff.mp same.symm, rfl⟩) .nil,
        simulates.put outside (some ⟨job, code job⟩)⟩
  | act thread choice =>
      obtain ⟨job, operation, rest, running, rfl⟩ := Pool.next_act.mp stepped
      by_cases holds : before.world.holder = some thread
      · obtain ⟨_, section_, next, left, runs, same, outcome⟩ := simulates.held thread holds
        rw [running] at same
        cases left with
        | done reply =>
            cases same
            obtain ⟨choice, replied, later⟩ := outcome reply _ ⟨rfl, rfl⟩
            subst replied
            exact ⟨[.act thread choice], _,
              .cons trivial (Pool.next_act.mpr ⟨job, section_, next, runs, rfl⟩) .nil,
              simulates.release holds later⟩
        | perform access later =>
            cases same
            exact ⟨[], coarse, .nil, simulates.inside holds runs outcome choice⟩
      · have same := simulates.outside thread holds
        rw [running] at same
        obtain ⟨⟨_, todo⟩, runs, same⟩ := Option.map_eq_some_iff.mp same.symm
        cases todo with
        | done value => cases same
        | perform section_ next =>
            rw [sectioned, inSections_perform] at same
            cases same
            exact ⟨[], coarse, .nil, simulates.acquire refines (awaits _ _ running) runs⟩
  | finish thread =>
      obtain ⟨job, value, ended, rfl⟩ := Pool.next_finish.mp stepped
      have outside : before.world.holder ≠ some thread := by
        intro holds
        obtain ⟨_, _, _, left, _, running, _⟩ := simulates.held thread holds
        rw [ended] at running
        cases left <;> cases running
      have same := simulates.outside thread outside
      rw [ended] at same
      obtain ⟨⟨_, todo⟩, runs, same⟩ := Option.map_eq_some_iff.mp same.symm
      cases todo with
      | done value =>
          cases same
          exact ⟨[.finish thread], _, .cons trivial (Pool.next_finish.mpr ⟨_, _, runs, rfl⟩) .nil,
            simulates.put outside none⟩
      | perform section_ next =>
          rw [sectioned, inSections_perform] at same
          cases same

/-- Whatever the interleaving, every section acts like a single operation. -/
theorem Simulates.run (refines : Refines related inner abstract body)
    {after : Pool (locked I) ι J α (Locked ι σ)} {events : List (Event ι J κ)}
    (ran : Pool.Run (fun job => inSections body (code job))
      (fun thread _ => lockedSemantics inner thread) AwaitsLock before events after)
    (simulates : Simulates related inner abstract body before coarse) :
    ∃ events reached, Pool.Run code (fun _ _ => abstract) (fun _ _ => True) coarse events reached ∧
      Simulates related inner abstract body after reached := by
  induction ran generalizing coarse with
  | nil => exact ⟨[], coarse, .nil, simulates⟩
  | cons permitted stepped _ ih =>
      obtain ⟨first, middle, went, simulates⟩ := simulates.step refines permitted stepped
      obtain ⟨later, reached, followed, simulates⟩ := ih simulates
      exact ⟨first ++ later, reached, went.append followed, simulates⟩

omit [DecidableEq ι] in
theorem simulates_idle {shared : σ} {world : τ} (start : related shared world) :
    Simulates related inner abstract body
      (Pool.idle { holder := none, shared } : Pool (locked I) ι J α (Locked ι σ))
      (Pool.idle world) where
  free := fun _ => start
  held := by
    intro thread impossible
    cases impossible
  outside := fun _ _ => rfl

end Atomicity

end Lecoo.Effects
