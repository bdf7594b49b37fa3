import Lecoo.Effects.Mutex

namespace Lecoo.Effects

/-! # A part of the state behind a lock

Some operations come down to accesses that their thread makes to one part of the shared
state while it holds a lock.  The others leave that part alone and take no lock, so that
they can come between any two of the accesses.  Whatever the interleaving, the pool does
what the pool does in which every operation is one step.
-/

universe u v

section GuardedPart

variable {A : Interface.{u}} {I : Interface.{v}} {ι J α κ χ σ τ : Type}
  {closure : (operation : A.Operation) → Option (Program I (A.Reply operation))}

/-- An operation with a closure is a section under the lock, another one is a step of its own. -/
def guardedStep (closure : (operation : A.Operation) → Option (Program I (A.Reply operation)))
    (operation : A.Operation) : Program ((locked I).sum A) (A.Reply operation) :=
  match closure operation with
  | some body => body.critical.inLeft
  | none => Program.request (I := (locked I).sum A) (.inr operation)

abbrev guarded (closure : (operation : A.Operation) → Option (Program I (A.Reply operation)))
    (program : Program A α) : Program ((locked I).sum A) α :=
  program.expand (guardedStep closure)

def guardedActivity (closure : (operation : A.Operation) → Option (Program I (A.Reply operation)))
    (activity : Activity A J α) : Activity ((locked I).sum A) J α :=
  ⟨activity.job, guarded closure activity.todo⟩

/-- The lock with the guarded part, and the state next to it. -/
def guardedSemantics (inner : Semantics I κ σ) (abstract : ι → J → Semantics A χ τ) (thread : ι)
    (job : J) : Semantics ((locked I).sum A) (κ × χ) (Locked ι σ × τ) :=
  (lockedSemantics inner thread).sum (abstract thread job)

/-- A thread waits for the lock until it is free. -/
def AwaitsGuard (pool : Pool ((locked I).sum A) ι J α (Locked ι σ × τ)) :
    Event ι J (κ × χ) → Prop
  | .act thread _ => ∀ job rest, pool.thread thread = some ⟨job, .perform (.inl .acquire) rest⟩ →
      pool.world.1.holder = none
  | _ => True

def awaitsGuardNow (pool : Pool ((locked I).sum A) ι J α (Locked ι σ × τ)) :
    Event ι J (κ × χ) → Bool
  | .act thread _ =>
      match pool.thread thread with
      | some ⟨_, .perform (.inl .acquire) _⟩ => pool.world.1.holder.isNone
      | _ => true
  | _ => true

theorem awaitsGuardNow_sound (pool : Pool ((locked I).sum A) ι J α (Locked ι σ × τ))
    (event : Event ι J (κ × χ)) (passed : awaitsGuardNow pool event = true) :
    AwaitsGuard pool event := by
  cases event with
  | start thread job => trivial
  | act thread choice =>
      intro job rest running
      simpa [awaitsGuardNow, running] using passed
  | finish thread => trivial

/-- What is left of a section and of the program behind it. -/
def inGuard {operation : A.Operation}
    (closure : (operation : A.Operation) → Option (Program I (A.Reply operation)))
    (left : Program I (A.Reply operation)) (next : A.Reply operation → Program A α) :
    Program ((locked I).sum A) α :=
  left.underLock.inLeft >>= fun reply =>
    .perform (.inl .release) fun _ => guarded closure (next reply)

theorem guarded_section {operation : A.Operation} {body : Program I (A.Reply operation)}
    (closed : closure operation = some body) (next : A.Reply operation → Program A α) :
    guarded closure (.perform operation next) =
      .perform (.inl .acquire) fun _ => inGuard closure body next := by
  have entered : body.critical.inLeft (J := A) = .perform (.inl .acquire) fun _ =>
      body.underLock.inLeft >>= fun reply => .perform (.inl .release) fun _ => .done reply := by
    refine congrArg (Program.perform _) (funext fun _ => ?_)
    exact Program.expand_bind _ _
  rw [guarded, Program.expand_perform, guardedStep, closed]
  simp only [entered, Program.perform_bind, Program.bind_assoc, Program.done_bind, inGuard]

theorem guarded_step {operation : A.Operation} (open_ : closure operation = none)
    (next : A.Reply operation → Program A α) :
    guarded closure (.perform operation next) =
      .perform (.inr operation) fun reply => guarded closure (next reply) := by
  rw [guarded, Program.expand_perform, guardedStep, open_]
  rfl

/-- What the accesses of a section come to, the operation can do, with the guarded part in
its place; the other operations do not see that part. -/
structure Shelters (place : σ → τ → τ) (inner : Semantics I κ σ)
    (abstract : ι → J → Semantics A χ τ)
    (closure : (operation : A.Operation) → Option (Program I (A.Reply operation))) : Prop where
  sections : ∀ {operation body}, closure operation = some body →
    ∀ (thread : ι) (job : J) {before reply after}, body.Runs inner before reply after →
      ∃ choice, ∀ rest, abstract thread job operation choice (place before rest) =
        (reply, place after rest)
  others : ∀ {operation}, closure operation = none → ∀ thread job choice shared rest,
    abstract thread job operation choice (place shared rest) =
      ((abstract thread job operation choice rest).1,
        place shared (abstract thread job operation choice rest).2)

variable {place : σ → τ → τ} {inner : Semantics I κ σ} {abstract : ι → J → Semantics A χ τ}
  {code : J → Program A α} {base : σ} {before : Pool ((locked I).sum A) ι J α (Locked ι σ × τ)}
  {coarse : Pool A ι J α τ}

/-- The pool with the lock and the pool in which every operation is one step, which has the
guarded part as it was when the section under way began. -/
structure Mirrors (place : σ → τ → τ) (inner : Semantics I κ σ)
    (abstract : ι → J → Semantics A χ τ)
    (closure : (operation : A.Operation) → Option (Program I (A.Reply operation))) (base : σ)
    (fine : Pool ((locked I).sum A) ι J α (Locked ι σ × τ)) (coarse : Pool A ι J α τ) :
    Prop where
  world : coarse.world = place base fine.world.2
  free : fine.world.1.holder = none → base = fine.world.1.shared
  held : ∀ thread, fine.world.1.holder = some thread → ∃ job operation next,
    ∃ left : Program I (A.Reply operation),
      coarse.thread thread = some ⟨job, .perform operation next⟩ ∧
      fine.thread thread = some ⟨job, inGuard closure left next⟩ ∧
      ∀ reply after, left.Runs inner fine.world.1.shared reply after → ∃ choice, ∀ rest,
        abstract thread job operation choice (place base rest) = (reply, place after rest)
  outside : ∀ thread, fine.world.1.holder ≠ some thread →
    fine.thread thread = (coarse.thread thread).map (guardedActivity closure)

theorem mirrors_idle (shared : σ) (rest : τ) :
    Mirrors place inner abstract closure shared
      (Pool.idle ({ holder := none, shared }, rest) :
        Pool ((locked I).sum A) ι J α (Locked ι σ × τ))
      (Pool.idle (place shared rest)) where
  world := rfl
  free := fun _ => rfl
  held := by
    intro thread impossible
    cases impossible
  outside := fun _ _ => rfl

variable [DecidableEq ι]

/-- A thread outside of the section moves, and only the rest of the state with it. -/
theorem Mirrors.put (mirrors : Mirrors place inner abstract closure base before coarse)
    {thread : ι} (outside : before.world.1.holder ≠ some thread)
    (activity : Option (Activity A J α)) (rest : τ) :
    Mirrors place inner abstract closure base
      { before.put thread (activity.map (guardedActivity closure)) with
        world := (before.world.1, rest) }
      { coarse.put thread activity with world := place base rest } where
  world := rfl
  free := mirrors.free
  held := by
    intro other holds
    have different : other ≠ thread := fun same => outside (same ▸ holds)
    obtain ⟨job, operation, next, left, runs, running, outcome⟩ := mirrors.held other holds
    exact ⟨job, operation, next, left, (Pool.put_other coarse _ different).trans runs,
      (Pool.put_other before _ different).trans running, outcome⟩
  outside := by
    intro other elsewhere
    by_cases same : other = thread
    · subst same
      refine (Pool.put_same before other _).trans ?_
      exact congrArg (Option.map (guardedActivity closure)) (Pool.put_same coarse other activity).symm
    · refine (Pool.put_other before _ same).trans ((mirrors.outside other elsewhere).trans ?_)
      have kept := Pool.put_other coarse activity same
      exact (congrArg (Option.map (guardedActivity closure)) kept).symm

theorem Mirrors.acquire (shelters : Shelters place inner abstract closure)
    (mirrors : Mirrors place inner abstract closure base before coarse)
    (free : before.world.1.holder = none) {thread : ι} {job : J} {operation : A.Operation}
    {next : A.Reply operation → Program A α} {body : Program I (A.Reply operation)}
    (closed : closure operation = some body)
    (running : coarse.thread thread = some ⟨job, .perform operation next⟩) :
    Mirrors place inner abstract closure base
      { before.put thread (some ⟨job, inGuard closure body next⟩) with
        world := ({ before.world.1 with holder := some thread }, before.world.2) } coarse where
  world := mirrors.world
  free := by
    intro impossible
    cases impossible
  held := by
    intro other holds
    cases holds
    refine ⟨job, operation, next, body, running, Pool.put_same before thread _, ?_⟩
    intro reply after ran
    rw [mirrors.free free]
    exact shelters.sections closed thread job ran
  outside := by
    intro other elsewhere
    have different : other ≠ thread := fun same => elsewhere (congrArg some same.symm)
    rw [← mirrors.outside other (by simp [free])]
    exact Pool.put_other before _ different

/-- An access inside the section is none in the other pool. -/
theorem Mirrors.inside (mirrors : Mirrors place inner abstract closure base before coarse)
    {thread : ι} {job : J} {operation : A.Operation} {next : A.Reply operation → Program A α}
    {access : I.Operation} {left : I.Reply access → Program I (A.Reply operation)}
    (holds : before.world.1.holder = some thread)
    (running : coarse.thread thread = some ⟨job, .perform operation next⟩)
    (outcome : ∀ reply after, (Program.perform access left).Runs inner before.world.1.shared
      reply after → ∃ choice, ∀ rest,
        abstract thread job operation choice (place base rest) = (reply, place after rest))
    (choice : κ) :
    let answered := inner access choice before.world.1.shared
    Mirrors place inner abstract closure base
      { before.put thread (some ⟨job, inGuard closure (left answered.1) next⟩) with
        world := ({ before.world.1 with shared := answered.2 }, before.world.2) } coarse where
  world := mirrors.world
  free := by
    intro free
    cases free.symm.trans holds
  held := by
    intro other held
    cases held.symm.trans holds
    exact ⟨job, operation, next, _, running, Pool.put_same before thread _,
      fun reply after ran => outcome reply after ⟨choice, ran⟩⟩
  outside := by
    intro other elsewhere
    have different : other ≠ thread := fun same => elsewhere (same ▸ holds)
    rw [← mirrors.outside other elsewhere]
    exact Pool.put_other before _ different

/-- The section has no accesses left, and the other pool has taken its step. -/
theorem Mirrors.release (mirrors : Mirrors place inner abstract closure base before coarse)
    {thread : ι} {job : J} {operation : A.Operation} {next : A.Reply operation → Program A α}
    {reply : A.Reply operation} (holds : before.world.1.holder = some thread) :
    Mirrors place inner abstract closure before.world.1.shared
      { before.put thread (some ⟨job, guarded closure (next reply)⟩) with
        world := ({ before.world.1 with holder := none }, before.world.2) }
      { coarse.put thread (some ⟨job, next reply⟩) with
        world := place before.world.1.shared before.world.2 } where
  world := rfl
  free := fun _ => rfl
  held := by
    intro other impossible
    cases impossible
  outside := by
    intro other _
    by_cases same : other = thread
    · subst same
      have moved := Pool.put_same coarse other (some ⟨job, next reply⟩)
      exact (Pool.put_same before other _).trans
        (congrArg (Option.map (guardedActivity closure)) moved).symm
    · have elsewhere : before.world.1.holder ≠ some other := by
        intro held
        exact same (Option.some.inj (held.symm.trans holds))
      refine (Pool.put_other before _ same).trans ((mirrors.outside other elsewhere).trans ?_)
      have kept := Pool.put_other coarse (some ⟨job, next reply⟩) same
      exact (congrArg (Option.map (guardedActivity closure)) kept).symm

theorem Mirrors.ends (mirrors : Mirrors place inner abstract closure base before coarse)
    {thread : ι} {job : J} {operation : A.Operation} {next : A.Reply operation → Program A α}
    {reply : A.Reply operation} {after : σ} {choice : χ}
    (running : coarse.thread thread = some ⟨job, .perform operation next⟩)
    (outcome : ∀ rest, abstract thread job operation choice (place base rest) =
      (reply, place after rest)) :
    coarse.next code abstract (.act thread choice) =
      some { coarse.put thread (some ⟨job, next reply⟩) with
        world := place after before.world.2 } := by
  refine Pool.next_act.mpr ⟨job, operation, next, running, ?_⟩
  rw [mirrors.world, outcome]

theorem Mirrors.step (shelters : Shelters place inner abstract closure)
    {after : Pool ((locked I).sum A) ι J α (Locked ι σ × τ)}
    (mirrors : Mirrors place inner abstract closure base before coarse)
    {event : Event ι J (κ × χ)} (awaits : AwaitsGuard before event)
    (stepped : before.next (fun job => guarded closure (code job))
      (guardedSemantics inner abstract) event = some after) :
    ∃ events reached later, Pool.Run code abstract (fun _ _ => True) coarse events reached ∧
      Mirrors place inner abstract closure later after reached := by
  cases event with
  | start thread job =>
      obtain ⟨idle, rfl⟩ := Pool.next_start.mp stepped
      have outside : before.world.1.holder ≠ some thread := by
        intro holds
        obtain ⟨_, _, _, _, _, running, _⟩ := mirrors.held thread holds
        rw [idle] at running
        cases running
      have same := mirrors.outside thread outside
      rw [idle] at same
      have started := mirrors.put outside (some ⟨job, code job⟩) before.world.2
      rw [← mirrors.world] at started
      exact ⟨[.start thread job], _, base,
        .cons trivial (Pool.next_start.mpr ⟨Option.map_eq_none_iff.mp same.symm, rfl⟩) .nil,
        started⟩
  | act thread choice =>
      obtain ⟨job, operation, rest, running, rfl⟩ := Pool.next_act.mp stepped
      by_cases holds : before.world.1.holder = some thread
      · obtain ⟨_, section_, next, left, runs, same, outcome⟩ := mirrors.held thread holds
        rw [running] at same
        cases left with
        | done reply =>
            cases same
            obtain ⟨choice, outcome⟩ := outcome reply _ ⟨rfl, rfl⟩
            exact ⟨[.act thread choice], _, _, .cons trivial (mirrors.ends runs outcome) .nil,
              mirrors.release holds⟩
        | perform access later =>
            cases same
            exact ⟨[], coarse, base, .nil, mirrors.inside holds runs outcome choice.1⟩
      · have same := mirrors.outside thread holds
        rw [running] at same
        obtain ⟨⟨own, todo⟩, runs, same⟩ := Option.map_eq_some_iff.mp same.symm
        cases todo with
        | done value => cases same
        | perform section_ next =>
            cases closed : closure section_ with
            | some body =>
                rw [guardedActivity, guarded_section closed] at same
                cases same
                exact ⟨[], coarse, base, .nil,
                  mirrors.acquire shelters (awaits _ _ running) closed runs⟩
            | none =>
                rw [guardedActivity, guarded_step closed] at same
                cases same
                have seen := shelters.others closed thread own choice.2 base before.world.2
                refine ⟨[.act thread choice.2], _, base,
                  .cons trivial (Pool.next_act.mpr ⟨own, section_, next, runs, rfl⟩) .nil, ?_⟩
                rw [mirrors.world, seen]
                exact mirrors.put holds (some ⟨own, next _⟩) _
  | finish thread =>
      obtain ⟨job, value, ended, rfl⟩ := Pool.next_finish.mp stepped
      have outside : before.world.1.holder ≠ some thread := by
        intro holds
        obtain ⟨_, _, _, left, _, running, _⟩ := mirrors.held thread holds
        rw [ended] at running
        cases left <;> cases running
      have same := mirrors.outside thread outside
      rw [ended] at same
      obtain ⟨⟨_, todo⟩, runs, same⟩ := Option.map_eq_some_iff.mp same.symm
      cases todo with
      | done value =>
          cases same
          have freed := mirrors.put outside none before.world.2
          rw [← mirrors.world] at freed
          exact ⟨[.finish thread], _, base,
            .cons trivial (Pool.next_finish.mpr ⟨_, _, runs, rfl⟩) .nil, freed⟩
      | perform section_ next =>
          cases closed : closure section_ with
          | some body =>
              rw [guardedActivity, guarded_section closed] at same
              cases same
          | none =>
              rw [guardedActivity, guarded_step closed] at same
              cases same

/-- Whatever the interleaving, an operation with a closure acts like a single step. -/
theorem Mirrors.run (shelters : Shelters place inner abstract closure)
    {after : Pool ((locked I).sum A) ι J α (Locked ι σ × τ)} {events : List (Event ι J (κ × χ))}
    (ran : Pool.Run (fun job => guarded closure (code job)) (guardedSemantics inner abstract)
      AwaitsGuard before events after)
    (mirrors : Mirrors place inner abstract closure base before coarse) :
    ∃ events reached later, Pool.Run code abstract (fun _ _ => True) coarse events reached ∧
      Mirrors place inner abstract closure later after reached := by
  induction ran generalizing coarse base with
  | nil => exact ⟨[], coarse, base, .nil, mirrors⟩
  | cons permitted stepped _ ih =>
      obtain ⟨first, middle, _, went, mirrors⟩ := mirrors.step shelters permitted stepped
      obtain ⟨later, reached, last, followed, mirrors⟩ := ih mirrors
      exact ⟨first ++ later, reached, last, went.append followed, mirrors⟩

omit [DecidableEq ι] in
/-- Where every access can fail to have an effect, a program can end in the state it is in. -/
theorem runs_stalled (stalls : ∀ access shared, ∃ choice, (inner access choice shared).2 = shared)
    {β : Type} (program : Program I β) (shared : σ) :
    ∃ reply, program.Runs inner shared reply shared := by
  induction program with
  | done value => exact ⟨value, rfl, rfl⟩
  | perform access next ih =>
      obtain ⟨choice, same⟩ := stalls access shared
      obtain ⟨reply, ran⟩ := ih (inner access choice shared).1
      exact ⟨reply, choice, same.symm ▸ ran⟩

/-- Where accesses can fail, the pool is at every moment as the other pool can come to be:
the section under way could end there. -/
theorem Mirrors.seen (stalls : ∀ access shared, ∃ choice, (inner access choice shared).2 = shared)
    (mirrors : Mirrors place inner abstract closure base before coarse) :
    ∃ events reached, Pool.Run code abstract (fun _ _ => True) coarse events reached ∧
      reached.world = place before.world.1.shared before.world.2 ∧
      ∀ thread, before.world.1.holder ≠ some thread →
        before.thread thread = (reached.thread thread).map (guardedActivity closure) := by
  cases holder : before.world.1.holder with
  | none =>
      refine ⟨[], coarse, .nil, ?_, fun thread elsewhere => mirrors.outside thread ?_⟩
      · rw [mirrors.world, mirrors.free holder]
      · rwa [holder]
  | some thread =>
      obtain ⟨job, operation, next, left, runs, _, outcome⟩ := mirrors.held thread holder
      obtain ⟨reply, ran⟩ := runs_stalled stalls left before.world.1.shared
      obtain ⟨choice, outcome⟩ := outcome reply _ ran
      refine ⟨[.act thread choice], _, .cons trivial (mirrors.ends runs outcome) .nil, rfl, ?_⟩
      intro other elsewhere
      have different : other ≠ thread := fun same => elsewhere (congrArg some same.symm)
      rw [mirrors.outside other (holder ▸ elsewhere)]
      exact congrArg _ (Pool.put_other coarse _ different).symm

/-- From the idle pool on, the pool with the lock is at every moment as the other can be. -/
theorem guarded_seen (shelters : Shelters place inner abstract closure)
    (stalls : ∀ access shared, ∃ choice, (inner access choice shared).2 = shared)
    {shared : σ} {rest : τ} {after : Pool ((locked I).sum A) ι J α (Locked ι σ × τ)}
    {events : List (Event ι J (κ × χ))}
    (ran : Pool.Run (fun job => guarded closure (code job)) (guardedSemantics inner abstract)
      AwaitsGuard (Pool.idle ({ holder := none, shared }, rest)) events after) :
    ∃ steps reached, Pool.Run code abstract (fun _ _ => True) (Pool.idle (place shared rest)) steps
        reached ∧
      reached.world = place after.world.1.shared after.world.2 ∧
      ∀ thread, after.world.1.holder ≠ some thread →
        after.thread thread = (reached.thread thread).map (guardedActivity closure) := by
  obtain ⟨first, middle, base, went, mirrors⟩ := Mirrors.run shelters ran (mirrors_idle shared rest)
  obtain ⟨last, reached, followed, seen⟩ := mirrors.seen stalls
  exact ⟨first ++ last, reached, went.append followed, seen⟩

end GuardedPart

end Lecoo.Effects
