import Lecoo.Effects.Expand
import Lecoo.Effects.Pool
import Lecoo.Ec.Batch

namespace Lecoo.Ec.Watchdog

open Lecoo.Effects Lecoo.Data

/-! # The marker of the I/O lock

`with_batch` notes in an atomic when it took the lock, for a watchdog that looks
for transactions that do not end.  The marker is reset by a guard of its own,
which is dropped after the batch has given the lock back.
-/

inductive DeviceOp where
  | lockIo
  | unlockIo
  /-- Milliseconds since the epoch, when the clock is past it. -/
  | systemTime
  | loadHeldSince
  | storeHeldSince (value : UInt64)
  | access (access : Access)

@[reducible] def deviceOps : Interface where
  Operation := DeviceOp
  Reply
    | .lockIo => Unit
    | .unlockIo => Unit
    | .systemTime => Option UInt64
    | .loadHeldSince => UInt64
    | .storeHeldSince _ => Unit
    | .access access => registers.Reply access

section Code

variable {β : Type}

def perform (operation : DeviceOp) : Program deviceOps (deviceOps.Reply operation) :=
  Program.request (I := deviceOps) operation

/-- The register accesses of a closure. -/
abbrev accesses (body : Program registers β) : Program deviceOps β :=
  body.expand fun access => perform (.access access)

/-- The end of `with_batch`: `batch`, which owns the guard of the mutex, is
dropped before `_release_guard`. -/
def leave (result : β) : Program deviceOps β := do
  perform .unlockIo
  perform (.storeHeldSince 0)
  return result

def withBatch (body : Program registers β) : Program deviceOps β := do
  perform .lockIo
  let now ← perform .systemTime
  perform (.storeHeldSince (now.getD 0))
  let result ← accesses body
  leave result

def saturatingSub (left right : UInt64) : UInt64 := if left ≤ right then 0 else left - right

def lockAgeMs : Program deviceOps UInt64 := do
  let since ← perform .loadHeldSince
  if since = 0 then
    return 0
  else
    let now ← perform .systemTime
    return saturatingSub (now.getD since) since

end Code

abbrev ThreadId := Nat

structure Device where
  /-- The thread holding the guard of `io`. -/
  holder : Option ThreadId
  /-- `lock_held_since_ms`. -/
  heldSince : UInt64
  /-- The clock when each thread last held the lock and read it. -/
  takenAt : ThreadId → UInt64
  ec : EcMemory

structure DeviceChoice where
  clock : Option UInt64 := some 1
  failure : Option String := none
deriving Inhabited

def deviceSemantics (thread : ThreadId) : Semantics deviceOps DeviceChoice Device
  | .lockIo, _, device => ((), { device with holder := some thread })
  | .unlockIo, _, device => ((), { device with holder := none })
  | .systemTime, choice, device =>
      (choice.clock, if device.holder = some thread then
        { device with takenAt := Function.update device.takenAt thread (choice.clock.getD 0) }
      else device)
  | .loadHeldSince, _, device => (device.heldSince, device)
  | .storeHeldSince value, _, device => ((), { device with heldSince := value })
  | .access access, choice, device =>
      let answered := accessSemantics access choice.failure device.ec
      (answered.1, { device with ec := answered.2 })

/-- A thread runs closures under the lock, or it is the watchdog. -/
inductive Caller (J : Type) where
  | batch (job : J)
  | lockAge
deriving DecidableEq

inductive Outcome (β : Type) where
  | returned (result : β)
  | age (milliseconds : UInt64)

variable {J β : Type}

def Caller.code (closure : J → Program registers β) : Caller J → Program deviceOps (Outcome β)
  | .batch job => do
      let result ← withBatch (closure job)
      return .returned result
  | .lockAge => do
      let age ← lockAgeMs
      return .age age

abbrev DevicePool (J β : Type) := Pool deviceOps ThreadId (Caller J) (Outcome β) Device

abbrev DeviceEvent (J : Type) := Event ThreadId (Caller J) DeviceChoice

/-- What a thread in its closure still has to do. -/
def closing (rest : Program registers β) : Program deviceOps (Outcome β) := do
  let result ← accesses rest
  let result ← leave result
  return .returned result

/-- The thread is executing its closure. -/
def Executing (pool : DevicePool J β) (thread : ThreadId) : Prop :=
  ∃ job, ∃ rest : Program registers β,
    pool.thread thread = some ⟨.batch job, closing rest⟩

/-- A thread waits for the lock until it is free, and the clock never reads 0. -/
def Proper (pool : DevicePool J β) : DeviceEvent J → Prop
  | .act thread choice =>
      (∀ job rest, pool.thread thread = some ⟨job, .perform .lockIo rest⟩ →
        pool.world.holder = none) ∧
      choice.clock.getD 0 ≠ 0
  | _ => True

/-- No thread resets the marker while another one is executing its closure. -/
def ResetsUnseen (pool : DevicePool J β) : DeviceEvent J → Prop
  | .act thread _ => ∀ job rest,
      pool.thread thread = some ⟨job, .perform (.storeHeldSince 0) rest⟩ →
      ∀ other, other ≠ thread → ¬Executing pool other
  | _ => True

abbrev DeviceRun (closure : J → Program registers β)
    (allowed : DevicePool J β → DeviceEvent J → Prop) :=
  Pool.Run (Caller.code closure) (fun thread _ => deviceSemantics thread) allowed

/-- The marker holds the time at which whoever is executing a closure took the lock. -/
def Covered (pool : DevicePool J β) : Prop :=
  ∀ thread, Executing pool thread →
    pool.world.holder = some thread ∧ pool.world.heldSince = pool.world.takenAt thread ∧
      pool.world.heldSince ≠ 0

/-- The operations of the watchdog. -/
def DeviceOp.Looks : DeviceOp → Prop
  | .loadHeldSince | .systemTime => True
  | _ => False

def afterLock (body : Program registers β) : Program deviceOps (Outcome β) := do
  let now ← perform .systemTime
  perform (.storeHeldSince (now.getD 0))
  closing body

def afterTime (now : Option UInt64) (body : Program registers β) :
    Program deviceOps (Outcome β) := do
  perform (.storeHeldSince (now.getD 0))
  closing body

theorem code_batch (closure : J → Program registers β) (job : J) :
    (Caller.batch job).code closure = perform .lockIo >>= fun _ => afterLock (closure job) := by
  simp only [Caller.code, withBatch, afterLock, closing, bind_assoc]

theorem code_lockAge (closure : J → Program registers β) :
    (Caller.lockAge.code closure).Uses DeviceOp.Looks := by
  refine Program.Uses.bind (Program.Uses.bind ⟨trivial, fun _ => trivial⟩ fun since => ?_)
    fun _ => trivial
  split
  · trivial
  · exact ⟨trivial, fun _ => trivial⟩

inductive Place (closure : J → Program registers β) (device : Device) (thread : ThreadId)
    (activity : Activity deviceOps (Caller J) (Outcome β)) : Prop where
  | waiting (job : J) (next : activity = ⟨.batch job, (Caller.batch job).code closure⟩)
  | locked (job : J) (next : activity = ⟨.batch job, afterLock (closure job)⟩)
      (holds : device.holder = some thread)
  | timed (job : J) (now : Option UInt64)
      (next : activity = ⟨.batch job, afterTime now (closure job)⟩)
      (holds : device.holder = some thread) (taken : device.takenAt thread = now.getD 0)
      (running : now.getD 0 ≠ 0)
  | executing (job : J) (rest : Program registers β)
      (next : activity = ⟨.batch job, closing rest⟩)
      (holds : device.holder = some thread) (marked : device.heldSince = device.takenAt thread)
      (running : device.heldSince ≠ 0)
  | resetting (job : J) (result : β)
      (next : activity = ⟨.batch job, .perform (.storeHeldSince 0) fun _ => .done (.returned result)⟩)
  | ended (job : J) (result : β) (next : activity = ⟨.batch job, .done (.returned result)⟩)
  | looking (job : activity.job = .lockAge) (looks : activity.todo.Uses DeviceOp.Looks)

variable {closure : J → Program registers β} {before after : Device} {thread : ThreadId}
  {activity : Activity deviceOps (Caller J) (Outcome β)}

/-- What a thread stands on is its own while it holds the lock, except for the marker. -/
theorem Place.borne (place : Place closure before thread activity)
    (holder : before.holder = some thread → after.holder = some thread)
    (taken : before.holder = some thread → after.takenAt thread = before.takenAt thread)
    (marker : before.holder = some thread →
      (∃ job, ∃ rest : Program registers β, activity = ⟨.batch job, closing rest⟩) →
      after.heldSince = before.heldSince) : Place closure after thread activity := by
  cases place with
  | waiting job next => exact .waiting job next
  | locked job next holds => exact .locked job next (holder holds)
  | timed job now next holds time running =>
      exact .timed job now next (holder holds) ((taken holds).trans time) running
  | executing job rest next holds marked running =>
      have same := marker holds ⟨job, rest, next⟩
      refine .executing job rest next (holder holds) ?_ (same ▸ running)
      rw [same, marked, taken holds]
  | resetting job result next => exact .resetting job result next
  | ended job result next => exact .ended job result next
  | looking job looks => exact .looking job looks

variable {choice : DeviceChoice} {caller : Caller J} {operation : DeviceOp}
  {rest : deviceOps.Reply operation → Program deviceOps (Outcome β)}

theorem Place.act (place : Place closure before thread ⟨caller, .perform operation rest⟩)
    (clock : choice.clock.getD 0 ≠ 0) :
    Place closure (deviceSemantics thread operation choice before).2 thread
      ⟨caller, rest (deviceSemantics thread operation choice before).1⟩ := by
  cases place with
  | waiting job next =>
      rw [code_batch] at next
      cases next
      exact .locked job rfl rfl
  | locked job next holds =>
      cases next
      refine .timed job choice.clock rfl ?_ ?_ clock
      · simp only [deviceSemantics, holds, if_true]
      · simp only [deviceSemantics, holds, if_true, Function.update_self]
  | timed job now next holds taken running =>
      cases next
      exact .executing job (closure job) rfl holds taken.symm running
  | executing job left next holds marked running =>
      cases left with
      | done result =>
          cases next
          exact .resetting job result rfl
      | perform access later =>
          cases next
          exact .executing job (later _) rfl holds marked running
  | resetting job result next =>
      cases next
      exact .ended job result rfl
  | ended job result next => cases next
  | looking job looks => exact .looking job (looks.2 _)

/-- What a step leaves to another thread that holds the lock. -/
theorem Place.spares (place : Place closure before thread ⟨caller, .perform operation rest⟩)
    (awaits : operation = .lockIo → before.holder = none) (choice : DeviceChoice)
    {other : ThreadId} (different : other ≠ thread) (holds : before.holder = some other) :
    (deviceSemantics thread operation choice before).2.holder = some other ∧
    (deviceSemantics thread operation choice before).2.takenAt other = before.takenAt other ∧
    ((deviceSemantics thread operation choice before).2.heldSince = before.heldSince ∨
      operation = .storeHeldSince 0) := by
  have elsewhere : before.holder ≠ some thread := by
    intro own
    exact different (Option.some.inj (holds.symm.trans own))
  cases place with
  | waiting job next =>
      rw [code_batch] at next
      cases next
      cases holds.symm.trans (awaits rfl)
  | locked job next own => exact absurd own elsewhere
  | timed job now next own => exact absurd own elsewhere
  | executing job left next own => exact absurd own elsewhere
  | resetting job result next =>
      cases next
      exact ⟨holds, rfl, .inr rfl⟩
  | ended job result next => cases next
  | looking job looks =>
      cases operation with
      | loadHeldSince => exact ⟨holds, rfl, .inl rfl⟩
      | systemTime =>
          have same : (deviceSemantics thread .systemTime choice before).2 = before := by
            simp only [deviceSemantics, elsewhere, if_false]
          rw [same]
          exact ⟨holds, rfl, .inl rfl⟩
      | _ => cases looks.1

/-- Every thread has a place. -/
def Placed (closure : J → Program registers β) (pool : DevicePool J β) : Prop :=
  pool.Each (Place closure)

/-- Wherever the threads are, nobody resets the marker of another one. -/
theorem placed_run {device : Device} {events : List (DeviceEvent J)} {after : DevicePool J β}
    (ran : DeviceRun closure (fun pool event => Proper pool event ∧ ResetsUnseen pool event)
      (.idle device) events after) : Placed closure after := by
  have initially : Placed closure (.idle device) := fun thread activity running => by cases running
  refine Pool.Run.invariant_of_steps ?_ ?_ ?_ ran initially
  · intro pool thread caller placed _ _
    have moved : Place closure pool.world thread ⟨caller, caller.code closure⟩ := by
      cases caller with
      | batch job => exact .waiting job rfl
      | lockAge => exact .looking rfl (code_lockAge closure)
    exact placed.move moved fun _ _ _ place => place
  · intro pool thread choice caller operation rest placed permitted running
    obtain ⟨⟨awaits, clock⟩, unseen⟩ := permitted
    have place := placed thread _ running
    have known : pool.Each fun device other activity =>
        Place closure device other activity ∧ pool.thread other = some activity :=
      fun other activity found => ⟨placed other activity found, found⟩
    refine known.move (place.act clock) fun other activity different theirs => ?_
    obtain ⟨theirs, found⟩ := theirs
    have spared := place.spares
      (fun lock => by subst lock; exact awaits caller rest running) choice different
    refine theirs.borne (fun holds => (spared holds).1) (fun holds => (spared holds).2.1) ?_
    intro holds executing
    rcases (spared holds).2.2 with same | resets
    · exact same
    · subst resets
      obtain ⟨job, left, rfl⟩ := executing
      exact absurd ⟨job, left, found⟩ (unseen caller rest running other different)
  · intro pool thread caller value placed _ _
    exact placed.finish

/-- A closure is never taken for another part of `with_batch`. -/
theorem Place.of_executing {job : J} {left : Program registers β}
    (place : Place closure before thread ⟨.batch job, closing left⟩) :
    before.holder = some thread ∧ before.heldSince = before.takenAt thread ∧
      before.heldSince ≠ 0 := by
  cases place with
  | executing _ _ _ holds marked running => exact ⟨holds, marked, running⟩
  | waiting job' next =>
      rw [code_batch] at next
      cases left <;> cases next
  | locked job' next => cases left <;> cases next
  | timed job' now next => cases left <;> cases next
  | resetting job' result next => cases left <;> cases next
  | ended job' result next => cases left <;> cases next
  | looking job' => cases job'

/-- The marker covers every closure, as long as no thread resets it while another
one is executing its closure. -/
theorem marker_covers {device : Device} {events : List (DeviceEvent J)} {after : DevicePool J β}
    (ran : DeviceRun closure (fun pool event => Proper pool event ∧ ResetsUnseen pool event)
      (.idle device) events after) : Covered after := by
  intro thread executing
  obtain ⟨job, left, running⟩ := executing
  exact (placed_run ran thread _ running).of_executing

def properNow (pool : DevicePool J β) : DeviceEvent J → Bool
  | .act thread choice =>
      choice.clock.getD 0 != 0 &&
      match pool.thread thread with
      | some ⟨_, .perform .lockIo _⟩ => pool.world.holder.isNone
      | _ => true
  | _ => true

theorem properNow_sound {pool : DevicePool J β} {event : DeviceEvent J}
    (passed : properNow pool event = true) : Proper pool event := by
  cases event with
  | act thread choice =>
      simp only [properNow, Bool.and_eq_true, bne_iff_ne] at passed
      refine ⟨fun job rest running => ?_, passed.1⟩
      simpa [running] using passed.2
  | _ => trivial

/-- Nobody resets the marker at all. -/
def resetsNow (pool : DevicePool J β) : DeviceEvent J → Bool
  | .act thread _ =>
      match pool.thread thread with
      | some ⟨_, .perform (.storeHeldSince value) _⟩ => value != 0
      | _ => true
  | _ => true

theorem resetsNow_sound {pool : DevicePool J β} {event : DeviceEvent J}
    (passed : resetsNow pool event = true) : ResetsUnseen pool event := by
  cases event with
  | act thread choice =>
      intro job rest running
      simp [resetsNow, running] at passed
  | _ => trivial

def readsChipId : Unit → Program registers (Except Failure UInt8) :=
  fun _ => (EcBatch.readReg 0x2000).run

def freeDevice : Device := { holder := none, heldSince := 0, takenAt := fun _ => 0, ec := fun _ => 0 }

/-- One thread is executing its closure while another one waits for the lock. -/
theorem marker_covers_waiting :
    ∃ after : DevicePool Unit (Except Failure UInt8), Executing after 0 ∧ Covered after := by
  have reached : ((Pool.replay (Caller.code readsChipId) (fun thread _ => deviceSemantics thread)
      (fun pool event => properNow pool event && resetsNow pool event) (.idle freeDevice)
      ([.start 0 (.batch ()), .start 1 (.batch ())] ++ Pool.turns 0 3)).map fun pool =>
        pool.thread 0) = some (some ⟨.batch (), closing (readsChipId ())⟩) := rfl
  obtain ⟨after, replayed, running⟩ := Option.map_eq_some_iff.mp reached
  refine ⟨after, ⟨(), _, running⟩,
    marker_covers (Pool.run_of_replay (fun pool event passed => ?_) replayed)⟩
  obtain ⟨proper, resets⟩ := (Bool.and_eq_true _ _).mp passed
  exact ⟨properNow_sound proper, resetsNow_sound resets⟩

/-- The first thread gives the lock back, the second one takes it and stores its time,
and only then the first one resets the marker. -/
theorem marker_covers_fails :
    ¬∀ events (after : DevicePool Unit (Except Failure UInt8)),
      DeviceRun readsChipId Proper (.idle freeDevice) events after → Covered after := by
  intro covers
  have reached : ((Pool.replay (Caller.code readsChipId) (fun thread _ => deviceSemantics thread)
      properNow (.idle freeDevice)
      ([.start 0 (.batch ()), .start 1 (.batch ())] ++ Pool.turns 0 5 ++ Pool.turns 1 3 ++
        Pool.turns 0 1)).map fun pool => (pool.thread 1, pool.world.heldSince)) =
      some (some ⟨.batch (), closing (readsChipId ())⟩, 0) := rfl
  obtain ⟨after, replayed, same⟩ := Option.map_eq_some_iff.mp reached
  have running : after.thread 1 = some ⟨.batch (), closing (readsChipId ())⟩ :=
    congrArg Prod.fst same
  have reset : after.world.heldSince = 0 := congrArg Prod.snd same
  have ran := Pool.run_of_replay (fun _ _ => properNow_sound) replayed
  exact (covers _ after ran 1 ⟨(), _, running⟩).2.2 reset

end Lecoo.Ec.Watchdog
