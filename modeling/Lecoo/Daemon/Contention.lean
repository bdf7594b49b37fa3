import Lecoo.Daemon.Scopes
import Lecoo.Effects.Transcript

namespace Lecoo.Daemon

open Lecoo.Effects Lecoo.Ipc Lecoo.Ec

/-! # Contention for the state guard

Nobody waits for the guard: a job tries it once, and is refused when another
thread has it.  The record of a run says how each job fared, what it performed
before the guard and under it, and what was done under the guard, one hold after
the other.
-/

/-- How the present job of a thread has fared with the guard, and what it has performed
before it tried the guard or, after that, since it has the guard. -/
inductive Visit where
  | waiting (performed : List (Performed daemonOps))
  | refused (holder : ThreadId)
  | holding (found : World) (faulty : Bool) (performed : List (Performed daemonOps))
  | released (found left : World) (faulty : Bool) (performed : List (Performed daemonOps))

namespace Visit

def Holding : Visit → Prop
  | .holding _ _ _ => True
  | _ => False

/-- How it fares after one more operation. -/
def after (visit : Visit) (choice : Choice) (world : World) :
    (operation : DaemonOp) → daemonOps.Reply operation → Visit
  | .tryLockState, _ =>
      match world.stateLock with
      | none => .holding world false []
      | some holder => .refused holder
  | .unlockState, _ =>
      match visit with
      | .holding found faulty performed => .released found world faulty performed
      | other => other
  | operation, reply =>
      match visit with
      | .waiting performed => .waiting (performed ++ [⟨operation, reply⟩])
      | .holding found faulty performed =>
          .holding found (faulty || operation.Calls && choice.failure.isSome)
            (performed ++ [⟨operation, reply⟩])
      | other => other

end Visit

/-- The guard was taken in `found` and released in `left`, and the given operations were
performed by the holder in between; at a fault a system call of the job failed. -/
structure Hold where
  thread : ThreadId
  job : Job
  found : World
  left : World
  faulty : Bool
  performed : List (Performed daemonOps)

/-- The hold that an operation puts an end to. -/
def Visit.ended (visit : Visit) (thread : ThreadId) (job : Job) (left : World) :
    DaemonOp → List Hold
  | .unlockState =>
      match visit with
      | .holding found faulty performed => [{ thread, job, found, left, faulty, performed }]
      | _ => []
  | _ => []

/-- The threads, how each of their jobs has fared, and the holds so far, newest first. -/
structure Attended where
  pool : DaemonPool World
  visit : ThreadId → Visit
  holds : List Hold

namespace Attended

def start (world : World) : Attended where
  pool := Pool.idle world
  visit _ := .waiting []
  holds := []

def visits (codec : SettingsCodec) (state : Attended) :
    Event ThreadId Job Choice → ThreadId → Visit
  | .start thread _ => Function.update state.visit thread (.waiting [])
  | .act thread choice =>
      match state.pool.thread thread with
      | some ⟨_, .perform operation _⟩ => Function.update state.visit thread
          ((state.visit thread).after choice state.pool.world operation
            (daemonSemantics codec thread operation choice state.pool.world).1)
      | _ => state.visit
  | .finish _ => state.visit

def held (state : Attended) : Event ThreadId Job Choice → List Hold
  | .act thread _ =>
      match state.pool.thread thread with
      | some ⟨job, .perform operation _⟩ =>
          (state.visit thread).ended thread job state.pool.world operation ++ state.holds
      | _ => state.holds
  | _ => state.holds

def next (codec : SettingsCodec) (ec : EcDevice) (state : Attended)
    (event : Event ThreadId Job Choice) : Option Attended :=
  (state.pool.next (fun job => (job.work ec).run) (fun thread _ => daemonSemantics codec thread)
    event).map fun pool => { pool, visit := state.visits codec event, holds := state.held event }

end Attended

/-- The daemon is up: nothing but its start-up has to be ruled out. -/
def Serving (_ : Attended) : Event ThreadId Job Choice → Prop
  | .start _ (.startUp _) => False
  | _ => True

/-- How a job that needs the guard can have ended: a setter whose EC operations
failed, a job that was refused, or one that ran its scope.  What it has performed is
its own code, from beginning to end. -/
inductive Settled (codec : SettingsCodec) (ec : EcDevice) (thread : ThreadId) (job : Job)
    (guard : Guard) : Visit → Except Failure (Option IpcResponse) → Prop
  | failed {asked : IpcRequest} {setter : Setter} {performed : List (Performed daemonOps)}
      {failure : Failure}
      (request : job = .request asked) (sets : requestSetter asked = some setter)
      (performs : (setter.apply ec).run.Performs performed (.done (.error failure))) :
      Settled codec ec thread job guard (.waiting performed) (answered (.error failure))
  | refused {holder : ThreadId} (other : holder ≠ thread) :
      Settled codec ec thread job guard (.refused holder) guard.refusal
  | served {found left : World} {faulty : Bool} {performed : List (Performed daemonOps)}
      {result : Except Failure guard.Result} (free : found.stateLock = none)
      (performs : guard.scope.run.Performs performed (.done result))
      (ran : RunsHeld codec thread faulty guard.scope (found.lockedBy (some thread)) result left) :
      Settled codec ec thread job guard (.released found left faulty performed)
        (guard.answer result)

/-- What each job does while it holds the guard: a setter records itself, the end of a
connection saves the settings, the events before a sleep save them too but may first replace
those that the EC shows, and after a wake-up `restore_state` is performed, from beginning to
end, with the settings that were found. -/
def Hold.Kept (codec : SettingsCodec) (ec : EcDevice) (hold : Hold) : Prop :=
  match hold.job with
  | .request asked => ∀ setter, requestSetter asked = some setter →
      hold.left.settings = record setter hold.found.settings ∧
        hold.left.stateFile = hold.found.stateFile
  | .connectionReset => hold.left.settings = hold.found.settings ∧
      (hold.faulty = false → hold.left.stateFile = some (codec.encode hold.found.settings))
  | .event .systemWakingUp => hold.found.SameStore hold.left ∧ ∃ restored outcome,
      hold.performed = ⟨.readState, hold.found.settings⟩ :: restored ∧
        (restoreState ec hold.found.settings).run.Performs restored (.done outcome)
  | .event .systemSleeping | .event .systemHibernating | .event .systemShuttingDown =>
      unread hold.left.settings = unread hold.found.settings ∧
        (hold.faulty = false → hold.left.stateFile = some (codec.encode hold.left.settings))
  | _ => True

/-- The state in which the newest of the holds left the settings and the file. -/
def lastLeft (initial : World) : List Hold → World
  | [] => initial
  | hold :: _ => hold.left

/-- Each hold found the settings and the file as the one before left them. -/
def Serial (initial : World) : List Hold → Prop
  | [] => True
  | hold :: earlier => (lastLeft initial earlier).SameStore hold.found ∧ Serial initial earlier

abbrev JobActivity := Activity daemonOps Job (Except Failure (Option IpcResponse))

/-- What the holder of the guard reads first is the settings that were found. -/
structure ReadsFound (found : CurrentSettings) (performed : List (Performed daemonOps))
    (world : World) : Prop where
  untouched : performed = [] → world.settings = found
  first : ∀ settings later, performed = ⟨.readState, settings⟩ :: later → settings = found

/-- How far a job has come, and how it has fared with the guard so far. -/
inductive Progress (codec : SettingsCodec) (ec : EcDevice) (thread : ThreadId) (world : World)
    (activity : JobActivity) : Visit → Prop
  | unguarded {performed : List (Performed daemonOps)} (needsNone : activity.job.guard ec = none)
      (keeps : activity.todo.Uses DaemonOp.KeepsStore) :
      Progress codec ec thread world activity (.waiting performed)
  | approaching {started : World} {performed : List (Performed daemonOps)} {guard : Guard}
      {before : Task (Except Failure Unit)}
      (needs : activity.job.guard ec = some guard) (todo : activity.todo = guard.approach before)
      (keeps : before.Uses DaemonOp.KeepsStore)
      (performs : guard.before.run.Performs performed before)
      (reached : Program.Reached (daemonSemantics codec thread) (Reliance.none World)
        guard.before.run started before world) :
      Progress codec ec thread world activity (.waiting performed)
  | inside {found : World} {faulty : Bool} {performed : List (Performed daemonOps)} {guard : Guard}
      {scope : Task (Except Failure guard.Result)}
      (needs : activity.job.guard ec = some guard) (todo : activity.todo = guard.release scope)
      (uses : scope.Uses DaemonOp.Inside) (free : found.stateLock = none)
      (performs : guard.scope.run.Performs performed scope)
      (first : ReadsFound found.settings performed world)
      (reached : ∀ mode, (faulty = true → mode = true) → Program.Reached
        (systemSemantics codec thread mode) whileHeld guard.scope.run
        (found.lockedBy (some thread)) scope world) :
      Progress codec ec thread world activity (.holding found faulty performed)
  | closed {visit : Visit} {guard : Guard} {outcome : Except Failure (Option IpcResponse)}
      (needs : activity.job.guard ec = some guard) (todo : activity.todo = .done outcome)
      (settled : Settled codec ec thread activity.job guard visit outcome) :
      Progress codec ec thread world activity visit

section Stages

variable {codec : SettingsCodec} {ec : EcDevice} {thread : ThreadId} {world after : World}
  {activity : JobActivity} {visit : Visit} {job : Job}

theorem Settled.not_holding {guard : Guard} {outcome : Except Failure (Option IpcResponse)}
    (settled : Settled codec ec thread job guard visit outcome) : ¬visit.Holding := by
  cases settled <;> exact id

theorem Progress.bear (progress : Progress codec ec thread world activity visit)
    (guarded : visit.Holding → world.SameGuarded after) :
    Progress codec ec thread after activity visit := by
  cases progress with
  | unguarded needsNone keeps => exact .unguarded needsNone keeps
  | approaching needs todo keeps performs reached =>
      exact .approaching needs todo keeps performs (reached.amid trivial)
  | inside needs todo uses free performs first reached =>
      have same := guarded trivial
      exact .inside needs todo uses free performs
        ⟨fun nothing => same.store.settings.trans (first.untouched nothing), first.first⟩
        fun mode covered => (reached mode covered).amid same
  | closed needs todo settled => exact .closed needs todo settled

theorem Progress.started (codec : SettingsCodec) (running : ∀ host, job ≠ .startUp host) :
    Progress codec ec thread world ⟨job, (job.work ec).run⟩ (.waiting []) := by
  cases needs : job.guard ec with
  | none =>
      exact .unguarded needs (Program.Uses.mono (fun _ outside => outside.keepsStore)
        (Job.unguarded_outside ec needs running))
  | some guard =>
      have before := (Job.guard_proper ec needs).before
      refine .approaching needs ?_ (Program.Uses.mono (fun _ outside => outside.keepsStore) before)
        .nil Program.Reached.start
      rw [Job.work_guard ec needs, guard.program_eq]

theorem not_pure_failed {semantics : Semantics daemonOps Choice World}
    {reliance : Reliance World} {started : World} {failure : Failure} :
    ¬Fallible.RunsAmid semantics reliance (pure () : Io Unit) started (.error failure) after := by
  intro ran
  cases ran.1

theorem not_farewell_failed {mode : PowerLedMode} {reliance : Reliance World} {started : World}
    {failure : Failure} : ¬Fallible.RunsAmid (daemonSemantics codec thread) reliance
      (Io.ok? (applyLedMode ec mode) >>= fun _ => (pure () : Io Unit)) started
      (.error failure) after := by
  intro ran
  rcases Fallible.runsAmid_bind ran with ⟨_, _, first, _⟩ | ⟨_, _, _, second⟩
  · obtain ⟨_, returned⟩ := runsAmid_attempt steadyBatches_kept (applyLedMode_steady ec mode) first
    cases returned
  · exact not_pure_failed second

/-- Only a setter can end before it tries the guard. -/
theorem guard_before_failed {guard : Guard} (needs : job.guard ec = some guard)
    {started : World} {failure : Failure} {performed : List (Performed daemonOps)}
    (performs : guard.before.run.Performs performed (.done (.error failure)))
    (ran : Fallible.RunsAmid (daemonSemantics codec thread) (Reliance.none World) guard.before
      started (.error failure) after) :
    Settled codec ec thread job guard (.waiting performed) (guard.answer (.error failure)) := by
  cases job with
  | request asked =>
      cases sets : requestSetter asked with
      | some setter =>
          simp only [Job.guard, requestGuard, sets, Option.some.injEq] at needs
          subst needs
          exact .failed rfl sets performs
      | none =>
          cases asked with
          | daemonCommand command =>
              obtain ⟨scope, _, rfl⟩ := Option.map_eq_some_iff.mp needs
              exact absurd ran not_pure_failed
          | setPowerProfile | setFanMode | setKeyboardBacklight | setChargeLimit | setLedMode =>
              cases sets
          | _ => cases needs
  | connectionReset =>
      cases needs
      exact absurd ran not_pure_failed
  | event happened =>
      cases happened with
      | systemShuttingDown | systemHibernating | systemSleeping =>
          cases needs
          exact absurd ran not_farewell_failed
      | systemWakingUp =>
          cases needs
          exact absurd ran not_pure_failed
      | chargerConnected | chargerDisconnected => cases needs
  | _ => cases needs

theorem Progress.settled (progress : Progress codec ec thread world activity visit) {guard : Guard}
    {outcome : Except Failure (Option IpcResponse)} (needs : activity.job.guard ec = some guard)
    (ended : activity.todo = .done outcome) :
    Settled codec ec thread activity.job guard visit outcome := by
  cases progress with
  | unguarded needsNone keeps =>
      rw [needsNone] at needs
      cases needs
  | @approaching _ _ _ before found todo keeps performs reached =>
      cases needs.symm.trans found
      rw [todo] at ended
      rcases before with (failure | _) | _
      · cases ended
        exact guard_before_failed needs performs reached.ended
      · cases ended
      · cases ended
  | @inside _ _ _ _ scope found todo uses free performs first reached =>
      rw [todo] at ended
      cases scope <;> cases ended
  | closed found todo settled =>
      cases needs.symm.trans found
      cases todo.symm.trans ended
      exact settled

theorem Visit.after_waiting {performed : List (Performed daemonOps)} {operation : DaemonOp}
    (keeps : operation.KeepsStore) (choice : Choice) (reply : daemonOps.Reply operation) :
    (Visit.waiting performed).after choice world operation reply =
      .waiting (performed ++ [⟨operation, reply⟩]) := by
  cases operation <;> first | rfl | cases keeps

theorem Visit.ended_waiting {performed : List (Performed daemonOps)} {operation : DaemonOp} :
    (Visit.waiting performed).ended thread job world operation = [] := by
  cases operation <;> rfl

theorem Visit.after_holding {found : World} {faulty : Bool}
    {performed : List (Performed daemonOps)} {operation : DaemonOp} (inside : operation.Inside)
    (choice : Choice) (reply : daemonOps.Reply operation) :
    (Visit.holding found faulty performed).after choice world operation reply =
      .holding found (faulty || operation.Calls && choice.failure.isSome)
        (performed ++ [⟨operation, reply⟩]) := by
  cases operation <;> first | rfl | cases inside

theorem Visit.ended_holding {found : World} {faulty : Bool}
    {performed : List (Performed daemonOps)} {operation : DaemonOp} (inside : operation.Inside) :
    (Visit.holding found faulty performed).ended thread job world operation = [] := by
  cases operation <;> first | rfl | cases inside

theorem ReadsFound.step {found : CurrentSettings} {performed : List (Performed daemonOps)}
    (reads : ReadsFound found performed world) (operation : DaemonOp) (choice : Choice) :
    ReadsFound found
      (performed ++ [⟨operation, (daemonSemantics codec thread operation choice world).1⟩])
      (daemonSemantics codec thread operation choice world).2 := by
  refine ⟨fun nothing => absurd nothing (by simp), fun settings later same => ?_⟩
  cases performed with
  | nil =>
      cases operation <;> injection same with head _ <;> injection head with kind replied <;> cases kind
      exact replied.symm.trans (reads.untouched rfl)
  | cons step rest =>
      rw [List.cons_append] at same
      injection same with head _
      exact reads.first settings rest (by rw [head])

/-- What one operation of a job does to the guard and to what it guards. -/
inductive Moved (codec : SettingsCodec) (ec : EcDevice) (thread : ThreadId) (job : Job)
    (world : World) : World → Visit → Visit → List Hold → Prop
  | quiet {after : World} {performed more : List (Performed daemonOps)}
      (same : world.SameGuarded after) :
      Moved codec ec thread job world after (.waiting performed) (.waiting more) []
  | refused {performed : List (Performed daemonOps)} {holder : ThreadId}
      (taken : world.stateLock = some holder) :
      Moved codec ec thread job world world (.waiting performed) (.refused holder) []
  | entered {performed : List (Performed daemonOps)} (free : world.stateLock = none) :
      Moved codec ec thread job world (world.lockedBy (some thread)) (.waiting performed)
        (.holding world false []) []
  | worked {after found : World} {faulty later : Bool} {performed more : List (Performed daemonOps)}
      (lock : after.stateLock = world.stateLock) :
      Moved codec ec thread job world after (.holding found faulty performed)
        (.holding found later more) []
  | left {found : World} {faulty : Bool} {performed : List (Performed daemonOps)} {hold : Hold}
      (recorded : hold = { thread, job, found, left := world, faulty, performed })
      (kept : hold.Kept codec ec) :
      Moved codec ec thread job world (world.lockedBy none) (.holding found faulty performed)
        (.released found world faulty performed) [hold]

theorem Moved.outside {later : Visit} {new : List Hold}
    (moved : Moved codec ec thread job world after visit later new) (without : ¬visit.Holding) :
    world.SameStore after := by
  cases moved with
  | quiet same => exact same.store
  | refused taken => exact .refl world
  | entered free => exact ⟨rfl, rfl⟩
  | worked lock => exact absurd trivial without
  | left recorded kept => exact absurd trivial without

/-- What a job did under the guard is what it is there for. -/
theorem Hold.kept_of_ran {guard : Guard} {found left : World} {faulty : Bool}
    {performed : List (Performed daemonOps)} {result : Except Failure guard.Result}
    (needs : job.guard ec = some guard)
    (performs : guard.scope.run.Performs performed (.done result))
    (first : ReadsFound found.settings performed left)
    (ran : RunsHeld codec thread faulty guard.scope (found.lockedBy (some thread)) result left) :
    Hold.Kept codec ec { thread, job, found, left, faulty, performed } := by
  cases job with
  | request asked =>
      intro setter sets
      simp only [Job.guard, requestGuard, sets, Option.some.injEq] at needs
      subst needs
      exact (runsHeld_setter ran).2
  | connectionReset =>
      cases needs
      obtain ⟨settings, file⟩ := runsHeld_resetScope ran
      exact ⟨settings, file⟩
  | event happened =>
      cases happened with
      | systemShuttingDown | systemHibernating | systemSleeping =>
          cases needs
          obtain ⟨settings, file⟩ := runsHeld_refreshScope ran
          exact ⟨settings, file⟩
      | systemWakingUp =>
          cases needs
          have same := runsHeld_wakeScope ran
          obtain ⟨settings, restored, outcome, rfl, restores⟩ := performs_wakeScope performs
          cases first.first settings restored rfl
          exact ⟨⟨same.settings, same.stateFile⟩, restored, outcome, rfl, restores⟩
      | chargerConnected | chargerDisconnected => cases needs
  | _ => cases needs

/-- The next operation of a job takes it one stage further. -/
theorem Progress.act {operation : DaemonOp}
    {rest : daemonOps.Reply operation → Task (Except Failure (Option IpcResponse))}
    (progress : Progress codec ec thread world ⟨job, .perform operation rest⟩ visit)
    (lock : world.stateLock = some thread ↔ visit.Holding) (choice : Choice) :
    Progress codec ec thread (daemonSemantics codec thread operation choice world).2
        ⟨job, rest (daemonSemantics codec thread operation choice world).1⟩
        (visit.after choice world operation
          (daemonSemantics codec thread operation choice world).1) ∧
      Moved codec ec thread job world (daemonSemantics codec thread operation choice world).2 visit
        (visit.after choice world operation
          (daemonSemantics codec thread operation choice world).1)
        (visit.ended thread job world operation) := by
  cases progress with
  | unguarded needsNone keeps =>
      obtain ⟨keepsNow, later⟩ := keeps
      rw [Visit.after_waiting keepsNow, Visit.ended_waiting]
      exact ⟨.unguarded needsNone (later _), .quiet (daemonSemantics_keepsStore keepsNow choice world)⟩
  | @approaching started performed guard before needs todo keeps performs reached =>
      rw [Visit.ended_waiting]
      rcases before with (failure | _) | ⟨operation', next⟩
      · cases todo
      · cases todo
        cases taken : world.stateLock with
        | none =>
            rw [tryLockState_free taken]
            simp only [Visit.after, taken]
            have first : ReadsFound world.settings [] (world.lockedBy (some thread)) := by
              refine ⟨fun _ => rfl, fun settings later same => ?_⟩
              cases same
            exact ⟨.inside needs rfl (Job.guard_proper ec needs).scope taken .nil first
              fun _ _ => Program.Reached.start, .entered taken⟩
        | some holder =>
            have other : holder ≠ thread := by
              intro same
              subst same
              exact lock.mp taken
            rw [tryLockState_held taken]
            simp only [Visit.after, taken]
            exact ⟨.closed needs rfl (.refused other), .refused taken⟩
      · cases todo
        obtain ⟨keepsNow, later⟩ := keeps
        rw [Visit.after_waiting keepsNow]
        exact ⟨.approaching needs rfl (later _) (performs.snoc _) (reached.step choice),
          .quiet (daemonSemantics_keepsStore keepsNow choice world)⟩
  | @inside found faulty performed guard scope needs todo uses free performs first reached =>
      rcases scope with result | ⟨operation', next⟩
      · cases todo
        have ran := (reached faulty id).ended
        exact ⟨.closed needs rfl (.served free performs ran),
          .left rfl (Hold.kept_of_ran needs performs first ran)⟩
      · cases todo
        obtain ⟨inside, later⟩ := uses
        rw [Visit.after_holding inside, Visit.ended_holding inside]
        refine ⟨.inside needs rfl (later _) free (performs.snoc _) (first.step _ choice)
          fun mode covered => ?_, .worked (daemonSemantics_inside inside choice world)⟩
        cases mode with
        | true => exact (reached true fun _ => rfl).step choice
        | false =>
            have sound : (faulty || operation.Calls && choice.failure.isSome) = false := by
              rw [← Bool.not_eq_true]
              exact fun fault => Bool.false_ne_true (covered fault)
            obtain ⟨soundBefore, soundNow⟩ := Bool.or_eq_false_iff.mp sound
            have stepped := (reached false fun was => soundBefore.symm.trans was).step choice
            rw [systemSemantics_sound soundNow] at stepped
            exact stepped
  | closed needs todo settled => cases todo

theorem Progress.not_holding {outcome : Except Failure (Option IpcResponse)}
    (progress : Progress codec ec thread world activity visit)
    (ended : activity.todo = .done outcome) : ¬visit.Holding := by
  cases progress with
  | unguarded | approaching => exact id
  | @inside _ _ _ _ scope found todo uses free performs first reached =>
      rw [todo] at ended
      cases scope <;> cases ended
  | closed found todo settled => exact settled.not_holding

end Stages

section Runs

variable {codec : SettingsCodec} {ec : EcDevice} {initial : World} {state : Attended}

/-- What holds throughout a run. -/
structure Accounted (codec : SettingsCodec) (ec : EcDevice) (initial : World)
    (state : Attended) : Prop where
  progress : state.pool.Each fun world thread activity =>
    Progress codec ec thread world activity (state.visit thread)
  idle : ∀ thread, state.pool.thread thread = none → ¬(state.visit thread).Holding
  lock : ∀ thread, state.pool.world.stateLock = some thread ↔ (state.visit thread).Holding
  serial : Serial initial state.holds
  unlocked : state.pool.world.stateLock = none →
    (lastLeft initial state.holds).SameStore state.pool.world
  found : ∀ thread found faulty performed, state.visit thread = .holding found faulty performed →
    (lastLeft initial state.holds).SameStore found
  kept : ∀ hold ∈ state.holds, hold.Kept codec ec
  logged : ∀ thread activity found left faulty performed,
    state.pool.thread thread = some activity →
    state.visit thread = .released found left faulty performed →
    { thread, job := activity.job, found, left, faulty, performed } ∈ state.holds

theorem Accounted.start (free : initial.stateLock = none) :
    Accounted codec ec initial (Attended.start initial) where
  progress _ _ running := by cases running
  idle _ _ := id
  lock thread := by simp [Attended.start, Pool.idle, free, Visit.Holding]
  serial := trivial
  unlocked _ := .refl initial
  found _ _ _ _ holding := by cases holding
  kept _ member := by cases member
  logged _ _ _ _ _ _ running := by cases running

theorem Accounted.holding_unique (accounted : Accounted codec ec initial state)
    {thread other : ThreadId} (one : (state.visit thread).Holding)
    (two : (state.visit other).Holding) : other = thread :=
  Option.some.inj (((accounted.lock other).mpr two).symm.trans ((accounted.lock thread).mpr one))

/-- What is left to show when one thread moves on. -/
structure Advance (codec : SettingsCodec) (ec : EcDevice) (initial : World) (state : Attended)
    (thread : ThreadId) (activity : JobActivity) (world : World) (visit : Visit)
    (new : List Hold) : Prop where
  progress : Progress codec ec thread world activity visit
  bears : ∀ other, other ≠ thread → (state.visit other).Holding →
    state.pool.world.SameGuarded world ∧ new = []
  lock : world.stateLock = some thread ↔ visit.Holding
  others : ∀ other, other ≠ thread →
    (world.stateLock = some other ↔ state.pool.world.stateLock = some other)
  serial : Serial initial (new ++ state.holds)
  unlocked : world.stateLock = none → (lastLeft initial (new ++ state.holds)).SameStore world
  found : ∀ found faulty performed, visit = .holding found faulty performed →
    (lastLeft initial (new ++ state.holds)).SameStore found
  kept : ∀ hold ∈ new, hold.Kept codec ec
  logged : ∀ found left faulty performed, visit = .released found left faulty performed →
    { thread, job := activity.job, found, left, faulty, performed } ∈ new ++ state.holds

theorem Accounted.advance (accounted : Accounted codec ec initial state) {thread : ThreadId}
    {activity : JobActivity} {world : World} {visit : Visit} {new : List Hold}
    (advance : Advance codec ec initial state thread activity world visit new) :
    Accounted codec ec initial
      { pool := { state.pool.put thread (some activity) with world := world }
        visit := Function.update state.visit thread visit
        holds := new ++ state.holds } where
  progress := by
    refine accounted.progress.move ?_ fun other running different progress => ?_
    · simpa using advance.progress
    · simp only [Function.update_of_ne different]
      exact progress.bear fun holding => (advance.bears other different holding).1
  idle := by
    have free : state.pool.Free fun _ thread => ¬(state.visit thread).Holding := accounted.idle
    refine free.move (fun _ other => ¬(Function.update state.visit thread visit other).Holding)
      fun other different idle => ?_
    rw [Function.update_of_ne different]
    exact idle
  lock other := by
    by_cases same : other = thread
    · subst same
      simpa using advance.lock
    · simp only [Function.update_of_ne same]
      exact (advance.others other same).trans (accounted.lock other)
  serial := advance.serial
  unlocked := advance.unlocked
  found other found faulty performed holding := by
    by_cases same : other = thread
    · subst same
      exact advance.found found faulty performed (by simpa using holding)
    · simp only [Function.update_of_ne same] at holding
      have unchanged := (advance.bears other same (by rw [holding]; trivial)).2
      subst unchanged
      exact accounted.found other found faulty performed holding
  kept hold member := by
    rcases List.mem_append.mp member with recent | earlier
    · exact advance.kept hold recent
    · exact accounted.kept hold earlier
  logged other running found left faulty performed active released := by
    by_cases same : other = thread
    · subst same
      rw [Pool.put_same] at active
      cases active
      exact advance.logged found left faulty performed (by simpa using released)
    · rw [Pool.put_other state.pool _ same] at active
      simp only [Function.update_of_ne same] at released
      exact List.mem_append_right _
        (accounted.logged other running found left faulty performed active released)

/-- A thread away from the guard leaves it, and what it guards, alone. -/
theorem Accounted.aside (accounted : Accounted codec ec initial state) {thread : ThreadId}
    {activity : JobActivity} {world : World} {visit : Visit}
    (progress : Progress codec ec thread world activity visit)
    (same : state.pool.world.SameGuarded world) (away : state.pool.world.stateLock ≠ some thread)
    (idle : ¬visit.Holding)
    (unfinished : ∀ found left faulty performed, visit ≠ .released found left faulty performed) :
    Advance codec ec initial state thread activity world visit [] where
  progress := progress
  bears _ _ _ := ⟨same, rfl⟩
  lock := by
    rw [same.stateLock]
    exact ⟨fun held => absurd held away, fun holding => absurd holding idle⟩
  others _ _ := by rw [same.stateLock]
  serial := accounted.serial
  unlocked unlocked := (accounted.unlocked (same.stateLock.symm.trans unlocked)).trans same.store
  found _ _ _ holding := absurd (by rw [holding]; trivial) idle
  kept _ member := by cases member
  logged found left faulty performed released := absurd released (unfinished found left faulty performed)

theorem Accounted.begin (accounted : Accounted codec ec initial state) {thread : ThreadId}
    {job : Job} (free : state.pool.thread thread = none)
    (running : ∀ host, job ≠ .startUp host) :
    Advance codec ec initial state thread ⟨job, (job.work ec).run⟩ state.pool.world
      (.waiting []) [] := by
  refine accounted.aside (.started codec running) (whileHeld.refl _) ?_ id fun _ _ _ _ => by simp
  exact fun held => accounted.idle thread free ((accounted.lock thread).mp held)

theorem Accounted.act (accounted : Accounted codec ec initial state) {thread : ThreadId} {job : Job}
    {todo : Task (Except Failure (Option IpcResponse))} {world : World} {visit : Visit}
    {new : List Hold} (progress : Progress codec ec thread world ⟨job, todo⟩ visit)
    (moved : Moved codec ec thread job state.pool.world world (state.visit thread) visit new) :
    Advance codec ec initial state thread ⟨job, todo⟩ world visit new := by
  generalize now : state.visit thread = present at moved
  have away : ¬present.Holding → state.pool.world.stateLock ≠ some thread := by
    rw [← now]
    exact fun idle held => idle ((accounted.lock thread).mp held)
  cases moved with
  | quiet same => exact accounted.aside progress same (away id) id fun _ _ _ _ => by simp
  | refused taken =>
      exact accounted.aside progress (whileHeld.refl _) (away id) id fun _ _ _ _ => by simp
  | entered free =>
      have nobody : ∀ other, ¬(state.visit other).Holding := by
        intro other holding
        cases free.symm.trans ((accounted.lock other).mpr holding)
      exact
        { progress
          bears := fun other _ holding => absurd holding (nobody other)
          lock := ⟨fun _ => trivial, fun _ => rfl⟩
          others := fun other different => by simp [World.lockedBy, free, different.symm]
          serial := accounted.serial
          unlocked := fun unlocked => by cases unlocked
          found := fun _ _ _ holding => by
            cases holding
            exact accounted.unlocked free
          kept := fun _ member => by cases member
          logged := fun _ _ _ _ released => by cases released }
  | @worked _ found faulty later performed more lock =>
      have mine : (state.visit thread).Holding := by rw [now]; trivial
      have held := (accounted.lock thread).mpr mine
      exact
        { progress
          bears := fun other different holding =>
            absurd (accounted.holding_unique mine holding) different
          lock := by rw [lock]; exact ⟨fun _ => trivial, fun _ => held⟩
          others := fun _ _ => by rw [lock]
          serial := accounted.serial
          unlocked := fun unlocked => by cases held.symm.trans (lock.symm.trans unlocked)
          found := fun _ _ _ holding => by
            cases holding
            exact accounted.found thread found faulty performed now
          kept := fun _ member => by cases member
          logged := fun _ _ _ _ released => by cases released }
  | @left found faulty performed hold recorded kept =>
      subst recorded
      have mine : (state.visit thread).Holding := by rw [now]; trivial
      have held := (accounted.lock thread).mpr mine
      exact
        { progress
          bears := fun other different holding =>
            absurd (accounted.holding_unique mine holding) different
          lock := ⟨fun unlocked => (by cases unlocked), False.elim⟩
          others := fun other different => by simp [World.lockedBy, held, different.symm]
          serial := ⟨accounted.found thread found faulty performed now, accounted.serial⟩
          unlocked := fun _ => ⟨rfl, rfl⟩
          found := fun _ _ _ holding => by cases holding
          kept := fun other member => by
            cases List.mem_singleton.mp member
            exact kept
          logged := fun _ _ _ _ released => by
            cases released
            exact List.mem_cons_self }

theorem Accounted.finish (accounted : Accounted codec ec initial state) {thread : ThreadId}
    {job : Job} {outcome : Except Failure (Option IpcResponse)}
    (ended : state.pool.thread thread = some ⟨job, .done outcome⟩) :
    Accounted codec ec initial { state with pool := state.pool.put thread none } where
  progress := accounted.progress.finish
  idle := by
    have free : state.pool.Free fun _ thread => ¬(state.visit thread).Holding := accounted.idle
    exact free.finish ((accounted.progress thread _ ended).not_holding rfl)
  lock := accounted.lock
  serial := accounted.serial
  unlocked := accounted.unlocked
  found := accounted.found
  kept := accounted.kept
  logged other running found left faulty performed active := by
    by_cases same : other = thread
    · subst same
      rw [Pool.put_same] at active
      cases active
    · rw [Pool.put_other _ _ same] at active
      exact accounted.logged other running found left faulty performed active

theorem accounted_next {event : Event ThreadId Job Choice} {after : Attended}
    (accounted : Accounted codec ec initial state) (serving : Serving state event)
    (stepped : state.next codec ec event = some after) : Accounted codec ec initial after := by
  obtain ⟨pool, moved, rfl⟩ := Option.map_eq_some_iff.mp stepped
  cases event with
  | start thread job =>
      obtain ⟨free, rfl⟩ := Pool.next_start.mp moved
      have running : ∀ host, job ≠ .startUp host := by
        intro host same
        subst same
        exact serving
      exact accounted.advance (accounted.begin free running)
  | act thread choice =>
      obtain ⟨job, operation, rest, running, rfl⟩ := Pool.next_act.mp moved
      obtain ⟨progress, done⟩ :=
        (accounted.progress thread _ running).act (accounted.lock thread) choice
      have advanced := accounted.advance (accounted.act progress done)
      simp only [Attended.visits, Attended.held, running]
      exact advanced
  | finish thread =>
      obtain ⟨job, outcome, ended, rfl⟩ := Pool.next_finish.mp moved
      exact accounted.finish ended

/-- A thread without the guard changes neither the settings nor the file. -/
theorem Accounted.outside (accounted : Accounted codec ec initial state)
    {event : Event ThreadId Job Choice} {after : Attended}
    (stepped : state.next codec ec event = some after)
    (without : ¬(state.visit event.thread).Holding) :
    state.pool.world.SameStore after.pool.world := by
  obtain ⟨pool, moved, rfl⟩ := Option.map_eq_some_iff.mp stepped
  cases event with
  | start thread job =>
      obtain ⟨_, rfl⟩ := Pool.next_start.mp moved
      exact .refl _
  | act thread choice =>
      obtain ⟨job, operation, rest, running, rfl⟩ := Pool.next_act.mp moved
      obtain ⟨_, done⟩ := (accounted.progress thread _ running).act (accounted.lock thread) choice
      exact done.outside without
  | finish thread =>
      obtain ⟨_, _, _, rfl⟩ := Pool.next_finish.mp moved
      exact .refl _

/-- The settings hold what the setter asked for. -/
def Contains (setter : Setter) (settings : CurrentSettings) : Prop :=
  record setter settings = settings

theorem contains_record (setter : Setter) (settings : CurrentSettings) :
    Contains setter (record setter settings) := by
  cases setter with
  | fanMode fan mode => cases fan <;> rfl
  | _ => rfl

theorem setter_guard {asked : IpcRequest} {setter : Setter}
    (sets : requestSetter asked = some setter) : (Job.request asked).guard ec = some
      { Result := IpcResponse
        before := setter.apply ec
        scope := do
          Io.modifyState (record setter)
          return .success
        answer := answered } := by
  simp only [Job.guard, requestGuard, sets]

theorem Settled.acknowledged {thread : ThreadId} {asked : IpcRequest} {setter : Setter}
    {guard : Guard} {visit : Visit} {outcome : Except Failure (Option IpcResponse)}
    (sets : requestSetter asked = some setter)
    (needs : (Job.request asked).guard ec = some guard)
    (settled : Settled codec ec thread (.request asked) guard visit outcome) :
    outcome = .ok (some .success) ↔
      ∃ found left faulty performed, visit = .released found left faulty performed := by
  cases (setter_guard sets).symm.trans needs
  cases settled with
  | @failed _ _ _ failure request sets' performs =>
      constructor
      · intro success
        rcases failure with message | message <;> cases success
      · intro ⟨_, _, _, _, released⟩
        cases released
  | refused other =>
      constructor
      · intro success
        cases success
      · intro ⟨_, _, _, _, released⟩
        cases released
  | @served found left faulty performed result free performs ran =>
      have succeeded := (runsHeld_setter ran).1
      subst succeeded
      exact ⟨fun _ => ⟨found, left, faulty, performed, rfl⟩, fun _ => rfl⟩

theorem request_refusal {asked : IpcRequest} {guard : Guard}
    (needs : (Job.request asked).guard ec = some guard) : guard.refusal =
      .ok (some (.error "Processing request failed: State locked, cannot acquire lock")) := by
  cases sets : requestSetter asked with
  | some setter =>
      cases (setter_guard sets).symm.trans needs
      rfl
  | none =>
      cases asked with
      | daemonCommand command =>
          obtain ⟨scope, _, rfl⟩ := Option.map_eq_some_iff.mp needs
          rfl
      | setPowerProfile | setFanMode | setKeyboardBacklight | setChargeLimit | setLedMode =>
          cases sets
      | _ => cases needs

theorem Progress.told {thread : ThreadId} {world : World} {asked : IpcRequest}
    {todo : Task (Except Failure (Option IpcResponse))} {holder : ThreadId}
    {outcome : Except Failure (Option IpcResponse)}
    (progress : Progress codec ec thread world ⟨.request asked, todo⟩ (.refused holder))
    (ended : todo = .done outcome) : outcome =
      .ok (some (.error "Processing request failed: State locked, cannot acquire lock")) := by
  cases progress with
  | closed needs done settled =>
      cases done.symm.trans ended
      cases settled
      exact request_refusal needs

/-- What a hold found is what the acknowledged setters left, unless a hold in
between did away with it. -/
theorem lastLeft_contains {setter : Setter} {acknowledged : Hold} {between earlier : List Hold}
    (contained : Contains setter acknowledged.left.settings) :
    Contains setter (lastLeft initial (between ++ acknowledged :: earlier)).settings ∨
      ∃ later ∈ between, ¬Contains setter later.left.settings := by
  cases between with
  | nil => exact .inl contained
  | cons newest rest =>
      by_cases still : Contains setter newest.left.settings
      · exact .inl still
      · exact .inr ⟨newest, List.mem_cons_self, still⟩

/-- What contention for the guard does, and all that it does. -/
structure Attended.Lawful (codec : SettingsCodec) (ec : EcDevice) (initial : World)
    (state : Attended) : Prop where
  settled : ∀ thread job guard outcome, state.pool.thread thread = some ⟨job, .done outcome⟩ →
    job.guard ec = some guard → Settled codec ec thread job guard (state.visit thread) outcome
  acknowledged : ∀ thread asked setter outcome,
    state.pool.thread thread = some ⟨.request asked, .done outcome⟩ →
    requestSetter asked = some setter →
    (outcome = .ok (some .success) ↔ ∃ hold ∈ state.holds, hold.thread = thread ∧
      hold.job = .request asked ∧
      state.visit thread = .released hold.found hold.left hold.faulty hold.performed)
  told : ∀ thread asked outcome holder,
    state.pool.thread thread = some ⟨.request asked, .done outcome⟩ →
    state.visit thread = .refused holder → outcome =
      .ok (some (.error "Processing request failed: State locked, cannot acquire lock"))
  logged : ∀ thread activity found left faulty performed,
    state.pool.thread thread = some activity →
    state.visit thread = .released found left faulty performed →
    { thread, job := activity.job, found, left, faulty, performed } ∈ state.holds
  kept : ∀ hold ∈ state.holds, hold.Kept codec ec
  serial : Serial initial state.holds
  current : state.pool.world.stateLock = none →
    (lastLeft initial state.holds).SameStore state.pool.world
  lock : ∀ thread, state.pool.world.stateLock = some thread ↔ (state.visit thread).Holding
  outside : ∀ event after, state.next codec ec event = some after →
    ¬(state.visit event.thread).Holding → state.pool.world.SameStore after.pool.world
  saved : ∀ newer between earlier (reset acknowledged : Hold) asked setter,
    state.holds = newer ++ reset :: (between ++ acknowledged :: earlier) →
    reset.job = .connectionReset → reset.faulty = false →
    acknowledged.job = .request asked → requestSetter asked = some setter →
    ∃ saved, reset.left.stateFile = some (codec.encode saved) ∧
      (Contains setter saved ∨ ∃ later ∈ between, ¬Contains setter later.left.settings)

theorem Serial.of_append {newer older : List Hold} (serial : Serial initial (newer ++ older)) :
    Serial initial older := by
  induction newer with
  | nil => exact serial
  | cons hold rest ih => exact ih serial.2

theorem Accounted.saved (accounted : Accounted codec ec initial state)
    {newer between earlier : List Hold} {reset acknowledged : Hold} {asked : IpcRequest}
    {setter : Setter}
    (holds : state.holds = newer ++ reset :: (between ++ acknowledged :: earlier))
    (resets : reset.job = .connectionReset) (sound : reset.faulty = false)
    (request : acknowledged.job = .request asked) (sets : requestSetter asked = some setter) :
    ∃ saved, reset.left.stateFile = some (codec.encode saved) ∧
      (Contains setter saved ∨ ∃ later ∈ between, ¬Contains setter later.left.settings) := by
  have resetKept := accounted.kept reset (by simp [holds])
  have setterKept := accounted.kept acknowledged (by simp [holds])
  rw [Hold.Kept, resets] at resetKept
  rw [Hold.Kept, request] at setterKept
  have serial := accounted.serial
  rw [holds] at serial
  have found := (Serial.of_append serial).1.settings
  refine ⟨reset.found.settings, resetKept.2 sound, ?_⟩
  rw [found]
  refine lastLeft_contains ?_
  rw [(setterKept setter sets).1]
  exact contains_record setter _

/-- In every interleaving a job is refused exactly when another thread has the
guard at its one attempt to take it; all other jobs do what they are there for,
one after the other. -/
theorem contention_lawful (codec : SettingsCodec) (ec : EcDevice)
    {events : List (Event ThreadId Job Choice)} (free : initial.stateLock = none)
    (ran : Trace (Attended.next codec ec) Serving (Attended.start initial) events state) :
    state.Lawful codec ec initial := by
  have accounted : Accounted codec ec initial state :=
    ran.invariant (fun held serving stepped => accounted_next held serving stepped)
      (Accounted.start free)
  have settles : ∀ thread job guard outcome,
      state.pool.thread thread = some ⟨job, .done outcome⟩ → job.guard ec = some guard →
      Settled codec ec thread job guard (state.visit thread) outcome :=
    fun thread job guard outcome running needs =>
      (accounted.progress thread _ running).settled needs rfl
  refine ⟨settles, ?_, ?_, accounted.logged, accounted.kept, accounted.serial,
    accounted.unlocked, accounted.lock, fun event after => accounted.outside, ?_⟩
  · intro thread asked setter outcome running sets
    have settled := settles thread _ _ outcome running (setter_guard sets)
    rw [settled.acknowledged sets (setter_guard sets)]
    constructor
    · intro ⟨found, left, faulty, performed, released⟩
      exact ⟨_, accounted.logged thread _ found left faulty performed running released, rfl, rfl,
        released⟩
    · intro ⟨hold, _, _, _, released⟩
      exact ⟨_, _, _, _, released⟩
  · intro thread asked outcome holder running refused
    have progress : Progress codec ec thread state.pool.world ⟨.request asked, .done outcome⟩
        (state.visit thread) := accounted.progress thread _ running
    rw [refused] at progress
    exact progress.told rfl
  · intro newer between earlier reset acknowledged asked setter holds resets sound request sets
    exact accounted.saved holds resets sound request sets

end Runs

def servingNow (_ : Attended) : Event ThreadId Job Choice → Bool
  | .start _ (.startUp _) => false
  | _ => true

theorem servingNow_sound (state : Attended) (event : Event ThreadId Job Choice)
    (checked : servingNow state event = true) : Serving state event := by
  unfold servingNow at checked
  unfold Serving
  split at checked
  · cases checked
  · trivial

/-- The request has ended after another thread had the guard. -/
def turnedAway (asked : IpcRequest) (thread : ThreadId) (state : Attended) : Bool :=
  match state.pool.thread thread, state.visit thread with
  | some ⟨.request other, .done _⟩, .refused _ => decide (other = asked)
  | _, _ => false

theorem turnedAway_spec {asked : IpcRequest} {thread : ThreadId} {state : Attended}
    (checked : turnedAway asked thread state = true) :
    ∃ outcome holder, state.pool.thread thread = some ⟨.request asked, .done outcome⟩ ∧
      state.visit thread = .refused holder := by
  unfold turnedAway at checked
  split at checked
  next running refused =>
      have same := of_decide_eq_true checked
      subst same
      exact ⟨_, _, running, refused⟩
  next => cases checked

/-- A fan request is acknowledged; while the save at the end of a connection is
under way, another client is refused its settings. -/
def contendedSave : List (Event ThreadId Job Choice) :=
  .start 0 (.request (.setFanMode .cpu .full)) :: Pool.turns 0 5 ++
    .start 1 .connectionReset :: Pool.turns 1 3 ++
    .start 2 (.request (.daemonCommand .getSettings)) :: Pool.turns 2 1 ++ Pool.turns 1 4

theorem contention_lawful_contendedSave :
    ∃ state : Attended, turnedAway (.daemonCommand .getSettings) 2 state = true ∧
      state.holds.length = 2 ∧
      state.Lawful .bincode Detection.n155a.device (World.fresh (fun _ => 0) none) := by
  have replays : (Trace.replay (Attended.next .bincode Detection.n155a.device) servingNow
      (Attended.start (World.fresh (fun _ => 0) none)) contendedSave).any (fun state =>
        turnedAway (.daemonCommand .getSettings) 2 state && state.holds.length == 2) = true := by
    decide +kernel
  obtain ⟨state, replayed, checked⟩ := (Option.any_eq_true _ _).mp replays
  rw [Bool.and_eq_true, beq_iff_eq] at checked
  exact ⟨state, checked.1, checked.2, contention_lawful .bincode Detection.n155a.device rfl
    (Trace.of_replay servingNow_sound replayed)⟩

def Hold.tells (hold : Hold) : Bool :=
  match hold.job with
  | .request (.daemonCommand .getSettings) => true
  | _ => false

/-- A fan request reaches the EC while another client is being told the
settings: the request is refused and the settings never hear of it. -/
theorem contention_drops_setter :
    ¬∀ events state, Trace (Attended.next .bincode Detection.n155a.device) Serving
      (Attended.start (World.fresh (fun _ => 0) none)) events state →
      ∀ thread asked setter outcome,
        state.pool.thread thread = some ⟨.request asked, .done outcome⟩ →
        requestSetter asked = some setter →
        (∀ started, state.visit thread ≠ .waiting started) →
        ∃ hold ∈ state.holds, hold.job = .request asked ∧
          hold.left.settings = record setter hold.found.settings := by
  intro claim
  have replays : (Trace.replay (Attended.next .bincode Detection.n155a.device) servingNow
      (Attended.start (World.fresh (fun _ => 0) none))
      (.start 1 (.request (.daemonCommand .getSettings)) :: Pool.turns 1 1 ++
        .start 0 (.request (.setFanMode .cpu .full)) :: Pool.turns 0 2 ++ Pool.turns 1 2)).any
        (fun state => turnedAway (.setFanMode .cpu .full) 0 state &&
          state.holds.all Hold.tells) = true := by
    decide +kernel
  obtain ⟨state, replayed, checked⟩ := (Option.any_eq_true _ _).mp replays
  rw [Bool.and_eq_true, List.all_eq_true] at checked
  obtain ⟨outcome, holder, running, refused⟩ := turnedAway_spec checked.1
  have reached : ∀ started, state.visit 0 ≠ .waiting started := by
    intro started waiting
    cases refused.symm.trans waiting
  obtain ⟨hold, member, same, _⟩ := claim _ state (Trace.of_replay servingNow_sound replayed) 0
    (.setFanMode .cpu .full) (.fanMode .cpu .full) outcome running rfl reached
  have other := checked.2 hold member
  rw [Hold.tells, same] at other
  cases other

end Lecoo.Daemon
