import Lecoo.Daemon.Custody

namespace Lecoo.Daemon

open Lecoo.Effects Lecoo.Ipc Lecoo.Ec Fallible

/-! # What a crash leaves in the settings file

The process can be stopped between any two operations of its threads, and a write that
fails on the way can have let some bytes through.  Only the thread that has the guard of
`STATE` works on the file, and it writes what it found in memory.
-/

variable {codec : SettingsCodec} {faulty : Bool} {past : CurrentSettings → Prop}
  {initial : Option (List UInt8)} {thread : ThreadId} {world : World}

/-- The file as it was found, or all of what some settings encode to. -/
def Sealed (codec : SettingsCodec) (past : CurrentSettings → Prop)
    (initial file : Option (List UInt8)) : Prop :=
  file = initial ∨ ∃ settings, past settings ∧ file = some (codec.encode settings)

/-- The file as it was found, or a beginning of what some settings encode to. -/
def Unmixed (codec : SettingsCodec) (past : CurrentSettings → Prop)
    (initial file : Option (List UInt8)) : Prop :=
  file = initial ∨ ∃ settings bytes, past settings ∧ file = some bytes ∧
    bytes <+: codec.encode settings

/-- What the custody of a thread says about the shared state. -/
def Custody.Fits (codec : SettingsCodec) (faulty : Bool) (past : CurrentSettings → Prop)
    (initial : Option (List UInt8)) (world : World) (thread : ThreadId) : Custody → Prop
  | .away => world.stateLock ≠ some thread
  | .holds known => world.stateLock = some thread ∧
      (∀ settings, known = some settings → world.settings = settings) ∧
      (faulty = false → Sealed codec past initial world.stateFile)
  | .emptied settings => world.stateLock = some thread ∧ world.settings = settings ∧
      world.stateFile = some []
  | .writing settings buffered => world.stateLock = some thread ∧ world.settings = settings ∧
      world.stateFile = some [] ∧ buffered <+: codec.encode settings ∧
      (faulty = false → buffered = codec.encode settings)

theorem Custody.Fits.away {custody : Custody}
    (fits : custody.Fits codec faulty past initial world thread)
    (elsewhere : world.stateLock ≠ some thread) : custody = .away := by
  cases custody with
  | away => rfl
  | _ => exact absurd fits.1 elsewhere

theorem Custody.Fits.same {custody : Custody} {after : World}
    (fits : custody.Fits codec faulty past initial world thread) (same : world.SameGuarded after) :
    custody.Fits codec faulty past initial after thread := by
  obtain ⟨⟨settings, stateFile⟩, stateLock⟩ := same
  cases custody <;> simp only [Custody.Fits, settings, stateFile, stateLock] at fits ⊢ <;> exact fits

/-- What one operation under the custody does, for its thread, for the others and to the file. -/
structure Handled (codec : SettingsCodec) (faulty : Bool) (past : CurrentSettings → Prop)
    (initial : Option (List UInt8)) (thread : ThreadId) (later : Custody) (before after : World) :
    Prop where
  own : later.Fits codec faulty past initial after thread
  others : ∀ other custody, other ≠ thread →
    Custody.Fits codec faulty past initial before other custody →
    Custody.Fits codec faulty past initial after other custody
  unmixed : Unmixed codec past initial before.stateFile → Unmixed codec past initial after.stateFile
  settled : faulty = false → after.stateLock = none → Sealed codec past initial after.stateFile

theorem Handled.same {later : Custody} {after : World} (same : world.SameGuarded after)
    (settled : faulty = false → world.stateLock = none →
      Sealed codec past initial world.stateFile)
    (own : later.Fits codec faulty past initial after thread) :
    Handled codec faulty past initial thread later world after where
  own := own
  others := fun _ _ _ fits => fits.same same
  unmixed := by
    rw [same.store.stateFile]
    exact id
  settled := by
    intro sound free
    rw [same.stateLock] at free
    rw [same.store.stateFile]
    exact settled sound free

/-- While the thread has the guard the others are away. -/
theorem Handled.holding {later : Custody} {after : World} (holds : world.stateLock = some thread)
    (own : later.Fits codec faulty past initial after thread)
    (lock : after.stateLock = some thread ∨ after.stateLock = none)
    (unmixed : Unmixed codec past initial world.stateFile →
      Unmixed codec past initial after.stateFile)
    (settled : faulty = false → after.stateLock = none →
      Sealed codec past initial after.stateFile) :
    Handled codec faulty past initial thread later world after where
  own := own
  others := by
    intro other custody different fits
    have elsewhere : world.stateLock ≠ some other := by
      rw [holds]
      exact fun same => different (Option.some.inj same).symm
    cases fits.away elsewhere
    rcases lock with held | free
    · rw [Custody.Fits, held]
      exact fun same => different (Option.some.inj same).symm
    · rw [Custody.Fits, free]
      exact nofun
  unmixed := unmixed
  settled := settled

section Handling

variable {choice : Choice}

theorem Custody.Fits.keeps {custody : Custody} {operation : DaemonOp} (keeps : operation.KeepsStore)
    (sound : faulty = false → choice.failure = none)
    (fits : custody.Fits codec faulty past initial world thread)
    (permits : custody.permits operation) :
    (custody.next operation (daemonSemantics codec thread operation choice world).1).Fits codec
      faulty past initial (daemonSemantics codec thread operation choice world).2 thread := by
  have later : custody.Fits codec faulty past initial
      (daemonSemantics codec thread operation choice world).2 thread :=
    fits.same (daemonSemantics_keepsStore keeps choice world)
  cases custody with
  | away => cases operation <;> first | exact later | cases keeps
  | holds known =>
      cases operation with
      | readState => exact ⟨later.1, fun settings read => Option.some.inj read, later.2.2⟩
      | tryLockState | unlockState | writeState | publishState | createStateFile | dropWriter =>
          cases keeps
      | _ => exact later
  | emptied settings =>
      cases operation with
      | encodeSettings encoded =>
          cases permits
          refine ⟨fits.1, fits.2.1, fits.2.2, choice.passed_prefix _, fun fine => ?_⟩
          simp only [daemonSemantics, Choice.passed, sound fine]
      | _ => cases permits
  | writing settings buffered =>
      cases operation with
      | dropWriter bytes => cases keeps
      | _ => cases permits

theorem handles_tryLock
    (settled : faulty = false → world.stateLock = none →
      Sealed codec past initial world.stateFile)
    (fits : Custody.away.Fits codec faulty past initial world thread) :
    Handled codec faulty past initial thread
      (Custody.away.next .tryLockState
        (daemonSemantics codec thread .tryLockState choice world).1) world
      (daemonSemantics codec thread .tryLockState choice world).2 := by
  cases lock : world.stateLock with
  | some holder =>
      rw [tryLockState_held lock]
      exact .same ⟨⟨rfl, rfl⟩, rfl⟩ settled fits
  | none =>
      rw [tryLockState_free lock]
      have own : (Custody.holds none).Fits codec faulty past initial
          (world.lockedBy (some thread)) thread := by
        refine ⟨rfl, ?_, fun fine => settled fine lock⟩
        intro settings impossible
        cases impossible
      refine ⟨own, ?_, id, fun _ free => absurd free (Option.some_ne_none thread)⟩
      intro other custody different fits
      cases fits.away (by simp [lock])
      exact fun same => different (Option.some.inj same).symm

theorem handles_createFile {settings : CurrentSettings} (remembered : past world.settings)
    (fits : (Custody.holds (some settings)).Fits codec faulty past initial world thread) :
    Handled codec faulty past initial thread
      ((Custody.holds (some settings)).next .createStateFile
        (daemonSemantics codec thread .createStateFile choice world).1) world
      (daemonSemantics codec thread .createStateFile choice world).2 := by
  obtain ⟨holds, knows, whole⟩ := fits
  cases failed : choice.failure with
  | some message =>
      simp only [daemonSemantics, failed]
      exact .holding holds ⟨holds, knows, whole⟩ (.inl holds) id fun fine _ => whole fine
  | none =>
      simp only [daemonSemantics, failed]
      refine .holding holds ⟨holds, knows settings rfl, rfl⟩ (.inl holds) (fun _ => ?_)
        fun _ free => absurd (holds.symm.trans free) (Option.some_ne_none thread)
      exact .inr ⟨world.settings, [], remembered, rfl, List.nil_prefix⟩

theorem handles_dropWriter {settings : CurrentSettings} {buffered : List UInt8}
    (sound : faulty = false → choice.failure = none) (remembered : past world.settings)
    (fits : (Custody.writing settings buffered).Fits codec faulty past initial world thread) :
    Handled codec faulty past initial thread
      ((Custody.writing settings buffered).next (.dropWriter buffered) ()) world
      (world.append (choice.passed buffered)) := by
  obtain ⟨holds, same, empty, brokenOff, complete⟩ := fits
  have written : (world.append (choice.passed buffered)).stateFile =
      some (choice.passed buffered) := by
    simp only [World.append, empty, Option.map_some, List.nil_append, World.withFile]
  have whole : faulty = false →
      Sealed codec past initial (world.append (choice.passed buffered)).stateFile := by
    intro fine
    refine .inr ⟨world.settings, remembered, ?_⟩
    rw [written, Choice.passed, sound fine, complete fine, same]
  refine .holding holds ⟨holds, fun _ found => same.trans (Option.some.inj found), whole⟩
    (.inl holds) (fun _ => .inr ⟨world.settings, _, remembered, written, ?_⟩)
    fun fine _ => whole fine
  rw [same]
  exact (choice.passed_prefix buffered).trans brokenOff

theorem custody_handles {custody : Custody} {operation : DaemonOp}
    (sound : faulty = false → choice.failure = none) (remembered : past world.settings)
    (settled : faulty = false → world.stateLock = none →
      Sealed codec past initial world.stateFile)
    (fits : custody.Fits codec faulty past initial world thread)
    (permits : custody.permits operation) :
    Handled codec faulty past initial thread
      (custody.next operation (daemonSemantics codec thread operation choice world).1) world
      (daemonSemantics codec thread operation choice world).2 := by
  by_cases keeps : operation.KeepsStore
  · exact .same (daemonSemantics_keepsStore keeps choice world) settled
      (fits.keeps keeps sound permits)
  · cases custody with
    | away =>
        cases operation with
        | tryLockState => exact handles_tryLock settled fits
        | _ => exact absurd permits keeps
    | holds known =>
        obtain ⟨holds, knows, whole⟩ := fits
        cases operation with
        | unlockState => exact .holding holds nofun (.inr rfl) id fun fine _ => whole fine
        | writeState settings =>
            exact .holding holds ⟨holds, fun _ => Option.some.inj, whole⟩ (.inl holds) id
              fun fine _ => whole fine
        | createStateFile =>
            obtain ⟨settings, rfl⟩ := Option.isSome_iff_exists.mp permits
            exact handles_createFile remembered ⟨holds, knows, whole⟩
        | tryLockState | publishState | dropWriter => cases permits
        | _ => exact absurd trivial keeps
    | emptied settings => cases operation <;> first | exact absurd trivial keeps | cases permits
    | writing settings buffered =>
        cases operation with
        | dropWriter bytes =>
            cases permits
            exact handles_dropWriter sound remembered fits
        | _ => cases permits

end Handling

/-- The daemon is up: no job is its start-up. -/
def Up (_ : DaemonPool World) : Event ThreadId Job Choice → Prop
  | .start _ (.startUp _) => False
  | _ => True

/-- Every thread keeps to its custody, and the file is as that allows. -/
structure InCustody (codec : SettingsCodec) (faulty : Bool) (past : CurrentSettings → Prop)
    (initial : Option (List UInt8)) (pool : DaemonPool World) : Prop where
  unmixed : Unmixed codec past initial pool.world.stateFile
  settled : faulty = false → pool.world.stateLock = none →
    Sealed codec past initial pool.world.stateFile
  threads : pool.Each fun world thread activity => ∃ custody,
    activity.todo.Heeds (custodyMonitor activity.job) (fun custody _ => custody = .away) custody ∧
      Custody.Fits codec faulty past initial world thread custody
  spare : pool.Free fun world thread => world.stateLock ≠ some thread

variable {ec : EcDevice}

theorem inCustody_run {before after : DaemonPool World} {events : List (Event ThreadId Job Choice)}
    (ran : DaemonRun ec (fun thread _ => systemSemantics codec thread faulty)
      (fun pool event => Up pool event ∧ past pool.world.settings) before events after)
    (kept : InCustody codec faulty past initial before) :
    InCustody codec faulty past initial after := by
  refine ran.invariant_of_steps ?_ ?_ ?_ kept
  · intro pool thread job kept permitted idle
    have running : ∀ host, job ≠ .startUp host := by
      rintro host rfl
      exact permitted.1
    have away := kept.spare thread idle
    exact ⟨kept.unmixed, kept.settled,
      kept.threads.move ⟨.away, Job.work_heeds running, away⟩ fun _ _ _ own => own,
      kept.spare.move _ fun _ _ => id⟩
  · intro pool thread choice job operation rest kept permitted running
    obtain ⟨custody, ⟨⟨permits, -⟩, heeds⟩, fits⟩ := kept.threads thread _ running
    have sound : faulty = false → (if faulty then choice else choice.sound).failure = none := by
      intro fine
      rw [fine]
      rfl
    have handled := custody_handles sound permitted.2 kept.settled fits permits
    refine ⟨handled.unmixed kept.unmixed, handled.settled,
      kept.threads.move ⟨_, heeds _, handled.own⟩ ?_, kept.spare.move _ ?_⟩
    · rintro other activity different ⟨held, later, fits⟩
      exact ⟨held, later, handled.others other held different fits⟩
    · exact fun other different spare => handled.others other .away different spare
  · intro pool thread job value kept _ ended
    obtain ⟨custody, away, fits⟩ := kept.threads thread _ ended
    cases away
    exact ⟨kept.unmixed, kept.settled, kept.threads.finish, kept.spare.finish fits⟩

/-- What a start after a crash can load from a file that is unmixed. -/
theorem Unmixed.loadsBack {file : Option (List UInt8)} (unmixed : Unmixed codec past initial file) :
    LoadsBack codec file fun settings =>
      decodedFile codec initial = some settings ∨ past settings ∨
        ∃ clock, settings = CurrentSettings.default clock := by
  cases read : decodedFile codec file with
  | none => exact (loadsBack_rejected read).mpr fun clock => .inr (.inr ⟨clock, rfl⟩)
  | some settings =>
      refine (loadsBack_decoded read).mpr ?_
      rcases unmixed with rfl | ⟨other, bytes, remembered, rfl, brokenOff⟩
      · exact .inl read
      · by_cases whole : bytes = codec.encode other
        · rw [whole, decodedFile, Option.bind_some, codec.decode_encode] at read
          cases read
          exact .inr (.inl remembered)
        · rw [decodedFile, Option.bind_some, codec.decode_strictPrefix other bytes brokenOff whole]
            at read
          cases read

/-- The settings were in memory at some moment of the run. -/
def WasInMemory (codec : SettingsCodec) (ec : EcDevice) (faulty : Bool) (world : World)
    (events : List (Event ThreadId Job Choice)) (after : DaemonPool World)
    (settings : CurrentSettings) : Prop :=
  ∃ moment, Trace.Visits (Pool.next (fun job => (job.work ec).run)
    fun thread _ => systemSemantics codec thread faulty) Up (Pool.idle world) events after moment ∧
    moment.world.settings = settings

/-- Wherever the threads of the daemon are when it crashes, and whatever failed before: the
next start finds what was in the file before, settings that were in memory as a whole at
some moment, or the defaults, and never a mixture.  When no system call has failed and no
thread has the guard, the file is as it was found or all of such settings. -/
theorem crash_recovers {world : World} (free : world.stateLock = none)
    {events : List (Event ThreadId Job Choice)} {pool : DaemonPool World}
    (ran : DaemonRun ec (fun thread _ => systemSemantics codec thread faulty) Up
      (.idle world) events pool) :
    (LoadsBack codec pool.world.stateFile fun settings =>
      decodedFile codec world.stateFile = some settings ∨
        WasInMemory codec ec faulty world events pool settings ∨
        ∃ clock, settings = CurrentSettings.default clock) ∧
    (faulty = false → pool.world.stateLock = none → pool.world.stateFile = world.stateFile ∨
      ∃ settings, WasInMemory codec ec faulty world events pool settings ∧
        pool.world.stateFile = some (codec.encode settings)) := by
  have initially : InCustody codec faulty (WasInMemory codec ec faulty world events pool)
      world.stateFile (.idle world) := by
    refine ⟨.inl rfl, fun _ _ => .inl rfl, ?_, ?_⟩
    · intro thread activity running
      cases running
    · intro thread _ held
      cases free.symm.trans held
  have kept := inCustody_run
    (ran.visiting.mono fun {state event} ⟨up, visited⟩ => ⟨up, state, visited, rfl⟩) initially
  exact ⟨kept.unmixed.loadsBack, kept.settled⟩

def upNow (_ : DaemonPool World) : Event ThreadId Job Choice → Bool
  | .start _ (.startUp _) => false
  | _ => true

theorem upNow_sound (pool : DaemonPool World) (event : Event ThreadId Job Choice)
    (checked : upNow pool event = true) : Up pool event := by
  unfold upNow at checked
  unfold Up
  split at checked
  · cases checked
  · trivial

/-- A crash in the middle of the second of two saves. -/
theorem crash_recovers_midway :
    ∃ events pool, DaemonRun Detection.n155a.device
        (fun thread _ => systemSemantics .bincode thread false) Up
        (.idle (World.fresh (fun _ => 0) none)) events pool ∧
      pool.world.stateFile = some [] ∧
      LoadsBack .bincode (some []) fun settings => decodedFile .bincode none = some settings ∨
        WasInMemory .bincode Detection.n155a.device false (World.fresh (fun _ => 0) none) events
          pool settings ∨ ∃ clock, settings = CurrentSettings.default clock := by
  have replays : (Pool.replay (fun job : Job => (job.work Detection.n155a.device).run)
      (fun thread _ => systemSemantics .bincode thread false) upNow
      (Pool.idle (World.fresh (fun _ => 0) none))
      (Pool.solo 0 .connectionReset (List.replicate 7 default) ++
        .start 1 (.request (.setFanMode .cpu .full)) :: Pool.turns 1 2 ++
        .start 0 .connectionReset :: Pool.turns 1 3 ++ Pool.turns 0 4)).any
      (fun pool => pool.world.stateFile == some []) = true := by
    decide +kernel
  obtain ⟨pool, replayed, checked⟩ := (Option.any_eq_true _ _).mp replays
  have ran := Pool.run_of_replay upNow_sound replayed
  have empty := beq_iff_eq.mp checked
  have recovers := (crash_recovers rfl ran).1
  rw [empty] at recovers
  exact ⟨_, pool, ran, empty, recovers⟩

end Lecoo.Daemon
